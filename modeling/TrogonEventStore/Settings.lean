import TrogonEventStore.Types

namespace TrogonEventStore

/-- `std::time::Duration` in nanoseconds. -/
abbrev Duration := Nat

def Duration.fromMillis (millis : Nat) : Duration := millis * 1000000
def Duration.fromSecs (seconds : Nat) : Duration := seconds * 1000000000

structure Credentials where
  login : Bytes
  password : Bytes
  deriving DecidableEq, Repr

inductive Authentication where
  | basic (credentials : Credentials)
  | bearer (token : Bytes)
  deriving DecidableEq, Repr

inductive NodePreference where
  | leader
  | follower
  | random
  | readOnlyReplica
  deriving DecidableEq, Repr

structure ClientSettings where
  dnsDiscover : Bool
  hosts : List Endpoint
  maxDiscoverAttempts : Nat
  discoveryInterval : Duration
  gossipTimeout : Duration
  preference : NodePreference
  secure : Bool
  tlsVerifyCert : Bool
  defaultUserName : Option Credentials
  keepAliveInterval : Duration
  keepAliveTimeout : Duration
  defaultDeadline : Option Duration
  connectionName : Option String
  tlsCaFile : Option String
  userCertFile : Option String
  userKeyFile : Option String
  deriving DecidableEq, Repr

def ClientSettings.default : ClientSettings where
  dnsDiscover := false
  hosts := []
  maxDiscoverAttempts := 3
  discoveryInterval := Duration.fromMillis 500
  gossipTimeout := Duration.fromSecs 3
  preference := .leader
  secure := true
  tlsVerifyCert := true
  defaultUserName := none
  keepAliveInterval := Duration.fromMillis 10000
  keepAliveTimeout := Duration.fromMillis 10000
  defaultDeadline := none
  connectionName := none
  tlsCaFile := none
  userCertFile := none
  userKeyFile := none

def ClientSettings.solo (endpoint : Endpoint) : ClientSettings :=
  { ClientSettings.default with hosts := [endpoint], secure := false }

/-- The text handed to `Uri::from_maybe_shared`, whose failure to parse is a panic. -/
def ClientSettings.toHyperUri (settings : ClientSettings) (endpoint : Endpoint) : String :=
  (if settings.secure then "https" else "http") ++ "://" ++ endpoint.host ++ ":" ++
    toString endpoint.port

structure CommonOperationOptions where
  authentication : Option Authentication
  requiresLeader : Bool
  deadline : Option Duration
  deriving DecidableEq, Repr

def CommonOperationOptions.default : CommonOperationOptions := ⟨none, false, none⟩

/-- `RetryOptions`; `retry_forever` is the limit `usize::MAX`. -/
structure RetryOptions where
  limit : Nat
  delay : Duration
  deriving DecidableEq, Repr

def usizeMax : Nat := u64Bound - 1

def RetryOptions.default : RetryOptions := ⟨3, Duration.fromMillis 500⟩

def RetryOptions.retryLimit (options : RetryOptions) (limit : Nat) : RetryOptions :=
  { options with limit := limit }

def RetryOptions.retryForever (options : RetryOptions) : RetryOptions :=
  options.retryLimit usizeMax

def RetryOptions.retryDelay (options : RetryOptions) (delay : Duration) : RetryOptions :=
  { options with delay := delay }

end TrogonEventStore

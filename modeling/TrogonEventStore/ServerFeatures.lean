import TrogonEventStore.Settings

namespace TrogonEventStore

structure Features where
  bits : BitVec 32
  deriving DecidableEq, Repr

namespace Features

def nothing : Features := ⟨0⟩
def batchAppend : Features := ⟨1⟩
def persistentSubscriptionList : Features := ⟨2⟩
def persistentSubscriptionReplay : Features := ⟨4⟩
def persistentSubscriptionRestartSubsystem : Features := ⟨8⟩
def persistentSubscriptionGetInfo : Features := ⟨16⟩
def persistentSubscriptionToAll : Features := ⟨32⟩

def union (left right : Features) : Features := ⟨left.bits ||| right.bits⟩

def contains (features other : Features) : Bool := features.bits &&& other.bits == other.bits

end Features

structure ServerVersion where
  major : Nat
  minor : Nat
  patch : Nat
  deriving DecidableEq, Repr

structure ServerInfo where
  version : ServerVersion
  features : Features
  deriving DecidableEq, Repr

def ServerInfo.default : ServerInfo := ⟨⟨0, 0, 0⟩, Features.nothing⟩

structure SupportedMethod where
  methodName : String
  serviceName : String
  features : List String
  deriving DecidableEq, Repr

structure SupportedMethods where
  methods : List SupportedMethod
  eventStoreServerVersion : String
  deriving DecidableEq, Repr

def splitDots : List Char → List (List Char)
  | [] => [[]]
  | '.' :: chars => [] :: splitDots chars
  | char :: chars =>
      match splitDots chars with
      | [] => [[char]]
      | part :: parts => (char :: part) :: parts

/-- The components with index 0, 1 and 2 are stored; the loop stops at the fourth. -/
def parseVersion : Nat → ServerVersion → List (List Char) → Option ServerVersion
  | _, version, [] => some version
  | index, version, part :: parts =>
      if index > 2 then some version
      else match parseUnsigned u64Bound (String.ofList part) with
        | none => none
        | some value => parseVersion (index + 1)
            (match index with
              | 0 => { version with major := value }
              | 1 => { version with minor := value }
              | _ => { version with patch := value }) parts

def persistentSubscriptionsService : String :=
  "event_store.client.persistent_subscriptions.persistentsubscriptions"

def methodFeatures (method : SupportedMethod) : Features :=
  if method.methodName = "batchappend" ∧
      method.serviceName = "event_store.client.streams.streams" then Features.batchAppend
  else if method.serviceName = persistentSubscriptionsService then
    if method.methodName = "create" then
      if "all" ∈ method.features then Features.persistentSubscriptionToAll else Features.nothing
    else if method.methodName = "getinfo" then Features.persistentSubscriptionGetInfo
    else if method.methodName = "replayparked" then Features.persistentSubscriptionReplay
    else if method.methodName = "list" then Features.persistentSubscriptionList
    else if method.methodName = "restartsubsystem" then
      Features.persistentSubscriptionRestartSubsystem
    else Features.nothing
  else Features.nothing

def supportedMethods : Except Status SupportedMethods → Except Status ServerInfo
  | .error status => .error status
  | .ok methods =>
      let semver := methods.eventStoreServerVersion.toList.filter
        (fun char => char.isDigit || char == '.')
      match parseVersion 0 ⟨0, 0, 0⟩ (splitDots semver) with
      | none => .error (Status.new .invalidArgument "invalid semver format")
      | some version => .ok ⟨version,
          methods.methods.foldl (fun features method => features.union (methodFeatures method))
            Features.nothing⟩

end TrogonEventStore

import TrogonEventStore.Serde
import TrogonEventStore.SettingsParts

namespace TrogonEventStore

open Serde

def Endpoint.serialize (endpoint : Endpoint) : Json :=
  .object [("host", .string endpoint.host), ("port", .number endpoint.port)]

structure EndpointFields where
  host : Option String
  port : Option Nat

def Endpoint.visit (fields : EndpointFields) (entry : String × Json) :
    Except DeError EndpointFields :=
  match entry.1 with
  | "host" => (field "host" string fields.host entry.2).map fun host =>
      { fields with host := host }
  | "port" => (field "port" (unsigned u32Bound "u32") fields.port entry.2).map fun port =>
      { fields with port := port }
  | _ => .ok fields

def Endpoint.deserialize : Read Endpoint := fun value => do
  let fields ← struct "struct Endpoint" ["host", "port"] 0 Endpoint.visit ⟨none, none⟩ value
  let host ← required "host" fields.host
  let port ← required "port" fields.port
  .ok ⟨host, port⟩

/-- `serialize_bytes`, which serde_json writes as an array of numbers. -/
def serializeCredsBytes (value : Bytes) : Json :=
  .array (value.map fun byte => .number byte.toNat)

def credsVisitor : Visitor Bytes where
  expecting := "ASCII string"
  visitU64 := none
  visitI64 := none
  visitStr := some utf8

def deserializeCredsBytes : Read Bytes := credsVisitor.deserializeAny

def Credentials.serialize (credentials : Credentials) : Json :=
  .object [("login", serializeCredsBytes credentials.login),
    ("password", serializeCredsBytes credentials.password)]

structure CredentialsFields where
  login : Option Bytes
  password : Option Bytes

def Credentials.visit (fields : CredentialsFields) (entry : String × Json) :
    Except DeError CredentialsFields :=
  match entry.1 with
  | "login" => (field "login" deserializeCredsBytes fields.login entry.2).map fun login =>
      { fields with login := login }
  | "password" => (field "password" deserializeCredsBytes fields.password entry.2).map
      fun password => { fields with password := password }
  | _ => .ok fields

def Credentials.deserialize : Read Credentials := fun value => do
  let fields ← struct "struct Credentials" ["login", "password"] 0 Credentials.visit ⟨none, none⟩
    value
  let login ← required "login" fields.login
  let password ← required "password" fields.password
  .ok ⟨login, password⟩

def NodePreference.variants : List (String × NodePreference) :=
  [("Leader", .leader), ("Follower", .follower), ("Random", .random),
    ("ReadOnlyReplica", .readOnlyReplica)]

def NodePreference.serialize : NodePreference → Json
  | .leader => .string "Leader"
  | .follower => .string "Follower"
  | .random => .string "Random"
  | .readOnlyReplica => .string "ReadOnlyReplica"

def serializeOption {Value : Type} (serialize : Value → Json) : Option Value → Json
  | none => .null
  | some value => serialize value

namespace ClientSettings

/-- `DurationVisitor`: signed numbers only, and the cast of a negative one to `u64` wraps. -/
def durationVisitor : Visitor Duration where
  expecting := "duration in milliseconds"
  visitU64 := none
  visitI64 := some fun value =>
    if value = -1 then Duration.fromMillis (u64Bound - 1)
    else Duration.fromMillis (value % u64Bound).toNat
  visitStr := none

def serializeDuration (value : Duration) : Json :=
  .number ((value / 1000000 % u64Bound : Nat) : Int)

def deserializeDuration : Read Duration := durationVisitor.deserializeAny

def serializeOptionalDuration : Option Duration → Json := serializeOption serializeDuration

/-- `deserialize_i64` shows the visitor what `deserialize_any` would. -/
def deserializeOptionalDuration : Read (Option Duration) := option durationVisitor.deserializeAny

def entries (settings : ClientSettings) : List (String × Json) :=
  [("dns_discover", .bool settings.dnsDiscover),
    ("hosts", .array (settings.hosts.map Endpoint.serialize)),
    ("max_discover_attempts", .number settings.maxDiscoverAttempts),
    ("discovery_interval", serializeDuration settings.discoveryInterval),
    ("gossip_timeout", serializeDuration settings.gossipTimeout),
    ("preference", settings.preference.serialize),
    ("secure", .bool settings.secure),
    ("tls_verify_cert", .bool settings.tlsVerifyCert),
    ("default_user_name", serializeOption Credentials.serialize settings.defaultUserName),
    ("keep_alive_interval", serializeDuration settings.keepAliveInterval),
    ("keep_alive_timeout", serializeDuration settings.keepAliveTimeout),
    ("default_deadline", serializeOptionalDuration settings.defaultDeadline),
    ("connection_name", serializeOption Json.string settings.connectionName),
    ("tls_ca_file", serializeOption Json.string settings.tlsCaFile),
    ("user_cert_file", serializeOption Json.string settings.userCertFile),
    ("user_key_file", serializeOption Json.string settings.userKeyFile)]

def serialize (settings : ClientSettings) : Json := .object settings.entries

structure Fields where
  dnsDiscover : Option Bool := none
  hosts : Option (List Endpoint) := none
  maxDiscoverAttempts : Option Nat := none
  discoveryInterval : Option Duration := none
  gossipTimeout : Option Duration := none
  preference : Option NodePreference := none
  secure : Option Bool := none
  tlsVerifyCert : Option Bool := none
  defaultUserName : Option (Option Credentials) := none
  keepAliveInterval : Option Duration := none
  keepAliveTimeout : Option Duration := none
  defaultDeadline : Option (Option Duration) := none
  connectionName : Option (Option String) := none
  tlsCaFile : Option (Option String) := none
  userCertFile : Option (Option String) := none
  userKeyFile : Option (Option String) := none

def fieldNames : List String :=
  ["dns_discover", "hosts", "max_discover_attempts", "discovery_interval", "gossip_timeout",
    "preference", "secure", "tls_verify_cert", "default_user_name", "keep_alive_interval",
    "keep_alive_timeout", "default_deadline", "connection_name", "tls_ca_file", "user_cert_file",
    "user_key_file"]

def visit (fields : Fields) (entry : String × Json) : Except DeError Fields :=
  let name := entry.1
  let value := entry.2
  match name with
  | "dns_discover" => (field name bool fields.dnsDiscover value).map fun dnsDiscover =>
      { fields with dnsDiscover := dnsDiscover }
  | "hosts" => (field name (vec Endpoint.deserialize) fields.hosts value).map fun hosts =>
      { fields with hosts := hosts }
  | "max_discover_attempts" =>
      (field name (unsigned u64Bound "usize") fields.maxDiscoverAttempts value).map
        fun attempts => { fields with maxDiscoverAttempts := attempts }
  | "discovery_interval" =>
      (field name deserializeDuration fields.discoveryInterval value).map fun interval =>
        { fields with discoveryInterval := interval }
  | "gossip_timeout" => (field name deserializeDuration fields.gossipTimeout value).map
      fun timeout => { fields with gossipTimeout := timeout }
  | "preference" =>
      (field name (unitVariant NodePreference.variants) fields.preference value).map
        fun preference => { fields with preference := preference }
  | "secure" => (field name bool fields.secure value).map fun secure =>
      { fields with secure := secure }
  | "tls_verify_cert" => (field name bool fields.tlsVerifyCert value).map fun verify =>
      { fields with tlsVerifyCert := verify }
  | "default_user_name" =>
      (field name (option Credentials.deserialize) fields.defaultUserName value).map
        fun user => { fields with defaultUserName := user }
  | "keep_alive_interval" =>
      (field name deserializeDuration fields.keepAliveInterval value).map fun interval =>
        { fields with keepAliveInterval := interval }
  | "keep_alive_timeout" =>
      (field name deserializeDuration fields.keepAliveTimeout value).map fun timeout =>
        { fields with keepAliveTimeout := timeout }
  | "default_deadline" =>
      (field name deserializeOptionalDuration fields.defaultDeadline value).map fun deadline =>
        { fields with defaultDeadline := deadline }
  | "connection_name" => (field name (option string) fields.connectionName value).map
      fun connection => { fields with connectionName := connection }
  | "tls_ca_file" => (field name (option string) fields.tlsCaFile value).map fun file =>
      { fields with tlsCaFile := file }
  | "user_cert_file" => (field name (option string) fields.userCertFile value).map fun file =>
      { fields with userCertFile := file }
  | "user_key_file" => (field name (option string) fields.userKeyFile value).map fun file =>
      { fields with userKeyFile := file }
  | _ => .ok fields

/-- A field that was not there has its default; a missing `Option` is `None`. -/
def Fields.settings (fields : Fields) : ClientSettings where
  dnsDiscover := fields.dnsDiscover.getD false
  hosts := fields.hosts.getD []
  maxDiscoverAttempts := fields.maxDiscoverAttempts.getD ClientSettings.default.maxDiscoverAttempts
  discoveryInterval := fields.discoveryInterval.getD ClientSettings.default.discoveryInterval
  gossipTimeout := fields.gossipTimeout.getD ClientSettings.default.gossipTimeout
  preference := fields.preference.getD ClientSettings.default.preference
  secure := fields.secure.getD ClientSettings.default.secure
  tlsVerifyCert := fields.tlsVerifyCert.getD ClientSettings.default.tlsVerifyCert
  defaultUserName := fields.defaultUserName.join
  keepAliveInterval := fields.keepAliveInterval.getD ClientSettings.default.keepAliveInterval
  keepAliveTimeout := fields.keepAliveTimeout.getD ClientSettings.default.keepAliveTimeout
  defaultDeadline := fields.defaultDeadline.join
  connectionName := fields.connectionName.join
  tlsCaFile := fields.tlsCaFile.join
  userCertFile := fields.userCertFile.join
  userKeyFile := fields.userKeyFile.join

def deserialize : Read ClientSettings := fun value =>
  (struct "struct ClientSettings" fieldNames 12 visit {} value).map Fields.settings

end ClientSettings

namespace ClientSettings

/-- What is written for a duration is not read as one. -/
theorem deserializeDuration_refused (duration : Duration) :
    deserializeDuration (serializeDuration duration) =
      .error (.invalidType (.unsigned (duration / 1000000 % u64Bound))
        "duration in milliseconds") :=
  deserializeAny_unsigned rfl _

example : deserialize (.object []) = .ok ClientSettings.default := rfl

/-- No settings survive their codec. -/
theorem settings_lost_in_codec (settings decoded : ClientSettings) :
    deserialize settings.serialize ≠ .ok decoded := by
  have refused : ∀ fields : Fields, ∃ error,
      visit fields ("discovery_interval", serializeDuration settings.discoveryInterval) =
        .error error := by
    intro fields
    obtain ⟨error, fails⟩ : ∃ error, field "discovery_interval" deserializeDuration
        fields.discoveryInterval (serializeDuration settings.discoveryInterval) = .error error :=
      field_refused (deserializeDuration_refused settings.discoveryInterval) _
    refine ⟨error, ?_⟩
    change (field "discovery_interval" deserializeDuration fields.discoveryInterval
      (serializeDuration settings.discoveryInterval)).map _ = _
    rw [fails]
    rfl
  have listed : ("discovery_interval", serializeDuration settings.discoveryInterval) ∈
      settings.entries := by simp [entries]
  obtain ⟨error, fails⟩ := foldlM_refused listed refused {}
  intro survived
  rw [serialize, deserialize, struct, fails] at survived
  cases survived

/-- The settings of a plain connection string are written with a discovery interval of 500, which
is refused when they are read back. -/
theorem local_lost_in_codec :
    ClientSettings.fromStr (UrlCrate.only "esdb://localhost:2113" (Url.local []))
        "esdb://localhost:2113" = .ok ClientSettings.local ∧
      deserialize ClientSettings.local.serialize =
        .error (.invalidType (.unsigned 500) "duration in milliseconds") := by
  constructor
  · rfl
  · rfl

end ClientSettings

end TrogonEventStore

import TrogonEventStore.Request

/-! Connection strings and the settings they are read into. The URL is taken apart by the url
crate. -/

namespace TrogonEventStore

inductive UrlParseError where
  | emptyHost | idnaError | invalidPort | invalidIpv4Address | invalidIpv6Address
  | invalidDomainCharacter | relativeUrlWithoutBase | relativeUrlWithCannotBeABaseBase
  | setHostOnCannotBeABaseUrl | overflow
  deriving DecidableEq, Repr

structure ClientSettingsParseError where
  message : String
  error : Option UrlParseError
  deriving DecidableEq, Repr

/-- What the code reads of a `Url`. -/
structure Url where
  scheme : String
  username : String
  password : Option String
  hostStr : Option String
  port : Option Nat
  path : String
  pathSegments : Option (List String)
  queryPairs : List (String × String)
  deriving DecidableEq, Repr

/-- The url crate: `str::parse::<Url>`, and what `Url::query_pairs` makes of a query text. -/
structure UrlCrate where
  parse : String → Except UrlParseError Url
  queryPairs : Option String → List (String × String)

inductive ParseIntError where
  | empty | invalidDigit | posOverflow | negOverflow
  deriving DecidableEq, Repr

def ParseIntError.text : ParseIntError → String
  | .empty => "cannot parse integer from empty string"
  | .invalidDigit => "invalid digit found in string"
  | .posOverflow => "number too large to fit in target type"
  | .negOverflow => "number too small to fit in target type"

def readDigits (bound : Nat) (overflow : ParseIntError) : Nat → List Char → Except ParseIntError Nat
  | value, [] => .ok value
  | value, char :: chars =>
      if char.isDigit then
        let next := 10 * value + (char.toNat - '0'.toNat)
        if next < bound then readDigits bound overflow next chars else .error overflow
      else .error .invalidDigit

def readU64 (text : String) : Except ParseIntError Nat :=
  match text.toList with
  | [] => .error .empty
  | ['+'] => .error .invalidDigit
  | '+' :: digits => readDigits u64Bound .posOverflow 0 digits
  | digits => readDigits u64Bound .posOverflow 0 digits

def readI64 (text : String) : Except ParseIntError Int :=
  match text.toList with
  | [] => .error .empty
  | ['+'] => .error .invalidDigit
  | ['-'] => .error .invalidDigit
  | '+' :: digits => (readDigits (2 ^ 63) .posOverflow 0 digits).map Int.ofNat
  | '-' :: digits => (readDigits (2 ^ 63 + 1) .negOverflow 0 digits).map fun value => -Int.ofNat value
  | digits => (readDigits (2 ^ 63) .posOverflow 0 digits).map Int.ofNat

def readBool (text : String) : Except String Bool :=
  if text = "true" then .ok true
  else if text = "false" then .ok false
  else .error "provided string was not `true` or `false`"

/-- `char::to_lowercase`, as far as a text is compared with ASCII names: beyond ASCII only the Kelvin
sign has an ASCII lowercase. The other characters are left as they are here, which shows in the text
of the error for an unknown node preference and nowhere else. -/
def lowercase (char : Char) : Char := if char = Char.ofNat 0x212A then 'k' else char.toLower

def toLowercase (text : String) : String := String.ofList (text.toList.map lowercase)

/-- `parse_param`, given the type's `FromStr` with the text of its error. -/
def parseParam {Value : Type} (read : String → Except String Value) (paramName value : String) :
    Except ClientSettingsParseError Value :=
  match read value with
  | .error e => .error
      ⟨"Invalid format for param '" ++ paramName ++ "'. value = '" ++ value ++ "': " ++ e, none⟩
  | .ok a => .ok a

def parseU64Param : String → String → Except ClientSettingsParseError Nat :=
  parseParam fun text => (readU64 text).mapError ParseIntError.text

def parseI64Param : String → String → Except ClientSettingsParseError Int :=
  parseParam fun text => (readI64 text).mapError ParseIntError.text

def parseBoolParam : String → String → Except ClientSettingsParseError Bool := parseParam readBool

def keepAliveIntervalInMs : Int := 10000
def keepAliveTimeoutInMs : Int := 10000

/-- A duration in milliseconds that `-1` disables: what the setting becomes, or nothing when the
value is below the recommended one. -/
def parseMillisParam (label : String) (recommended : Int) (name value : String) :
    Except ClientSettingsParseError (Option Duration) := do
  let value ← parseI64Param name value
  if 0 ≤ value ∧ value < recommended then .ok none
  else if value = -1 then .ok (some (Duration.fromMillis (u64Bound - 1)))
  else if value < -1 then .error ⟨"Invalid " ++ label ++ " of " ++ toString value ++
    ". Please provide a positive integer, or -1 to disable", none⟩
  else .ok (some (Duration.fromMillis value.toNat))

def parseNodePreference (value : String) : Except ClientSettingsParseError NodePreference :=
  match toLowercase value with
  | "follower" => .ok .follower
  | "random" => .ok .random
  | "leader" => .ok .leader
  | "readonlyreplica" => .ok .readOnlyReplica
  | unknown => .error ⟨"Unknown node preference value '" ++ unknown ++ "'", none⟩

/-- What one query pair does to the settings; an unknown name does nothing. -/
def paramUpdate (pair : String × String) :
    Except ClientSettingsParseError (ClientSettings → ClientSettings) :=
  let name := toLowercase pair.1
  let value := pair.2
  match name with
  | "maxdiscoverattempts" => (parseU64Param name value).map fun attempts result =>
      { result with maxDiscoverAttempts := attempts }
  | "discoveryinterval" => (parseU64Param name value).map fun millis result =>
      { result with discoveryInterval := Duration.fromMillis millis }
  | "gossiptimeout" => (parseU64Param name value).map fun millis result =>
      { result with gossipTimeout := Duration.fromMillis millis }
  | "tls" => (parseBoolParam name value).map fun secure result => { result with secure := secure }
  | "tlsverifycert" => (parseBoolParam name value).map fun verify result =>
      { result with tlsVerifyCert := verify }
  | "nodepreference" => (parseNodePreference value).map fun preference result =>
      { result with preference := preference }
  | "keepaliveinterval" =>
      (parseMillisParam "keepAliveInterval" keepAliveIntervalInMs name value).map
        fun interval result =>
          { result with keepAliveInterval := interval.getD result.keepAliveInterval }
  | "keepalivetimeout" =>
      (parseMillisParam "keepAliveTimeout" keepAliveTimeoutInMs name value).map
        fun timeout result =>
          { result with keepAliveTimeout := timeout.getD result.keepAliveTimeout }
  | "defaultdeadline" =>
      (parseMillisParam "defaultDeadline" 0 name value).map fun deadline result =>
        { result with defaultDeadline := deadline.or result.defaultDeadline }
  | "connectionname" => .ok fun result => { result with connectionName := some value }
  | "usercertfile" => .ok fun result => { result with userCertFile := some value }
  | "userkeyfile" => .ok fun result => { result with userKeyFile := some value }
  | "tlscafile" => .ok fun result => { result with tlsCaFile := some value }
  | _ => .ok id

def readParam (result : ClientSettings) (pair : String × String) :
    Except ClientSettingsParseError ClientSettings :=
  (paramUpdate pair).map fun update => update result

def readParams (result : ClientSettings) (pairs : List (String × String)) :
    Except ClientSettingsParseError ClientSettings := do
  let result ← pairs.foldlM readParam result
  if result.userKeyFile.isNone ^^ result.userCertFile.isNone then
    .error ⟨"Invalid user certificate settings. Both userCertFile and userKeyFile must be provided",
      none⟩
  else .ok result

def splitAt (separator : Char) (text : String) : List String :=
  (text.toList.splitOn separator).map String.ofList

def parseGossipSeed (result : ClientSettings) (host : String) :
    Except ClientSettingsParseError ClientSettings :=
  match splitAt ':' host with
  | [_] => .ok { result with hosts := result.hosts ++ [⟨host, 2113⟩] }
  | [host, port] =>
      match parseUnsigned (2 ^ 16) port with
      | some port => .ok { result with hosts := result.hosts ++ [⟨host, port⟩] }
      | none => .error ⟨"Invalid port number: " ++ port, none⟩
  | _ => .error ⟨"Invalid host part: '" ++ host ++ "'", none⟩

def readHosts (result : ClientSettings) (url : Url) :
    Except ClientSettingsParseError ClientSettings :=
  let host := url.hostStr.getD ""
  if ',' ∈ host.toList then (splitAt ',' host).foldlM parseGossipSeed result
  else .ok { result with hosts := result.hosts ++ [⟨host, url.port.getD 2113⟩] }

def parseFromUrl (result : ClientSettings) (url : Url) :
    Except ClientSettingsParseError ClientSettings := do
  let dnsDiscover ← match url.scheme with
    | "esdb" => .ok false
    | "esdb+discover" => .ok true
    | scheme => .error ⟨"Unknown URL scheme: " ++ scheme, none⟩
  let user : Credentials := ⟨utf8 url.username, utf8 (url.password.getD "")⟩
  let result := { result with
    dnsDiscover := dnsDiscover
    defaultUserName := if url.username ≠ "" then some user else result.defaultUserName }
  if result.hosts = [] ∧ url.path ≠ "" ∧ url.path ≠ "/" then
    .error ⟨"Unsupported URL path: " ++ url.path, none⟩
  else if result.hosts = [] ∧ url.hostStr = none then
    .error ⟨"Connection string doesn't have an host", none⟩
  else
    let result ← if result.hosts = [] then readHosts result url else .ok result
    readParams result url.queryPairs

def commasToSlashes (s : String) : String :=
  String.ofList (s.toList.map fun char => if char = ',' then '/' else char)

/-- `ClientSettings::from_str`. A string whose port does not parse is read again with every comma
turned into a slash, and the further seeds as path segments. -/
def ClientSettings.fromStr (crate : UrlCrate) (s : String) :
    Except ClientSettingsParseError ClientSettings :=
  match crate.parse s with
  | .error e =>
      if e = .invalidPort ∧ ',' ∈ s.toList then
        match crate.parse (commasToSlashes s) with
        | .error _ => .error ⟨s, some e⟩
        | .ok url =>
            match url.hostStr with
            | none => .error ⟨s, some e⟩
            | some host => do
                let setts := { ClientSettings.default with
                  hosts := [⟨host, url.port.getD 2113⟩] }
                let setts ← (url.pathSegments.getD []).foldlM parseGossipSeed setts
                parseFromUrl setts url
      else .error ⟨s, some e⟩
  | .ok url => parseFromUrl .default url

end TrogonEventStore

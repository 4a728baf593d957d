import TrogonEventStore.Text

namespace TrogonEventStore

/-- `uuid::Uuid`: 128 bits, nil being all zeros. -/
abbrev Uuid := BitVec 128

def Uuid.nil : Uuid := 0

/-- `common::uuid::Value` of the wire format. -/
inductive WireUuidValue where
  | structured (mostSignificantBits leastSignificantBits : Int)
  | string (text : String)
  deriving DecidableEq, Repr

structure WireUuid where
  value : Option WireUuidValue
  deriving DecidableEq, Repr

/-- `TryFrom<common::Uuid> for uuid::Uuid`. The text form is read by the uuid crate. -/
def WireUuid.tryInto (parseUuid : String → Option Uuid) (wire : WireUuid) : Option Uuid :=
  match wire.value with
  | some (.structured most least) => some (BitVec.ofInt 64 most ++ BitVec.ofInt 64 least)
  | some (.string text) => parseUuid text
  | none => some Uuid.nil

structure Endpoint where
  host : String
  port : Nat
  deriving DecidableEq, Repr

inductive Code where
  | ok | cancelled | unknown | invalidArgument | deadlineExceeded | notFound | alreadyExists
  | permissionDenied | resourceExhausted | failedPrecondition | aborted | outOfRange
  | unimplemented | internal | unavailable | dataLoss | unauthenticated
  deriving DecidableEq, Repr

/-- `tonic::Code::from` an integer: anything outside the table is `unknown`. -/
def Code.ofInt : Int → Code
  | 0 => .ok | 1 => .cancelled | 2 => .unknown | 3 => .invalidArgument | 4 => .deadlineExceeded
  | 5 => .notFound | 6 => .alreadyExists | 7 => .permissionDenied | 8 => .resourceExhausted
  | 9 => .failedPrecondition | 10 => .aborted | 11 => .outOfRange | 12 => .unimplemented
  | 13 => .internal | 14 => .unavailable | 15 => .dataLoss | 16 => .unauthenticated
  | _ => .unknown

/-- Header values by key; `get` reads the first value of a key. -/
abbrev MetadataMap := List (String × Bytes)

structure Status where
  code : Code
  message : String
  metadata : MetadataMap
  deriving DecidableEq, Repr

def Status.new (code : Code) (message : String) : Status := ⟨code, message, []⟩

/-- `status.metadata().get(key).and_then(|value| value.to_str().ok())`. -/
def Status.header (status : Status) (key : String) : Option String :=
  (status.metadata.lookup key).bind headerToStr

inductive StreamState where
  | any
  | streamExists
  | noStream
  | streamRevision (revision : Nat)
  deriving DecidableEq, Repr

inductive CurrentRevision where
  | current (revision : Nat)
  | noStream
  deriving DecidableEq, Repr

/-- `Grpc` stores `status.to_string()`; the status stands for its rendered text. -/
inductive GrpcConnectionError where
  | maxDiscoveryAttemptReached (count : Nat)
  | grpc (status : Status)
  deriving DecidableEq, Repr

/-- `crate::Error`. Where the source stores `status.to_string()` the status itself stands
for its rendered text. -/
inductive Error where
  | serverError (status : Status)
  | notLeaderException (leader : Endpoint)
  | connectionClosed
  | grpc (code : Code) (message : String)
  | grpcConnectionError (error : GrpcConnectionError)
  | internalParsingError (message : String)
  | accessDenied
  | resourceAlreadyExists
  | resourceNotFound
  | resourceDeleted
  | unsupportedFeature
  | internalClientError
  | deadlineExceeded
  | initializationError (message : String)
  | illegalStateError (message : String)
  | wrongExpectedVersion (expected : StreamState) (current : CurrentRevision)
  deriving DecidableEq, Repr

/-- The leader named by a not-leader status: both headers, a readable host and a `u32` port. -/
def Status.leaderEndpoint (status : Status) : Option Endpoint := do
  let host ← status.metadata.lookup "leader-endpoint-host"
  let port ← status.metadata.lookup "leader-endpoint-port"
  let host ← headerToStr host
  let port ← headerToStr port
  let port ← parseUnsigned u32Bound port
  some ⟨host, port⟩

/-- The classification by exception header and code that follows the not-leader test. -/
def Error.fromCode (status : Status) : Error :=
  if status.header "exception" = some "stream-deleted" then .resourceDeleted
  else if (status.code = .cancelled ∧ status.message = "Timeout expired") ∨
      status.code = .deadlineExceeded then .deadlineExceeded
  else if status.code = .unauthenticated ∨ status.code = .permissionDenied then .accessDenied
  else if status.code = .alreadyExists then .resourceAlreadyExists
  else if status.code = .notFound then .resourceNotFound
  else if status.code = .unavailable ∨ status.code = .internal ∨ status.code = .dataLoss ∨
      status.code = .unknown then .serverError status
  else if status.code = .unimplemented then .unsupportedFeature
  else .grpc status.code status.message

def Error.fromGrpc (status : Status) : Error :=
  if status.header "exception" = some "not-leader" then
    match status.leaderEndpoint with
    | some leader => .notLeaderException leader
    | none => Error.fromCode status
  else Error.fromCode status

def Error.isAccessDenied : Error → Bool
  | .accessDenied => true
  | _ => false

/-- `Msg::CreateChannel(id, seed_opt)` as it is put in the connection actor's mailbox. -/
structure CreateChannel where
  id : Uuid
  seedOpt : Option Endpoint
  deriving DecidableEq, Repr

def handleError (connectionId : Uuid) : Error → List CreateChannel
  | .serverError _ => [⟨connectionId, none⟩]
  | .notLeaderException leader => [⟨connectionId, some leader⟩]
  | _ => []

end TrogonEventStore

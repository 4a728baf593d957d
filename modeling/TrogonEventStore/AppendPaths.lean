import TrogonEventStore.BatchDeadline
import TrogonEventStore.BatchSession

namespace TrogonEventStore

inductive ExpectedStreamRevision where
  | revision (revision : Nat)
  | noStream
  | any
  | streamExists
  deriving DecidableEq, Repr

/-- `AppendToStreamOptions::stream_state`. -/
def ExpectedStreamRevision.streamState : StreamState → ExpectedStreamRevision
  | .any => .any
  | .streamExists => .streamExists
  | .noStream => .noStream
  | .streamRevision version => .revision version

inductive AppendReq where
  | options (streamIdentifier : Option Bytes)
      (expectedStreamRevision : Option ExpectedStreamRevision)
  | proposedMessage (message : ProposedMessage)
  deriving DecidableEq, Repr

/-- The requests that `append_to_stream` yields; `newV4` gives the ids of events without one. -/
def appendRequests (json : SerdeJson) (newV4 : Nat → Uuid) (context : TraceContext)
    (stream : Bytes) (version : ExpectedStreamRevision) (events : List EventData) :
    List AppendReq :=
  .options (some stream) (some version) ::
    events.mapIdx fun index event =>
      .proposedMessage (appendMessage json (newV4 index) context event)

structure AppendSuccess where
  currentRevisionOption : Option CurrentRevision
  positionOption : Option (Option Position)
  deriving DecidableEq, Repr

/-- `From<append_resp::Success> for WriteResult`; `none` is the panic of one of its unwraps. -/
def AppendSuccess.into (success : AppendSuccess) : Option WriteResult := do
  let nextExpectedVersion ← success.currentRevisionOption
  let position ← success.positionOption
  some ⟨match nextExpectedVersion with
    | .current revision => revision
    | .noStream => 0, position.getD .start⟩

/-- `append_resp::WrongExpectedVersion`; the fields of older servers are not read. -/
structure WrongExpectedVersion where
  currentRevisionOption : Option CurrentRevision
  expectedRevisionOption : Option StreamState
  deriving DecidableEq, Repr

def WrongExpectedVersion.into (wrong : WrongExpectedVersion) : Option Error := do
  let current ← wrong.currentRevisionOption
  let expected ← wrong.expectedRevisionOption
  some (.wrongExpectedVersion expected current)

inductive AppendResp where
  | success (success : AppendSuccess)
  | wrongExpectedVersion (wrong : WrongExpectedVersion)
  deriving DecidableEq, Repr

def AppendResp.conclude : Option AppendResp → Called WriteResult
  | some (.success written) =>
      match written.into with
      | some write => .returned (.ok write)
      | none => .panicked
  | some (.wrongExpectedVersion wrong) =>
      match wrong.into with
      | some error => .returned (.error error)
      | none => .panicked
  | none => .panicked

structure Appending where
  streamName : Bytes
  expected : StreamState
  messages : List ProposedMessage
  deriving DecidableEq, Repr

def ExpectedStreamRevision.state : ExpectedStreamRevision → StreamState
  | .revision version => .streamRevision version
  | .noStream => .noStream
  | .any => .any
  | .streamExists => .streamExists

def AppendReq.message : AppendReq → Option ProposedMessage
  | .proposedMessage message => some message
  | .options _ _ => none

def readAppend : List AppendReq → Option Appending
  | .options (some streamName) (some version) :: requests => do
      let messages ← requests.mapM AppendReq.message
      some ⟨streamName, version.state, messages⟩
  | _ => none

namespace Batch

def ExpectedStreamPosition.state : ExpectedStreamPosition → StreamState
  | .streamPosition revision => .streamRevision revision
  | .noStream => .noStream
  | .any => .any
  | .streamExists => .streamExists

def ProposedMessage.single (message : ProposedMessage) : TrogonEventStore.ProposedMessage :=
  ⟨message.id, message.metadata, message.customMetadata, message.data⟩

def BatchAppendReq.read (parseUuid : String → Option Uuid) (wire : BatchAppendReq) :
    Option (Uuid × Appending) := do
  let id ← wire.correlationId
  let id ← id.tryInto parseUuid
  let options ← wire.options
  let streamName ← options.streamIdentifier
  let expected ← options.expectedStreamPosition
  if wire.isFinal then
    some (id, ⟨streamName, expected.state, wire.proposedMessages.map ProposedMessage.single⟩)
  else none

def Req.asks (json : SerdeJson) (req : Req) (moment : Moment) : Option Appending :=
  readAppend (appendRequests json moment.newV4 moment.context (utf8 req.streamName)
    (.streamState req.expectedRevision) req.events)

end Batch

theorem streamState_state (state : StreamState) :
    (ExpectedStreamRevision.streamState state).state = state := by
  cases state <;> rfl

theorem ofState_state (state : StreamState) :
    (Batch.ExpectedStreamPosition.ofState state).state = state := by
  cases state <;> rfl

theorem mapM_message {Item : Type} (items : List Item) (made : Nat → Item → ProposedMessage) :
    (items.mapIdx fun index item => AppendReq.proposedMessage (made index item)).mapM
      AppendReq.message = some (items.mapIdx made) := by
  induction items generalizing made with
  | nil => rfl
  | cons item items ih =>
      rw [List.mapIdx_cons, List.mapM_cons, ih fun index => made (index + 1), List.mapIdx_cons]
      rfl

theorem readAppend_requests (json : SerdeJson) (newV4 : Nat → Uuid) (context : TraceContext)
    (stream : Bytes) (state : StreamState) (events : List EventData) :
    readAppend (appendRequests json newV4 context stream (.streamState state) events) =
      some ⟨stream, state, events.mapIdx fun index event =>
        appendMessage json (newV4 index) context event⟩ := by
  rw [appendRequests, readAppend, mapM_message, streamState_state]
  rfl

namespace Batch

/-- A session asks for what single appends of the same events ask for. -/
theorem generate_asks {json : SerdeJson} {deadline : Option Duration} {req : Req} {moment : Moment}
    {wire : BatchAppendReq} (generated : generate json deadline (req, moment) = some wire)
    (parseUuid : String → Option Uuid) :
    (wire.read parseUuid).map (fun read => (read.1, some read.2)) =
      some (req.id, req.asks json moment) := by
  simp only [generate, Option.bind_eq_bind, Option.bind_eq_some_iff, Option.some.injEq]
    at generated
  obtain ⟨duration, _, rfl⟩ := generated
  have messages : (req.events.mapIdx fun index event =>
      convertEventDataToBatchProposedMessage json (moment.newV4 index) event
        moment.context).map ProposedMessage.single =
      req.events.mapIdx fun index event =>
        appendMessage json (moment.newV4 index) moment.context event := by
    simp only [List.mapIdx_eq_zipIdx_map, List.map_map]
    rfl
  rw [Req.asks, readAppend_requests, ← messages]
  simp only [BatchAppendReq.read, ofUuid_tryInto, ofState_state, Option.bind_eq_bind,
    Option.bind_some, if_true, Option.map_some]

end Batch

end TrogonEventStore

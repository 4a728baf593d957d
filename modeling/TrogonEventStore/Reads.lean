import TrogonEventStore.Library.Loop
import TrogonEventStore.Subscription

namespace TrogonEventStore

/-- How a call comes back; a panic is an `unwrap`, an `expect` or an `unreachable!` that is hit. -/
inductive Called (Value : Type) where
  | returned (result : Except Error Value)
  | panicked
  deriving Repr

/-- A call over a response stream: how it came back, the rest of the stream and the reports it
sent to the connection actor. -/
structure Answer (Inner Value : Type) where
  called : Called Value
  inner : Inner
  reports : List CreateChannel
  deriving Repr

inductive ReadEvent where
  | event (event : ResolvedEvent)
  | firstStreamPosition (revision : Nat)
  | lastStreamPosition (revision : Nat)
  | lastAllStreamPosition (position : Position)
  deriving DecidableEq, Repr

structure ReadStream where
  channelId : Uuid
  inner : Responses

namespace ReadStream

/-- The `match` on the content of a message; `none` is its `continue`. -/
def receive (decoders : Decoders) : Content → Option (Called (Option ReadEvent))
  | .streamNotFound _ => some (.returned (.error .resourceNotFound))
  | .event wire =>
      match wire.decode decoders with
      | none => some .panicked
      | some event => some (.returned (.ok (some (.event event))))
  | .firstStreamPosition revision => some (.returned (.ok (some (.firstStreamPosition revision))))
  | .lastStreamPosition revision => some (.returned (.ok (some (.lastStreamPosition revision))))
  | .lastAllStreamPosition position =>
      some (.returned (.ok (some (.lastAllStreamPosition position))))
  | .confirmation _ => none
  | .checkpoint _ => none
  | .caughtUp _ => none
  | .fellBehind _ => none

def readTurn (decoders : Decoders) (channelId : Uuid) (inner : Responses) :
    Turn Responses (Answer Responses (Option ReadEvent)) :=
  match inner.tryNext with
  | (.error status, inner) =>
      let error := Error.fromGrpc status
      .finished ⟨.returned (.error error), inner, handleError channelId error⟩
  | (.ok (some resp), inner) =>
      match resp.content with
      | none => .finished ⟨.panicked, inner, []⟩
      | some content =>
          match receive decoders content with
          | some called => .finished ⟨called, inner, []⟩
          | none => .again inner
  | (.ok none, inner) => .finished ⟨.returned (.ok none), inner, []⟩

theorem readTurn_decreases (decoders : Decoders) (channelId : Uuid) (inner next : Responses)
    (turn : readTurn decoders channelId inner = .again next) :
    next.remaining < inner.remaining := by
  obtain ⟨pending, ending⟩ := inner
  cases pending with
  | nil =>
      cases ending with
      | none => cases turn
      | some status => cases turn
  | cons resp pending =>
      simp only [readTurn, Feed.tryNext_cons] at turn
      split at turn
      · cases turn
      · split at turn
        · cases turn
        · cases turn
          simp only [Feed.remaining, List.length_cons]
          omega

def reading (decoders : Decoders) (channelId : Uuid) :
    Loop Responses (Answer Responses (Option ReadEvent)) where
  body := readTurn decoders channelId
  variant := Feed.remaining
  decreases := readTurn_decreases decoders channelId

def nextReadEvent (decoders : Decoders) (stream : ReadStream) :
    Answer Responses (Option ReadEvent) :=
  (reading decoders stream.channelId).run stream.inner

theorem nextReadEvent_shortens (decoders : Decoders) (stream : ReadStream) {event : ReadEvent}
    (returned : (stream.nextReadEvent decoders).called = .returned (.ok (some event))) :
    (stream.nextReadEvent decoders).inner.remaining < stream.inner.remaining := by
  have rule := (reading decoders stream.channelId).run_rule
    (fun inner answer => (∃ event, answer.called = .returned (.ok (some event))) →
      answer.inner.remaining < inner.remaining)
  apply rule _ _ stream.inner ⟨event, returned⟩
  · intro inner answer turn given
    obtain ⟨pending, ending⟩ := inner
    obtain ⟨event, given⟩ := given
    cases pending with
    | nil =>
        cases ending with
        | none =>
            cases turn
            cases given
        | some status =>
            cases turn
            cases given
    | cons resp pending =>
        have shorter : (⟨pending, ending⟩ : Responses).remaining <
            (⟨resp :: pending, ending⟩ : Responses).remaining := by
          simp only [Feed.remaining, List.length_cons]
          omega
        simp only [reading, readTurn, Feed.tryNext_cons] at turn
        split at turn
        · cases turn
          exact shorter
        · split at turn
          · cases turn
            exact shorter
          · cases turn
  · intro inner next answer turn later given
    have now := readTurn_decreases decoders stream.channelId inner next turn
    exact Nat.lt_trans (later given) now

/-- One turn of the loop of `next`. An event or an end is passed on as it is; positions are not. -/
def eventTurn (decoders : Decoders) (channelId : Uuid) (inner : Responses) :
    Turn Responses (Answer Responses (Option ResolvedEvent)) :=
  let answer := nextReadEvent decoders ⟨channelId, inner⟩
  match answer.called with
  | .panicked => .finished ⟨.panicked, answer.inner, answer.reports⟩
  | .returned (.error error) => .finished ⟨.returned (.error error), answer.inner, answer.reports⟩
  | .returned (.ok none) => .finished ⟨.returned (.ok none), answer.inner, answer.reports⟩
  | .returned (.ok (some (.event event))) =>
      .finished ⟨.returned (.ok (some event)), answer.inner, answer.reports⟩
  | .returned (.ok (some _)) => .again answer.inner

theorem eventTurn_decreases (decoders : Decoders) (channelId : Uuid) (inner next : Responses)
    (turn : eventTurn decoders channelId inner = .again next) :
    next.remaining < inner.remaining := by
  simp only [eventTurn] at turn
  split at turn
  · cases turn
  · cases turn
  · cases turn
  · cases turn
  · next event _ returned =>
      cases turn
      exact nextReadEvent_shortens decoders ⟨channelId, inner⟩ returned

def resolving (decoders : Decoders) (channelId : Uuid) :
    Loop Responses (Answer Responses (Option ResolvedEvent)) where
  body := eventTurn decoders channelId
  variant := Feed.remaining
  decreases := eventTurn_decreases decoders channelId

def next (decoders : Decoders) (stream : ReadStream) : Answer Responses (Option ResolvedEvent) :=
  (resolving decoders stream.channelId).run stream.inner

end ReadStream

structure VersionedMetadata (Metadata : Type) where
  stream : Bytes
  version : Nat
  metadata : Metadata
  deriving DecidableEq, Repr

inductive StreamMetadataResult (Metadata : Type) where
  | deleted
  | notFound
  | success (metadata : VersionedMetadata Metadata)
  deriving DecidableEq, Repr

def concludeMetadata {Metadata : Type} (asJson : Bytes → Except String Metadata) :
    Called (Option ResolvedEvent) → Called (StreamMetadataResult Metadata)
  | .panicked => .panicked
  | .returned (.ok none) => .panicked
  | .returned (.ok (some event)) =>
      match event.getOriginalEvent with
      | none => .panicked
      | some original =>
          match asJson original.data with
          | .error text => .returned (.error (.internalParsingError text))
          | .ok metadata =>
              .returned (.ok (.success ⟨original.streamIdRaw, original.revision, metadata⟩))
  | .returned (.error .resourceNotFound) => .returned (.ok .notFound)
  | .returned (.error .resourceDeleted) => .returned (.ok .deleted)
  | .returned (.error other) => .returned (.error other)

def readStreamMetadata {Metadata : Type} (decoders : Decoders)
    (asJson : Bytes → Except String Metadata) (stream : ReadStream) :
    Answer Responses (StreamMetadataResult Metadata) :=
  let answer := stream.next decoders
  ⟨concludeMetadata asJson answer.called, answer.inner, answer.reports⟩

namespace Persistent

structure WireRecordedEvent where
  id : Option WireUuid
  streamIdentifier : Option Bytes
  streamRevision : Nat
  preparePosition : Nat
  commitPosition : Nat
  metadata : StringMap
  customMetadata : Bytes
  data : Bytes
  deriving DecidableEq, Repr

def WireRecordedEvent.intoStreams (wire : WireRecordedEvent) : TrogonEventStore.WireRecordedEvent :=
  { id := wire.id
    streamIdentifier := wire.streamIdentifier
    streamRevision := wire.streamRevision
    preparePosition := wire.preparePosition
    commitPosition := wire.commitPosition
    metadata := wire.metadata
    customMetadata := wire.customMetadata
    data := wire.data }

def WireRecordedEvent.decode (decoders : Decoders) (wire : WireRecordedEvent) :
    Option RecordedEvent :=
  wire.intoStreams.decode decoders

structure WireReadEvent where
  event : Option WireRecordedEvent
  link : Option WireRecordedEvent
  position : Option (Option Nat)
  count : Option (Option Int)
  deriving DecidableEq, Repr

inductive Content where
  | event (event : WireReadEvent)
  | subscriptionConfirmation (subscriptionId : String)
  deriving DecidableEq, Repr

structure ReadResp where
  content : Option Content
  deriving DecidableEq, Repr

abbrev Responses := Feed ReadResp Status

end Persistent

inductive PersistentSubscriptionEvent where
  | eventAppeared (retryCount : Nat) (event : ResolvedEvent)
  | confirmed (subscriptionId : String)
  deriving DecidableEq, Repr

namespace Persistent

def decodeOption (decoders : Decoders) : Option WireRecordedEvent → Option (Option RecordedEvent)
  | none => some none
  | some wire => (wire.decode decoders).map some

/-- The cast of the retry count wraps. -/
def WireReadEvent.decode (decoders : Decoders) (wire : WireReadEvent) :
    Option PersistentSubscriptionEvent := do
  let event ← decodeOption decoders wire.event
  let link ← decodeOption decoders wire.link
  let retryCount := match wire.count with
    | some (some count) => (count % u64Bound).toNat
    | _ => 0
  some (.eventAppeared retryCount ⟨event, link, wire.position.join⟩)

def Content.decode (decoders : Decoders) : Content → Option PersistentSubscriptionEvent
  | .event wire => wire.decode decoders
  | .subscriptionConfirmation subscriptionId => some (.confirmed subscriptionId)

end Persistent

structure PersistentSubscription where
  channelId : Uuid
  inner : Persistent.Responses

namespace PersistentSubscription

def nextSubscriptionEvent (decoders : Decoders) (subscription : PersistentSubscription) :
    Answer Persistent.Responses PersistentSubscriptionEvent :=
  match subscription.inner.tryNext with
  | (.error status, inner) =>
      if status.header "exception" = some "persistent-subscription-dropped" then
        ⟨.returned (.error (.illegalStateError "Persistent subscription has dropped")), inner, []⟩
      else
        let error := Error.fromGrpc status
        ⟨.returned (.error error), inner, handleError subscription.channelId error⟩
  | (.ok resp, inner) =>
      match resp.bind Persistent.ReadResp.content with
      | none => ⟨.panicked, inner, []⟩
      | some content =>
          match content.decode decoders with
          | none => ⟨.panicked, inner, []⟩
          | some event => ⟨.returned (.ok event), inner, []⟩

def eventTurn (decoders : Decoders) (channelId : Uuid) (inner : Persistent.Responses) :
    Turn Persistent.Responses (Answer Persistent.Responses ResolvedEvent) :=
  let answer := nextSubscriptionEvent decoders ⟨channelId, inner⟩
  match answer.called with
  | .panicked => .finished ⟨.panicked, answer.inner, answer.reports⟩
  | .returned (.error error) => .finished ⟨.returned (.error error), answer.inner, answer.reports⟩
  | .returned (.ok (.eventAppeared _ event)) =>
      .finished ⟨.returned (.ok event), answer.inner, answer.reports⟩
  | .returned (.ok (.confirmed _)) => .again answer.inner

theorem eventTurn_decreases (decoders : Decoders) (channelId : Uuid)
    (inner next : Persistent.Responses)
    (turn : eventTurn decoders channelId inner = .again next) :
    next.remaining < inner.remaining := by
  obtain ⟨pending, ending⟩ := inner
  cases pending with
  | nil =>
      cases ending with
      | none => cases turn
      | some status =>
          simp only [eventTurn, nextSubscriptionEvent, Feed.tryNext_failed] at turn
          split at turn
          · cases turn
          · cases turn
          · cases turn
          · next returned =>
              split at returned
              · cases returned
              · cases returned
  | cons resp pending =>
      have shorter : (⟨pending, ending⟩ : Persistent.Responses).remaining <
          (⟨resp :: pending, ending⟩ : Persistent.Responses).remaining := by
        simp only [Feed.remaining, List.length_cons]
        omega
      have left : (nextSubscriptionEvent decoders ⟨channelId, ⟨resp :: pending, ending⟩⟩).inner =
          ⟨pending, ending⟩ := by
        simp only [nextSubscriptionEvent, Feed.tryNext_cons]
        split
        · rfl
        · split
          · rfl
          · rfl
      simp only [eventTurn] at turn
      split at turn
      · cases turn
      · cases turn
      · cases turn
      · cases turn
        rw [left]
        exact shorter

def resolving (decoders : Decoders) (channelId : Uuid) :
    Loop Persistent.Responses (Answer Persistent.Responses ResolvedEvent) where
  body := eventTurn decoders channelId
  variant := Feed.remaining
  decreases := eventTurn_decreases decoders channelId

def next (decoders : Decoders) (subscription : PersistentSubscription) :
    Answer Persistent.Responses ResolvedEvent :=
  (resolving decoders subscription.channelId).run subscription.inner

end PersistentSubscription

end TrogonEventStore

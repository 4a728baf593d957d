import TrogonEventStore.Types

namespace TrogonEventStore

structure Position where
  commit : Nat
  prepare : Nat
  deriving DecidableEq, Repr

def Position.start : Position := ⟨0, 0⟩

structure WriteResult where
  nextExpectedVersion : Nat
  position : Position
  deriving DecidableEq, Repr

abbrev StringMap := List (String × String)

structure EventData where
  payload : Bytes
  idOpt : Option Uuid
  metadata : StringMap
  customMetadata : Option Bytes
  deriving DecidableEq, Repr

/-- `chrono::DateTime<Utc>` by its distance from the Unix epoch. -/
structure DateTime where
  seconds : Nat
  nanos : Nat
  deriving DecidableEq, Repr

structure WireTimestamp where
  seconds : Int
  nanos : Int
  deriving DecidableEq, Repr

/-- What decoding takes from the uuid and chrono crates. -/
structure Decoders where
  parseUuid : String → Option Uuid
  dateTime : Nat → Nat → Option DateTime

def Decoders.blank : Decoders := ⟨fun _ => none, fun _ _ => none⟩

/-- `timestamp_to_datetime`: both casts wrap, and an instant out of range is a panic. -/
def timestampToDatetime (decoders : Decoders) (timestamp : WireTimestamp) : Option DateTime :=
  let nanos := (timestamp.nanos % u32Bound).toNat
  let seconds := (timestamp.seconds % u64Bound).toNat + nanos / 1000000000
  if seconds < 2 ^ 63 then decoders.dateTime seconds (nanos % 1000000000) else none

structure WireRecordedEvent where
  id : Option WireUuid
  streamIdentifier : Option Bytes
  streamRevision : Nat
  preparePosition : Nat
  commitPosition : Nat
  metadata : StringMap
  customMetadata : Bytes
  data : Bytes
  deriving DecidableEq, Repr

structure RecordedEvent where
  streamIdRaw : Bytes
  id : Uuid
  revision : Nat
  eventType : String
  data : Bytes
  metadata : StringMap
  customMetadata : Bytes
  isJson : Bool
  position : Position
  created : DateTime
  deriving DecidableEq, Repr

/-- `From<RecordedEvent>`; `none` where an id or a stream identifier is missing or unreadable. -/
def WireRecordedEvent.decode (decoders : Decoders) (wire : WireRecordedEvent) :
    Option RecordedEvent := do
  let wireId ← wire.id
  let id ← wireId.tryInto decoders.parseUuid
  let streamIdRaw ← wire.streamIdentifier
  let metadata := wire.metadata.filter fun entry => entry.1 ≠ "type"
  some {
    streamIdRaw := streamIdRaw
    id := id
    revision := wire.streamRevision
    eventType := (wire.metadata.lookup "type").getD ""
    data := wire.data
    metadata := metadata
    customMetadata := wire.customMetadata
    isJson := metadata.lookup "content-type" = some "application/json"
    position := ⟨wire.commitPosition, wire.preparePosition⟩
    created := match metadata.lookup "created" with
      | some ticks => ⟨(parseUnsigned u64Bound ticks).getD 0 / 10000000, 0⟩
      | none => ⟨0, 0⟩ }

structure WireReadEvent where
  event : Option WireRecordedEvent
  link : Option WireRecordedEvent
  position : Option (Option Nat)
  deriving DecidableEq, Repr

structure ResolvedEvent where
  event : Option RecordedEvent
  link : Option RecordedEvent
  commitPosition : Option Nat
  deriving DecidableEq, Repr

def decodeOption (decoders : Decoders) : Option WireRecordedEvent → Option (Option RecordedEvent)
  | none => some none
  | some wire => (wire.decode decoders).map some

def WireReadEvent.decode (decoders : Decoders) (wire : WireReadEvent) : Option ResolvedEvent := do
  let event ← decodeOption decoders wire.event
  let link ← decodeOption decoders wire.link
  some ⟨event, link, wire.position.join⟩

/-- `get_original_event`: the link where there is one; neither link nor event is a panic. -/
def ResolvedEvent.getOriginalEvent (resolved : ResolvedEvent) : Option RecordedEvent :=
  resolved.link.or resolved.event

end TrogonEventStore

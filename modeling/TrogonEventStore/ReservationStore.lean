import TrogonEventStore.ReservationPrograms
import Mathlib.Logic.Function.Basic

/-! The streams the workers share, what the event store may do with them, and what every event that
is stored there rests on. -/

namespace TrogonEventStore.Reservation

abbrev Streams := String → List RecordedEvent

namespace Streams

variable (streams : Streams)

def Later (streams after : Streams) : Prop := ∀ stream, streams stream <+: after stream

def append (stream : String) (event : RecordedEvent) : Streams :=
  Function.update streams stream (streams stream ++ [event])

/-- Some stream has no room left: a revision is a `u64`. -/
def Full : Prop := ∃ stream, u64Bound ≤ (streams stream).length + 1

theorem Later.refl : streams.Later streams := fun _ => List.prefix_rfl

variable {streams}

theorem Later.trans {middle after : Streams} (first : streams.Later middle)
    (second : middle.Later after) : streams.Later after :=
  fun stream => (first stream).trans (second stream)

theorem Later.append (stream : String) (event : RecordedEvent) :
    streams.Later (streams.append stream event) := by
  intro other
  by_cases same : other = stream
  · subst same
    rw [Streams.append, Function.update_self]
    exact List.prefix_append _ _
  · have kept : streams.append stream event other = streams other := Function.update_of_ne same _ _
    exact kept ▸ List.prefix_rfl

theorem Later.found {after : Streams} (later : streams.Later after) {stream : String} {place : Nat}
    {event : RecordedEvent} (found : (streams stream)[place]? = some event) :
    (after stream)[place]? = some event := by
  obtain ⟨rest, grown⟩ := later stream
  obtain ⟨within, _⟩ := List.getElem?_eq_some_iff.mp found
  rw [← grown, List.getElem?_append_left within, found]

theorem Later.full {after : Streams} (later : streams.Later after) (full : streams.Full) :
    after.Full := by
  obtain ⟨stream, large⟩ := full
  have grown := (later stream).length_le
  exact ⟨stream, by omega⟩

theorem Later.take {after : Streams} (later : streams.Later after) {stream : String} {count : Nat}
    (within : count ≤ (streams stream).length) :
    (after stream).take count = (streams stream).take count := by
  obtain ⟨rest, grown⟩ := later stream
  rw [← grown, List.take_append_of_le_length within]

theorem append_found {stream other : String} {place : Nat} {event found : RecordedEvent}
    (present : (streams.append stream event other)[place]? = some found) :
    (streams other)[place]? = some found ∨
      other = stream ∧ place = (streams stream).length ∧ found = event := by
  by_cases same : other = stream
  · subst same
    rw [append, Function.update_self, List.getElem?_append] at present
    split at present
    · exact Or.inl present
    · next beyond =>
        obtain ⟨within, last⟩ := List.getElem?_eq_some_iff.mp present
        rw [List.length_singleton] at within
        refine Or.inr ⟨rfl, by omega, ?_⟩
        rw [← last, List.getElem_singleton]
  · rw [append, Function.update_of_ne same] at present
    exact Or.inl present

end Streams

/-- Whether the expected state of a stream is that of one with so many events. -/
def Admits : StreamState → Nat → Prop
  | .any, _ => True
  | .streamExists, count => 0 < count
  | .noStream, count => count = 0
  | .streamRevision revision, count => count = revision + 1

/-- The event as it is recorded at a place of its stream, with positions that are `u64`s. -/
structure Records (event : EventData) (place : Nat) (recorded : RecordedEvent) : Prop where
  id : ∀ id, event.idOpt = some id → recorded.id = id
  revision : recorded.revision = place
  eventType : ∀ type, event.metadata.lookup "type" = some type → recorded.eventType = type
  data : recorded.data = event.payload
  commit : recorded.position.commit < u64Bound
  prepare : recorded.position.prepare < u64Bound

/-- A request to append may be served when the stream is as expected; nothing comes of it else. -/
def effect (streams : Streams) : Call → Streams → Prop
  | .appendToStream stream expected event, after =>
      after = streams ∨ ∃ recorded, Admits expected (streams stream).length ∧
        (streams stream).length + 1 < u64Bound ∧
        Records event (streams stream).length recorded ∧ after = streams.append stream recorded
  | _, after => after = streams

/-- The event at the place an append is meant for is known by its id: the same id makes the append
a success, whatever the payload, at the revision and the position the event has. -/
def Acknowledges (streams : Streams) (stream : String) (expected : StreamState) (event : EventData)
    (write : WriteResult) : Prop :=
  ∃ place recorded, (streams stream)[place]? = some recorded ∧ Admits expected place ∧
    (∀ id, event.idOpt = some id → recorded.id = id) ∧
    write = ⟨recorded.revision, recorded.position⟩

/-- A read shows the events that are asked for, as they are or once were; it may break off with an
error. A stream without events is not found. -/
def Shows (seen : List RecordedEvent) (options : ReadStreamOptions) (events : Events) : Prop :=
  ∃ rest, (Server.chosen options seen).map some =
      events.pending.map ResolvedEvent.getOriginalEvent ++ rest ∧
    (events.ending = none → rest = [] ∧ seen ≠ [])

/-- Answers may be lost, and reads may be behind. -/
def possible (streams : Streams) : (call : Call) → call.Answer → Prop
  | .newV4, _ => True
  | .appendToStream stream expected event, .ok write =>
      Acknowledges streams stream expected event write
  | .readStream stream options, .ok events =>
      ∃ seen, seen <+: streams stream ∧ Shows seen options events
  | .appendToStream _ _ _, .error _ => True
  | .readStream _ _, .error _ => True

/-- A store that is prompt refuses an append only if the stream does not end before its place and has
no event with its id there, or if there is no room, and a read shows what is there. -/
def Prompt (streams : Streams) : (call : Call) → call.Answer → Prop
  | .newV4, _ => True
  | .appendToStream stream expected event, answer =>
      (∃ write, answer = .ok write) ∨ streams.Full ∨
        ∃ place, Admits expected place ∧ place ≠ (streams stream).length ∧
          ∀ recorded, (streams stream)[place]? = some recorded → event.idOpt ≠ some recorded.id
  | .readStream stream options, answer =>
      ∃ events : Events, answer = .ok events ∧
        (events.ending = none ∨ streams stream = [] ∧ events.ending = some .resourceNotFound) ∧
        (Server.chosen options (streams stream)).map some =
          events.pending.map ResolvedEvent.getOriginalEvent

/-- The event store, as the tests of idempotent appends have it; `prompt` says whether more than
that can be relied on. -/
def store (prompt : Prop) : Service Streams Call Call.Answer where
  effect := effect
  answers streams call answer := possible streams call answer ∧ (prompt → Prompt streams call answer)

end TrogonEventStore.Reservation

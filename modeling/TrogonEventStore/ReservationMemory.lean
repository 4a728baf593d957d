import TrogonEventStore.ReservationStore

namespace TrogonEventStore.Reservation.Memory

def place : StreamState → Nat → Nat
  | .any, count => count
  | .streamExists, count => max 1 count
  | .noStream, _ => 0
  | .streamRevision revision, _ => revision + 1

theorem admits_place (expected : StreamState) (count : Nat) :
    Admits expected (place expected count) := by
  cases expected with
  | any => trivial
  | streamExists => exact Nat.le_max_left 1 count
  | noStream => rfl
  | streamRevision revision => rfl

def recorded (stream : String) (event : EventData) (place : Nat) : RecordedEvent where
  streamIdRaw := utf8 stream
  id := event.idOpt.getD 0
  revision := place
  eventType := (event.metadata.lookup "type").getD ""
  data := event.payload
  metadata := event.metadata.filter fun entry => entry.1 ≠ "type"
  customMetadata := event.customMetadata.getD []
  isJson := event.metadata.lookup "content-type" = some "application/json"
  position := ⟨place, place⟩
  created := ⟨0, 0⟩

def current : List RecordedEvent → CurrentRevision
  | [] => .noStream
  | events => .current (events.length - 1)

def append (streams : Streams) (stream : String) (expected : StreamState) (event : EventData) :
    Except Error WriteResult × Streams :=
  let events := streams stream
  let intended := place expected events.length
  if intended = events.length then
    if events.length + 1 < u64Bound then
      (.ok ⟨intended, ⟨intended, intended⟩⟩,
        streams.append stream (recorded stream event intended))
    else (.error (.grpc .resourceExhausted "the stream is full"), streams)
  else
    match events[intended]? with
    | some stored =>
        if event.idOpt = some stored.id then (.ok ⟨stored.revision, stored.position⟩, streams)
        else (.error (.wrongExpectedVersion expected (current events)), streams)
    | none => (.error (.wrongExpectedVersion expected (current events)), streams)

def read (streams : Streams) (stream : String) (options : ReadStreamOptions) : Events :=
  match streams stream with
  | [] => ⟨[], some .resourceNotFound⟩
  | events => ⟨(Server.chosen options events).map fun event => ⟨some event, none, none⟩, none⟩

def serve (streams : Streams) : (call : Call) → call.Answer × Streams
  | .newV4 => (Uuid.nil, streams)
  | .appendToStream stream expected event => append streams stream expected event
  | .readStream stream options => (.ok (read streams stream options), streams)

variable (streams : Streams)

theorem read_shown (stream : String) (options : ReadStreamOptions) :
    (Server.chosen options (streams stream)).map some =
      (read streams stream options).pending.map ResolvedEvent.getOriginalEvent := by
  rw [read]
  split
  · next empty =>
      rw [empty, Server.chosen]
      cases options.direction <;> cases options.position <;> simp [Server.ordered]
  · rw [List.map_map]
    rfl

theorem read_ended (stream : String) (options : ReadStreamOptions) :
    (read streams stream options).ending = none ∧ streams stream ≠ [] ∨
      streams stream = [] ∧ (read streams stream options).ending = some .resourceNotFound := by
  rw [read]
  split
  · next empty => exact Or.inr ⟨empty, rfl⟩
  · next present => exact Or.inl ⟨rfl, present⟩

theorem read_serves (stream : String) (options : ReadStreamOptions) :
    (store True).answers streams (.readStream stream options)
      (.ok (read streams stream options)) := by
  have shown := read_shown streams stream options
  have ended := read_ended streams stream options
  refine ⟨⟨streams stream, List.prefix_rfl, [], ?_, ?_⟩, fun _ => ⟨_, rfl, ?_, shown⟩⟩
  · rw [List.append_nil]
    exact shown
  · intro whole
    rcases ended with ⟨_, present⟩ | ⟨_, missing⟩
    · exact ⟨rfl, present⟩
    · rw [whole] at missing
      cases missing
  · exact ended.imp_left And.left

section Appends

variable (stream : String) (expected : StreamState) (event : EventData)

/-- The outcome of an append is one that a prompt store may give. -/
def Serves (outcome : Except Error WriteResult × Streams) : Prop :=
  (store True).effect streams (.appendToStream stream expected event) outcome.2 ∧
    (store True).answers outcome.2 (.appendToStream stream expected event) outcome.1

theorem recorded_records {place : Nat} (small : place < u64Bound) :
    Records event place (recorded stream event place) where
  id id given := by
    change event.idOpt.getD 0 = id
    rw [given]
    rfl
  revision := rfl
  eventType type given := by
    change (event.metadata.lookup "type").getD "" = type
    rw [given]
    rfl
  data := rfl
  commit := small
  prepare := small

theorem refused_serves (error : Error)
    (refused : streams.Full ∨ ∃ place, Admits expected place ∧
      place ≠ (streams stream).length ∧
      ∀ stored, (streams stream)[place]? = some stored → event.idOpt ≠ some stored.id) :
    Serves streams stream expected event (.error error, streams) :=
  ⟨Or.inl rfl, trivial, fun _ => Or.inr refused⟩

theorem stored_serves {place : Nat} {stored : RecordedEvent} (admits : Admits expected place)
    (found : (streams stream)[place]? = some stored) (own : event.idOpt = some stored.id) :
    Serves streams stream expected event (.ok ⟨stored.revision, stored.position⟩, streams) := by
  refine ⟨Or.inl rfl, ⟨place, stored, found, admits, ?_, rfl⟩, fun _ => Or.inl ⟨_, rfl⟩⟩
  intro id given
  exact Option.some.inj (own.symm.trans given)

theorem recorded_serves {intended : Nat} (last : intended = (streams stream).length)
    (admits : Admits expected intended) (room : (streams stream).length + 1 < u64Bound) :
    Serves streams stream expected event (.ok ⟨intended, ⟨intended, intended⟩⟩,
      streams.append stream (recorded stream event intended)) := by
  subst last
  have records := recorded_records stream event (Nat.lt_of_succ_lt room)
  have found : (streams.append stream (recorded stream event (streams stream).length)
      stream)[(streams stream).length]? =
        some (recorded stream event (streams stream).length) := by
    rw [Streams.append, Function.update_self, List.getElem?_concat_length]
  exact ⟨Or.inr ⟨_, admits, room, records, rfl⟩, ⟨_, _, found, admits, records.id, rfl⟩,
    fun _ => Or.inl ⟨_, rfl⟩⟩

theorem append_serves :
    Serves streams stream expected event (append streams stream expected event) := by
  have admits := admits_place expected (streams stream).length
  unfold append
  dsimp only
  split
  · next last =>
      split
      · next room => exact recorded_serves streams stream expected event last admits room
      · next full =>
          apply refused_serves
          exact Or.inl ⟨stream, Nat.le_of_not_lt full⟩
  · next apart =>
      split
      · next stored found =>
          split
          · next own => exact stored_serves streams stream expected event admits found own
          · next other =>
              apply refused_serves
              refine Or.inr ⟨_, admits, apart, ?_⟩
              intro again present
              cases found.symm.trans present
              exact other
      · next missing =>
          apply refused_serves
          refine Or.inr ⟨_, admits, apart, ?_⟩
          intro again present
          cases missing.symm.trans present

end Appends

theorem serve_serves (prompt : Prop) (call : Call) :
    (store prompt).effect streams call (serve streams call).2 ∧
      (store prompt).answers (serve streams call).2 call (serve streams call).1 := by
  cases call with
  | newV4 => exact ⟨rfl, trivial, fun _ => trivial⟩
  | appendToStream stream expected event =>
      obtain ⟨effect, possible, prompt⟩ := append_serves streams stream expected event
      exact ⟨effect, possible, fun _ => prompt trivial⟩
  | readStream stream options =>
      obtain ⟨possible, prompt⟩ := read_serves streams stream options
      exact ⟨rfl, possible, fun _ => prompt trivial⟩

theorem serve_length (stream : String) (call : Call) :
    ((serve streams call).2 stream).length ≤ (streams stream).length + 1 := by
  cases call with
  | newV4 => exact Nat.le_succ _
  | readStream other options => exact Nat.le_succ _
  | appendToStream other expected event =>
      change ((append streams other expected event).2 stream).length ≤ _
      rcases (append_serves streams other expected event).1 with same | ⟨recorded, _, _, _, same⟩
      · rw [same]
        exact Nat.le_succ _
      · rw [same]
        by_cases here : stream = other
        · subst here
          rw [Streams.append, Function.update_self, List.length_append, List.length_singleton]
        · rw [Streams.append, Function.update_of_ne here]
          exact Nat.le_succ _

end TrogonEventStore.Reservation.Memory

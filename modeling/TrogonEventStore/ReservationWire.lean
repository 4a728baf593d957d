import TrogonEventStore.AppendPaths
import TrogonEventStore.ReadRuns
import TrogonEventStore.ReservationRecovery
import TrogonEventStore.UserInfo

/-! The workers' calls as they go through the client: what it sends for an append or a read, what a
server makes of that, and that the workers' store is what the client makes of the server's answers. -/

namespace TrogonEventStore

structure RecordedEvent.Reads (decoders : Decoders) (wire : WireRecordedEvent)
    (recorded : RecordedEvent) : Prop where
  id : wire.id.bind (WireUuid.tryInto decoders.parseUuid) = some recorded.id
  revision : recorded.revision = wire.streamRevision
  eventType : recorded.eventType = (wire.metadata.lookup "type").getD ""
  data : recorded.data = wire.data
  position : recorded.position = ⟨wire.commitPosition, wire.preparePosition⟩

theorem WireRecordedEvent.decode_reads {decoders : Decoders} {wire : WireRecordedEvent}
    {recorded : RecordedEvent} (decoded : wire.decode decoders = some recorded) :
    recorded.Reads decoders wire := by
  simp only [WireRecordedEvent.decode, Option.bind_eq_bind, Option.bind_eq_some_iff,
    Option.some.injEq] at decoded
  obtain ⟨wireId, found, id, read, _, _, rfl⟩ := decoded
  refine ⟨?_, rfl, rfl, rfl, rfl⟩
  rw [found, Option.bind_some, read]

namespace Reservation

abbrev WireStreams := Bytes → List WireRecordedEvent

def readRecord (decoders : Decoders) (wire : WireRecordedEvent) : RecordedEvent :=
  (wire.decode decoders).getD ⟨[], Uuid.nil, 0, "", [], [], [], false, .start, ⟨0, 0⟩⟩

def WireStreams.view (decoders : Decoders) (records : WireStreams) : Streams := fun stream =>
  (records (utf8 stream)).map (readRecord decoders)

def WireStreams.Readable (decoders : Decoders) (records : WireStreams) : Prop :=
  ∀ stream, ∀ wire ∈ records stream, wire.Complete decoders

section Server

variable (decoders : Decoders)

/-- The record has the id of the message, in whichever form. -/
def SameId (message : ProposedMessage) (wire : WireRecordedEvent) : Prop :=
  ∃ id, message.id.bind (WireUuid.tryInto decoders.parseUuid) = some id ∧
    wire.id.bind (WireUuid.tryInto decoders.parseUuid) = some id

structure Recorded (message : ProposedMessage) (place : Nat) (wire : WireRecordedEvent) :
    Prop where
  placed : wire.streamIdentifier ≠ none
  id : SameId decoders message wire
  revision : wire.streamRevision = place
  metadata : ∀ key, key ≠ "created" → wire.metadata.lookup key = message.metadata.lookup key
  data : wire.data = message.data
  commit : wire.commitPosition < u64Bound
  prepare : wire.preparePosition < u64Bound

def Serves (records : WireStreams) (asked : Appending) (after : WireStreams) : Prop :=
  after = records ∨
    ∃ written, Admits asked.expected (records asked.streamName).length ∧
      (records asked.streamName).length + written.length < u64Bound ∧
      written.length = asked.messages.length ∧
      (∀ index message wire, asked.messages[index]? = some message →
        written[index]? = some wire →
          Recorded decoders message ((records asked.streamName).length + index) wire) ∧
      after = Function.update records asked.streamName (records asked.streamName ++ written)

/-- What a server may respond to an append: that the events are in the stream, known by their ids, and
where the last of them is, or that the stream is not as expected. -/
def Responds (records : WireStreams) (asked : Appending) : AppendResp → Prop
  | .success written => ∃ first last, Admits asked.expected first ∧
      (∀ index message, asked.messages[index]? = some message →
        ∃ wire, (records asked.streamName)[first + index]? = some wire ∧
          SameId decoders message wire) ∧
      (records asked.streamName)[first + asked.messages.length - 1]? = some last ∧
      written = ⟨some (.current last.streamRevision),
        some (some ⟨last.commitPosition, last.preparePosition⟩)⟩
  | .wrongExpectedVersion wrong =>
      wrong.currentRevisionOption ≠ none ∧ wrong.expectedRevisionOption ≠ none

/-- Messages with these records, and others between them. -/
inductive Carries : List ReadResp → List WireRecordedEvent → Prop where
  | nil : Carries [] []
  | event {resp : ReadResp} {pending : List ReadResp} {wire : WireRecordedEvent}
      {wires : List WireRecordedEvent} {position : Option (Option Nat)}
      (content : resp.content = some (.event ⟨some wire, none, position⟩))
      (rest : Carries pending wires) : Carries (resp :: pending) (wire :: wires)
  | other {resp : ReadResp} {pending : List ReadResp} {wires : List WireRecordedEvent}
      (silent : ∀ event, resp.content ≠ some (.event event)) (rest : Carries pending wires) :
      Carries (resp :: pending) wires

/-- What a server may send for a read: the records that are asked for, or some of them and an error. -/
def Sends (seen : List WireRecordedEvent) (options : ReadStreamOptions) (responses : Responses) :
    Prop :=
  ∃ sent rest, Carries responses.pending sent ∧ Server.chosen options seen = sent ++ rest ∧
    (responses.ending = none → responses.pending.any ReadResp.isStreamNotFound = false →
      rest = [] ∧ seen ≠ [])

end Server

variable (formats : Formats) (decoders : Decoders)

def AppendAsks (stream : String) (expected : StreamState) (event : EventData) (asked : Appending) :
    Prop :=
  ∃ newV4 context, readAppend (appendRequests formats.json newV4 context (utf8 stream)
    (.streamState expected) [event]) = some asked

def wireEffect (records : WireStreams) : Call → WireStreams → Prop
  | .appendToStream stream expected event, after =>
      ∃ asked, AppendAsks formats stream expected event asked ∧
        Serves decoders records asked after
  | _, after => after = records

/-- What `append_to_stream` and `read_stream` come back with; without a response that is an error. -/
def wireAnswers (records : WireStreams) : (call : Call) → call.Answer → Prop
  | .newV4, _ => True
  | .appendToStream stream expected event, answer => (∃ error, answer = .error error) ∨
      ∃ asked resp, AppendAsks formats stream expected event asked ∧
        Responds decoders records asked resp ∧
        AppendResp.conclude (some resp) = .returned answer
  | .readStream stream options, answer => (∃ error, answer = .error error) ∨
      ∃ name read seen responses channelId events,
        readRead (readStreamRequest options (utf8 stream)) = some (name, read) ∧
        seen <+: records name ∧ Sends seen read responses ∧
        ReadStream.Collects decoders channelId responses events ∧ answer = .ok events

/-- The server as the client lets the workers use it. -/
def wireStore : Service WireStreams Call Call.Answer where
  effect := wireEffect formats decoders
  answers := wireAnswers formats decoders

section View

variable {decoders} {records : WireStreams}

theorem WireStreams.view_found {stream : String} {place : Nat} {wire : WireRecordedEvent}
    (found : (records (utf8 stream))[place]? = some wire) :
    (records.view decoders stream)[place]? = some (readRecord decoders wire) := by
  rw [WireStreams.view, List.getElem?_map, found]
  rfl

theorem WireStreams.view_length (stream : String) :
    (records.view decoders stream).length = (records (utf8 stream)).length := List.length_map _

theorem WireStreams.view_append (stream : String) (wire : WireRecordedEvent) :
    WireStreams.view decoders
        (Function.update records (utf8 stream) (records (utf8 stream) ++ [wire])) =
      (records.view decoders).append stream (readRecord decoders wire) := by
  funext other
  by_cases same : other = stream
  · subst same
    rw [Streams.append, Function.update_self, WireStreams.view, Function.update_self, List.map_append]
    rfl
  · have apart : utf8 other ≠ utf8 stream := fun alike => same (utf8_injective alike)
    rw [Streams.append, Function.update_of_ne same, WireStreams.view, Function.update_of_ne apart]
    rfl

theorem readRecord_reads {wire : WireRecordedEvent} (complete : wire.Complete decoders) :
    wire.decode decoders = some (readRecord decoders wire) ∧
      (readRecord decoders wire).Reads decoders wire := by
  obtain ⟨recorded, decoded⟩ :=
    Option.isSome_iff_exists.mp ((wire.decode_isSome_iff decoders).mpr complete)
  have same : readRecord decoders wire = recorded := by rw [readRecord, decoded, Option.getD_some]
  rw [same]
  exact ⟨decoded, wire.decode_reads decoded⟩

end View

section Appends

variable {formats decoders} {stream : String} {expected : StreamState} {event : EventData}
variable {asked : Appending}

structure AsksFor (stream : String) (expected : StreamState) (event : EventData)
    (asked : Appending) (message : ProposedMessage) : Prop where
  streamName : asked.streamName = utf8 stream
  expected : asked.expected = expected
  messages : asked.messages = [message]
  id : ∀ id, event.idOpt = some id → message.id = some (.ofUuid id)
  metadata : message.metadata = event.metadata
  data : message.data = event.payload

theorem AppendAsks.asksFor (asks : AppendAsks formats stream expected event asked) :
    ∃ message, AsksFor stream expected event asked message := by
  obtain ⟨newV4, context, read⟩ := asks
  rw [readAppend_requests] at read
  obtain ⟨sameId, sameMetadata, samePayload⟩ := inject_keeps formats.json event context
  refine ⟨appendMessage formats.json (newV4 0) context event, ?_⟩
  cases read
  refine ⟨rfl, rfl, rfl, ?_, sameMetadata, samePayload⟩
  intro id given
  rw [appendMessage, EventData.intoAppendReq, sameId, given, Option.getD_some]

theorem Recorded.complete {message : ProposedMessage} {place : Nat} {wire : WireRecordedEvent}
    (recorded : Recorded decoders message place wire) : wire.Complete decoders := by
  obtain ⟨id, _, read⟩ := recorded.id
  obtain ⟨wireId, found, same⟩ := Option.bind_eq_some_iff.mp read
  exact ⟨⟨wireId, found, Option.isSome_of_eq_some same⟩, Option.isSome_iff_ne_none.mpr recorded.placed⟩

theorem SameId.reads {message : ProposedMessage} {wire : WireRecordedEvent} {id : Uuid}
    {recorded : RecordedEvent} (same : SameId decoders message wire)
    (known : message.id = some (.ofUuid id)) (reads : recorded.Reads decoders wire) :
    recorded.id = id := by
  obtain ⟨other, sent, stored⟩ := same
  rw [known, Option.bind_some, ofUuid_tryInto] at sent
  rw [Option.some.inj sent]
  exact Option.some.inj (reads.id.symm.trans stored)

theorem AsksFor.records {message : ProposedMessage} {place : Nat} {wire : WireRecordedEvent}
    (asksFor : AsksFor stream expected event asked message)
    (recorded : Recorded decoders message place wire) :
    Records event place (readRecord decoders wire) := by
  have reads := (readRecord_reads recorded.complete).2
  constructor
  case id =>
    intro id given
    exact recorded.id.reads (asksFor.id id given) reads
  case revision => rw [reads.revision, recorded.revision]
  case eventType =>
    intro type given
    rw [reads.eventType, recorded.metadata "type" (by decide), asksFor.metadata, given,
      Option.getD_some]
  case data => rw [reads.data, recorded.data, asksFor.data]
  case commit =>
    rw [reads.position]
    exact recorded.commit
  case prepare =>
    rw [reads.position]
    exact recorded.prepare

variable {records after : WireStreams}

theorem AsksFor.serves {message : ProposedMessage}
    (asksFor : AsksFor stream expected event asked message)
    (serves : Serves decoders records asked after) :
    after = records ∨ ∃ wire, Admits expected (records (utf8 stream)).length ∧
      (records (utf8 stream)).length + 1 < u64Bound ∧
      Recorded decoders message (records (utf8 stream)).length wire ∧
      after = Function.update records (utf8 stream) (records (utf8 stream) ++ [wire]) := by
  rcases serves with same | ⟨written, admits, room, counted, each, grown⟩
  · exact Or.inl same
  · rw [asksFor.streamName] at admits room each grown
    rw [asksFor.expected] at admits
    rw [asksFor.messages] at counted each
    obtain ⟨wire, rfl⟩ := List.length_eq_one_iff.mp counted
    exact Or.inr ⟨wire, admits, room, each 0 message wire rfl rfl, grown⟩

theorem AsksFor.keeps {message : ProposedMessage}
    (asksFor : AsksFor stream expected event asked message) (readable : records.Readable decoders)
    (serves : Serves decoders records asked after) : after.Readable decoders := by
  rcases asksFor.serves serves with rfl | ⟨wire, _, _, recorded, rfl⟩
  · exact readable
  · intro other found member
    by_cases same : other = utf8 stream
    · subst same
      rw [Function.update_self] at member
      rcases List.mem_append.mp member with earlier | last
      · exact readable _ found earlier
      · exact List.mem_singleton.mp last ▸ recorded.complete
    · rw [Function.update_of_ne same] at member
      exact readable other found member

theorem AsksFor.effect {message : ProposedMessage}
    (asksFor : AsksFor stream expected event asked message)
    (serves : Serves decoders records asked after) :
    effect (records.view decoders) (.appendToStream stream expected event)
      (after.view decoders) := by
  rcases asksFor.serves serves with rfl | ⟨wire, admits, room, recorded, rfl⟩
  · exact Or.inl rfl
  · have counted : (records.view decoders stream).length = (records (utf8 stream)).length :=
      WireStreams.view_length stream
    rw [← counted] at admits room recorded
    exact Or.inr ⟨_, admits, room, asksFor.records recorded, WireStreams.view_append stream wire⟩

theorem AsksFor.possible {message : ProposedMessage} {resp : AppendResp}
    {answer : Except Error WriteResult} (asksFor : AsksFor stream expected event asked message)
    (readable : records.Readable decoders) (responds : Responds decoders records asked resp)
    (concludes : AppendResp.conclude (some resp) = .returned answer) :
    possible (records.view decoders) (.appendToStream stream expected event) answer := by
  cases resp with
  | success written =>
      obtain ⟨place, last, admits, each, found, rfl⟩ := responds
      rw [asksFor.expected] at admits
      rw [asksFor.messages, asksFor.streamName] at each found
      obtain ⟨wire, present, same⟩ := each 0 message rfl
      have place_eq : place + [message].length - 1 = place + 0 := rfl
      rw [place_eq] at found
      obtain rfl : wire = last := Option.some.inj (present.symm.trans found)
      have reads := (readRecord_reads (readable _ wire (List.mem_of_getElem? found))).2
      cases concludes
      refine ⟨place, _, WireStreams.view_found found, admits, ?_, ?_⟩
      · intro id given
        exact same.reads (asksFor.id id given) reads
      · rw [reads.revision, reads.position]
        rfl
  | wrongExpectedVersion wrong =>
      obtain ⟨current, known⟩ := Option.ne_none_iff_exists'.mp responds.1
      obtain ⟨state, given⟩ := Option.ne_none_iff_exists'.mp responds.2
      have refused : AppendResp.conclude (some (.wrongExpectedVersion wrong)) =
          .returned (.error (.wrongExpectedVersion state current)) := by
        simp [AppendResp.conclude, WrongExpectedVersion.into, known, given]
      cases refused.symm.trans concludes
      trivial

end Appends

section Reads

variable {decoders} {channelId : Uuid} {options : ReadStreamOptions}

theorem chosen_map {Event Other : Type} (convert : Event → Other) (events : List Event) :
    Server.chosen options (events.map convert) = (Server.chosen options events).map convert := by
  rw [Server.chosen, Server.chosen, List.map_take]
  congr 1
  cases options.direction <;> cases options.position <;>
    simp [Server.ordered, List.map_take, List.map_drop, List.map_reverse]

theorem chosen_mem {Event : Type} {event : Event} {events : List Event}
    (member : event ∈ Server.chosen options events) : event ∈ events := by
  have present := List.mem_of_mem_take member
  unfold Server.ordered at present
  split at present
  · exact present
  · exact List.mem_of_mem_drop present
  · cases present
  · exact List.mem_of_mem_take (List.mem_reverse.mp present)
  · exact List.mem_of_mem_take (List.mem_reverse.mp present)
  · exact List.mem_reverse.mp present

theorem Carries.collected {pending : List ReadResp} {wires : List WireRecordedEvent}
    (carries : Carries pending wires) (complete : ∀ wire ∈ wires, wire.Complete decoders)
    (ending : Option Status) :
    ∃ rest, wires.map (fun wire => some (readRecord decoders wire)) =
        (ReadStream.collected decoders ⟨pending, ending⟩).pending.map
          ResolvedEvent.getOriginalEvent ++ rest ∧
      (pending.any ReadResp.isStreamNotFound = false → rest = []) := by
  induction carries with
  | nil => exact ⟨[], rfl, fun _ => rfl⟩
  | @event resp pending wire wires position content rest ih =>
      have present : resp.isStreamNotFound = false := by
        rw [ReadResp.isStreamNotFound, content]
      obtain ⟨unread, split, all⟩ := ih fun other member =>
        complete other (List.mem_cons_of_mem _ member)
      have decoded := (readRecord_reads (complete wire List.mem_cons_self)).1
      have resolved : resp.resolved decoders =
          some ⟨some (readRecord decoders wire), none, position.join⟩ := by
        simp [ReadResp.resolved, content, WireReadEvent.decode, decodeOption, decoded]
      refine ⟨unread, ?_, ?_⟩
      · rw [ReadStream.collected_cons pending ending present, resolved, List.map_cons, split]
        rfl
      · intro found
        rw [List.any_cons, present, Bool.false_or] at found
        exact all found
  | @other resp pending wires silent rest ih =>
      cases missing : resp.isStreamNotFound with
      | true =>
          refine ⟨wires.map fun wire => some (readRecord decoders wire), ?_, ?_⟩
          · rw [(ReadStream.collected_missing pending ending missing).2]
            rfl
          · intro found
            rw [List.any_cons, missing, Bool.true_or] at found
            cases found
      | false =>
          have nothing : resp.resolved decoders = none := by
            unfold ReadResp.resolved
            split
            · next event content => exact absurd content (silent event)
            · rfl
          obtain ⟨unread, split, all⟩ := ih complete
          refine ⟨unread, ?_, ?_⟩
          · rw [ReadStream.collected_cons pending ending missing, nothing, split]
            rfl
          · intro found
            rw [List.any_cons, missing, Bool.false_or] at found
            exact all found

/-- What the calls of `next` give shows the stream. -/
theorem Sends.shows {seen : List WireRecordedEvent} {responses : Responses} {events : Events}
    (sends : Sends seen options responses) (complete : ∀ wire ∈ seen, wire.Complete decoders)
    (collects : ReadStream.Collects decoders channelId responses events) :
    Shows (seen.map (readRecord decoders)) options events := by
  obtain ⟨pending, ending⟩ := responses
  obtain ⟨sent, rest, carries, split, whole⟩ := sends
  obtain ⟨_, rfl⟩ := collects.collected
  have among : ∀ wire ∈ sent, wire.Complete decoders := by
    intro wire member
    have chosen : wire ∈ Server.chosen options seen := split ▸ List.mem_append_left rest member
    exact complete wire (chosen_mem chosen)
  obtain ⟨unread, read, all⟩ := carries.collected among ending
  refine ⟨unread ++ rest.map fun wire => some (readRecord decoders wire), ?_, ?_⟩
  · rw [chosen_map, List.map_map, split, List.map_append]
    change sent.map (fun wire => some (readRecord decoders wire)) ++ _ = _
    rw [read, List.append_assoc]
    rfl
  · intro ended
    simp only [ReadStream.collected] at ended
    split at ended
    · cases ended
    · next found =>
        have known : pending.any ReadResp.isStreamNotFound = false := Bool.eq_false_iff.mpr found
        obtain ⟨rfl, present⟩ := whole (Option.map_eq_none_iff.mp ended) known
        rw [all known]
        exact ⟨rfl, fun empty => present (List.map_eq_nil_iff.mp empty)⟩

end Reads

theorem wireStore_refines : (wireStore formats decoders).Refines (store False)
    (WireStreams.view decoders) (WireStreams.Readable decoders) where
  kept := by
    intro records call after readable effect
    cases call with
    | newV4 => exact effect ▸ readable
    | readStream stream options => exact effect ▸ readable
    | appendToStream stream expected event =>
        obtain ⟨asked, asks, serves⟩ := effect
        obtain ⟨message, asksFor⟩ := asks.asksFor
        exact asksFor.keeps readable serves
  effect := by
    intro records call after readable effect
    cases call with
    | newV4 => exact congrArg (WireStreams.view decoders) effect
    | readStream stream options => exact congrArg (WireStreams.view decoders) effect
    | appendToStream stream expected event =>
        obtain ⟨asked, asks, serves⟩ := effect
        obtain ⟨message, asksFor⟩ := asks.asksFor
        exact asksFor.effect serves
  answers := by
    intro records call answer readable answers
    refine ⟨?_, fun impossible => impossible.elim⟩
    cases call with
    | newV4 => trivial
    | appendToStream stream expected event =>
        rcases answers with ⟨error, rfl⟩ | ⟨asked, resp, asks, responds, concludes⟩
        · trivial
        · obtain ⟨message, asksFor⟩ := asks.asksFor
          exact asksFor.possible readable responds concludes
    | readStream stream options =>
        rcases answers with
          ⟨error, rfl⟩ | ⟨name, read, seen, responses, channelId, events, asked, old, sends,
            collects, rfl⟩
        · trivial
        · rw [readRead_request] at asked
          cases asked
          have complete : ∀ wire ∈ seen, wire.Complete decoders := fun wire member =>
            readable _ wire (old.subset member)
          exact ⟨seen.map (readRecord decoders), old.map _, sends.shows complete collects⟩

section Runs

variable {formats decoders} {workload : Workload formats.texts} {Party : Type} [DecidableEq Party]

abbrev WireRunning (Party : Type) :=
  Deployment.State WireStreams Call Call.Answer Failure Job Party Job.Result

/-- Workers that go through the client are workers at their store: what holds of every run of those
holds of theirs, of the records as the client reads them. -/
theorem runs_refine {state next : WireRunning Party}
    (run : ((workers formats workload False).against (wireStore formats decoders)).Reachable
      (fun _ => []) state)
    (goes : Relation.ReflTransGen
      ((workers formats workload False).against (wireStore formats decoders)).Step state next) :
    Run formats workload (state.seen (WireStreams.view decoders)) ∧
      GoesOn formats workload (state.seen (WireStreams.view decoders))
        (next.seen (WireStreams.view decoders)) := by
  have refines := wireStore_refines formats decoders
  have empty : WireStreams.Readable decoders fun _ => [] := by
    intro stream wire absent
    cases absent
  obtain ⟨readable, reached⟩ := Deployment.refines_steps refines empty run
  exact ⟨reached, (Deployment.refines_steps refines readable goes).2⟩

end Runs

section Desk

def deskMessage : ProposedMessage :=
  appendMessage compact.json 0 ⟨false, []⟩ (eventData compact (.created deskInventory) 1)

def deskRecord : WireRecordedEvent where
  id := some (.ofUuid 1)
  streamIdentifier := some (utf8 "inventory-widget")
  streamRevision := 0
  preparePosition := 0
  commitPosition := 0
  metadata := deskMessage.metadata
  customMetadata := deskMessage.customMetadata
  data := deskMessage.data

theorem deskRecord_recorded : Recorded .blank deskMessage 0 deskRecord where
  placed := Option.some_ne_none _
  id := ⟨1, ofUuid_tryInto Decoders.blank.parseUuid 1, ofUuid_tryInto Decoders.blank.parseUuid 1⟩
  revision := rfl
  metadata _ _ := rfl
  data := rfl
  commit := by decide
  prepare := by decide

/-- A worker is started for the inventory, sends its event through the client, and it is recorded. -/
theorem desk_refines : ∃ state next : WireRunning Bool,
    next.world (utf8 "inventory-widget") = [deskRecord] ∧
      Run compact desk (state.seen (WireStreams.view .blank)) ∧
      GoesOn compact desk (state.seen (WireStreams.view .blank))
        (next.seen (WireStreams.view .blank)) := by
  let call : Call := .appendToStream "inventory-widget" .noStream
    (eventData compact (.created deskInventory) 1)
  let started : WireRunning Bool := ⟨fun _ => [], [], Function.update (fun _ => none) true
    (some ⟨.createInventory "inventory-widget" deskInventory 1,
      appendInitialInventory compact "inventory-widget" deskInventory 1⟩)⟩
  let after : WireStreams := Function.update (fun _ => []) (utf8 "inventory-widget") [deskRecord]
  have offered : desk.creation "inventory-widget" deskInventory 1 := ⟨rfl, rfl, rfl⟩
  have start : ((workers compact desk False).against (wireStore compact .blank)).Step
      (.initial fun _ => []) started := .start true offered
  have asks : AppendAsks compact "inventory-widget" .noStream
      (eventData compact (.created deskInventory) 1)
      ⟨utf8 "inventory-widget", .noStream, [deskMessage]⟩ :=
    ⟨fun _ => 0, ⟨false, []⟩, readAppend_requests _ _ _ _ _ _⟩
  have recorded : Serves .blank (fun _ => []) ⟨utf8 "inventory-widget", .noStream, [deskMessage]⟩
      after := by
    refine Or.inr ⟨[deskRecord], rfl, by decide, rfl, ?_, rfl⟩
    intro index message wire asked stored
    cases index with
    | zero =>
        cases asked
        cases stored
        exact deskRecord_recorded
    | succ index => cases asked
  obtain ⟨rest, running⟩ : ∃ rest, started.task true = some
      ⟨.createInventory "inventory-widget" deskInventory 1, .ask call rest⟩ := ⟨_, rfl⟩
  have sent : ((workers compact desk False).against (wireStore compact .blank)).Step started
      { started with sent := [call] } := .send running
  have served : ((workers compact desk False).against (wireStore compact .blank)).Step
      { started with sent := [call] } ⟨after, [call], started.task⟩ :=
    .serve (List.mem_singleton.mpr rfl) ⟨_, asks, recorded⟩
  have refined := runs_refine (.single start) ((Relation.ReflTransGen.single sent).tail served)
  have stored : after (utf8 "inventory-widget") = [deskRecord] :=
    Function.update_self (utf8 "inventory-widget") [deskRecord] fun _ => []
  exact ⟨started, ⟨after, [call], started.task⟩, stored, refined⟩

end Desk

end Reservation

end TrogonEventStore

import TrogonEventStore.Reads

namespace TrogonEventStore

/-- What decoding a recorded event relies on. -/
structure WireRecordedEvent.Complete (decoders : Decoders) (wire : WireRecordedEvent) : Prop where
  identified : ∃ wireId, wire.id = some wireId ∧ (wireId.tryInto decoders.parseUuid).isSome
  named : wire.streamIdentifier.isSome

theorem WireRecordedEvent.decode_isSome_iff (decoders : Decoders) (wire : WireRecordedEvent) :
    (wire.decode decoders).isSome ↔ wire.Complete decoders := by
  constructor
  · intro decoded
    cases identified : wire.id with
    | none => simp [decode, identified] at decoded
    | some wireId =>
        cases read : wireId.tryInto decoders.parseUuid with
        | none => simp [decode, identified, read] at decoded
        | some id =>
            cases named : wire.streamIdentifier with
            | none => simp [decode, identified, named] at decoded
            | some streamIdRaw =>
                exact ⟨⟨wireId, identified, by simp [read]⟩, by simp [named]⟩
  · intro complete
    obtain ⟨wireId, identified, read⟩ := complete.identified
    obtain ⟨id, read⟩ := Option.isSome_iff_exists.mp read
    obtain ⟨streamIdRaw, named⟩ := Option.isSome_iff_exists.mp complete.named
    simp [decode, identified, read, named]

theorem decodeOption_isSome_iff (decoders : Decoders) (wire : Option WireRecordedEvent) :
    (decodeOption decoders wire).isSome ↔ ∀ recorded ∈ wire, recorded.Complete decoders := by
  cases wire with
  | none => simp [decodeOption]
  | some recorded => simp [decodeOption, WireRecordedEvent.decode_isSome_iff]

def WireReadEvent.Complete (decoders : Decoders) (wire : WireReadEvent) : Prop :=
  (∀ recorded ∈ wire.event, recorded.Complete decoders) ∧
    ∀ recorded ∈ wire.link, recorded.Complete decoders

theorem WireReadEvent.decode_isSome_iff (decoders : Decoders) (wire : WireReadEvent) :
    (wire.decode decoders).isSome ↔ wire.Complete decoders := by
  have event := decodeOption_isSome_iff decoders wire.event
  have link := decodeOption_isSome_iff decoders wire.link
  rw [WireReadEvent.Complete, ← event, ← link]
  cases first : decodeOption decoders wire.event with
  | none => simp [decode, first]
  | some event =>
      cases second : decodeOption decoders wire.link with
      | none => simp [decode, first, second]
      | some link => simp [decode, first, second]

def ReadResp.Readable (decoders : Decoders) (resp : ReadResp) : Prop :=
  ∃ content, resp.content = some content ∧
    ∀ wire, content = .event wire → wire.Complete decoders

def ReadResp.Skipped (resp : ReadResp) : Prop :=
  (∃ subscriptionId, resp.content = some (.confirmation subscriptionId)) ∨
    (∃ position, resp.content = some (.checkpoint position)) ∨
    (∃ progress, resp.content = some (.caughtUp progress)) ∨
    ∃ progress, resp.content = some (.fellBehind progress)

def ReadResp.Boundary (resp : ReadResp) : Prop :=
  (∃ revision, resp.content = some (.firstStreamPosition revision)) ∨
    (∃ revision, resp.content = some (.lastStreamPosition revision)) ∨
    ∃ position, resp.content = some (.lastAllStreamPosition position)

def ReadResp.known (resp : ReadResp) : Bool := resp.content.isSome

/-- A call that comes back, and comes back as if messages of unknown kinds had not been sent. -/
structure Tolerates {Item Value : Type} (known : Item → Bool)
    (call : Feed Item Status → Called Value) (responses : Feed Item Status) : Prop where
  comesBack : call responses ≠ .panicked
  skips : call responses = call (responses.only known)

/-- A call that reads its stream tolerates it when nothing it comes to makes it panic, messages of
unknown kinds being among what does. -/
theorem tolerates_iff {Item Value : Type} {known : Item → Bool} {passes readable : Item → Prop}
    {call : Feed Item Status → Called Value} {reader : Reader Item Status (Called Value)}
    (reads : ∀ responses, call responses = reader.read responses)
    (passing : ∀ item, reader.Passes item ↔ passes item)
    (panics : ∀ item, reader.take item = some .panicked ↔ ¬ readable item)
    (unknown : ∀ item, known item = false → ¬ readable item) (responses : Feed Item Status) :
    Tolerates known call responses ↔
      (∀ item, responses.Reaches passes item → readable item) ∧
        (responses.Ends passes → reader.ended responses.ending ≠ .panicked) := by
  have samePasses : reader.Passes = passes := by
    funext item
    exact propext (passing item)
  have exactly := reader.read_iff (fun called => called ≠ .panicked) responses
  rw [samePasses] at exactly
  have comesTo : (∀ item, responses.Reaches passes item → ∀ called ∈ reader.take item,
      called ≠ .panicked) ↔ ∀ item, responses.Reaches passes item → readable item := by
    constructor
    · intro each item reached
      by_contra unreadable
      exact each item reached .panicked ((panics item).mpr unreadable) rfl
    · intro each item reached called taken panicked
      rw [panicked] at taken
      exact (panics item).mp taken (each item reached)
  rw [comesTo] at exactly
  constructor
  · intro tolerates
    have comesBack := tolerates.comesBack
    rw [reads] at comesBack
    exact exactly.mp comesBack
  · intro sound
    have comesBack := exactly.mpr sound
    rw [← reads] at comesBack
    refine ⟨comesBack, ?_⟩
    rw [reads, reads]
    apply Eq.symm
    apply reader.read_only
    intro item reached
    rw [samePasses] at reached
    by_contra told
    exact unknown item (Bool.eq_false_iff.mpr told) (sound.1 item reached)

theorem ReadResp.unknown_unreadable (decoders : Decoders) (resp : ReadResp)
    (unknown : resp.known = false) : ¬ resp.Readable decoders := by
  intro readable
  obtain ⟨content, carried, _⟩ := readable
  simp [ReadResp.known, carried] at unknown

def ReadResp.PassedOver (resp : ReadResp) : Prop := resp.Skipped ∨ resp.Boundary

namespace ReadStream

def reader (decoders : Decoders) : Reader ReadResp Status (Called (Option ReadEvent)) where
  take resp :=
    match resp.content with
    | none => some .panicked
    | some content => receive decoders content
  ended
    | none => .returned (.ok none)
    | some status => .returned (.error (.fromGrpc status))

/-- A message that makes `next_read_event` stop is the last one it takes from the stream. -/
theorem nextReadEvent_stops (decoders : Decoders) (channelId : Uuid) {resp : ReadResp}
    {called : Called (Option ReadEvent)} (taken : (reader decoders).take resp = some called)
    (rest : List ReadResp) (ending : Option Status) :
    nextReadEvent decoders ⟨channelId, ⟨resp :: rest, ending⟩⟩ = ⟨called, ⟨rest, ending⟩, []⟩ := by
  apply (reading decoders channelId).run_finished
  cases carried : resp.content with
  | none =>
      simp only [reader, carried, Option.some.injEq] at taken
      subst taken
      simp only [reading, readTurn, Feed.tryNext_cons, carried]
  | some content =>
      simp only [reader, carried] at taken
      simp only [reading, readTurn, Feed.tryNext_cons, carried, taken]

theorem nextReadEvent_continues (decoders : Decoders) (channelId : Uuid) {resp : ReadResp}
    (taken : (reader decoders).take resp = none) (rest : List ReadResp) (ending : Option Status) :
    nextReadEvent decoders ⟨channelId, ⟨resp :: rest, ending⟩⟩ =
      nextReadEvent decoders ⟨channelId, ⟨rest, ending⟩⟩ := by
  apply (reading decoders channelId).run_again
  cases carried : resp.content with
  | none => simp [reader, carried] at taken
  | some content =>
      simp only [reader, carried] at taken
      simp only [reading, readTurn, Feed.tryNext_cons, carried, taken]

theorem nextReadEvent_ends (decoders : Decoders) (channelId : Uuid) (ending : Option Status) :
    (nextReadEvent decoders ⟨channelId, ⟨[], ending⟩⟩).called = (reader decoders).ended ending := by
  cases ending with
  | none => rfl
  | some status => rfl

theorem nextReadEvent_reads (decoders : Decoders) (channelId : Uuid) (responses : Responses) :
    (nextReadEvent decoders ⟨channelId, responses⟩).called = (reader decoders).read responses := by
  obtain ⟨pending, ending⟩ := responses
  induction pending with
  | nil => exact nextReadEvent_ends decoders channelId ending
  | cons resp rest ih =>
      cases taken : (reader decoders).take resp with
      | some called => rw [nextReadEvent_stops decoders channelId taken, Reader.read_taken _ taken]
      | none => rw [nextReadEvent_continues decoders channelId taken, ih, Reader.read_passed _ taken]

/-- What `next` makes of what `next_read_event` came back with; `none` goes round again. -/
def passOn : Called (Option ReadEvent) → Option (Called (Option ResolvedEvent))
  | .panicked => some .panicked
  | .returned (.error error) => some (.returned (.error error))
  | .returned (.ok none) => some (.returned (.ok none))
  | .returned (.ok (some (.event event))) => some (.returned (.ok (some event)))
  | .returned (.ok (some _)) => none

def eventReader (decoders : Decoders) : Reader ReadResp Status (Called (Option ResolvedEvent)) where
  take resp := ((reader decoders).take resp).bind passOn
  ended
    | none => .returned (.ok none)
    | some status => .returned (.error (.fromGrpc status))

/-- A message that `next` goes past makes no difference to it. -/
theorem next_continues (decoders : Decoders) (channelId : Uuid) {resp : ReadResp}
    (passes : (eventReader decoders).Passes resp) (rest : List ReadResp) (ending : Option Status) :
    next decoders ⟨channelId, ⟨resp :: rest, ending⟩⟩ =
      next decoders ⟨channelId, ⟨rest, ending⟩⟩ := by
  cases taken : (reader decoders).take resp with
  | none =>
      apply (resolving decoders channelId).run_congr
      simp only [resolving, eventTurn, nextReadEvent_continues decoders channelId taken]
  | some called =>
      have stops := nextReadEvent_stops decoders channelId taken rest ending
      have passed : passOn called = none := by
        simpa [Reader.Passes, eventReader, taken] using passes
      apply (resolving decoders channelId).run_again
      simp only [resolving, eventTurn, stops]
      unfold passOn at passed
      split at passed <;> simp_all

theorem next_stops (decoders : Decoders) (channelId : Uuid) {resp : ReadResp}
    {result : Called (Option ResolvedEvent)} (stopped : (eventReader decoders).take resp = some result)
    (rest : List ReadResp) (ending : Option Status) :
    next decoders ⟨channelId, ⟨resp :: rest, ending⟩⟩ = ⟨result, ⟨rest, ending⟩, []⟩ := by
  obtain ⟨called, taken, passed⟩ := Option.bind_eq_some_iff.mp stopped
  have stops := nextReadEvent_stops decoders channelId taken rest ending
  apply (resolving decoders channelId).run_finished
  simp only [resolving, eventTurn, stops]
  unfold passOn at passed
  split at passed <;> simp_all

theorem next_reads (decoders : Decoders) (channelId : Uuid) (responses : Responses) :
    (next decoders ⟨channelId, responses⟩).called = (eventReader decoders).read responses := by
  obtain ⟨pending, ending⟩ := responses
  induction pending with
  | nil =>
      cases ending with
      | none => rfl
      | some status => rfl
  | cons resp rest ih =>
      cases taken : (eventReader decoders).take resp with
      | none => rw [next_continues decoders channelId taken, ih, Reader.read_passed _ taken]
      | some result => rw [next_stops decoders channelId taken, Reader.read_taken _ taken]

theorem receive_none_iff (decoders : Decoders) (content : Content) :
    receive decoders content = none ↔ ReadResp.Skipped ⟨some content⟩ := by
  cases content with
  | event wire =>
      simp only [receive, ReadResp.Skipped]
      split <;> simp
  | _ => simp [receive, ReadResp.Skipped]

theorem receive_panicked_iff (decoders : Decoders) (content : Content) :
    receive decoders content = some .panicked ↔ ¬ ReadResp.Readable decoders ⟨some content⟩ := by
  cases content with
  | event wire =>
      have exactly := wire.decode_isSome_iff decoders
      cases decoded : wire.decode decoders with
      | none => simp_all [receive, ReadResp.Readable]
      | some event => simp_all [receive, ReadResp.Readable]
  | _ => simp [receive, ReadResp.Readable]

theorem reader_passes_iff (decoders : Decoders) (resp : ReadResp) :
    (reader decoders).Passes resp ↔ resp.Skipped := by
  obtain ⟨content⟩ := resp
  cases content with
  | none => simp [Reader.Passes, reader, ReadResp.Skipped]
  | some content => exact receive_none_iff decoders content

theorem reader_panics_iff (decoders : Decoders) (resp : ReadResp) :
    (reader decoders).take resp = some .panicked ↔ ¬ resp.Readable decoders := by
  obtain ⟨content⟩ := resp
  cases content with
  | none => simp [reader, ReadResp.Readable]
  | some content => exact receive_panicked_iff decoders content

theorem passOn_panicked_iff (called : Called (Option ReadEvent)) :
    passOn called = some .panicked ↔ called = .panicked := by
  unfold passOn
  split <;> simp

theorem eventReader_panics_iff (decoders : Decoders) (resp : ReadResp) :
    (eventReader decoders).take resp = some .panicked ↔ ¬ resp.Readable decoders := by
  rw [← reader_panics_iff]
  simp only [eventReader, Option.bind_eq_some_iff, passOn_panicked_iff]
  simp

theorem eventReader_passes_iff (decoders : Decoders) (resp : ReadResp) :
    (eventReader decoders).Passes resp ↔ resp.PassedOver := by
  unfold ReadResp.PassedOver
  obtain ⟨content⟩ := resp
  cases content with
  | none => simp [Reader.Passes, eventReader, reader, passOn, ReadResp.Skipped, ReadResp.Boundary]
  | some content =>
      cases content with
      | event wire =>
          cases decoded : wire.decode decoders with
          | none => simp [Reader.Passes, eventReader, reader, receive, passOn, decoded,
              ReadResp.Skipped, ReadResp.Boundary]
          | some event => simp [Reader.Passes, eventReader, reader, receive, passOn, decoded,
              ReadResp.Skipped, ReadResp.Boundary]
      | _ => simp [Reader.Passes, eventReader, reader, receive, passOn, ReadResp.Skipped,
          ReadResp.Boundary]

theorem receive_event {decoders : Decoders} {content : Content} {event : ResolvedEvent}
    (taken : receive decoders content = some (.returned (.ok (some (.event event))))) :
    ∃ wire, content = .event wire ∧ wire.decode decoders = some event := by
  cases content with
  | event wire =>
      simp only [receive] at taken
      split at taken
      · cases taken
      · next decoded =>
          cases taken
          exact ⟨wire, rfl, decoded⟩
  | _ => simp [receive] at taken

theorem passOn_event {called : Called (Option ReadEvent)} {event : ResolvedEvent}
    (passed : passOn called = some (.returned (.ok (some event)))) :
    called = .returned (.ok (some (.event event))) := by
  unfold passOn at passed
  split at passed <;> simp_all

theorem receive_returns (decoders : Decoders) (content : Content) :
    receive decoders content ≠ some (.returned (.ok none)) := by
  cases content with
  | event wire =>
      simp only [receive]
      split <;> simp
  | _ => simp [receive]

theorem eventReader_event_iff (decoders : Decoders) (resp : ReadResp) (event : ResolvedEvent) :
    (eventReader decoders).take resp = some (.returned (.ok (some event))) ↔
      ∃ wire, resp.content = some (.event wire) ∧ wire.decode decoders = some event := by
  constructor
  · intro taken
    obtain ⟨called, first, passed⟩ := Option.bind_eq_some_iff.mp taken
    rw [passOn_event passed] at first
    cases carried : resp.content with
    | none => simp [reader, carried] at first
    | some content =>
        simp only [reader, carried] at first
        obtain ⟨wire, rfl, decoded⟩ := receive_event first
        exact ⟨wire, rfl, decoded⟩
  · intro given
    obtain ⟨wire, carried, decoded⟩ := given
    simp [eventReader, reader, carried, receive, decoded, passOn]

theorem eventReader_returns (decoders : Decoders) (resp : ReadResp) :
    (eventReader decoders).take resp ≠ some (.returned (.ok none)) := by
  intro taken
  obtain ⟨called, first, passed⟩ := Option.bind_eq_some_iff.mp taken
  have given : called = .returned (.ok none) := by
    unfold passOn at passed
    split at passed <;> simp_all
  rw [given] at first
  cases carried : resp.content with
  | none => simp [reader, carried] at first
  | some content =>
      simp only [reader, carried] at first
      exact receive_returns decoders content first

theorem nextReadEvent_tolerates_iff (decoders : Decoders) (channelId : Uuid)
    (responses : Responses) :
    Tolerates ReadResp.known
        (fun inner => (nextReadEvent decoders ⟨channelId, inner⟩).called) responses ↔
      ∀ resp, responses.Reaches ReadResp.Skipped resp → resp.Readable decoders := by
  have exactly := tolerates_iff (nextReadEvent_reads decoders channelId)
    (reader_passes_iff decoders) (reader_panics_iff decoders)
    (ReadResp.unknown_unreadable decoders) responses
  have ends : (reader decoders).ended responses.ending ≠ .panicked := by
    cases responses.ending with
    | none => simp [reader]
    | some status => simp [reader]
  exact exactly.trans (and_iff_left fun _ => ends)

theorem next_tolerates_iff (decoders : Decoders) (channelId : Uuid) (responses : Responses) :
    Tolerates ReadResp.known (fun inner => (next decoders ⟨channelId, inner⟩).called) responses ↔
      ∀ resp, responses.Reaches ReadResp.PassedOver resp → resp.Readable decoders := by
  have exactly := tolerates_iff (next_reads decoders channelId)
    (eventReader_passes_iff decoders) (eventReader_panics_iff decoders)
    (ReadResp.unknown_unreadable decoders) responses
  have ends : (eventReader decoders).ended responses.ending ≠ .panicked := by
    cases responses.ending with
    | none => simp [eventReader]
    | some status => simp [eventReader]
  exact exactly.trans (and_iff_left fun _ => ends)

end ReadStream

theorem decodeOption_none_iff {decoders : Decoders} {wire : Option WireRecordedEvent}
    {recorded : Option RecordedEvent} (decoded : decodeOption decoders wire = some recorded) :
    recorded = none ↔ wire = none := by
  cases wire with
  | none => simp_all [decodeOption]
  | some wire =>
      obtain ⟨event, _, rfl⟩ := Option.map_eq_some_iff.mp decoded
      simp

theorem getOriginalEvent_none_iff {decoders : Decoders} {wire : WireReadEvent}
    {event : ResolvedEvent} (decoded : wire.decode decoders = some event) :
    event.getOriginalEvent = none ↔ wire.event = none ∧ wire.link = none := by
  simp only [WireReadEvent.decode, Option.bind_eq_bind, Option.bind_eq_some_iff] at decoded
  obtain ⟨first, eventDecoded, second, linkDecoded, same⟩ := decoded
  cases same
  rw [← decodeOption_none_iff eventDecoded, ← decodeOption_none_iff linkDecoded]
  simp [ResolvedEvent.getOriginalEvent, and_comm]

def ReadResp.Original (resp : ReadResp) : Prop :=
  ∀ wire, resp.content = some (.event wire) → wire.event.isSome ∨ wire.link.isSome

theorem concludeMetadata_panicked_iff {Metadata : Type} (asJson : Bytes → Except String Metadata)
    (called : Called (Option ResolvedEvent)) :
    concludeMetadata asJson called = .panicked ↔
      called = .panicked ∨ called = .returned (.ok none) ∨
        ∃ event, called = .returned (.ok (some event)) ∧ event.getOriginalEvent = none := by
  unfold concludeMetadata
  split
  · simp
  · simp
  · next event =>
      split
      · next missing => simp [missing]
      · next original found => split <;> simp [found]
  · simp
  · simp
  · simp

def metadataReader {Metadata : Type} (decoders : Decoders)
    (asJson : Bytes → Except String Metadata) :
    Reader ReadResp Status (Called (StreamMetadataResult Metadata)) :=
  (ReadStream.eventReader decoders).map (concludeMetadata asJson)

theorem readStreamMetadata_reads {Metadata : Type} (decoders : Decoders)
    (asJson : Bytes → Except String Metadata) (channelId : Uuid) (responses : Responses) :
    (readStreamMetadata decoders asJson ⟨channelId, responses⟩).called =
      (metadataReader decoders asJson).read responses := by
  rw [metadataReader, Reader.read_map, ← ReadStream.next_reads decoders channelId]
  rfl

theorem metadataReader_panics_iff {Metadata : Type} (decoders : Decoders)
    (asJson : Bytes → Except String Metadata) (resp : ReadResp) :
    (metadataReader decoders asJson).take resp = some .panicked ↔
      ¬ (resp.Readable decoders ∧ resp.Original) := by
  have panics := ReadStream.eventReader_panics_iff decoders resp
  have returns := ReadStream.eventReader_returns decoders resp
  have events := ReadStream.eventReader_event_iff decoders resp
  simp only [metadataReader, Reader.map, Option.map_eq_some_iff, concludeMetadata_panicked_iff]
  constructor
  · intro given sound
    obtain ⟨called, taken, panicked | ended | ⟨event, returned, missing⟩⟩ := given
    · rw [panicked] at taken
      exact panics.mp taken sound.1
    · rw [ended] at taken
      exact returns taken
    · rw [returned] at taken
      obtain ⟨wire, carried, decoded⟩ := (events event).mp taken
      have neither := (getOriginalEvent_none_iff decoded).mp missing
      have given := sound.2 wire carried
      simp [neither.1, neither.2] at given
  · intro unsound
    by_cases readable : resp.Readable decoders
    · have empty : ¬ resp.Original := fun original => unsound ⟨readable, original⟩
      simp only [ReadResp.Original, not_forall, not_or] at empty
      obtain ⟨wire, carried, noEvent, noLink⟩ := empty
      obtain ⟨content, same, complete⟩ := readable
      rw [carried] at same
      cases same
      have decodes := (wire.decode_isSome_iff decoders).mpr (complete wire rfl)
      obtain ⟨event, decoded⟩ := Option.isSome_iff_exists.mp decodes
      have missing := (getOriginalEvent_none_iff decoded).mpr (by simp_all)
      exact ⟨_, (events event).mpr ⟨wire, carried, decoded⟩, Or.inr (Or.inr ⟨event, rfl, missing⟩)⟩
    · exact ⟨.panicked, panics.mpr readable, Or.inl rfl⟩

theorem metadataReader_passes_iff {Metadata : Type} (decoders : Decoders)
    (asJson : Bytes → Except String Metadata) (resp : ReadResp) :
    (metadataReader decoders asJson).Passes resp ↔ resp.PassedOver := by
  rw [← ReadStream.eventReader_passes_iff decoders]
  simp [Reader.Passes, metadataReader, Reader.map]

theorem concludeMetadata_failed {Metadata : Type} (asJson : Bytes → Except String Metadata)
    (error : Error) : concludeMetadata asJson (.returned (.error error)) ≠ .panicked := by
  intro panicked
  rw [concludeMetadata_panicked_iff] at panicked
  simp at panicked

theorem readStreamMetadata_tolerates_iff {Metadata : Type} (decoders : Decoders)
    (asJson : Bytes → Except String Metadata) (channelId : Uuid) (responses : Responses) :
    Tolerates ReadResp.known
        (fun inner => (readStreamMetadata decoders asJson ⟨channelId, inner⟩).called) responses ↔
      (∀ resp, responses.Reaches ReadResp.PassedOver resp →
        resp.Readable decoders ∧ resp.Original) ∧
      (responses.Ends ReadResp.PassedOver → responses.ending ≠ none) := by
  have exactly := tolerates_iff (readStreamMetadata_reads decoders asJson channelId)
    (metadataReader_passes_iff decoders asJson) (metadataReader_panics_iff decoders asJson)
    (fun resp unknown sound => resp.unknown_unreadable decoders unknown sound.1) responses
  have ends : (metadataReader decoders asJson).ended responses.ending ≠ .panicked ↔
      responses.ending ≠ none := by
    cases responses.ending with
    | none => simp [metadataReader, Reader.map, ReadStream.eventReader, concludeMetadata]
    | some status =>
        have failed := concludeMetadata_failed asJson (Error.fromGrpc status)
        simp [metadataReader, Reader.map, ReadStream.eventReader, failed]
  rw [exactly, ends]

namespace Persistent

def ReadResp.Readable (decoders : Decoders) (resp : ReadResp) : Prop :=
  ∃ content, resp.content = some content ∧ ∀ wire, content = .event wire →
    (∀ recorded ∈ wire.event, recorded.intoStreams.Complete decoders) ∧
      ∀ recorded ∈ wire.link, recorded.intoStreams.Complete decoders

def ReadResp.Confirmation (resp : ReadResp) : Prop :=
  ∃ subscriptionId, resp.content = some (.subscriptionConfirmation subscriptionId)

def ReadResp.known (resp : ReadResp) : Bool := resp.content.isSome

/-- No message at all is gone past by `next_subscription_event`. -/
def ReadResp.PassedOver (_resp : ReadResp) : Prop := False

theorem ReadResp.unknown_unreadable (decoders : Decoders) (resp : ReadResp)
    (unknown : resp.known = false) : ¬ resp.Readable decoders := by
  intro readable
  obtain ⟨content, carried, _⟩ := readable
  simp [ReadResp.known, carried] at unknown

theorem decodeOption_isSome_iff (decoders : Decoders) (wire : Option WireRecordedEvent) :
    (decodeOption decoders wire).isSome ↔
      ∀ recorded ∈ wire, recorded.intoStreams.Complete decoders := by
  cases wire with
  | none => simp [decodeOption]
  | some recorded =>
      have exactly := recorded.intoStreams.decode_isSome_iff decoders
      simp [decodeOption, WireRecordedEvent.decode, exactly]

theorem decode_isSome_iff (decoders : Decoders) (content : Content) :
    (content.decode decoders).isSome ↔ ReadResp.Readable decoders ⟨some content⟩ := by
  cases content with
  | subscriptionConfirmation subscriptionId => simp [Content.decode, ReadResp.Readable]
  | event wire =>
      have event := decodeOption_isSome_iff decoders wire.event
      have link := decodeOption_isSome_iff decoders wire.link
      have readable : ReadResp.Readable decoders ⟨some (.event wire)⟩ ↔
          (decodeOption decoders wire.event).isSome ∧ (decodeOption decoders wire.link).isSome := by
        rw [event, link]
        simp [ReadResp.Readable]
      rw [readable]
      cases first : decodeOption decoders wire.event with
      | none => simp [Content.decode, WireReadEvent.decode, first]
      | some event =>
          cases second : decodeOption decoders wire.link with
          | none => simp [Content.decode, WireReadEvent.decode, first, second]
          | some link => simp [Content.decode, WireReadEvent.decode, first, second]

end Persistent

namespace PersistentSubscription

def failure (status : Status) : Error :=
  if status.header "exception" = some "persistent-subscription-dropped" then
    .illegalStateError "Persistent subscription has dropped"
  else .fromGrpc status

def reader (decoders : Decoders) :
    Reader Persistent.ReadResp Status (Called PersistentSubscriptionEvent) where
  take resp :=
    match resp.content.bind (Persistent.Content.decode decoders) with
    | none => some .panicked
    | some event => some (.returned (.ok event))
  ended
    | none => .panicked
    | some status => .returned (.error (failure status))

theorem nextSubscriptionEvent_stops (decoders : Decoders) (channelId : Uuid)
    {resp : Persistent.ReadResp} {called : Called PersistentSubscriptionEvent}
    (taken : (reader decoders).take resp = some called) (rest : List Persistent.ReadResp)
    (ending : Option Status) :
    nextSubscriptionEvent decoders ⟨channelId, ⟨resp :: rest, ending⟩⟩ =
      ⟨called, ⟨rest, ending⟩, []⟩ := by
  cases carried : resp.content with
  | none =>
      simp only [reader, carried, Option.bind_none, Option.some.injEq] at taken
      subst taken
      simp only [nextSubscriptionEvent, Feed.tryNext_cons, Option.bind_some, carried]
  | some content =>
      cases decoded : content.decode decoders with
      | none =>
          simp only [reader, carried, Option.bind_some, decoded, Option.some.injEq] at taken
          subst taken
          simp only [nextSubscriptionEvent, Feed.tryNext_cons, Option.bind_some, carried, decoded]
      | some event =>
          simp only [reader, carried, Option.bind_some, decoded, Option.some.injEq] at taken
          subst taken
          simp only [nextSubscriptionEvent, Feed.tryNext_cons, Option.bind_some, carried, decoded]

theorem nextSubscriptionEvent_ends (decoders : Decoders) (channelId : Uuid)
    (ending : Option Status) :
    ∃ inner reports, nextSubscriptionEvent decoders ⟨channelId, ⟨[], ending⟩⟩ =
      ⟨(reader decoders).ended ending, inner, reports⟩ := by
  cases ending with
  | none => exact ⟨_, _, rfl⟩
  | some status =>
      simp only [nextSubscriptionEvent, Feed.tryNext_failed, reader, failure]
      split
      · exact ⟨_, _, rfl⟩
      · exact ⟨_, _, rfl⟩

theorem reader_stops (decoders : Decoders) (resp : Persistent.ReadResp) :
    ∃ called, (reader decoders).take resp = some called := by
  simp only [reader]
  split
  · exact ⟨_, rfl⟩
  · exact ⟨_, rfl⟩

theorem nextSubscriptionEvent_reads (decoders : Decoders) (channelId : Uuid)
    (responses : Persistent.Responses) :
    (nextSubscriptionEvent decoders ⟨channelId, responses⟩).called =
      (reader decoders).read responses := by
  obtain ⟨pending, ending⟩ := responses
  cases pending with
  | nil =>
      obtain ⟨inner, reports, ends⟩ := nextSubscriptionEvent_ends decoders channelId ending
      rw [ends, Reader.read_nil]
  | cons resp rest =>
      obtain ⟨called, taken⟩ := reader_stops decoders resp
      rw [nextSubscriptionEvent_stops decoders channelId taken, Reader.read_taken _ taken]

def passOn : Called PersistentSubscriptionEvent → Option (Called ResolvedEvent)
  | .panicked => some .panicked
  | .returned (.error error) => some (.returned (.error error))
  | .returned (.ok (.eventAppeared _ event)) => some (.returned (.ok event))
  | .returned (.ok (.confirmed _)) => none

def eventReader (decoders : Decoders) :
    Reader Persistent.ReadResp Status (Called ResolvedEvent) where
  take resp := ((reader decoders).take resp).bind passOn
  ended
    | none => .panicked
    | some status => .returned (.error (failure status))

theorem eventTurn_answer (decoders : Decoders) (channelId : Uuid)
    {inner rest : Persistent.Responses} {called : Called PersistentSubscriptionEvent}
    {reports : List CreateChannel}
    (answered : nextSubscriptionEvent decoders ⟨channelId, inner⟩ = ⟨called, rest, reports⟩) :
    eventTurn decoders channelId inner =
      match passOn called with
      | some result => .finished ⟨result, rest, reports⟩
      | none => .again rest := by
  simp only [eventTurn, answered]
  cases called with
  | panicked => rfl
  | returned result =>
      cases result with
      | error error => rfl
      | ok event =>
          cases event with
          | eventAppeared retryCount event => rfl
          | confirmed subscriptionId => rfl

/-- A confirmation makes no difference to `next`. -/
theorem next_continues (decoders : Decoders) (channelId : Uuid) {resp : Persistent.ReadResp}
    (passes : (eventReader decoders).Passes resp) (rest : List Persistent.ReadResp)
    (ending : Option Status) :
    next decoders ⟨channelId, ⟨resp :: rest, ending⟩⟩ =
      next decoders ⟨channelId, ⟨rest, ending⟩⟩ := by
  obtain ⟨called, taken⟩ := reader_stops decoders resp
  have turn := eventTurn_answer decoders channelId
    (nextSubscriptionEvent_stops decoders channelId taken rest ending)
  have passed : passOn called = none := by
    simpa [Reader.Passes, eventReader, taken] using passes
  rw [passed] at turn
  exact (resolving decoders channelId).run_again turn

theorem next_reads (decoders : Decoders) (channelId : Uuid) (responses : Persistent.Responses) :
    (next decoders ⟨channelId, responses⟩).called = (eventReader decoders).read responses := by
  obtain ⟨pending, ending⟩ := responses
  induction pending with
  | nil =>
      obtain ⟨inner, reports, ends⟩ := nextSubscriptionEvent_ends decoders channelId ending
      have turn := eventTurn_answer decoders channelId ends
      have passed : passOn ((reader decoders).ended ending) =
          some ((eventReader decoders).ended ending) := by
        cases ending with
        | none => rfl
        | some status => rfl
      rw [passed] at turn
      have same := (resolving decoders channelId).run_finished turn
      rw [Reader.read_nil]
      exact congrArg Answer.called same
  | cons resp rest ih =>
      cases stopped : (eventReader decoders).take resp with
      | none => rw [next_continues decoders channelId stopped, ih, Reader.read_passed _ stopped]
      | some result =>
          obtain ⟨called, taken, passed⟩ := Option.bind_eq_some_iff.mp stopped
          have turn := eventTurn_answer decoders channelId
            (nextSubscriptionEvent_stops decoders channelId taken rest ending)
          rw [passed] at turn
          have same := (resolving decoders channelId).run_finished turn
          rw [Reader.read_taken _ stopped]
          exact congrArg Answer.called same

theorem reader_panics_iff (decoders : Decoders) (resp : Persistent.ReadResp) :
    (reader decoders).take resp = some .panicked ↔ ¬ resp.Readable decoders := by
  obtain ⟨content⟩ := resp
  cases content with
  | none => simp [reader, Persistent.ReadResp.Readable]
  | some content =>
      rw [← Persistent.decode_isSome_iff]
      cases decoded : content.decode decoders with
      | none => simp [reader, decoded]
      | some event => simp [reader, decoded]

theorem eventReader_panics_iff (decoders : Decoders) (resp : Persistent.ReadResp) :
    (eventReader decoders).take resp = some .panicked ↔ ¬ resp.Readable decoders := by
  have only : ∀ called, passOn called = some .panicked ↔ called = .panicked := by
    intro called
    unfold passOn
    split <;> simp
  rw [← reader_panics_iff]
  simp only [eventReader, Option.bind_eq_some_iff, only]
  simp

theorem eventReader_passes_iff (decoders : Decoders) (resp : Persistent.ReadResp) :
    (eventReader decoders).Passes resp ↔ resp.Confirmation := by
  obtain ⟨content⟩ := resp
  cases content with
  | none => simp [Reader.Passes, eventReader, reader, passOn, Persistent.ReadResp.Confirmation]
  | some content =>
      cases content with
      | subscriptionConfirmation subscriptionId =>
          simp [Reader.Passes, eventReader, reader, passOn, Persistent.ReadResp.Confirmation,
            Persistent.Content.decode]
      | event wire =>
          cases decoded : wire.decode decoders with
          | none => simp [Reader.Passes, eventReader, reader, passOn,
              Persistent.ReadResp.Confirmation, Persistent.Content.decode, decoded]
          | some event =>
              simp only [Persistent.WireReadEvent.decode, Option.bind_eq_bind,
                Option.bind_eq_some_iff] at decoded
              obtain ⟨first, firstDecoded, second, secondDecoded, same⟩ := decoded
              cases same
              simp [Reader.Passes, eventReader, reader, passOn,
                Persistent.ReadResp.Confirmation, Persistent.Content.decode,
                Persistent.WireReadEvent.decode, firstDecoded, secondDecoded]

theorem nextSubscriptionEvent_tolerates_iff (decoders : Decoders) (channelId : Uuid)
    (responses : Persistent.Responses) :
    Tolerates Persistent.ReadResp.known
        (fun inner => (nextSubscriptionEvent decoders ⟨channelId, inner⟩).called) responses ↔
      (∀ resp, responses.Reaches Persistent.ReadResp.PassedOver resp → resp.Readable decoders) ∧
      (responses.Ends Persistent.ReadResp.PassedOver → responses.ending ≠ none) := by
  have stops : ∀ resp, (reader decoders).Passes resp ↔ resp.PassedOver := by
    intro resp
    obtain ⟨called, taken⟩ := reader_stops decoders resp
    simp [Reader.Passes, taken, Persistent.ReadResp.PassedOver]
  have exactly := tolerates_iff (nextSubscriptionEvent_reads decoders channelId) stops
    (reader_panics_iff decoders) (Persistent.ReadResp.unknown_unreadable decoders) responses
  have ends : (reader decoders).ended responses.ending ≠ .panicked ↔ responses.ending ≠ none := by
    cases responses.ending with
    | none => simp [reader]
    | some status => simp [reader]
  rw [exactly, ends]

theorem next_tolerates_iff (decoders : Decoders) (channelId : Uuid)
    (responses : Persistent.Responses) :
    Tolerates Persistent.ReadResp.known
        (fun inner => (next decoders ⟨channelId, inner⟩).called) responses ↔
      (∀ resp, responses.Reaches Persistent.ReadResp.Confirmation resp → resp.Readable decoders) ∧
      (responses.Ends Persistent.ReadResp.Confirmation → responses.ending ≠ none) := by
  have exactly := tolerates_iff (next_reads decoders channelId) (eventReader_passes_iff decoders)
    (eventReader_panics_iff decoders) (Persistent.ReadResp.unknown_unreadable decoders) responses
  have ends : (eventReader decoders).ended responses.ending ≠ .panicked ↔
      responses.ending ≠ none := by
    cases responses.ending with
    | none => simp [eventReader]
    | some status => simp [eventReader]
  rw [exactly, ends]

end PersistentSubscription

/-- `next_read_event` and `next` tolerate a stream as long as what they come to is readable.
`get_stream_metadata` and both calls of a persistent subscription also need something to come
to, and the former an event to go by. -/
theorem reads_tolerate_iff {Metadata : Type} (decoders : Decoders)
    (asJson : Bytes → Except String Metadata) (channelId : Uuid) :
    (∀ responses : Responses,
      Tolerates ReadResp.known
          (fun inner => (ReadStream.nextReadEvent decoders ⟨channelId, inner⟩).called) responses ↔
        ∀ resp, responses.Reaches ReadResp.Skipped resp → resp.Readable decoders) ∧
    (∀ responses : Responses,
      Tolerates ReadResp.known
          (fun inner => (ReadStream.next decoders ⟨channelId, inner⟩).called) responses ↔
        ∀ resp, responses.Reaches ReadResp.PassedOver resp → resp.Readable decoders) ∧
    (∀ responses : Responses,
      Tolerates ReadResp.known
          (fun inner => (readStreamMetadata decoders asJson ⟨channelId, inner⟩).called) responses ↔
        (∀ resp, responses.Reaches ReadResp.PassedOver resp →
          resp.Readable decoders ∧ resp.Original) ∧
        (responses.Ends ReadResp.PassedOver → responses.ending ≠ none)) ∧
    (∀ responses : Persistent.Responses,
      Tolerates Persistent.ReadResp.known
          (fun inner =>
            (PersistentSubscription.nextSubscriptionEvent decoders ⟨channelId, inner⟩).called)
          responses ↔
        (∀ resp, responses.Reaches Persistent.ReadResp.PassedOver resp → resp.Readable decoders) ∧
        (responses.Ends Persistent.ReadResp.PassedOver → responses.ending ≠ none)) ∧
    ∀ responses : Persistent.Responses,
      Tolerates Persistent.ReadResp.known
          (fun inner => (PersistentSubscription.next decoders ⟨channelId, inner⟩).called)
          responses ↔
        (∀ resp, responses.Reaches Persistent.ReadResp.Confirmation resp →
          resp.Readable decoders) ∧
        (responses.Ends Persistent.ReadResp.Confirmation → responses.ending ≠ none) := by
  constructor
  · exact ReadStream.nextReadEvent_tolerates_iff decoders channelId
  constructor
  · exact ReadStream.next_tolerates_iff decoders channelId
  constructor
  · exact readStreamMetadata_tolerates_iff decoders asJson channelId
  constructor
  · exact PersistentSubscription.nextSubscriptionEvent_tolerates_iff decoders channelId
  · exact PersistentSubscription.next_tolerates_iff decoders channelId

/-- A message of a kind the client does not know, a persistent subscription that ends in good
order and a metadata stream without events. -/
theorem reads_panic :
    ¬ Tolerates ReadResp.known
        (fun inner => (ReadStream.nextReadEvent .blank ⟨Uuid.nil, inner⟩).called)
        ⟨[⟨none⟩], none⟩ ∧
    ¬ Tolerates Persistent.ReadResp.known
        (fun inner => (PersistentSubscription.nextSubscriptionEvent .blank ⟨Uuid.nil, inner⟩).called)
        ⟨[], none⟩ ∧
    ¬ Tolerates ReadResp.known
        (fun inner => (readStreamMetadata .blank (fun _ => (.ok () : Except String Unit))
          ⟨Uuid.nil, inner⟩).called) ⟨[], none⟩ := by
  refine ⟨?_, ?_, ?_⟩
  · intro tolerates
    exact tolerates.comesBack rfl
  · intro tolerates
    exact tolerates.comesBack rfl
  · intro tolerates
    exact tolerates.comesBack rfl

end TrogonEventStore

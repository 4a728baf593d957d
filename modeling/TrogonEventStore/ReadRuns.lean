import TrogonEventStore.MetadataStreams

namespace TrogonEventStore

def ReadReq.RevisionOption.ofPosition : StreamPosition Nat → ReadReq.RevisionOption
  | .position value => .revision value
  | .start => .start
  | .atEnd => .atEnd

def readStreamRequest (options : ReadStreamOptions) (stream : Bytes) : ReadReq where
  options := some {
    readDirection := match options.direction with
      | .forward => 0
      | .backward => 1
    resolveLinks := options.resolveLinkTos
    uuidOption := some ⟨some .string⟩
    controlOption := some ⟨1⟩
    streamOption := some (.stream ⟨some stream, some (.ofPosition options.position)⟩)
    countOption := some (.count options.maxCount)
    filterOption := some .noFilter }

def ReadReq.RevisionOption.position : ReadReq.RevisionOption → StreamPosition Nat
  | .revision value => .position value
  | .start => .start
  | .atEnd => .atEnd

def readRead (request : ReadReq) : Option (Bytes × ReadStreamOptions) := do
  let options ← request.options
  match options.streamOption, options.countOption with
  | some (.stream ⟨some stream, some revision⟩), some (.count maxCount) =>
      some (stream, ⟨if options.readDirection = 0 then .forward else .backward, revision.position,
        options.resolveLinks, maxCount⟩)
  | _, _ => none

theorem readRead_request (options : ReadStreamOptions) (stream : Bytes) :
    readRead (readStreamRequest options stream) = some (stream, options) := by
  obtain ⟨direction, position, resolveLinkTos, maxCount⟩ := options
  cases direction <;> cases position <;> rfl

def ReadResp.resolved (decoders : Decoders) (resp : ReadResp) : Option ResolvedEvent :=
  match resp.content with
  | some (.event wire) => wire.decode decoders
  | _ => none

def ReadResp.isStreamNotFound (resp : ReadResp) : Bool :=
  match resp.content with
  | some (.streamNotFound _) => true
  | _ => false

namespace ReadStream

variable {decoders : Decoders} {channelId : Uuid}

/-- Calls of `next`, one after another, until one of them comes back without an event. -/
inductive Collects (decoders : Decoders) (channelId : Uuid) :
    Responses → Feed ResolvedEvent Error → Prop where
  | event {responses : Responses} {event : ResolvedEvent} {events : Feed ResolvedEvent Error}
      (returned : (next decoders ⟨channelId, responses⟩).called = .returned (.ok (some event)))
      (rest : Collects decoders channelId (next decoders ⟨channelId, responses⟩).inner events) :
      Collects decoders channelId responses ⟨event :: events.pending, events.ending⟩
  | ended {responses : Responses}
      (returned : (next decoders ⟨channelId, responses⟩).called = .returned (.ok none)) :
      Collects decoders channelId responses ⟨[], none⟩
  | failed {responses : Responses} {error : Error}
      (returned : (next decoders ⟨channelId, responses⟩).called = .returned (.error error)) :
      Collects decoders channelId responses ⟨[], some error⟩

/-- The messages up to the one that says that there is no stream. -/
def heard (responses : Responses) : List ReadResp :=
  responses.pending.takeWhile fun resp => !resp.isStreamNotFound

/-- What a response stream has for its reader: the events in their order, then how it ends. -/
def collected (decoders : Decoders) (responses : Responses) : Feed ResolvedEvent Error :=
  ⟨(heard responses).filterMap (ReadResp.resolved decoders),
    if responses.pending.any ReadResp.isStreamNotFound then some .resourceNotFound
    else responses.ending.map Error.fromGrpc⟩

def Follows (decoders : Decoders) (channelId : Uuid)
    (answer : Answer Responses (Option ResolvedEvent)) (events : Feed ResolvedEvent Error) : Prop :=
  match answer.called with
  | .returned (.ok (some event)) =>
      ∃ later, Collects decoders channelId answer.inner later ∧
        events = ⟨event :: later.pending, later.ending⟩
  | .returned (.ok none) => events = ⟨[], none⟩
  | .returned (.error error) => events = ⟨[], some error⟩
  | .panicked => False

theorem collects_iff_follows {responses : Responses} {events : Feed ResolvedEvent Error} :
    Collects decoders channelId responses events ↔
      Follows decoders channelId (next decoders ⟨channelId, responses⟩) events := by
  constructor
  · intro collects
    unfold Follows
    cases collects with
    | event returned rest =>
        rw [returned]
        exact ⟨_, rest, rfl⟩
    | ended returned => rw [returned]
    | failed returned => rw [returned]
  · intro follows
    unfold Follows at follows
    split at follows
    · next returned =>
        obtain ⟨later, rest, rfl⟩ := follows
        exact .event returned rest
    · next returned => exact follows ▸ .ended returned
    · next returned => exact follows ▸ .failed returned
    · exact follows.elim

section Step

variable {resp : ReadResp} {rest : List ReadResp} {ending : Option Status}
variable {events : Feed ResolvedEvent Error}

theorem collects_passed (passes : (eventReader decoders).Passes resp) :
    Collects decoders channelId ⟨resp :: rest, ending⟩ events ↔
      Collects decoders channelId ⟨rest, ending⟩ events := by
  rw [collects_iff_follows, collects_iff_follows,
    next_continues decoders channelId passes rest ending]

theorem collects_stopped {called : Called (Option ResolvedEvent)}
    (stopped : (eventReader decoders).take resp = some called) :
    Collects decoders channelId ⟨resp :: rest, ending⟩ events ↔
      Follows decoders channelId ⟨called, ⟨rest, ending⟩, []⟩ events := by
  rw [collects_iff_follows, next_stops decoders channelId stopped rest ending]

theorem collects_ended : Collects decoders channelId ⟨[], ending⟩ events ↔
    events = ⟨[], ending.map Error.fromGrpc⟩ := by
  rw [collects_iff_follows]
  cases ending with
  | none => exact Iff.rfl
  | some status => exact Iff.rfl

end Step

inductive Kind (decoders : Decoders) (resp : ReadResp) : Prop where
  | unreadable (stopped : (eventReader decoders).take resp = some .panicked)
      (unreadable : ¬ resp.Readable decoders) (other : resp.isStreamNotFound = false)
  | streamNotFound
      (stopped : (eventReader decoders).take resp = some (.returned (.error .resourceNotFound)))
      (missing : resp.isStreamNotFound = true)
  | event {event : ResolvedEvent}
      (stopped : (eventReader decoders).take resp = some (.returned (.ok (some event))))
      (resolved : resp.resolved decoders = some event) (readable : resp.Readable decoders)
      (other : resp.isStreamNotFound = false)
  | passed (passes : (eventReader decoders).Passes resp) (silent : resp.resolved decoders = none)
      (readable : resp.Readable decoders) (other : resp.isStreamNotFound = false)

theorem kind (decoders : Decoders) (resp : ReadResp) : Kind decoders resp := by
  have panics := eventReader_panics_iff decoders resp
  obtain ⟨content⟩ := resp
  cases content with
  | none =>
      have stopped : (eventReader decoders).take ⟨none⟩ = some .panicked := rfl
      exact .unreadable stopped (panics.mp stopped) rfl
  | some content =>
      cases content with
      | event wire =>
          cases decoded : wire.decode decoders with
          | none =>
              have stopped : (eventReader decoders).take ⟨some (.event wire)⟩ = some .panicked := by
                simp [eventReader, reader, receive, passOn, decoded]
              exact .unreadable stopped (panics.mp stopped) rfl
          | some event =>
              have stopped : (eventReader decoders).take ⟨some (.event wire)⟩ =
                  some (.returned (.ok (some event))) := by
                simp [eventReader, reader, receive, passOn, decoded]
              refine .event stopped decoded ?_ rfl
              by_contra unreadable
              cases stopped.symm.trans (panics.mpr unreadable)
      | streamNotFound streamIdentifier => exact .streamNotFound rfl rfl
      | _ =>
          refine .passed rfl rfl ⟨_, rfl, ?_⟩ rfl
          rintro wire ⟨⟩

section Collected

variable {resp : ReadResp} (rest : List ReadResp) (ending : Option Status)

theorem heard_cons (other : resp.isStreamNotFound = false) :
    heard ⟨resp :: rest, ending⟩ = resp :: heard ⟨rest, ending⟩ := by
  simp [heard, other]

theorem collected_cons (other : resp.isStreamNotFound = false) :
    collected decoders ⟨resp :: rest, ending⟩ =
      ⟨(resp.resolved decoders).toList ++ (collected decoders ⟨rest, ending⟩).pending,
        (collected decoders ⟨rest, ending⟩).ending⟩ := by
  rw [collected, heard_cons rest ending other]
  cases resolved : resp.resolved decoders with
  | none => simp [collected, other, resolved]
  | some event => simp [collected, other, resolved]

theorem collected_missing (missing : resp.isStreamNotFound = true) :
    heard ⟨resp :: rest, ending⟩ = [] ∧
      collected decoders ⟨resp :: rest, ending⟩ = ⟨[], some .resourceNotFound⟩ := by
  simp [heard, collected, missing]

end Collected

theorem Collects.collected {responses : Responses} {events : Feed ResolvedEvent Error}
    (collects : Collects decoders channelId responses events) :
    (∀ resp ∈ heard responses, resp.Readable decoders) ∧ events = collected decoders responses := by
  obtain ⟨pending, ending⟩ := responses
  induction pending generalizing events with
  | nil =>
      refine ⟨List.forall_mem_nil _, ?_⟩
      simpa [ReadStream.collected, heard] using collects_ended.mp collects
  | cons resp rest ih =>
      cases kind decoders resp with
      | unreadable stopped unreadable other => exact ((collects_stopped stopped).mp collects).elim
      | streamNotFound stopped missing =>
          obtain ⟨nothing, found⟩ := collected_missing rest ending missing
          rw [nothing, found]
          exact ⟨List.forall_mem_nil _, (collects_stopped stopped).mp collects⟩
      | event stopped resolved readable other =>
          obtain ⟨later, collected, rfl⟩ := (collects_stopped stopped).mp collects
          obtain ⟨all, rfl⟩ := ih collected
          rw [heard_cons rest ending other, collected_cons rest ending other, resolved]
          exact ⟨List.forall_mem_cons.mpr ⟨readable, all⟩, rfl⟩
      | passed passes silent readable other =>
          obtain ⟨all, rfl⟩ := ih ((collects_passed passes).mp collects)
          rw [heard_cons rest ending other, collected_cons rest ending other, silent]
          exact ⟨List.forall_mem_cons.mpr ⟨readable, all⟩, rfl⟩

theorem collects_readable {responses : Responses}
    (readable : ∀ resp ∈ heard responses, resp.Readable decoders) :
    Collects decoders channelId responses (collected decoders responses) := by
  obtain ⟨pending, ending⟩ := responses
  induction pending with
  | nil => exact collects_ended.mpr (by simp [collected, heard])
  | cons resp rest ih =>
      cases kind decoders resp with
      | unreadable stopped unreadable other =>
          rw [heard_cons rest ending other] at readable
          exact absurd (readable resp List.mem_cons_self) unreadable
      | streamNotFound stopped missing =>
          rw [(collected_missing rest ending missing).2]
          exact (collects_stopped stopped).mpr rfl
      | event stopped resolved present other =>
          rw [heard_cons rest ending other] at readable
          rw [collected_cons rest ending other, resolved]
          have later := ih fun _ member => readable _ (List.mem_cons_of_mem resp member)
          exact (collects_stopped stopped).mpr ⟨_, later, rfl⟩
      | passed passes silent present other =>
          rw [heard_cons rest ending other] at readable
          rw [collected_cons rest ending other, silent]
          have later := ih fun _ member => readable _ (List.mem_cons_of_mem resp member)
          exact (collects_passed passes).mpr later

/-- Calls of `next` come to an end exactly when every message is readable up to the one that says that
there is no stream; together they then give the events in their order, none of them twice, and an end
without an error only after all of them. -/
theorem collects_iff (responses : Responses) (events : Feed ResolvedEvent Error) :
    Collects decoders channelId responses events ↔
      (∀ resp ∈ heard responses, resp.Readable decoders) ∧ events = collected decoders responses := by
  constructor
  · exact Collects.collected
  · rintro ⟨readable, rfl⟩
    exact collects_readable readable

end ReadStream

end TrogonEventStore

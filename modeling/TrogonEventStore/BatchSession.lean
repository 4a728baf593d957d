import TrogonEventStore.BatchContract

/-! `batch_append`: the callers, the session actor, the request generator and the response pump
of one session, and the end of its response stream. -/

namespace TrogonEventStore.Batch

inductive WireBatchResult where
  | error (code : Int) (message : String)
  | success (currentRevisionOption : Option CurrentRevision)
      (positionOption : Option (Option Position))
  deriving DecidableEq, Repr

structure BatchAppendResp where
  correlationId : Option WireUuid
  streamIdentifier : Option Bytes
  result : Option WireBatchResult
  expectedStreamPosition : Option StreamState
  deriving DecidableEq, Repr

/-- The closure that turns a response into an `Out`; `none` is the panic of one of its unwraps. -/
def BatchAppendResp.out (parseUuid : String → Option Uuid) (resp : BatchAppendResp) :
    Option Out := do
  let streamName := fromUtf8Lossy (← resp.streamIdentifier)
  let wireId ← resp.correlationId
  let correlationId ← wireId.tryInto parseUuid
  match ← resp.result with
  | .success currentRevisionOption positionOption =>
      let currentRevision := currentRevisionOption.bind fun
        | .current revision => some revision
        | .noStream => none
      some ⟨correlationId, .ok ⟨streamName, currentRevision, positionOption.join,
        resp.expectedStreamPosition⟩⟩
  | .error code message => some ⟨correlationId, .error (.grpc (Code.ofInt code) message)⟩

inductive PumpEnd where
  | unopened
  | failed
  | clean
  | unreceived
  | panicked
  deriving DecidableEq, Repr

inductive Pump where
  | opening
  | streaming
  | ended (how : PumpEnd)
  deriving DecidableEq, Repr

/-- One batch-append call. `generator` holds the requests not yet sent, until the request stream
is dropped; `client` tells whether the `BatchAppendClient` still exists. -/
structure Call where
  handleId : Uuid
  session : Session
  generator : Option (List Req)
  pump : Pump
  client : Bool
  reports : List CreateChannel

def Call.start (handleId : Uuid) : Call := ⟨handleId, .start, some [], .opening, true, []⟩

inductive CallLabel where
  | append (msg : In)
  | cancel (ticket : Ticket)
  | dropClient
  | process
  | generate
  | dropRequests
  | opened (outcome : Except Status Unit)
  | respond (resp : BatchAppendResp)
  | fail (status : Status)
  | finish
  | hangUp

def cancelled (history : List Entry) : List Ticket :=
  history.filterMap fun entry =>
    match entry.cause with
    | .cancelled ticket => some ticket
    | _ => none

def Session.Settled (session : Session) : Prop :=
  ∀ ticket ∈ accepted session.history,
    ticket ∈ resolved session.history ∨ ticket ∈ cancelled session.history

instance (session : Session) : Decidable session.Settled :=
  inferInstanceAs (Decidable (∀ ticket ∈ accepted session.history,
    ticket ∈ resolved session.history ∨ ticket ∈ cancelled session.history))

def forwardedBy (effects : List Effect) : List Req :=
  effects.filterMap fun
    | .forwarded req => some req
    | _ => none

namespace Call

/-- A message is sent to the session whether or not its actor still takes any. -/
def tell (call : Call) (msg : BatchMsg) (pump : Pump) : Option Call :=
  (call.session.send msg).map fun session => { call with session := session, pump := pump }

def process (call : Call) : Option Call :=
  match call.session.reg, call.session.mailbox with
  | some reg, msg :: _ =>
      let forwarded := forwardedBy (handle reg msg call.generator.isSome).effects
      (call.session.receive call.generator.isSome).map fun session => { call with
        session := session
        generator := call.generator.map (· ++ forwarded) }
  | _, _ => none

def step (parseUuid : String → Option Uuid) (call : Call) : CallLabel → Option Call
  | .append msg => if call.client then call.tell (.request msg) call.pump else none
  | .cancel ticket => (machine.step call.session (.cancel ticket)).map fun session =>
      { call with session := session }
  -- `append_to_stream` borrows the client.
  | .dropClient => if call.client ∧ call.session.Settled then some { call with client := false }
      else none
  | .process => call.process
  | .generate =>
      match call.generator with
      | some (_ :: waiting) => some { call with generator := some waiting }
      | _ => none
  | .dropRequests => some { call with generator := none }
  | .opened outcome =>
      if call.pump = .opening then
        match outcome with
        | .error status => call.tell (.error (Error.fromGrpc status)) (.ended .unopened)
        | .ok () => some { call with pump := .streaming }
      else none
  | .respond resp =>
      if call.pump = .streaming then
        match resp.out parseUuid with
        | none => some { call with pump := .ended .panicked }
        | some out =>
            call.tell (.response out)
              (if call.session.reg.isSome then .streaming else .ended .unreceived)
      else none
  | .fail status =>
      if call.pump = .streaming then
        let error := Error.fromGrpc status
        ({ call with reports := call.reports ++ handleError call.handleId error }).tell
          (.error error) (.ended .failed)
      else none
  | .finish => if call.pump = .streaming then some { call with pump := .ended .clean } else none
  | .hangUp =>
      match call.client, call.pump with
      | false, .ended _ => call.session.hangUp.map fun session => { call with session := session }
      | _, _ => none

end Call

def callMachine (parseUuid : String → Option Uuid) : Machine Call CallLabel where
  step := Call.step parseUuid

variable {parseUuid : String → Option Uuid}

theorem tell_cases {call next : Call} {msg : BatchMsg} {pump : Pump}
    (told : call.tell msg pump = some next) :
    ∃ session, call.session.send msg = some session ∧
      next = { call with session := session, pump := pump } := by
  obtain ⟨session, sent, same⟩ := Option.map_eq_some_iff.mp told
  exact ⟨session, sent, same.symm⟩

theorem process_cases {call next : Call} (processed : call.process = some next) :
    ∃ session generator, call.session.receive call.generator.isSome = some session ∧
      next = { call with session := session, generator := generator } := by
  unfold Call.process at processed
  split at processed
  · obtain ⟨session, received, same⟩ := Option.map_eq_some_iff.mp processed
    exact ⟨session, _, received, same.symm⟩
  · cases processed

inductive CallStep (call : Call) : CallLabel → Session → Pump → Prop where
  | quiet (label : CallLabel) (pump : Pump)
      (stays : pump = call.pump ∨ pump = .streaming ∨ pump = .ended .panicked) :
      CallStep call label call.session pump
  | append (msg : In) (session : Session)
      (stepped : machine.step call.session (.send (.request msg)) = some session) :
      CallStep call (.append msg) session call.pump
  | cancel (ticket : Ticket) (session : Session)
      (stepped : machine.step call.session (.cancel ticket) = some session) :
      CallStep call (.cancel ticket) session call.pump
  | process (session : Session)
      (stepped : machine.step call.session (.receive call.generator.isSome) = some session) :
      CallStep call .process session call.pump
  | unopened (status : Status) (session : Session)
      (stepped : machine.step call.session (.send (.error (.fromGrpc status))) = some session) :
      CallStep call (.opened (.error status)) session (.ended .unopened)
  | respond (resp : BatchAppendResp) (out : Out) (session : Session)
      (streams : call.pump = .streaming)
      (stepped : machine.step call.session (.send (.response out)) = some session) :
      CallStep call (.respond resp) session
        (if call.session.reg.isSome then .streaming else .ended .unreceived)
  | fail (status : Status) (session : Session)
      (stepped : machine.step call.session (.send (.error (.fromGrpc status))) = some session) :
      CallStep call (.fail status) session (.ended .failed)
  | finish (streams : call.pump = .streaming) :
      CallStep call .finish call.session (.ended .clean)
  | hangUp (session : Session) (stepped : machine.step call.session .hangUp = some session) :
      CallStep call .hangUp session call.pump

theorem call_step_cases {call next : Call} {label : CallLabel}
    (stepped : (callMachine parseUuid).step call label = some next) :
    CallStep call label next.session next.pump := by
  change call.step parseUuid label = some next at stepped
  cases label with
  | append msg =>
      simp only [Call.step] at stepped
      split at stepped
      · obtain ⟨session, sent, rfl⟩ := tell_cases stepped
        exact .append msg session sent
      · cases stepped
  | cancel ticket =>
      simp only [Call.step] at stepped
      obtain ⟨session, sent, rfl⟩ := Option.map_eq_some_iff.mp stepped
      exact .cancel ticket session sent
  | dropClient =>
      simp only [Call.step] at stepped
      split at stepped
      · cases stepped
        exact .quiet _ _ (Or.inl rfl)
      · cases stepped
  | process =>
      obtain ⟨session, generator, received, rfl⟩ := process_cases stepped
      exact .process session received
  | generate =>
      simp only [Call.step] at stepped
      split at stepped
      · cases stepped
        exact .quiet _ _ (Or.inl rfl)
      · cases stepped
  | dropRequests =>
      cases stepped
      exact .quiet _ _ (Or.inl rfl)
  | opened outcome =>
      simp only [Call.step] at stepped
      split at stepped
      · cases outcome with
        | error status =>
            obtain ⟨session, sent, rfl⟩ := tell_cases stepped
            exact .unopened status session sent
        | ok done =>
            cases stepped
            exact .quiet _ _ (Or.inr (Or.inl rfl))
      · cases stepped
  | respond resp =>
      simp only [Call.step] at stepped
      split at stepped
      · next streams =>
          split at stepped
          · cases stepped
            exact .quiet _ _ (Or.inr (Or.inr rfl))
          · next out _ =>
              obtain ⟨session, sent, rfl⟩ := tell_cases stepped
              exact .respond resp out session streams sent
      · cases stepped
  | fail status =>
      simp only [Call.step] at stepped
      split at stepped
      · obtain ⟨session, sent, rfl⟩ := tell_cases stepped
        exact .fail status session sent
      · cases stepped
  | finish =>
      simp only [Call.step] at stepped
      split at stepped
      · next streams =>
          cases stepped
          exact .finish streams
      · cases stepped
  | hangUp =>
      simp only [Call.step] at stepped
      split at stepped
      · obtain ⟨session, hung, rfl⟩ := Option.map_eq_some_iff.mp stepped
        exact .hangUp session hung
      · cases stepped

theorem call_step_session {call next : Call} {label : CallLabel}
    (stepped : (callMachine parseUuid).step call label = some next) :
    ∃ commands, machine.run call.session commands = some next.session := by
  have single : ∀ {command session}, machine.step call.session command = some session →
      ∃ commands, machine.run call.session commands = some session := by
    intro command session one
    exact ⟨[command], machine.run_cons_eq_some.mpr ⟨session, one, rfl⟩⟩
  have cases := call_step_cases stepped
  generalize next.session = session at cases
  generalize next.pump = pump at cases
  cases cases with
  | quiet label pump stays => exact ⟨[], rfl⟩
  | finish streams => exact ⟨[], rfl⟩
  | append msg session one => exact single one
  | cancel ticket session one => exact single one
  | process session one => exact single one
  | unopened status session one => exact single one
  | respond resp out session streams one => exact single one
  | fail status session one => exact single one
  | hangUp session one => exact single one

/-- The call refines its session: whatever it does is a run of the session actor. -/
theorem call_refines_session {handleId : Uuid} {labels : List CallLabel} {call : Call}
    (ran : (callMachine parseUuid).run (.start handleId) labels = some call) :
    ∃ commands, machine.run .start commands = some call.session := by
  have simulated := (callMachine parseUuid).simulate machine
    (fun call session => call.session = session) ?_ (rfl : (Call.start handleId).session = .start) ran
  · obtain ⟨commands, session, reached, same⟩ := simulated
    exact ⟨commands, same ▸ reached⟩
  · rintro call label next session rfl stepped
    obtain ⟨commands, reached⟩ := call_step_session stepped
    exact ⟨commands, next.session, reached, rfl⟩

/-- Whether the messages in a mailbox, with no request forwarded any more, leave nobody pending
but callers who gave up. -/
def settles (spared : List Ticket) : List BatchMsg → Registry → Bool
  | [], reg => reg.tickets.all (· ∈ spared)
  | msg :: rest, reg =>
      match (handle reg msg false).reg with
      | some next => settles spared rest next
      | none => true

/-- A clean end of the response stream finds the actor stopped or everybody about to be resolved,
and afterwards no request is forwarded any more. -/
def Notified (call : Call) : CallLabel → Prop
  | .finish => call.session.reg.all
      (settles (cancelled call.session.history) call.session.mailbox) = true
  | .process => call.pump = .ended .clean → call.generator = none ∨
      call.session.mailbox.head?.bind BatchMsg.ticket = none
  | _ => True

instance (call : Call) (label : CallLabel) : Decidable (Notified call label) := by
  cases label <;> simp only [Notified] <;> infer_instance

def Call.ResolvesAll (call : Call) : Prop :=
  call.pump = .ended .failed ∨ call.pump = .ended .clean ∨ call.pump = .ended .unopened →
    call.session.mailbox = [] → call.session.Settled

structure Watched (call : Call) : Prop where
  invariant : Invariant call.session
  told : call.pump = .ended .unopened ∨ call.pump = .ended .failed →
    call.session.reg = none ∨ ∃ error, .error error ∈ call.session.mailbox
  finished : call.pump = .ended .clean → ∀ reg, call.session.reg = some reg →
    settles (cancelled call.session.history) call.session.mailbox reg = true

theorem settles_mono {spared further : List Ticket} (more : ∀ ticket ∈ spared, ticket ∈ further)
    (mailbox : List BatchMsg) (reg : Registry) (settled : settles spared mailbox reg = true) :
    settles further mailbox reg = true := by
  induction mailbox generalizing reg with
  | nil =>
      simp only [settles, List.all_eq_true, decide_eq_true_eq] at settled ⊢
      intro ticket member
      exact more ticket (settled ticket member)
  | cons msg rest ih =>
      simp only [settles] at settled ⊢
      cases handled : (handle reg msg false).reg with
      | none => rfl
      | some next =>
          rw [handled] at settled
          exact ih next settled

theorem settles_request (spared : List Ticket) (mailbox : List BatchMsg) (reg : Registry) (msg : In)
    (settled : settles spared mailbox reg = true) :
    settles spared (mailbox ++ [.request msg]) reg = true := by
  induction mailbox generalizing reg with
  | nil => rfl
  | cons first rest ih =>
      rw [List.cons_append]
      simp only [settles] at settled ⊢
      cases handled : (handle reg first false).reg with
      | none => rfl
      | some next =>
          rw [handled] at settled
          exact ih next settled

theorem handle_unrequested {msg : BatchMsg} (other : msg.ticket = none) (reg : Registry)
    (forwardOpen : Bool) : handle reg msg forwardOpen = handle reg msg false := by
  cases msg with
  | request msg => cases other
  | response resp => rfl
  | error error => rfl

theorem cancelled_append (history : List Entry) (entry : Entry) (ticket : Ticket)
    (member : ticket ∈ cancelled history) : ticket ∈ cancelled (history ++ [entry]) := by
  rw [cancelled, List.filterMap_append]
  exact List.mem_append_left _ member

theorem after_none {session : Session} {cause : Cause} {rest : List BatchMsg} {handled : Handled}
    (stops : handled.reg = none) : (session.after cause rest handled).reg = none := by
  rw [after_reg, stops]

theorem watched_process {call : Call} {session : Session} (watched : Watched call)
    (notified : Notified call .process)
    (stepped : machine.step call.session (.receive call.generator.isSome) = some session)
    (next : Call) (same : next.session = session) (pump : next.pump = call.pump) :
    Watched next := by
  obtain ⟨reg, msg, rest, alive, taken, rfl⟩ := receive_cases stepped
  refine ⟨?_, ?_, ?_⟩
  · rw [same]
    exact step_invariant watched.invariant stepped
  · intro ended
    rw [pump] at ended
    rw [same]
    rcases watched.told ended with gone | ⟨error, member⟩
    · rw [alive] at gone
      cases gone
    · rw [taken] at member
      rcases List.mem_cons.mp member with rfl | further
      · exact Or.inl (after_none rfl)
      · unfold Session.after
        split
        · exact Or.inr ⟨error, further⟩
        · exact Or.inl rfl
  · intro clean current still
    rw [pump] at clean
    rw [same] at still ⊢
    have settled := watched.finished clean reg alive
    rw [taken, settles] at settled
    have closed : handle reg msg call.generator.isSome = handle reg msg false := by
      rcases notified clean with dropped | other
      · rw [dropped, Option.isSome_none]
      · rw [taken] at other
        exact handle_unrequested other reg _
    rw [after_reg, closed] at still
    rw [still] at settled
    simp only [Session.after, closed, still]
    exact settles_mono (fun ticket => cancelled_append _ _ ticket) rest current settled

theorem watched_send {call next : Call} {msg : BatchMsg} (watched : Watched call)
    (stepped : machine.step call.session (.send msg) = some next.session)
    (told : next.pump = .ended .unopened ∨ next.pump = .ended .failed →
      (∃ error, msg = .error error) ∨ next.pump = call.pump)
    (finished : next.pump = .ended .clean → next.pump = call.pump ∧ ∃ request, msg = .request request) :
    Watched next := by
  have invariant := step_invariant watched.invariant stepped
  obtain ⟨_, ⟨reg, alive, same⟩ | ⟨gone, same⟩⟩ := send_cases stepped
  · refine ⟨invariant, ?_, ?_⟩
    · intro ended
      rw [same]
      rcases told ended with ⟨error, rfl⟩ | unchanged
      · exact Or.inr ⟨error, List.mem_append_right _ (List.mem_singleton_self _)⟩
      · rw [unchanged] at ended
        rcases watched.told ended with gone | ⟨error, member⟩
        · exact Or.inl gone
        · exact Or.inr ⟨error, List.mem_append_left _ member⟩
    · intro clean current still
      obtain ⟨unchanged, request, rfl⟩ := finished clean
      rw [unchanged] at clean
      rw [same] at still ⊢
      exact settles_mono (fun ticket => cancelled_append _ _ ticket) _ _
        (settles_request _ _ _ request (watched.finished clean current still))
  · refine ⟨invariant, ?_, ?_⟩
    · intro _
      rw [same]
      exact Or.inl gone
    · intro _ current still
      rw [same, gone] at still
      cases still

theorem watched_step {call next : Call} {label : CallLabel} (watched : Watched call)
    (notified : Notified call label)
    (stepped : (callMachine parseUuid).step call label = some next) : Watched next := by
  have cases := call_step_cases stepped
  generalize same : next.session = session at cases
  generalize pumped : next.pump = pump at cases
  cases cases with
  | quiet label pump stays =>
      refine ⟨?_, ?_, ?_⟩
      · rw [same]
        exact watched.invariant
      · intro ended
        rw [pumped] at ended
        rw [same]
        rcases stays with rfl | rfl | rfl
        · exact watched.told ended
        · rcases ended with impossible | impossible <;> cases impossible
        · rcases ended with impossible | impossible <;> cases impossible
      · intro clean
        rw [pumped] at clean
        rw [same]
        rcases stays with rfl | rfl | rfl
        · exact watched.finished clean
        · cases clean
        · cases clean
  | append msg session one =>
      subst same
      apply watched_send watched one
      · intro _
        exact Or.inr pumped
      · intro _
        exact ⟨pumped, msg, rfl⟩
  | cancel ticket session one =>
      cases one
      have invariant := cancel_invariant watched.invariant ticket
      refine ⟨same ▸ invariant, ?_, ?_⟩
      · intro ended
        rw [pumped] at ended
        rw [same]
        exact watched.told ended
      · intro clean current still
        rw [pumped] at clean
        rw [same] at still ⊢
        exact settles_mono (fun ticket => cancelled_append _ _ ticket) _ _
          (watched.finished clean current still)
  | process session one => exact watched_process watched notified one next same pumped
  | unopened status session one =>
      subst same
      apply watched_send watched one
      · intro _
        exact Or.inl ⟨_, rfl⟩
      · intro clean
        rw [pumped] at clean
        cases clean
  | respond resp out session streams one =>
      subst same
      have ended : ∀ how, next.pump = .ended how → how = .unreceived := by
        intro how ended
        rw [pumped] at ended
        split at ended
        · cases ended
        · cases ended
          rfl
      apply watched_send watched one
      · rintro (unopened | failed)
        · cases ended _ unopened
        · cases ended _ failed
      · intro clean
        cases ended _ clean
  | fail status session one =>
      subst same
      apply watched_send watched one
      · intro _
        exact Or.inl ⟨_, rfl⟩
      · intro clean
        rw [pumped] at clean
        cases clean
  | finish streams =>
      refine ⟨same ▸ watched.invariant, ?_, ?_⟩
      · intro ended
        rw [pumped] at ended
        rcases ended with impossible | impossible <;> cases impossible
      · intro _ reg alive
        rw [same] at alive ⊢
        have settled : call.session.reg.all
            (settles (cancelled call.session.history) call.session.mailbox) = true := notified
        rw [alive] at settled
        exact settled
  | hangUp session one =>
      obtain ⟨reg, alive, empty, gone⟩ := hangUp_cases one
      have stopped : next.session.reg = none := by
        rw [same, gone]
        rfl
      refine ⟨same ▸ step_invariant watched.invariant one, fun _ => Or.inl stopped, ?_⟩
      intro _ current still
      rw [stopped] at still
      cases still

theorem watched_resolves {call : Call} (watched : Watched call) : call.ResolvesAll := by
  intro ended empty ticket member
  cases alive : call.session.reg with
  | none => exact Or.inl (stopped_resolves watched.invariant alive member)
  | some reg =>
      rcases (watched.invariant.ledger.mem_issued ticket).mp member with waits | done
      · rw [Session.waiting, empty, alive, Option.getD_some, List.filterMap_nil,
          List.nil_append] at waits
        have told : call.pump ≠ .ended .unopened ∧ call.pump ≠ .ended .failed := by
          constructor
          · intro unopened
            rcases watched.told (Or.inl unopened) with gone | ⟨error, queued⟩
            · rw [alive] at gone
              cases gone
            · rw [empty] at queued
              cases queued
          · intro failed
            rcases watched.told (Or.inr failed) with gone | ⟨error, queued⟩
            · rw [alive] at gone
              cases gone
            · rw [empty] at queued
              cases queued
        rcases ended with failed | clean | unopened
        · exact absurd failed told.2
        · have settled := watched.finished clean reg alive
          rw [empty, settles, List.all_eq_true] at settled
          exact Or.inr (of_decide_eq_true (settled ticket waits))
        · exact absurd unopened told.1
      · exact Or.inl done

/-- Whenever clean ends of the response stream find nobody pending, no caller is left hanging by
the end of the session, however it ends. -/
theorem no_caller_hangs_if_notified {handleId : Uuid} {labels : List CallLabel} {call : Call}
    (ran : (callMachine parseUuid).run (.start handleId) labels = some call)
    (notified : (callMachine parseUuid).Guarded Notified (.start handleId) labels) :
    call.ResolvesAll := by
  have start : Watched (.start handleId) := by
    refine ⟨start_invariant, ?_, ?_⟩
    · rintro (impossible | impossible) <;> cases impossible
    · intro impossible
      cases impossible
  have watched := (callMachine parseUuid).guarded_invariant Notified Watched ?_ start notified ran
  · exact watched_resolves watched
  · intro state label next holds guard stepped
    exact watched_step holds guard stepped

def cleanLabels : List CallLabel :=
  [.append ⟨⟨1, "orders", [], .any⟩, 0⟩, .opened (.ok ()), .process, .generate, .finish]

def respondedLabels : List CallLabel :=
  [.append ⟨⟨1, "orders", [], .any⟩, 0⟩, .opened (.ok ()), .process, .generate,
    .respond ⟨some ⟨some (.structured 0 1)⟩, some [111], some (.success none none), none⟩, .process,
    .finish]

theorem responded_caller_resolved :
    ∃ call, (callMachine fun _ => none).run (.start 7) respondedLabels = some call ∧
      resolved call.session.history = [0] ∧ call.ResolvesAll := by
  obtain ⟨call, ran, answered⟩ : ∃ call,
      (callMachine fun _ => none).run (.start 7) respondedLabels = some call ∧
      resolved call.session.history = [0] := ⟨_, rfl, rfl⟩
  exact ⟨call, ran, answered, no_caller_hangs_if_notified ran (by decide)⟩

theorem clean_end_leaves_caller :
    ∃ call, (callMachine fun _ => none).run (.start 7) cleanLabels = some call ∧
      ¬ call.ResolvesAll := by
  refine ⟨_, rfl, ?_⟩
  intro resolves
  have settled := resolves (Or.inr (Or.inl rfl)) rfl
  revert settled
  decide

end TrogonEventStore.Batch

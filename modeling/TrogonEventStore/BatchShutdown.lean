import TrogonEventStore.BatchSession

/-! A batch-append session from the drop of its client on: the session actor, the request
generator and the response pump together with a server that answers each request once and closes
its response stream when the request stream has ended. -/

namespace TrogonEventStore.Batch

/-- `requests` and `responses` are in flight; the request stream has ended once the generator is
gone, and `closed` tells whether the server has ended the response stream. -/
structure Composition where
  call : Call
  requests : List Uuid
  responses : List BatchAppendResp
  closed : Bool

def Composition.start (handleId : Uuid) : Composition := ⟨.start handleId, [], [], false⟩

inductive Action where
  | append (msg : In)
  | cancel (ticket : Ticket)
  | dropClient
  | process
  | hangUp
  | generate
  | endRequests
  | dropRequests
  | accept
  | answer (resp : BatchAppendResp)
  | close
  | respond
  | finish

def Action.Internal : Action → Prop
  | .append _ => False
  | .cancel _ => False
  | .dropClient => False
  | _ => True

namespace Composition

def lift (state : Composition) (call : Option Call) : Option Composition :=
  call.map fun call => { state with call := call }

def step (parseUuid : String → Option Uuid) (state : Composition) : Action → Option Composition
  | .append msg => state.lift (state.call.step parseUuid (.append msg))
  | .cancel ticket => state.lift (state.call.step parseUuid (.cancel ticket))
  | .dropClient => state.lift (state.call.step parseUuid .dropClient)
  | .process => state.lift (state.call.step parseUuid .process)
  | .hangUp => state.lift (state.call.step parseUuid .hangUp)
  | .generate =>
      match state.call.generator with
      | some (req :: _) => ({ state with requests := state.requests ++ [req.id] } : Composition).lift
          (state.call.step parseUuid .generate)
      | _ => none
  -- The actor owns the only sender of the channel the generator reads.
  | .endRequests =>
      match state.call.session.reg, state.call.generator with
      | none, some [] => state.lift (state.call.step parseUuid .dropRequests)
      | _, _ => none
  -- The transport drops the request stream with the call.
  | .dropRequests =>
      match state.call.pump, state.call.generator with
      | .ended _, some _ => state.lift (state.call.step parseUuid .dropRequests)
      | _, _ => none
  | .accept => state.lift (state.call.step parseUuid (.opened (.ok ())))
  | .answer resp =>
      match resp.out parseUuid with
      | some out =>
          if out.correlationId ∈ state.requests then
            some { state with
              requests := state.requests.erase out.correlationId
              responses := state.responses ++ [resp] }
          else none
      | none => none
  | .close =>
      if state.call.generator = none ∧ state.requests = [] ∧ state.closed = false then
        some { state with closed := true }
      else none
  | .respond =>
      match state.responses with
      | resp :: rest => ({ state with responses := rest } : Composition).lift
          (state.call.step parseUuid (.respond resp))
      | [] => none
  | .finish =>
      if state.closed = true ∧ state.responses = [] then
        state.lift (state.call.step parseUuid .finish)
      else none

def Alive (state : Composition) : Prop :=
  state.call.session.reg ≠ none ∨ state.call.generator ≠ none ∨
    ∀ how, state.call.pump ≠ .ended how

/-- The client is gone and nothing is in flight, but a task is alive and no component can move. -/
structure Stuck (parseUuid : String → Option Uuid) (state : Composition) : Prop where
  dropped : state.call.client = false
  quiet : state.requests = [] ∧ state.responses = []
  halted : ∀ action, action.Internal → state.step parseUuid action = none
  alive : state.Alive

/-- The actor waits for the pump, the generator for the actor, the server for the generator and
the pump for the server. -/
structure Waiting (state : Composition) : Prop where
  dropped : state.call.client = false
  actor : state.call.session.reg ≠ none
  mailbox : state.call.session.mailbox = []
  generator : state.call.generator = some []
  pump : state.call.pump = .streaming
  quiet : state.requests = [] ∧ state.responses = []

/-- A request stream has ended because the actor stopped or because the call is over, and the
server closes its stream after it only. -/
structure Sound (state : Composition) : Prop where
  ended : state.call.generator = none →
    state.call.session.reg = none ∨ ∃ how, state.call.pump = .ended how
  closed : state.closed = true → state.call.generator = none

end Composition

def shutdownMachine (parseUuid : String → Option Uuid) : Machine Composition Action where
  step := Composition.step parseUuid

variable {parseUuid : String → Option Uuid}

inductive Moves (state : Composition) : Action → Composition → Prop where
  | caller (action : Action) (session : Session) (client : Bool)
      (reg : session.reg = state.call.session.reg)
      (known : action = .dropClient ∧ client = false ∧ session = state.call.session ∧
          state.call.client = true ∧ state.call.session.Settled ∨
        (∃ msg, action = .append msg) ∧ client = true ∨
        (∃ ticket, action = .cancel ticket) ∧ client = state.call.client ∧
          session.mailbox = state.call.session.mailbox) :
      Moves state action
        { state with call := { state.call with session := session, client := client } }
  | process (reg : Registry) (msg : BatchMsg) (rest : List BatchMsg)
      (alive : state.call.session.reg = some reg)
      (queued : state.call.session.mailbox = msg :: rest) :
      Moves state .process { state with call := { state.call with
        session := state.call.session.after (.processed msg state.call.generator.isSome) rest
          (handle reg msg state.call.generator.isSome)
        generator := state.call.generator.map
          (· ++ forwardedBy (handle reg msg state.call.generator.isSome).effects) } }
  | hangUp (session : Session) (stopped : session.reg = none) :
      Moves state .hangUp { state with call := { state.call with session := session } }
  | generate (req : Req) (waiting : List Req) (queued : state.call.generator = some (req :: waiting)) :
      Moves state .generate { state with
        call := { state.call with generator := some waiting }
        requests := state.requests ++ [req.id] }
  | endRequests (stopped : state.call.session.reg = none) :
      Moves state .endRequests { state with call := { state.call with generator := none } }
  | dropRequests (how : PumpEnd) (ended : state.call.pump = .ended how) :
      Moves state .dropRequests { state with call := { state.call with generator := none } }
  | accept (opening : state.call.pump = .opening) :
      Moves state .accept { state with call := { state.call with pump := .streaming } }
  | answer (resp : BatchAppendResp) (requests : List Uuid) :
      Moves state (.answer resp) { state with
        requests := requests, responses := state.responses ++ [resp] }
  | close (ended : state.call.generator = none) (quiet : state.requests = [])
      (fresh : state.closed = false) :
      Moves state .close { state with closed := true }
  | respond (resp : BatchAppendResp) (rest : List BatchAppendResp) (session : Session) (pump : Pump)
      (streams : state.call.pump = .streaming) (reg : session.reg = state.call.session.reg)
      (told : session.mailbox ≠ [] ∨ session.reg = none ∨ ∃ how, pump = .ended how)
      (pumped : pump = .streaming ∨ ∃ how, pump = .ended how) :
      Moves state .respond { state with
        call := { state.call with session := session, pump := pump }, responses := rest }
  | finish (streams : state.call.pump = .streaming) :
      Moves state .finish { state with call := { state.call with pump := .ended .clean } }

theorem send_reg {session next : Session} {msg : BatchMsg} (sent : session.send msg = some next) :
    next.reg = session.reg ∧ (session.reg ≠ none → next.mailbox ≠ []) := by
  unfold Session.send at sent
  split at sent
  · cases sent
  · split at sent
    · next alive =>
        cases sent
        simp [alive]
    · next gone =>
        cases sent
        simp [gone]

theorem lift_cases {state next : Composition} {call : Option Call}
    (lifted : state.lift call = some next) :
    ∃ after, call = some after ∧ next = { state with call := after } := by
  obtain ⟨after, same, rfl⟩ := Option.map_eq_some_iff.mp lifted
  exact ⟨after, same, rfl⟩

theorem moves_of_step {state next : Composition} {action : Action}
    (stepped : (shutdownMachine parseUuid).step state action = some next) :
    Moves state action next := by
  change state.step parseUuid action = some next at stepped
  cases action with
  | append msg =>
      obtain ⟨call, moved, rfl⟩ := lift_cases stepped
      simp only [Call.step] at moved
      split at moved
      · next present =>
          obtain ⟨session, sent, rfl⟩ := tell_cases moved
          exact .caller _ session state.call.client (send_reg sent).1
            (Or.inr (Or.inl ⟨⟨msg, rfl⟩, present⟩))
      · cases moved
  | cancel ticket =>
      obtain ⟨call, moved, rfl⟩ := lift_cases stepped
      cases moved
      exact .caller _ _ state.call.client rfl (Or.inr (Or.inr ⟨⟨ticket, rfl⟩, rfl, rfl⟩))
  | dropClient =>
      obtain ⟨call, moved, rfl⟩ := lift_cases stepped
      simp only [Call.step] at moved
      split at moved
      · next given =>
          cases moved
          exact .caller _ state.call.session false rfl
            (Or.inl ⟨rfl, rfl, rfl, given.1, given.2⟩)
      · cases moved
  | process =>
      obtain ⟨call, moved, rfl⟩ := lift_cases stepped
      simp only [Call.step, Call.process] at moved
      split at moved
      · next reg msg rest alive queued =>
          simp only [Session.receive, alive, queued, Option.map_some, Option.some.injEq] at moved
          subst moved
          exact .process reg msg rest alive queued
      · cases moved
  | hangUp =>
      obtain ⟨call, moved, rfl⟩ := lift_cases stepped
      simp only [Call.step] at moved
      split at moved
      · obtain ⟨session, hung, rfl⟩ := Option.map_eq_some_iff.mp moved
        obtain ⟨reg, _, _, gone⟩ := hangUp_cases hung
        refine .hangUp session ?_
        rw [gone]
        rfl
      · cases moved
  | generate =>
      simp only [Composition.step] at stepped
      split at stepped
      · next req waiting queued =>
          obtain ⟨call, moved, rfl⟩ := lift_cases stepped
          simp only [Call.step, queued, Option.some.injEq] at moved
          subst moved
          exact .generate req waiting queued
      · cases stepped
  | endRequests =>
      simp only [Composition.step] at stepped
      split at stepped
      · next stopped _ =>
          obtain ⟨call, moved, rfl⟩ := lift_cases stepped
          cases moved
          exact .endRequests stopped
      · cases stepped
  | dropRequests =>
      simp only [Composition.step] at stepped
      split at stepped
      · next how _ ended _ =>
          obtain ⟨call, moved, rfl⟩ := lift_cases stepped
          cases moved
          exact .dropRequests how ended
      · cases stepped
  | accept =>
      obtain ⟨call, moved, rfl⟩ := lift_cases stepped
      simp only [Call.step] at moved
      split at moved
      · next opening =>
          cases moved
          exact .accept opening
      · cases moved
  | answer resp =>
      simp only [Composition.step] at stepped
      split at stepped
      · split at stepped
        · cases stepped
          exact .answer resp _
        · cases stepped
      · cases stepped
  | close =>
      simp only [Composition.step] at stepped
      split at stepped
      · next given =>
          cases stepped
          exact .close given.1 given.2.1 given.2.2
      · cases stepped
  | respond =>
      simp only [Composition.step] at stepped
      split at stepped
      · next resp rest _ =>
          obtain ⟨call, moved, rfl⟩ := lift_cases stepped
          simp only [Call.step] at moved
          split at moved
          · next streams =>
              split at moved
              · cases moved
                exact .respond resp rest _ _ streams rfl (Or.inr (Or.inr ⟨_, rfl⟩))
                  (Or.inr ⟨_, rfl⟩)
              · obtain ⟨session, sent, rfl⟩ := tell_cases moved
                have same := send_reg sent
                refine .respond resp rest session _ streams same.1 ?_ ?_
                · by_cases gone : state.call.session.reg = none
                  · exact Or.inr (Or.inl (same.1.trans gone))
                  · exact Or.inl (same.2 gone)
                · split
                  · exact Or.inl rfl
                  · exact Or.inr ⟨_, rfl⟩
          · cases moved
      · cases stepped
  | finish =>
      simp only [Composition.step] at stepped
      split at stepped
      · obtain ⟨call, moved, rfl⟩ := lift_cases stepped
        simp only [Call.step] at moved
        split at moved
        · next streams =>
            cases moved
            exact .finish streams
        · cases moved
      · cases stepped

theorem call_of_step {state next : Composition} {action : Action}
    (stepped : (shutdownMachine parseUuid).step state action = some next) :
    next.call = state.call ∨ ∃ label, (callMachine parseUuid).step state.call label = some next.call := by
  change state.step parseUuid action = some next at stepped
  have lifted : ∀ {label} {middle : Composition},
      middle.lift (state.call.step parseUuid label) = some next →
      next.call = state.call ∨
        ∃ label, (callMachine parseUuid).step state.call label = some next.call := by
    intro label middle moved
    obtain ⟨call, single, rfl⟩ := lift_cases moved
    exact Or.inr ⟨label, single⟩
  cases action with
  | append msg => exact lifted stepped
  | cancel ticket => exact lifted stepped
  | dropClient => exact lifted stepped
  | process => exact lifted stepped
  | hangUp => exact lifted stepped
  | generate =>
      simp only [Composition.step] at stepped
      split at stepped
      · exact lifted stepped
      · cases stepped
  | endRequests =>
      simp only [Composition.step] at stepped
      split at stepped
      · exact lifted stepped
      · cases stepped
  | dropRequests =>
      simp only [Composition.step] at stepped
      split at stepped
      · exact lifted stepped
      · cases stepped
  | accept => exact lifted stepped
  | answer resp =>
      simp only [Composition.step] at stepped
      split at stepped
      · split at stepped
        · cases stepped
          exact Or.inl rfl
        · cases stepped
      · cases stepped
  | close =>
      simp only [Composition.step] at stepped
      split at stepped
      · cases stepped
        exact Or.inl rfl
      · cases stepped
  | respond =>
      simp only [Composition.step] at stepped
      split at stepped
      · exact lifted stepped
      · cases stepped
  | finish =>
      simp only [Composition.step] at stepped
      split at stepped
      · exact lifted stepped
      · cases stepped

theorem composition_refines_call {handleId : Uuid} {actions : List Action} {state : Composition}
    (ran : (shutdownMachine parseUuid).run (.start handleId) actions = some state) :
    ∃ labels, (callMachine parseUuid).run (.start handleId) labels = some state.call := by
  have simulated := (shutdownMachine parseUuid).simulate (callMachine parseUuid)
    (fun state call => state.call = call) ?_ (rfl : (Composition.start handleId).call = .start handleId)
    ran
  · obtain ⟨labels, call, reached, same⟩ := simulated
    exact ⟨labels, same ▸ reached⟩
  · rintro state action next call rfl stepped
    rcases call_of_step stepped with same | ⟨label, single⟩
    · exact ⟨[], state.call, rfl, same⟩
    · exact ⟨[label], next.call, (Machine.run_cons_eq_some _).mpr ⟨next.call, single, rfl⟩, rfl⟩

namespace Composition

theorem sound_start (handleId : Uuid) : Sound (.start handleId) := by
  constructor
  · intro impossible
    cases impossible
  · intro impossible
    cases impossible

theorem sound_step {state next : Composition} {action : Action} (sound : state.Sound)
    (moves : Moves state action next) : next.Sound := by
  have ended := sound.ended
  have closed := sound.closed
  cases moves with
  | caller action session client reg known =>
      refine ⟨fun gone => ?_, closed⟩
      rcases ended gone with stopped | over_
      · exact Or.inl (reg.trans stopped)
      · exact Or.inr over_
  | process reg msg rest alive queued =>
      have kept : ∀ {added : List Req}, state.call.generator.map (· ++ added) = none →
          state.call.generator = none := fun gone => Option.map_eq_none_iff.mp gone
      refine ⟨fun gone => ?_, fun shut => ?_⟩
      · rcases ended (kept gone) with stopped | over_
        · rw [alive] at stopped
          cases stopped
        · exact Or.inr over_
      · exact Option.map_eq_none_iff.mpr (closed shut)
  | hangUp session stopped => exact ⟨fun _ => Or.inl stopped, closed⟩
  | generate req waiting queued =>
      refine ⟨fun gone => (by cases gone), fun shut => ?_⟩
      have gone := closed shut
      rw [queued] at gone
      cases gone
  | endRequests stopped => exact ⟨fun _ => Or.inl stopped, fun _ => rfl⟩
  | dropRequests how over_ => exact ⟨fun _ => Or.inr ⟨how, over_⟩, fun _ => rfl⟩
  | accept opening =>
      refine ⟨fun gone => ?_, closed⟩
      rcases ended gone with stopped | ⟨how, over_⟩
      · exact Or.inl stopped
      · rw [opening] at over_
        cases over_
  | answer resp requests => exact ⟨ended, closed⟩
  | close gone quiet fresh => exact ⟨ended, fun _ => gone⟩
  | respond resp rest session pump streams reg told pumped =>
      refine ⟨fun gone => ?_, closed⟩
      rcases ended gone with stopped | ⟨how, over_⟩
      · exact Or.inl (reg.trans stopped)
      · rw [streams] at over_
        cases over_
  | finish streams => exact ⟨fun _ => Or.inr ⟨.clean, rfl⟩, closed⟩

/-- The circular wait holds everything up. -/
theorem waiting_halted {state : Composition} (sound : state.Sound) (waiting : state.Waiting)
    {action : Action} (internal : action.Internal) : state.step parseUuid action = none := by
  obtain ⟨requests, responses⟩ := waiting.quiet
  have unclosed : state.closed = false := by
    rw [← Bool.not_eq_true]
    intro shut
    have gone := sound.closed shut
    rw [waiting.generator] at gone
    cases gone
  cases action with
  | append msg => cases internal
  | cancel ticket => cases internal
  | dropClient => cases internal
  | process => simp [step, lift, Call.step, Call.process, waiting.mailbox]
  | hangUp => simp [step, lift, Call.step, waiting.dropped, waiting.pump]
  | generate => simp [step, waiting.generator]
  | endRequests =>
      obtain ⟨reg, alive⟩ := Option.ne_none_iff_exists'.mp waiting.actor
      simp [step, alive]
  | dropRequests => simp [step, waiting.pump]
  | accept => simp [step, lift, Call.step, waiting.pump]
  | answer resp => cases out : resp.out parseUuid <;> simp [step, out, requests]
  | close => simp [step, waiting.generator]
  | respond => simp [step, responses]
  | finish => simp [step, unclosed]

theorem opened_of_stuck {state : Composition} (stuck : state.Stuck parseUuid) :
    state.call.pump ≠ .opening := by
  intro opening
  have accept := stuck.halted .accept trivial
  simp [step, lift, Call.step, opening] at accept

theorem generator_of_stuck {state : Composition} (stuck : state.Stuck parseUuid) :
    state.call.generator = none ∨ state.call.generator = some [] := by
  have generate := stuck.halted .generate trivial
  cases generator : state.call.generator with
  | none => exact Or.inl rfl
  | some waiting =>
      cases waiting with
      | nil => exact Or.inr rfl
      | cons req waiting => simp [step, lift, Call.step, generator] at generate

theorem actor_waits_of_stuck {state : Composition} (stuck : state.Stuck parseUuid)
    (alive : state.call.session.reg ≠ none) :
    state.call.session.mailbox = [] ∧ state.call.pump = .streaming := by
  obtain ⟨reg, actor⟩ := Option.ne_none_iff_exists'.mp alive
  have process := stuck.halted .process trivial
  have hangUp := stuck.halted .hangUp trivial
  have empty : state.call.session.mailbox = [] := by
    cases queued : state.call.session.mailbox with
    | nil => rfl
    | cons msg rest =>
        simp [step, lift, Call.step, Call.process, Session.receive, actor, queued] at process
  refine ⟨empty, ?_⟩
  cases pump : state.call.pump with
  | opening => exact absurd pump (opened_of_stuck stuck)
  | streaming => rfl
  | ended how =>
      simp [step, lift, Call.step, Session.hangUp, stuck.dropped, pump, actor, empty] at hangUp

theorem not_stuck_of_stopped {state : Composition} (stopped : state.call.session.reg = none) :
    ¬ state.Stuck parseUuid := by
  intro stuck
  obtain ⟨requests, responses⟩ := stuck.quiet
  have endRequests := stuck.halted .endRequests trivial
  have close := stuck.halted .close trivial
  have finish := stuck.halted .finish trivial
  have gone : state.call.generator = none := by
    rcases generator_of_stuck stuck with gone | waits
    · exact gone
    · simp [step, lift, Call.step, stopped, waits] at endRequests
  have shut : state.closed = true := by
    cases closed : state.closed with
    | true => rfl
    | false => simp [step, gone, requests, closed] at close
  rcases stuck.alive with alive | alive | alive
  · exact absurd stopped alive
  · exact absurd gone alive
  · cases pump : state.call.pump with
    | opening => exact absurd pump (opened_of_stuck stuck)
    | streaming => simp [step, lift, Call.step, shut, responses, pump] at finish
    | ended how => exact absurd pump (alive how)

/-- There is no other way to be stuck. -/
theorem stuck_iff_waiting {state : Composition} (sound : state.Sound) :
    state.Stuck parseUuid ↔ state.Waiting := by
  constructor
  · intro stuck
    have alive : state.call.session.reg ≠ none := fun stopped => not_stuck_of_stopped stopped stuck
    obtain ⟨empty, streams⟩ := actor_waits_of_stuck stuck alive
    have generator : state.call.generator = some [] := by
      rcases generator_of_stuck stuck with gone | waits
      · rcases sound.ended gone with stopped | ⟨how, over_⟩
        · exact absurd stopped alive
        · rw [streams] at over_
          cases over_
      · exact waits
    exact ⟨stuck.dropped, alive, empty, generator, streams, stuck.quiet⟩
  · intro waiting
    exact ⟨waiting.dropped, waiting.quiet, fun action internal => waiting_halted sound waiting internal,
      Or.inl waiting.actor⟩

structure Idle (state : Composition) : Prop where
  actor : state.call.session.reg ≠ none
  generator : state.call.generator = some []
  quiet : state.requests = [] ∧ state.responses = []

end Composition

def Absorbed (reg : Registry) : BatchMsg → Prop
  | .response out => reg.lookup out.correlationId = none ∨ ∃ result, out.result = .ok result
  | _ => False

/-- The steps that leave an idle session to itself: the drop of the client on an open stream, and
after it the opening of the stream or the last message, where the loop goes on. -/
def Strands (state : Composition) : Action → Prop
  | .dropClient => state.Idle ∧ state.call.pump = .streaming ∧ state.call.session.mailbox = [] ∧
      state.call.client = true ∧ state.call.session.Settled
  | .accept => state.Idle ∧ state.call.pump = .opening ∧ state.call.session.mailbox = [] ∧
      state.call.client = false
  | .process => state.Idle ∧ state.call.pump = .streaming ∧ state.call.client = false ∧
      ∃ reg msg, state.call.session.reg = some reg ∧ state.call.session.mailbox = [msg] ∧
        Absorbed reg msg
  | _ => False

theorem handle_absorbs {reg : Registry} {msg : BatchMsg} :
    ((handle reg msg true).reg ≠ none ∧ forwardedBy (handle reg msg true).effects = []) ↔
      Absorbed reg msg := by
  cases msg with
  | request msg => simp [handle, Absorbed, forwardedBy]
  | error error => simp [handle, Absorbed]
  | response out =>
      simp only [handle, Absorbed]
      cases found : reg.lookup out.correlationId with
      | none => simp [forwardedBy]
      | some ticket =>
          cases result : out.result with
          | error error => simp
          | ok written => simp [forwardedBy]

theorem after_mailbox {session : Session} {cause : Cause} {rest : List BatchMsg}
    {handled : Handled} (alive : handled.reg ≠ none) :
    (session.after cause rest handled).mailbox = rest := by
  obtain ⟨reg, same⟩ := Option.ne_none_iff_exists'.mp alive
  simp only [Session.after, same]

theorem waiting_process {state : Composition} {reg : Registry} {msg : BatchMsg}
    {rest : List BatchMsg} (alive : state.call.session.reg = some reg)
    (queued : state.call.session.mailbox = msg :: rest) :
    Composition.Waiting { state with call := { state.call with
        session := state.call.session.after (.processed msg state.call.generator.isSome) rest
          (handle reg msg state.call.generator.isSome)
        generator := state.call.generator.map
          (· ++ forwardedBy (handle reg msg state.call.generator.isSome).effects) } } ↔
      Strands state .process := by
  have actor : state.call.session.reg ≠ none := by
    rw [alive]
    exact Option.some_ne_none reg
  constructor
  · intro waiting
    have kept : (handle reg msg state.call.generator.isSome).reg ≠ none := by
      have stays := waiting.actor
      rwa [after_reg] at stays
    have last : rest = [] := (after_mailbox kept).symm.trans waiting.mailbox
    obtain ⟨before, generator, joined⟩ := Option.map_eq_some_iff.mp waiting.generator
    obtain ⟨rfl, nothing⟩ := List.append_eq_nil_iff.mp joined
    rw [generator, Option.isSome_some] at kept nothing
    refine ⟨⟨actor, generator, waiting.quiet⟩, waiting.pump, waiting.dropped, reg, msg, alive, ?_,
      handle_absorbs.mp ⟨kept, nothing⟩⟩
    rw [queued, last]
  · intro ⟨idle, pump, dropped, other, single, still, only, absorbed⟩
    obtain rfl : reg = other := Option.some.inj (alive.symm.trans still)
    obtain ⟨rfl, rfl⟩ : msg = single ∧ rest = [] := by
      rw [only] at queued
      cases queued
      exact ⟨rfl, rfl⟩
    obtain ⟨kept, nothing⟩ := handle_absorbs.mpr absorbed
    have forwards : state.call.generator.isSome = true := by
      rw [idle.generator]
      rfl
    rw [forwards]
    refine ⟨dropped, ?_, after_mailbox kept, ?_, pump, idle.quiet⟩
    · rw [after_reg]
      exact kept
    · rw [idle.generator, nothing]
      rfl

theorem waiting_iff_strands {state next : Composition} {action : Action}
    (free : ¬ state.Waiting) (moves : Moves state action next) :
    next.Waiting ↔ Strands state action := by
  cases moves with
  | caller action session client reg known =>
      rcases known with ⟨rfl, rfl, rfl, present, settled⟩ | ⟨⟨msg, rfl⟩, rfl⟩ |
        ⟨⟨ticket, rfl⟩, rfl, mailbox⟩
      · constructor
        · intro waiting
          exact ⟨⟨waiting.actor, waiting.generator, waiting.quiet⟩, waiting.pump, waiting.mailbox,
            present, settled⟩
        · intro ⟨idle, pump, mailbox, _, _⟩
          exact ⟨rfl, idle.actor, mailbox, idle.generator, pump, idle.quiet⟩
      · refine iff_of_false ?_ id
        intro waiting
        cases waiting.dropped
      · refine iff_of_false ?_ id
        intro waiting
        have actor : state.call.session.reg ≠ none := by
          rw [← reg]
          exact waiting.actor
        exact free ⟨waiting.dropped, actor, mailbox.symm.trans waiting.mailbox, waiting.generator,
          waiting.pump, waiting.quiet⟩
  | process reg msg rest alive queued => exact waiting_process alive queued
  | hangUp session stopped => exact iff_of_false (fun waiting => waiting.actor stopped) id
  | generate req waiting queued =>
      refine iff_of_false ?_ id
      intro stalled
      have quiet := stalled.quiet.1
      simp at quiet
  | endRequests stopped => exact iff_of_false (fun waiting => waiting.actor stopped) id
  | dropRequests how ended =>
      refine iff_of_false ?_ id
      intro waiting
      cases waiting.generator
  | accept opening =>
      constructor
      · intro waiting
        exact ⟨⟨waiting.actor, waiting.generator, waiting.quiet⟩, opening, waiting.mailbox,
          waiting.dropped⟩
      · intro ⟨idle, _, mailbox, dropped⟩
        exact ⟨dropped, idle.actor, mailbox, idle.generator, rfl, idle.quiet⟩
  | answer resp requests =>
      refine iff_of_false ?_ id
      intro waiting
      have quiet := waiting.quiet.2
      simp at quiet
  | close ended quiet fresh =>
      refine iff_of_false ?_ id
      intro waiting
      have generator := waiting.generator
      rw [ended] at generator
      cases generator
  | respond resp rest session pump streams reg told pumped =>
      refine iff_of_false ?_ id
      intro waiting
      rcases told with queued | stopped | ⟨how, ended⟩
      · exact queued waiting.mailbox
      · exact waiting.actor stopped
      · have streaming := waiting.pump
        rw [ended] at streaming
        cases streaming
  | finish streams =>
      refine iff_of_false ?_ id
      intro waiting
      cases waiting.pump

theorem start_unstuck (handleId : Uuid) : ¬ (Composition.start handleId).Stuck parseUuid := by
  intro stuck
  cases stuck.dropped

theorem strands_enabled {state : Composition} {action : Action} (strands : Strands state action) :
    (shutdownMachine parseUuid).step state action ≠ none := by
  change state.step parseUuid action ≠ none
  cases action with
  | dropClient =>
      obtain ⟨_, _, _, present, settled⟩ := strands
      simp [Composition.step, Composition.lift, Call.step, present, settled]
  | accept =>
      obtain ⟨_, opening, _, _⟩ := strands
      simp [Composition.step, Composition.lift, Call.step, opening]
  | process =>
      obtain ⟨_, _, _, reg, msg, alive, queued, _⟩ := strands
      simp [Composition.step, Composition.lift, Call.step, Call.process, Session.receive, alive,
        queued]
  | append msg => cases strands
  | cancel ticket => cases strands
  | hangUp => cases strands
  | generate => cases strands
  | endRequests => cases strands
  | dropRequests => cases strands
  | answer resp => cases strands
  | close => cases strands
  | respond => cases strands
  | finish => cases strands

/-- A run never gets stuck after the drop of its client iff no step of it strands the session. -/
theorem shuts_down_iff_never_stranded (handleId : Uuid) (actions : List Action) :
    (shutdownMachine parseUuid).Always (fun state => ¬ state.Stuck parseUuid) (.start handleId)
        actions ↔
      (shutdownMachine parseUuid).Guarded (fun state action => ¬ Strands state action)
        (.start handleId) actions := by
  apply (shutdownMachine parseUuid).always_iff_guarded _ Composition.Sound
  · intro state action next sound _ stepped
    exact Composition.sound_step sound (moves_of_step stepped)
  · intro state action next sound unstuck stepped
    have moves := moves_of_step stepped
    have free : ¬ state.Waiting := fun waiting =>
      unstuck ((Composition.stuck_iff_waiting sound).mpr waiting)
    have after : next.Stuck parseUuid ↔ next.Waiting :=
      Composition.stuck_iff_waiting (Composition.sound_step sound moves)
    exact not_congr (after.trans (waiting_iff_strands free moves))
  · intro state action disabled strands
    exact strands_enabled strands disabled
  · exact Composition.sound_start handleId
  · exact start_unstuck handleId

/-- A client that is dropped on an open stream without having sent anything. -/
theorem idle_drop_never_shuts_down :
    ∃ state, (shutdownMachine fun _ => none).run (.start 7) [.accept, .dropClient] = some state ∧
      state.Stuck fun _ => none := by
  refine ⟨⟨⟨7, .start, some [], .streaming, false, []⟩, [], [], false⟩, rfl, ?_⟩
  have sound : Composition.Sound ⟨⟨7, .start, some [], .streaming, false, []⟩, [], [], false⟩ := by
    constructor
    · intro impossible
      cases impossible
    · intro impossible
      cases impossible
  exact (Composition.stuck_iff_waiting sound).mpr
    ⟨rfl, Option.some_ne_none _, rfl, rfl, rfl, rfl, rfl⟩

end TrogonEventStore.Batch

import Mathlib.Data.List.Basic
import Mathlib.Logic.Function.Basic
import Mathlib.Logic.Relation

/-! Programs that ask a service, and what they keep while others ask it too.

A program is known by what it asks and by what it makes of each answer. A service is known by what
serving a request may do and by the answers that may have been sent by then: requests can be served
late or twice, and answers can be lost. -/

inductive Interaction (Call : Type) (Answer : Call → Type) (Failure Result : Type) where
  | done (result : Except Failure Result)
  | ask (call : Call) (next : Answer call → Interaction Call Answer Failure Result)

namespace Interaction

variable {World Call : Type} {Answer : Call → Type} {Failure Result Other : Type}

def bind (program : Interaction Call Answer Failure Result)
    (rest : Result → Interaction Call Answer Failure Other) :
    Interaction Call Answer Failure Other :=
  match program with
  | .done (.error failure) => .done (.error failure)
  | .done (.ok result) => rest result
  | .ask call next => .ask call fun answer => (next answer).bind rest

instance : Monad (Interaction Call Answer Failure) where
  pure result := .done (.ok result)
  bind := bind

def call (call : Call) : Interaction Call Answer Failure (Answer call) :=
  .ask call fun answer => .done (.ok answer)

def attempt (program : Interaction Call Answer Failure Result) :
    Interaction Call Answer Other (Except Failure Result) :=
  match program with
  | .done result => .done (.ok result)
  | .ask call next => .ask call fun answer => (next answer).attempt

/-- The program asks at most so often, whatever the answers are. -/
def Within : Nat → Interaction Call Answer Failure Result → Prop
  | _, .done _ => True
  | 0, .ask _ _ => False
  | bound + 1, .ask _ next => ∀ answer, Within bound (next answer)

def run (serve : World → (call : Call) → Answer call × World) (world : World) :
    Interaction Call Answer Failure Result → Except Failure Result × World
  | .done result => (result, world)
  | .ask call next => run serve (serve world call).2 (next (serve world call).1)

section Within

theorem within_done (bound : Nat) (result : Except Failure Result) :
    Within bound (.done result : Interaction Call Answer Failure Result) := by
  cases bound <;> trivial

theorem within_call (asked : Call) :
    Within 1 (call asked : Interaction Call Answer Failure (Answer asked)) := fun _ => trivial

theorem Within.mono {bound larger : Nat} {program : Interaction Call Answer Failure Result}
    (within : Within bound program) (le : bound ≤ larger) : Within larger program := by
  induction program generalizing bound larger with
  | done result => exact within_done larger result
  | ask asked next ih =>
      cases bound with
      | zero => cases within
      | succ bound =>
          obtain ⟨more, rfl⟩ := Nat.exists_eq_add_of_le' (Nat.le_trans (Nat.le_add_left 1 bound) le)
          intro answer
          exact ih answer (within answer) (Nat.le_of_succ_le_succ le)

theorem Within.bind {bound : Nat} {program : Interaction Call Answer Failure Result}
    {continued : Result → Interaction Call Answer Failure Other} (within : Within bound program)
    (rest : Nat) (continues : ∀ result, Within rest (continued result)) :
    Within (bound + rest) (program >>= continued) := by
  induction program generalizing bound with
  | done given =>
      cases given with
      | ok result => exact (continues result).mono (Nat.le_add_left rest bound)
      | error failure => exact within_done _ _
  | ask asked next ih =>
      cases bound with
      | zero => cases within
      | succ bound =>
          rw [Nat.succ_add]
          intro answer
          exact ih answer (within answer)

theorem Within.attempt {bound : Nat} {program : Interaction Call Answer Failure Result}
    (within : Within bound program) :
    Within bound (program.attempt : Interaction Call Answer Other (Except Failure Result)) := by
  induction program generalizing bound with
  | done result => exact within_done bound _
  | ask asked next ih =>
      cases bound with
      | zero => cases within
      | succ bound =>
          intro answer
          exact ih answer (within answer)

end Within

section Run

variable (serve : World → (call : Call) → Answer call × World) (world : World)

theorem Within.run_le (measure : World → Nat)
    (slow : ∀ world call, measure (serve world call).2 ≤ measure world + 1) {bound : Nat}
    {program : Interaction Call Answer Failure Result} (within : Within bound program) :
    measure (run serve world program).2 ≤ measure world + bound := by
  induction program generalizing bound world with
  | done result => exact Nat.le_add_right _ _
  | ask asked next ih =>
      cases bound with
      | zero => cases within
      | succ bound =>
          calc
            measure (run serve (serve world asked).2 (next (serve world asked).1)).2 ≤
                measure (serve world asked).2 + bound := ih _ _ (within _)
            _ ≤ measure world + 1 + bound := Nat.add_le_add_right (slow world asked) bound
            _ = measure world + (bound + 1) := by omega

end Run

end Interaction

/-- What serving a request may make of the world, and the answers it may have had by then. -/
structure Service (World Call : Type) (Answer : Call → Type) where
  effect : World → Call → World → Prop
  answers : World → (call : Call) → Answer call → Prop

/-- What the parties may rely on and must see to: `later` is what becomes of a world while they are
not looking, `allowed` what may be asked in it. -/
structure Contract {World Call : Type} {Answer : Call → Type} (service : Service World Call Answer)
    where
  lawful : World → Prop
  later : World → World → Prop
  allowed : World → Call → Prop
  later_refl : ∀ world, later world world
  later_trans : ∀ {world middle after}, later world middle → later middle after → later world after
  allowed_later : ∀ {world after call}, later world after → allowed world call → allowed after call
  served : ∀ {world after call}, lawful world → allowed world call →
    service.effect world call after → lawful after ∧ later world after

namespace Interaction

variable {World Call : Type} {Answer : Call → Type} {service : Service World Call Answer}
variable {Failure Caught Result Other : Type}

def Judged (returned : World → Result → Prop) (failed : World → Failure → Prop) (world : World) :
    Except Failure Result → Prop
  | .ok result => returned world result
  | .error failure => failed world failure

/-- Whatever becomes of the world between its steps, the program asks only what is allowed, and
what it returns or fails with is as it should be. -/
def Keeps (contract : Contract service) (returned : World → Result → Prop)
    (failed : World → Failure → Prop) : World → Interaction Call Answer Failure Result → Prop
  | world, .done result => Judged returned failed world result
  | world, .ask call next => contract.allowed world call ∧
      ∀ after answer, contract.lawful after → contract.later world after →
        service.answers after call answer → Keeps contract returned failed after (next answer)

variable {contract : Contract service} {world : World}
variable {returned : World → Result → Prop} {failed : World → Failure → Prop}

theorem keeps_call {asked : Call} {returned : World → Answer asked → Prop}
    (allowed : contract.allowed world asked)
    (answered : ∀ after answer, contract.lawful after → contract.later world after →
      service.answers after asked answer → returned after answer) :
    Keeps contract returned failed world
      (call asked : Interaction Call Answer Failure (Answer asked)) :=
  ⟨allowed, answered⟩

theorem Keeps.weaken {other : World → Result → Prop} {tolerated : World → Failure → Prop}
    {program : Interaction Call Answer Failure Result}
    (keeps : Keeps contract returned failed world program) (lawful : contract.lawful world)
    (results : ∀ after result, contract.lawful after → contract.later world after →
      returned after result → other after result)
    (failures : ∀ after failure, contract.lawful after → contract.later world after →
      failed after failure → tolerated after failure) :
    Keeps contract other tolerated world program := by
  induction program generalizing world with
  | done result =>
      cases result with
      | ok result => exact results world result lawful (contract.later_refl world) keeps
      | error failure => exact failures world failure lawful (contract.later_refl world) keeps
  | ask asked next ih =>
      refine ⟨keeps.1, ?_⟩
      intro after answer holds later answered
      apply ih answer (keeps.2 after answer holds later answered) holds
      · intro last result good reached
        exact results last result good (contract.later_trans later reached)
      · intro last failure good reached
        exact failures last failure good (contract.later_trans later reached)

theorem Keeps.bind {middle : World → Other → Prop}
    {program : Interaction Call Answer Failure Other}
    {rest : Other → Interaction Call Answer Failure Result}
    (keeps : Keeps contract middle failed world program) (lawful : contract.lawful world)
    (continued : ∀ after result, contract.lawful after → contract.later world after →
      middle after result → Keeps contract returned failed after (rest result)) :
    Keeps contract returned failed world (program >>= rest) := by
  induction program generalizing world with
  | done result =>
      cases result with
      | ok result => exact continued world result lawful (contract.later_refl world) keeps
      | error failure => exact keeps
  | ask asked next ih =>
      refine ⟨keeps.1, ?_⟩
      intro after answer holds later answered
      apply ih answer (keeps.2 after answer holds later answered) holds
      intro last result good reached
      exact continued last result good (contract.later_trans later reached)

theorem Keeps.attempt {tolerated : World → Caught → Prop}
    {program : Interaction Call Answer Failure Result}
    (keeps : Keeps contract returned failed world program) :
    Keeps contract (Judged returned failed) tolerated world program.attempt := by
  induction program generalizing world with
  | done result => exact keeps
  | ask asked next ih =>
      refine ⟨keeps.1, ?_⟩
      intro after answer holds later answered
      exact ih answer (keeps.2 after answer holds later answered)

theorem Keeps.later {program : Interaction Call Answer Failure Result} {after : World}
    (results : ∀ world after result, contract.later world after → returned world result →
      returned after result)
    (failures : ∀ world after failure, contract.later world after → failed world failure →
      failed after failure)
    (keeps : Keeps contract returned failed world program) (later : contract.later world after) :
    Keeps contract returned failed after program := by
  cases program with
  | done result =>
      cases result with
      | ok result => exact results world after result later keeps
      | error failure => exact failures world after failure later keeps
  | ask asked next =>
      refine ⟨contract.allowed_later later keeps.1, ?_⟩
      intro last answer holds reached answered
      exact keeps.2 last answer holds (contract.later_trans later reached) answered

theorem Keeps.run {serve : World → (call : Call) → Answer call × World}
    (serves : ∀ world call, service.effect world call (serve world call).2 ∧
      service.answers (serve world call).2 call (serve world call).1)
    {program : Interaction Call Answer Failure Result}
    (keeps : Keeps contract returned failed world program) (lawful : contract.lawful world) :
    contract.later world (program.run serve world).2 ∧
      Judged returned failed (program.run serve world).2 (program.run serve world).1 := by
  induction program generalizing world with
  | done result => exact ⟨contract.later_refl world, keeps⟩
  | ask asked next ih =>
      obtain ⟨effect, answered⟩ := serves world asked
      obtain ⟨good, later⟩ := contract.served lawful keeps.1 effect
      obtain ⟨rest, judged⟩ := ih _ (keeps.2 _ _ good later answered) good
      exact ⟨contract.later_trans later rest, judged⟩

end Interaction

/-- Jobs that parties run against a service; which of them may be taken on is up to the callers. -/
structure Deployment {World Call : Type} {Answer : Call → Type} (service : Service World Call Answer)
    (Failure Job : Type) (Result : Job → Type) where
  offered : Job → Prop
  program : (job : Job) → Interaction Call Answer Failure (Result job)

namespace Deployment

variable {World Call : Type} {Answer : Call → Type} {service : Service World Call Answer}
variable {Failure Job Party : Type} {Result : Job → Type}

structure Task (Call : Type) (Answer : Call → Type) (Failure Job : Type) (Result : Job → Type) where
  job : Job
  rest : Interaction Call Answer Failure (Result job)

structure State (World Call : Type) (Answer : Call → Type) (Failure Job Party : Type)
    (Result : Job → Type) where
  world : World
  sent : List Call
  task : Party → Option (Task Call Answer Failure Job Result)

def State.initial (world : World) : State World Call Answer Failure Job Party Result :=
  ⟨world, [], fun _ => none⟩

structure Promises (World Failure Job : Type) (Result : Job → Type) where
  returned : (job : Job) → World → Result job → Prop
  failed : Job → World → Failure → Prop

/-- Every job that is offered keeps its promises in every lawful world, and they stay true. -/
structure Honours (deployment : Deployment service Failure Job Result)
    (contract : Contract service) (promises : Promises World Failure Job Result) : Prop where
  keeps : ∀ {job world}, deployment.offered job → contract.lawful world →
    (deployment.program job).Keeps contract (promises.returned job) (promises.failed job) world
  returned_later : ∀ job world after result, contract.later world after →
    promises.returned job world result → promises.returned job after result
  failed_later : ∀ job world after failure, contract.later world after →
    promises.failed job world failure → promises.failed job after failure

/-- The world is lawful, what was sent may be served, and every party keeps the promises of its
job. -/
structure State.Sound (contract : Contract service) (promises : Promises World Failure Job Result)
    (state : State World Call Answer Failure Job Party Result) : Prop where
  lawful : contract.lawful state.world
  sent : ∀ call ∈ state.sent, contract.allowed state.world call
  kept : ∀ party task, state.task party = some task →
    task.rest.Keeps contract (promises.returned task.job) (promises.failed task.job) state.world

variable {contract : Contract service} {promises : Promises World Failure Job Result}

theorem State.Sound.initial {world : World} (lawful : contract.lawful world) :
    (State.initial world : State World Call Answer Failure Job Party Result).Sound contract
      promises where
  lawful := lawful
  sent := by
    intro call none
    cases none
  kept := by
    intro party task none
    cases none

def State.Ended (state : State World Call Answer Failure Job Party Result) (party : Party)
    (job : Job) (result : Except Failure (Result job)) : Prop :=
  state.task party = some ⟨job, .done result⟩

theorem State.Sound.judged {state : State World Call Answer Failure Job Party Result}
    (sound : state.Sound contract promises) {party : Party} {job : Job}
    {result : Except Failure (Result job)} (ended : state.Ended party job result) :
    Interaction.Judged (promises.returned job) (promises.failed job) state.world result :=
  sound.kept party ⟨job, .done result⟩ ended

variable (deployment : Deployment service Failure Job Result) [DecidableEq Party]

/-- A party takes on a job, or another one in its place; it sends what it asks, once or more often;
the service serves what was sent, however long ago; a party goes on with an answer; it crashes. -/
inductive Step : State World Call Answer Failure Job Party Result →
    State World Call Answer Failure Job Party Result → Prop where
  | start {state} (party : Party) {job : Job} (offered : deployment.offered job) :
      Step state { state with
        task := Function.update state.task party (some ⟨job, deployment.program job⟩) }
  | send {state} {party : Party} {job : Job} {call : Call} {next}
      (asks : state.task party = some ⟨job, .ask call next⟩) :
      Step state { state with sent := call :: state.sent }
  | serve {state} {call : Call} {after : World} (sent : call ∈ state.sent)
      (effect : service.effect state.world call after) : Step state { state with world := after }
  | receive {state} {party : Party} {job : Job} {call : Call} {next} {answer : Answer call}
      (asks : state.task party = some ⟨job, .ask call next⟩)
      (answered : service.answers state.world call answer) :
      Step state { state with task := Function.update state.task party (some ⟨job, next answer⟩) }
  | crash {state} (party : Party) :
      Step state { state with task := Function.update state.task party none }

def Reachable (world : World) : State World Call Answer Failure Job Party Result → Prop :=
  Relation.ReflTransGen deployment.Step (State.initial world)

/-- A run in which a party gets so many answers, and neither crashes nor takes on another job. -/
inductive Goes (party : Party) : Nat → State World Call Answer Failure Job Party Result →
    State World Call Answer Failure Job Party Result → Prop where
  | refl {state} : Goes party 0 state state
  | other {count first state next} (goes : Goes party count first state)
      (step : deployment.Step state next) (same : next.task party = state.task party) :
      Goes party count first next
  | answered {count first state} {job : Job} {call : Call} {next} {answer : Answer call}
      (goes : Goes party count first state) (asks : state.task party = some ⟨job, .ask call next⟩)
      (answered : service.answers state.world call answer) :
      Goes party (count + 1) first { state with
        task := Function.update state.task party (some ⟨job, next answer⟩) }

variable {deployment} {state next : State World Call Answer Failure Job Party Result}

theorem State.Sound.update (sound : state.Sound contract promises) (party : Party)
    (task : Option (Task Call Answer Failure Job Result))
    (keeps : ∀ given, task = some given → given.rest.Keeps contract (promises.returned given.job)
      (promises.failed given.job) state.world) :
    ({ state with task := Function.update state.task party task } :
      State World Call Answer Failure Job Party Result).Sound contract promises where
  lawful := sound.lawful
  sent := sound.sent
  kept := by
    intro other found running
    by_cases same : other = party
    · subst same
      exact keeps found ((Function.update_self other task state.task).symm.trans running)
    · exact sound.kept other found ((Function.update_of_ne same task state.task).symm.trans running)

/-- The step lemma: whatever happens next, everything stays as it should be. -/
theorem State.Sound.step (honours : deployment.Honours contract promises)
    (sound : state.Sound contract promises) (step : deployment.Step state next) :
    next.Sound contract promises := by
  cases step with
  | start party offered =>
      apply sound.update party
      intro given same
      cases same
      exact honours.keeps offered sound.lawful
  | send asks =>
      refine ⟨sound.lawful, ?_, sound.kept⟩
      intro call member
      rcases List.mem_cons.mp member with rfl | earlier
      · exact (sound.kept _ _ asks).1
      · exact sound.sent call earlier
  | serve sent effect =>
      obtain ⟨lawful, later⟩ := contract.served sound.lawful (sound.sent _ sent) effect
      refine ⟨lawful, ?_, ?_⟩
      · intro call member
        exact contract.allowed_later later (sound.sent call member)
      · intro party task running
        exact (sound.kept party task running).later (honours.returned_later task.job)
          (honours.failed_later task.job) later
  | receive asks answered =>
      apply sound.update
      intro given same
      cases same
      exact (sound.kept _ _ asks).2 _ _ sound.lawful (contract.later_refl _) answered
  | crash party =>
      apply sound.update party
      intro given same
      cases same

theorem State.Sound.moves (sound : state.Sound contract promises)
    (step : deployment.Step state next) : contract.later state.world next.world := by
  cases step with
  | serve sent effect => exact (contract.served sound.lawful (sound.sent _ sent) effect).2
  | start party offered => exact contract.later_refl _
  | send asks => exact contract.later_refl _
  | receive asks answered => exact contract.later_refl _
  | crash party => exact contract.later_refl _

/-- The run lemma: it goes on as it should, from any moment of a run. -/
theorem State.Sound.steps (honours : deployment.Honours contract promises)
    (sound : state.Sound contract promises)
    (steps : Relation.ReflTransGen deployment.Step state next) :
    next.Sound contract promises ∧ contract.later state.world next.world := by
  induction steps with
  | refl => exact ⟨sound, contract.later_refl _⟩
  | tail _ step ih =>
      obtain ⟨before, later⟩ := ih
      exact ⟨before.step honours step, contract.later_trans later (before.moves step)⟩

theorem Goes.trans {party : Party} {count more : Nat} {last}
    (goes : deployment.Goes party count state next) (further : deployment.Goes party more next last) :
    deployment.Goes party (count + more) state last := by
  induction further with
  | refl => exact goes
  | other _ step same ih => exact (ih goes).other step same
  | answered _ asks answered ih => exact (ih goes).answered asks answered

theorem Goes.steps {party : Party} {count : Nat} (goes : deployment.Goes party count state next) :
    Relation.ReflTransGen deployment.Step state next := by
  induction goes with
  | refl => exact .refl
  | other _ step _ ih => exact ih.tail step
  | answered _ asks answered ih => exact ih.tail (.receive asks answered)

theorem Goes.within {party : Party} {count bound : Nat} (goes : deployment.Goes party count state next)
    {job : Job} {program : Interaction Call Answer Failure (Result job)}
    (running : state.task party = some ⟨job, program⟩) (within : program.Within bound) :
    ∃ left rest, bound = count + left ∧ next.task party = some ⟨job, rest⟩ ∧ rest.Within left := by
  induction goes with
  | refl => exact ⟨bound, program, (Nat.zero_add bound).symm, running, within⟩
  | other goes step same ih =>
      obtain ⟨left, rest, total, task, bounded⟩ := ih running
      exact ⟨left, rest, total, same.trans task, bounded⟩
  | answered goes asks answered ih =>
      obtain ⟨left, rest, total, task, bounded⟩ := ih running
      cases asks.symm.trans task
      cases left with
      | zero => cases bounded
      | succ left =>
          refine ⟨left, _, by omega, Function.update_self _ _ _, bounded _⟩

theorem Goes.ended {party : Party} {count bound : Nat} (goes : deployment.Goes party count state next)
    {job : Job} {program : Interaction Call Answer Failure (Result job)}
    (running : state.task party = some ⟨job, program⟩) (within : program.Within bound) :
    count ≤ bound ∧ (count = bound → ∃ result, next.Ended party job result) := by
  obtain ⟨left, rest, rfl, task, bounded⟩ := goes.within running within
  refine ⟨Nat.le_add_right count left, ?_⟩
  intro all
  obtain rfl : left = 0 := by omega
  cases rest with
  | done result => exact ⟨result, task⟩
  | ask call next => cases bounded

section Alone

variable {serve : World → (call : Call) → Answer call × World}
variable (serves : ∀ world call, service.effect world call (serve world call).2 ∧
  service.answers (serve world call).2 call (serve world call).1)

include serves

theorem exchanged {party : Party} {job : Job} {call : Call} {rest}
    (asks : state.task party = some ⟨job, .ask call rest⟩) :
    ∃ last, deployment.Goes party 1 state last ∧ last.world = (serve state.world call).2 ∧
      last.task party = some ⟨job, rest (serve state.world call).1⟩ := by
  obtain ⟨effect, answered⟩ := serves state.world call
  have sent : deployment.Step state { state with sent := call :: state.sent } := .send asks
  have served : deployment.Step { state with sent := call :: state.sent }
      ⟨(serve state.world call).2, call :: state.sent, state.task⟩ :=
    .serve List.mem_cons_self effect
  have goes : deployment.Goes party 0 state
      ⟨(serve state.world call).2, call :: state.sent, state.task⟩ :=
    (Goes.refl.other sent rfl).other served rfl
  exact ⟨_, goes.answered asks answered, rfl, Function.update_self _ _ _⟩

/-- A party that is left alone with the service comes to the end of its job by itself. -/
theorem alone {party : Party} {job : Job} {program : Interaction Call Answer Failure (Result job)}
    (running : state.task party = some ⟨job, program⟩) :
    ∃ count last, deployment.Goes party count state last ∧
      last.world = (program.run serve state.world).2 ∧
      last.Ended party job (program.run serve state.world).1 := by
  induction program generalizing state with
  | done result => exact ⟨0, state, .refl, rfl, running⟩
  | ask call rest ih =>
      obtain ⟨middle, exchange, world, task⟩ := exchanged serves running
      obtain ⟨count, last, goes, final, ended⟩ := ih _ task
      rw [world] at final ended
      exact ⟨1 + count, last, exchange.trans goes, final, ended⟩

end Alone

theorem Reachable.sound (honours : deployment.Honours contract promises) {world : World}
    (lawful : contract.lawful world) (reachable : deployment.Reachable world state) :
    state.Sound contract promises :=
  (State.Sound.steps honours (State.Sound.initial lawful) reachable).1

end Deployment

/-- One service does what another may do, seen through a view of its worlds; the worlds it comes to
are lawful. -/
structure Service.Refines {Inner World Call : Type} {Answer : Call → Type}
    (inner : Service Inner Call Answer) (service : Service World Call Answer)
    (view : Inner → World) (lawful : Inner → Prop) : Prop where
  kept : ∀ {world call after}, lawful world → inner.effect world call after → lawful after
  effect : ∀ {world call after}, lawful world → inner.effect world call after →
    service.effect (view world) call (view after)
  answers : ∀ {world call answer}, lawful world → inner.answers world call answer →
    service.answers (view world) call answer

namespace Deployment

variable {Inner World Call : Type} {Answer : Call → Type} {service : Service World Call Answer}
variable {Failure Job Party : Type} {Result : Job → Type}

def against (deployment : Deployment service Failure Job Result) (inner : Service Inner Call Answer) :
    Deployment inner Failure Job Result where
  offered := deployment.offered
  program := deployment.program

def State.seen (view : Inner → World) (state : State Inner Call Answer Failure Job Party Result) :
    State World Call Answer Failure Job Party Result :=
  ⟨view state.world, state.sent, state.task⟩

variable {deployment : Deployment service Failure Job Result} [DecidableEq Party]
variable {inner : Service Inner Call Answer} {view : Inner → World} {lawful : Inner → Prop}
variable {state next : State Inner Call Answer Failure Job Party Result}

theorem refines_step (refines : inner.Refines service view lawful) (good : lawful state.world)
    (step : (deployment.against inner).Step state next) :
    lawful next.world ∧ deployment.Step (state.seen view) (next.seen view) := by
  cases step with
  | start party offered => exact ⟨good, .start party offered⟩
  | send asks => exact ⟨good, .send asks⟩
  | serve sent effect =>
      exact ⟨refines.kept good effect, .serve sent (refines.effect good effect)⟩
  | receive asks answered => exact ⟨good, .receive asks (refines.answers good answered)⟩
  | crash party => exact ⟨good, .crash party⟩

/-- The run lemma: each run is one against the service itself. -/
theorem refines_steps (refines : inner.Refines service view lawful) (good : lawful state.world)
    (steps : Relation.ReflTransGen (deployment.against inner).Step state next) :
    lawful next.world ∧
      Relation.ReflTransGen deployment.Step (state.seen view) (next.seen view) := by
  induction steps with
  | refl => exact ⟨good, .refl⟩
  | tail _ step ih =>
      obtain ⟨kept, taken⟩ := refines_step refines ih.1 step
      exact ⟨kept, ih.2.tail taken⟩

end Deployment

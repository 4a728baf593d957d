import TrogonEventStore.ReservationDelivery
import TrogonEventStore.ReservationMemory

/-! Workers that share a store: what they are started for, and what holds of every run of them. -/

namespace TrogonEventStore.Reservation

open Interaction

inductive Job where
  | createInventory (stream : String) (inventory : InventoryCreated) (eventId : Uuid)
  | claim (stream : String) (operation : InventoryOperation)
  | prepare (stream : String) (operation : InventoryOperation)
  | deliver (stream : String) (operation : InventoryOperation)
  | readInventory (stream : String)
  | readOperation (id : OperationId)

namespace Job

def Result : Job → Type
  | .createInventory _ _ _ => WriteResult
  | .claim _ _ => OperationState
  | .prepare _ _ => OperationState
  | .deliver _ _ => OperationOutcome
  | .readInventory _ => InventoryView
  | .readOperation _ => Option OperationState

def program (formats : Formats) : (job : Job) → Program job.Result
  | .createInventory stream inventory eventId =>
      appendInitialInventory formats stream inventory eventId
  | .claim stream operation => claimOperation formats stream operation
  | .prepare stream operation => prepareOperation formats stream operation
  | .deliver stream operation => deliverWithRetries formats stream operation
  | .readInventory stream => TrogonEventStore.Reservation.readInventory formats stream
  | .readOperation id => TrogonEventStore.Reservation.readOperation formats id

variable {texts : UuidTexts}

/-- Any worker may be started for what the callers bring, again and again, and to look. -/
def Offered (workload : Workload texts) : Job → Prop
  | .createInventory stream inventory eventId => workload.creation stream inventory eventId
  | .claim stream operation => workload.operation stream operation
  | .prepare stream operation => workload.operation stream operation
  | .deliver stream operation => workload.operation stream operation
  | .readInventory stream => IsInventory texts stream
  | .readOperation _ => True

end Job

variable (formats : Formats) (workload : Workload formats.texts)

def workers (prompt : Prop) : Deployment (store prompt) Failure Job Job.Result where
  offered := Job.Offered workload
  program := Job.program formats

namespace Job

def Returned (streams : Streams) : (job : Job) → job.Result → Prop
  | .createInventory stream _ eventId, write =>
      Created formats workload streams stream eventId write
  | .claim stream operation, state => Claimed formats streams stream operation state
  | .prepare stream operation, state => Claimed formats streams stream operation state ∧
      1 ≤ OperationState.revision state
  | .deliver stream operation, outcome => Settled formats streams stream operation outcome
  | .readInventory stream, view => Seen formats streams stream view ∧
      ∃ created, Balanced formats streams stream created view
  | .readOperation id, found => ∀ state, found = some state → Reached formats streams id state

def Failed (prompt : Prop) (streams : Streams) : Job → Failure → Prop
  | .createInventory stream _ eventId => Refused prompt streams stream eventId
  | .claim stream operation | .prepare stream operation | .deliver stream operation =>
      Tolerated formats prompt (fun after => Reused formats after stream operation) streams
  | .readInventory stream =>
      Tolerated formats (prompt ∧ ∃ operation, workload.operation stream operation)
        (fun _ _ => False) streams
  | .readOperation _ => Tolerated formats prompt (fun _ _ => False) streams

end Job

def promises (prompt : Prop) : Deployment.Promises Streams Failure Job Job.Result where
  returned job streams := Job.Returned formats workload streams job
  failed job streams := Job.Failed formats workload prompt streams job

variable {formats workload}

theorem Job.Returned.later {streams after : Streams} (grows : streams.Later after) {job : Job}
    {result : job.Result} (returned : Job.Returned formats workload streams job result) :
    Job.Returned formats workload after job result := by
  cases job with
  | createInventory stream inventory eventId => exact Created.later grows returned
  | claim stream operation => exact Claimed.later grows returned
  | prepare stream operation => exact ⟨returned.1.later grows, returned.2⟩
  | deliver stream operation => exact Settled.later grows returned
  | readInventory stream =>
      obtain ⟨seen, created, balanced⟩ := returned
      exact ⟨seen.later grows, created, balanced.later grows⟩
  | readOperation id =>
      intro state found
      exact (returned state found).later grows

theorem Job.Failed.later {prompt : Prop} {streams after : Streams} (grows : streams.Later after)
    {job : Job} {failure : Failure}
    (failed : Job.Failed formats workload prompt streams job failure) :
    Job.Failed formats workload prompt after job failure := by
  cases job with
  | createInventory stream inventory eventId => exact Refused.later grows failed
  | claim stream operation =>
      exact Tolerated.later (fun after => Reused formats after stream operation) grows
        (fun _ => Reused.later grows) failed
  | prepare stream operation =>
      exact Tolerated.later (fun after => Reused formats after stream operation) grows
        (fun _ => Reused.later grows) failed
  | deliver stream operation =>
      exact Tolerated.later (fun after => Reused formats after stream operation) grows
        (fun _ => Reused.later grows) failed
  | readInventory stream =>
      exact Tolerated.later (fun _ _ => False) grows (fun _ impossible => impossible) failed
  | readOperation id =>
      exact Tolerated.later (fun _ _ => False) grows (fun _ impossible => impossible) failed

/-- Every job keeps its promises whatever the other workers do. -/
theorem workers_honour (prompt : Prop) :
    (workers formats workload prompt).Honours (contract formats workload prompt)
      (promises formats workload prompt) where
  keeps := by
    intro job streams offered holds
    cases job with
    | createInventory stream inventory eventId =>
        exact appendInitialInventory_keeps holds offered
    | claim stream operation => exact claimOperation_keeps holds offered
    | prepare stream operation => exact prepareOperation_keeps holds offered
    | deliver stream operation => exact deliverWithRetries_keeps holds offered
    | readInventory stream =>
        apply readInventory_keeps holds offered
        rintro ⟨relied, operation, brought⟩
        exact ⟨relied, holds.2 relied stream operation brought⟩
    | readOperation id =>
        apply (readOperation_keeps holds).weaken holds
        · intro after found _ _ learned
          exact learned.1
        · intro after failure _ _ failed
          exact failed
  returned_later job streams after result grows returned := Job.Returned.later grows returned
  failed_later job streams after failure grows failed := Job.Failed.later grows failed

section Runs

variable {Party : Type}

abbrev Running (Party : Type) :=
  Deployment.State Streams Call Call.Answer Failure Job Party Job.Result

def nothing : Streams := fun _ => []

theorem nothing_lawful : Lawful formats workload nothing where
  revision absent := by cases absent
  commit absent := by cases absent
  prepare absent := by cases absent
  room _ := Nat.two_pow_pos 64
  justified absent := by cases absent

variable [DecidableEq Party] {state next : Running Party}

/-- The state is one of a run that starts with nothing, against a store that may lose answers, serve
requests late or twice, and show old states of its streams. -/
def Run (formats : Formats) (workload : Workload formats.texts) (state : Running Party) : Prop :=
  (workers formats workload False).Reachable nothing state

def GoesOn (formats : Formats) (workload : Workload formats.texts) (state next : Running Party) :
    Prop :=
  Relation.ReflTransGen (workers formats workload False).Step state next

theorem Run.goes (run : Run formats workload state) (goes : GoesOn formats workload state next) :
    Run formats workload next := Relation.ReflTransGen.trans run goes

theorem Run.sound (run : Run formats workload state) :
    state.Sound (contract formats workload False) (promises formats workload False) :=
  Deployment.Reachable.sound (workers_honour False)
    ⟨nothing_lawful, fun impossible => impossible.elim⟩ run

theorem Run.lawful (run : Run formats workload state) : Lawful formats workload state.world :=
  run.sound.lawful.1

theorem Run.grows (run : Run formats workload state) (goes : GoesOn formats workload state next) :
    state.world.Later next.world :=
  (run.sound.steps (workers_honour False) goes).2

theorem Run.judged (run : Run formats workload state) {party : Party} {job : Job}
    {result : Except Failure job.Result} (ended : state.Ended party job result) :
    Judged (fun streams => Job.Returned formats workload streams job)
      (fun streams => Job.Failed formats workload False streams job) state.world result :=
  run.sound.judged ended

/-- Any worker can be started for what is offered, and brings it to its end when it is left alone
with a prompt store. -/
theorem alone_goes (prompt : Prop) (state : Running Party) (party : Party) {job : Job}
    (offered : Job.Offered workload job) :
    ∃ count started last, (workers formats workload prompt).Step state started ∧
      started.task party = some ⟨job, job.program formats⟩ ∧
      (workers formats workload prompt).Goes party count started last ∧
      last.world = ((job.program formats).run Memory.serve state.world).2 ∧
      last.Ended party job ((job.program formats).run Memory.serve state.world).1 := by
  let started : Running Party := { state with
    task := Function.update state.task party (some ⟨job, job.program formats⟩) }
  have start : (workers formats workload prompt).Step state started := .start party offered
  have running : started.task party = some ⟨job, job.program formats⟩ :=
    Function.update_self party _ state.task
  obtain ⟨count, last, goes, world, ended⟩ := Deployment.alone
    (fun streams call => Memory.serve_serves streams prompt call) running
  exact ⟨count, started, last, start, running, goes, world, ended⟩

theorem alone_ends (prompt : Prop) (state : Running Party) (party : Party) {job : Job}
    (offered : Job.Offered workload job) :
    ∃ last, Relation.ReflTransGen (workers formats workload prompt).Step state last ∧
      last.world = ((job.program formats).run Memory.serve state.world).2 ∧
      last.Ended party job ((job.program formats).run Memory.serve state.world).1 := by
  obtain ⟨count, started, last, start, _, goes, world, ended⟩ := alone_goes prompt state party offered
  exact ⟨last, .head start goes.steps, world, ended⟩

end Runs

end TrogonEventStore.Reservation

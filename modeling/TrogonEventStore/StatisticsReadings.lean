import TrogonEventStore.Statistics

namespace TrogonEventStore.Stats

open Record SplitOnce

variable {numbers : Numbers}

abbrev Written (numbers : Numbers) (Field : Type) [Fields Field] :=
  Option (Assignment fun field : Field => (Fields.kind field).Value numbers)

/-- An entry by itself: what it stores, or how its value fails to be read. A drive has a path where
its key has one to give, and a queue has a name. -/
inductive Reading (numbers : Numbers) where
  | drive (path : Option String) (written : Except Error (Written numbers DriveStats))
  | queue (name : String) (written : Except Error (Written numbers Queue))
  | unnamedQueue
  | metric (written : Except Error (Written numbers Metric))

def reading (numbers : Numbers) (entry : Entry) : Reading numbers :=
  match place entry.1 with
  | .drive remainder => .drive ((splitOnce '-' remainder).map fun split => String.ofList split.1)
      (match rsplitOnce '-' entry.1.toList with
        | none => .ok none
        | some split => stored numbers DriveStats (String.ofList split.2) entry)
  | .queue remainder =>
      match rsplitOnce '-' remainder with
      | none => .unnamedQueue
      | some split => .queue (String.ofList split.1)
          (stored numbers Queue (String.ofList split.2) entry)
  | .metric => .metric (stored numbers Metric entry.1 entry)

namespace Reading

def path : Reading numbers → Option (Option String)
  | .drive path _ => some path
  | _ => none

def driveWrite : Reading numbers → Written numbers DriveStats
  | .drive _ (.ok written) => written
  | _ => none

def ofQueue (name : String) : Reading numbers → Bool
  | .queue queueName _ => queueName = name
  | _ => false

def queueWrite (name : String) : Reading numbers → Written numbers Queue
  | .queue queueName (.ok written) => if queueName = name then written else none
  | _ => none

def metricWrite : Reading numbers → Written numbers Metric
  | .metric (.ok written) => written
  | _ => none

def error : Reading numbers → Option Error
  | .drive _ (.error error) => some error
  | .queue _ (.error error) => some error
  | .metric (.error error) => some error
  | _ => none

theorem driveWrite_elsewhere {reading : Reading numbers} (elsewhere : reading.path = none) :
    reading.driveWrite = none := by
  cases reading with
  | drive path written => cases elsewhere
  | queue name written => rfl
  | unnamedQueue => rfl
  | metric written => rfl

theorem queueWrite_elsewhere {reading : Reading numbers} {name : String}
    (elsewhere : reading.ofQueue name = false) : reading.queueWrite name = none := by
  cases reading with
  | drive path written => rfl
  | unnamedQueue => rfl
  | metric written => rfl
  | queue queueName written =>
      cases written with
      | error error => rfl
      | ok written => exact if_neg (of_decide_eq_false elsewhere)

/-- Nothing is wrong with the entry itself; that a drive has no path matters only for the first. -/
def Sound (reading : Reading numbers) : Prop :=
  reading.error = none ∧ reading ≠ .unnamedQueue

end Reading

namespace Statistics

/-- The drive after some entries: the first of them names it, and all of them fill it. -/
def driveAfter (drive : Option (Drive numbers)) (readings : List (Reading numbers)) :
    Option (Drive numbers) :=
  match drive with
  | some drive => some ⟨drive.path, fill Reading.driveWrite drive.stats readings⟩
  | none => (readings.findSome? Reading.path).map fun path =>
      ⟨path.getD "", fill Reading.driveWrite (Struct.default numbers) readings⟩

def queueAfter (name : String) (queue : Option (Struct numbers Queue))
    (readings : List (Reading numbers)) : Option (Struct numbers Queue) :=
  match queue with
  | some queue => some (fill (Reading.queueWrite name) queue readings)
  | none =>
      if readings.any (Reading.ofQueue name) then
        some (fill (Reading.queueWrite name) (Struct.default numbers) readings)
      else none

def after (stats : Statistics numbers) (readings : List (Reading numbers)) : Statistics numbers where
  metrics := fill Reading.metricWrite stats.metrics readings
  drive := driveAfter stats.drive readings
  queues name := queueAfter name (stats.queues name) readings

/-- Every entry is sound, and the drive has a path or is named by the first of its entries. -/
def Accepts (stats : Statistics numbers) (readings : List (Reading numbers)) : Prop :=
  (∀ reading ∈ readings, reading.Sound) ∧
    (stats.drive = none → readings.findSome? Reading.path ≠ some none)

def take (stats : Statistics numbers) : Reading numbers → Option (Except Error (Statistics numbers))
  | .drive path written =>
      (stats.drive.or (path.map fun path => ⟨path, Struct.default numbers⟩)).map fun drive =>
        written.map fun written =>
          { stats with drive := some ⟨drive.path, assign drive.stats written⟩ }
  | .queue name written =>
      let queue := (stats.queues name).getD (Struct.default numbers)
      some (written.map fun written =>
        { stats with queues := Function.update stats.queues name (some (assign queue written)) })
  | .unnamedQueue => none
  | .metric written => some (written.map fun written =>
      { stats with metrics := assign stats.metrics written })

theorem step_eq_take (stats : Statistics numbers) (entry : Entry) :
    stats.step entry = stats.take (reading numbers entry) := by
  unfold step reading
  cases guard : place entry.1 with
  | metric => rfl
  | queue remainder =>
      dsimp only
      rw [queueEntry]
      cases rsplitOnce '-' remainder with
      | none => rfl
      | some split => rfl
  | drive remainder =>
      have hyphen : '-' ∈ entry.1.toList := by
        unfold place at guard
        split at guard
        · next other found =>
            rw [← List.isPrefixOf?_eq_some_iff_append_eq.mp found]
            exact List.mem_append_left _ (by decide)
        · split at guard <;> cases guard
      dsimp only
      rw [driveEntry]
      cases split : rsplitOnce '-' entry.1.toList with
      | none => exact absurd hyphen (rsplitOnce_eq_none_iff.mp split)
      | some parts =>
          cases known : stats.drive with
          | some drive =>
              simp only [take, known]
              rfl
          | none =>
              simp only [take, known]
              cases splitOnce '-' remainder with
              | none => rfl
              | some parts => rfl

theorem driveAfter_nil (drive : Option (Drive numbers)) : driveAfter drive [] = drive := by
  cases drive with
  | none => rfl
  | some drive => rfl

theorem after_nil (stats : Statistics numbers) : stats.after [] = stats := by
  have queues : (fun name => queueAfter name (stats.queues name) []) = stats.queues := by
    funext name
    cases found : stats.queues name with
    | none => simp [queueAfter]
    | some queue => simp [queueAfter]
  simp only [after, fill_nil, queues, driveAfter_nil]

theorem drive_after_entries (order : List Entry) :
    ((Statistics.default numbers).after (order.map (reading numbers))).drive =
      (order.findSome? fun entry => (reading numbers entry).path).map fun path =>
        ⟨path.getD "", fill (fun entry => (reading numbers entry).driveWrite)
          (Struct.default numbers) order⟩ := by
  have paths : (order.map (reading numbers)).findSome? Reading.path =
      order.findSome? fun entry => (reading numbers entry).path := List.findSome?_map
  rw [← fill_map, ← paths]
  rfl

theorem queues_after_entries (order : List Entry) (name : String) :
    ((Statistics.default numbers).after (order.map (reading numbers))).queues name =
      if order.any fun entry => (reading numbers entry).ofQueue name then
        some (fill (fun entry => (reading numbers entry).queueWrite name)
          (Struct.default numbers) order)
      else none := by
  have any : (order.map (reading numbers)).any (Reading.ofQueue name) =
      order.any fun entry => (reading numbers entry).ofQueue name := List.any_map
  rw [← fill_map, ← any]
  rfl

theorem metrics_after_entries (order : List Entry) :
    ((Statistics.default numbers).after (order.map (reading numbers))).metrics =
      fill (fun entry => (reading numbers entry).metricWrite) (Struct.default numbers) order := by
  rw [← fill_map]
  rfl

theorem take_isOk_iff (stats : Statistics numbers) (reading : Reading numbers) :
    (∃ next, stats.take reading = some (.ok next)) ↔
      reading.Sound ∧ (stats.drive = none → reading.path ≠ some none) := by
  cases reading with
  | unnamedQueue =>
      refine iff_of_false ?_ (fun both => both.1.2 rfl)
      intro ⟨next, taken⟩
      cases taken
  | queue name written =>
      cases written with
      | error error => simp [take, Except.map, Reading.Sound, Reading.error]
      | ok written => simp [take, Except.map, Reading.Sound, Reading.error, Reading.path]
  | metric written =>
      cases written with
      | error error => simp [take, Except.map, Reading.Sound, Reading.error]
      | ok written => simp [take, Except.map, Reading.Sound, Reading.error, Reading.path]
  | drive path written =>
      cases written with
      | error error => simp [take, Except.map, Reading.Sound, Reading.error]
      | ok written =>
          cases known : stats.drive with
          | some drive => simp [take, known, Except.map, Reading.Sound, Reading.error]
          | none =>
              cases path <;>
                simp [take, known, Except.map, Reading.Sound, Reading.error, Reading.path]

theorem accepts_cons (stats : Statistics numbers) (reading : Reading numbers)
    (readings : List (Reading numbers)) :
    stats.Accepts (reading :: readings) ↔
      (reading.Sound ∧ (stats.drive = none → reading.path ≠ some none)) ∧
        (∀ other ∈ readings, other.Sound) ∧
        (stats.drive = none → reading.path = none → readings.findSome? Reading.path ≠ some none) := by
  unfold Accepts
  rw [List.forall_mem_cons, List.findSome?_cons]
  cases reading.path with
  | none => simp [and_assoc]
  | some path =>
      simp only [reduceCtorEq, false_implies, implies_true, and_true]
      exact ⟨fun ⟨⟨sound, rest⟩, named⟩ => ⟨⟨sound, named⟩, rest⟩,
        fun ⟨⟨sound, named⟩, rest⟩ => ⟨⟨sound, rest⟩, named⟩⟩

theorem take_cases {stats next : Statistics numbers} {reading : Reading numbers}
    (taken : stats.take reading = some (.ok next)) :
    (∃ path written drive, reading = .drive path (.ok written) ∧
      stats.drive.or (path.map fun path => ⟨path, Struct.default numbers⟩) = some drive ∧
      next = { stats with drive := some ⟨drive.path, assign drive.stats written⟩ }) ∨
    (∃ name written queue, reading = .queue name (.ok written) ∧
      (stats.queues name).getD (Struct.default numbers) = queue ∧
      next = { stats with queues := Function.update stats.queues name (some (assign queue written)) }) ∨
    ∃ written, reading = .metric (.ok written) ∧
      next = { stats with metrics := assign stats.metrics written } := by
  cases reading with
  | unnamedQueue => cases taken
  | drive path written =>
      obtain ⟨drive, named, result⟩ := Option.map_eq_some_iff.mp taken
      cases written with
      | error error => cases result
      | ok written =>
          cases result
          exact Or.inl ⟨path, written, drive, rfl, named, rfl⟩
  | queue name written =>
      cases written with
      | error error => cases taken
      | ok written =>
          cases taken
          exact Or.inr (Or.inl ⟨name, written, _, rfl, rfl, rfl⟩)
  | metric written =>
      cases written with
      | error error => cases taken
      | ok written =>
          cases taken
          exact Or.inr (Or.inr ⟨written, rfl, rfl⟩)

theorem driveAfter_take {stats next : Statistics numbers} {reading : Reading numbers}
    (taken : stats.take reading = some (.ok next)) (readings : List (Reading numbers)) :
    driveAfter next.drive readings = driveAfter stats.drive (reading :: readings) := by
  rcases take_cases taken with ⟨path, written, drive, rfl, named, rfl⟩ |
    ⟨name, written, queue, rfl, _, rfl⟩ | ⟨written, rfl, rfl⟩
  · cases known : stats.drive with
    | some earlier =>
        rw [known, Option.some_or] at named
        cases named
        rfl
    | none =>
        rw [known, Option.none_or] at named
        obtain ⟨name, rfl, rfl⟩ := Option.map_eq_some_iff.mp named
        rfl
  · rfl
  · rfl

theorem queueAfter_elsewhere {reading : Reading numbers} {name : String}
    (elsewhere : reading.ofQueue name = false) (queue : Option (Struct numbers Queue))
    (readings : List (Reading numbers)) :
    queueAfter name queue readings = queueAfter name queue (reading :: readings) := by
  have silent := Reading.queueWrite_elsewhere elsewhere
  cases queue with
  | none => simp only [queueAfter, List.any_cons, elsewhere, Bool.false_or, fill_cons, silent]; rfl
  | some queue => simp only [queueAfter, fill_cons, silent]; rfl

theorem queueAfter_take {stats next : Statistics numbers} {reading : Reading numbers}
    (taken : stats.take reading = some (.ok next)) (readings : List (Reading numbers))
    (name : String) :
    queueAfter name (next.queues name) readings =
      queueAfter name (stats.queues name) (reading :: readings) := by
  rcases take_cases taken with ⟨path, written, drive, rfl, _, rfl⟩ |
    ⟨queueName, written, queue, rfl, rfl, rfl⟩ | ⟨written, rfl, rfl⟩
  · exact queueAfter_elsewhere rfl _ _
  · by_cases same : queueName = name
    · subst same
      simp only [Function.update_self, queueAfter, List.any_cons, Reading.ofQueue,
        decide_true, Bool.true_or, if_true, fill_cons, Reading.queueWrite]
      cases stats.queues queueName with
      | none => rfl
      | some queue => rfl
    · dsimp only
      rw [Function.update_of_ne (Ne.symm same)]
      apply queueAfter_elsewhere
      exact decide_eq_false same
  · exact queueAfter_elsewhere rfl _ _

theorem take_metrics {stats next : Statistics numbers} {reading : Reading numbers}
    (taken : stats.take reading = some (.ok next)) :
    next.metrics = assign stats.metrics reading.metricWrite := by
  rcases take_cases taken with ⟨path, written, drive, rfl, _, rfl⟩ |
    ⟨name, written, queue, rfl, _, rfl⟩ | ⟨written, rfl, rfl⟩
  · rfl
  · rfl
  · rfl

theorem after_take {stats next : Statistics numbers} {reading : Reading numbers}
    (taken : stats.take reading = some (.ok next)) (readings : List (Reading numbers)) :
    next.after readings = stats.after (reading :: readings) := by
  have queues := funext fun name => queueAfter_take taken readings name
  simp only [after, fill_cons, take_metrics taken, driveAfter_take taken, queues]

theorem accepts_take {stats next : Statistics numbers} {reading : Reading numbers}
    (taken : stats.take reading = some (.ok next)) (readings : List (Reading numbers)) :
    next.Accepts readings ↔ stats.Accepts (reading :: readings) := by
  have first := (take_isOk_iff stats reading).mp ⟨next, taken⟩
  have unnamed : next.drive = none ↔ stats.drive = none ∧ reading.path = none := by
    have drive := driveAfter_take taken []
    rw [driveAfter_nil] at drive
    rw [drive]
    cases stats.drive with
    | some drive => simp [driveAfter]
    | none => simp [driveAfter]
  rw [accepts_cons, Accepts, unnamed]
  constructor
  · intro ⟨sound, named⟩
    exact ⟨first, sound, fun noDrive noPath => named ⟨noDrive, noPath⟩⟩
  · intro ⟨_, sound, named⟩
    exact ⟨sound, fun both => named both.1 both.2⟩

/-- The loop comes through exactly when the entries are accepted, and then leaves the statistics
they say. -/
theorem run_ok_iff {stats final : Statistics numbers} {entries : List Entry} :
    stats.run entries = some (.ok final) ↔
      stats.Accepts (entries.map (reading numbers)) ∧
        final = stats.after (entries.map (reading numbers)) := by
  induction entries generalizing stats with
  | nil =>
      rw [List.map_nil, after_nil, run, Option.some.injEq, Except.ok.injEq]
      constructor
      · rintro rfl
        exact ⟨⟨fun _ impossible => absurd impossible List.not_mem_nil, fun _ => nofun⟩, rfl⟩
      · intro ⟨_, same⟩
        exact same.symm
  | cons entry entries ih =>
      rw [run, step_eq_take, List.map_cons]
      have refused : (∀ next, stats.take (reading numbers entry) ≠ some (.ok next)) →
          ¬ stats.Accepts (reading numbers entry :: entries.map (reading numbers)) := by
        intro never accepted
        obtain ⟨next, taken⟩ := (take_isOk_iff _ _).mpr ((accepts_cons _ _ _).mp accepted).1
        exact never next taken
      cases taken : stats.take (reading numbers entry) with
      | none =>
          refine iff_of_false nofun fun both => refused ?_ both.1
          rw [taken]
          exact fun _ => nofun
      | some result =>
          cases result with
          | error error =>
              refine iff_of_false nofun fun both => refused ?_ both.1
              rw [taken]
              exact fun _ => nofun
          | ok next =>
              dsimp only
              rw [ih, after_take taken, accepts_take taken]

theorem take_ne_none {reading : Reading numbers} (named : reading ≠ .unnamedQueue)
    (placed : reading.path ≠ some none) (stats : Statistics numbers) :
    stats.take reading ≠ none := by
  cases reading with
  | unnamedQueue => exact absurd rfl named
  | queue name written => exact nofun
  | metric written => exact nofun
  | drive path written =>
      cases path with
      | none => exact absurd rfl placed
      | some path =>
          rw [take, Option.map_some, ne_eq, Option.map_eq_none_iff]
          cases stats.drive with
          | none => exact nofun
          | some drive => exact nofun

theorem take_error {stats : Statistics numbers} {reading : Reading numbers} {error : Error}
    (failed : stats.take reading = some (.error error)) : reading.error = some error := by
  cases reading with
  | unnamedQueue => cases failed
  | queue name written =>
      cases written with
      | ok written => cases failed
      | error other =>
          cases failed
          rfl
  | metric written =>
      cases written with
      | ok written => cases failed
      | error other =>
          cases failed
          rfl
  | drive path written =>
      obtain ⟨drive, _, result⟩ := Option.map_eq_some_iff.mp failed
      cases written with
      | ok written => cases result
      | error other =>
          cases result
          rfl

theorem run_ne_none {stats : Statistics numbers} {entries : List Entry}
    (named : ∀ entry ∈ entries, reading numbers entry ≠ .unnamedQueue)
    (placed : ∀ entry ∈ entries, (reading numbers entry).path ≠ some none) :
    stats.run entries ≠ none := by
  induction entries generalizing stats with
  | nil => exact nofun
  | cons entry entries ih =>
      rw [run, step_eq_take]
      cases taken : stats.take (reading numbers entry) with
      | none =>
          have never := take_ne_none (named entry List.mem_cons_self)
            (placed entry List.mem_cons_self) stats
          exact absurd taken never
      | some result =>
          cases result with
          | error error => exact nofun
          | ok next =>
              apply ih
              · exact fun other later => named other (List.mem_cons_of_mem _ later)
              · exact fun other later => placed other (List.mem_cons_of_mem _ later)

theorem run_error {stats : Statistics numbers} {entries : List Entry} {error : Error}
    (failed : stats.run entries = some (.error error)) :
    (entries.map (reading numbers)).findSome? Reading.error = some error := by
  induction entries generalizing stats with
  | nil => cases failed
  | cons entry entries ih =>
      rw [run, step_eq_take] at failed
      rw [List.map_cons, List.findSome?_cons]
      cases taken : stats.take (reading numbers entry) with
      | none =>
          rw [taken] at failed
          cases failed
      | some result =>
          rw [taken] at failed
          cases result with
          | error first =>
              cases failed
              rw [take_error taken]
          | ok next =>
              rw [((take_isOk_iff _ _).mp ⟨next, taken⟩).1.1]
              exact ih failed

end Statistics

end TrogonEventStore.Stats

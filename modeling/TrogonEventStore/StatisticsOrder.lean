import TrogonEventStore.StatisticsNames

namespace TrogonEventStore.Stats

open Record SplitOnce

variable {numbers : Numbers}

def driveName (key : String) : Option String :=
  match place key with
  | .drive remainder => (rsplitOnce '-' remainder).map fun split => String.ofList split.1
  | _ => none

def queueName (key : String) : Option String :=
  match place key with
  | .queue remainder => (rsplitOnce '-' remainder).map fun split => String.ofList split.1
  | _ => none

def parsed : Option (Except Error (Statistics numbers)) → Option (Statistics numbers)
  | some (.ok stats) => some stats
  | _ => none

/-- All orders of a map fail or give the same; and what is stored for a drive, or for a queue, is
what the entries of a single drive, or of this queue, come to by themselves. -/
structure RawStatistics.Steady (raw : RawStatistics) (numbers : Numbers) : Prop where
  agrees : ∀ first second, raw.Iterated first → raw.Iterated second →
    parsed (parseStatistics numbers first) = parsed (parseStatistics numbers second)
  drives : ∀ order, raw.Iterated order → ∀ stats drive,
    parseStatistics numbers order = some (.ok stats) → stats.drive = some drive →
      ∃ name alone, parseStatistics numbers
          (order.filter fun entry => driveName entry.1 = some name) = some (.ok alone) ∧
        alone.drive = some drive
  queues : ∀ order, raw.Iterated order → ∀ stats name queue,
    parseStatistics numbers order = some (.ok stats) → stats.queues name = some queue →
      ∃ alone, parseStatistics numbers
          (order.filter fun entry => queueName entry.1 = some name) = some (.ok alone) ∧
        alone.queues name = some queue

namespace RawStatistics

variable (raw : RawStatistics) (numbers : Numbers)

/-- Some value cannot be read or some queue has no name; or there are drives, and none has a path. -/
def Hopeless : Prop :=
  (∃ entry ∈ raw.entries, ¬ (reading numbers entry).Sound) ∨
    (∃ entry ∈ raw.entries, (reading numbers entry).path ≠ none) ∧
      ∀ entry ∈ raw.entries, ∀ path, (reading numbers entry).path = some path → path = none

def Driveless : Prop := ∀ entry ∈ raw.entries, (reading numbers entry).path = none

/-- The entries of a drive have this value for a field, or none of them has one and it is the
default. -/
def Own (name : String) (field : DriveStats)
    (value : (Fields.kind field).Value numbers) : Prop :=
  (∃ own ∈ raw.entries, driveName own.1 = some name ∧
      (reading numbers own).driveWrite = some ⟨field, value⟩) ∨
    value = (Fields.kind field).default numbers ∧
      ∀ own ∈ raw.entries, driveName own.1 = some name →
        ∀ other, (reading numbers own).driveWrite ≠ some ⟨field, other⟩

/-- Every entry of a drive gives the path and a value of one and the same drive. -/
structure Single (name path : String) : Prop where
  named : ∃ entry ∈ raw.entries, driveName entry.1 = some name
  paths : ∀ entry ∈ raw.entries, ∀ given, (reading numbers entry).path = some given →
    given = some path
  values : ∀ entry ∈ raw.entries, ∀ field value,
    (reading numbers entry).driveWrite = some ⟨field, value⟩ → raw.Own numbers name field value

/-- Nothing can be parsed, or there is no drive, or there might as well be a single one. -/
def Unmixed : Prop :=
  raw.Hopeless numbers ∨ raw.Driveless numbers ∨ ∃ name path, raw.Single numbers name path

end RawStatistics

section Keys

theorem drive_key {key name : String} (named : driveName key = some name) :
    ∃ prop : String, '-' ∉ prop.toList ∧ key = "sys-drive-" ++ name ++ "-" ++ prop := by
  unfold driveName at named
  split at named
  · next remainder placed =>
      obtain ⟨⟨front, back⟩, split, rfl⟩ := Option.map_eq_some_iff.mp named
      obtain ⟨whole, absent⟩ := rsplitOnce_some split
      refine ⟨String.ofList back, ?_, ?_⟩
      · rw [String.toList_ofList]
        exact absent
      · rw [drive_of_place placed, whole, ← String.toList_inj]
        simp
  · cases named

theorem queue_key {key name : String} (named : queueName key = some name) :
    ∃ prop : String, '-' ∉ prop.toList ∧ key = "es-queue-" ++ name ++ "-" ++ prop := by
  unfold queueName at named
  split at named
  · next remainder placed =>
      obtain ⟨⟨front, back⟩, split, rfl⟩ := Option.map_eq_some_iff.mp named
      obtain ⟨whole, absent⟩ := rsplitOnce_some split
      refine ⟨String.ofList back, ?_, ?_⟩
      · rw [String.toList_ofList]
        exact absent
      · rw [queue_of_place placed, whole, ← String.toList_inj]
        simp
  · cases named

theorem ofQueue_iff {entry : Entry} {name : String} :
    (reading numbers entry).ofQueue name = true ↔ queueName entry.1 = some name := by
  unfold reading queueName
  cases place entry.1 with
  | drive remainder => exact iff_of_false Bool.false_ne_true nofun
  | metric => exact iff_of_false Bool.false_ne_true nofun
  | queue remainder =>
      dsimp only
      cases rsplitOnce '-' remainder with
      | none => exact iff_of_false Bool.false_ne_true nofun
      | some split =>
          rw [Option.map_some, Option.some.injEq]
          exact decide_eq_true_iff

theorem stored_of_metric {entry : Entry} {written : Except Error (Written numbers Metric)}
    (metric : reading numbers entry = .metric written) :
    written = stored numbers Metric entry.1 entry := by
  unfold reading at metric
  split at metric
  · cases metric
  · split at metric <;> cases metric
  · cases metric
    rfl

theorem key_of_metric {entry : Entry} {field : Metric}
    {value : (Fields.kind field).Value numbers}
    (written : (reading numbers entry).metricWrite = some ⟨field, value⟩) :
    entry.1 = Fields.key field := by
  cases read : reading numbers entry with
  | drive path result => rw [read] at written; cases written
  | queue name result => rw [read] at written; cases written
  | unnamedQueue => rw [read] at written; cases written
  | metric result =>
      have storing := stored_of_metric read
      rw [read] at written
      cases result with
      | error error => cases written
      | ok value =>
          cases written
          exact (stored_field storing.symm).symm

theorem key_of_drive {entry : Entry} {name : String} (named : driveName entry.1 = some name)
    {field : DriveStats} {value : (Fields.kind field).Value numbers}
    (written : (reading numbers entry).driveWrite = some ⟨field, value⟩) :
    entry.1 = "sys-drive-" ++ name ++ "-" ++ Fields.key field := by
  obtain ⟨prop, single, key⟩ := drive_key named
  rw [reading_drive name single key] at written
  cases storing : stored numbers DriveStats prop entry with
  | error error =>
      rw [storing] at written
      cases written
  | ok result =>
      rw [storing] at written
      cases written
      rw [key, stored_field storing]

theorem key_of_queue {entry : Entry} {name : String} {field : Queue}
    {value : (Fields.kind field).Value numbers}
    (written : (reading numbers entry).queueWrite name = some ⟨field, value⟩) :
    entry.1 = "es-queue-" ++ name ++ "-" ++ Fields.key field := by
  have named : queueName entry.1 = some name := by
    rw [← @ofQueue_iff numbers, ← Bool.not_eq_false]
    intro elsewhere
    rw [Reading.queueWrite_elsewhere elsewhere] at written
    cases written
  obtain ⟨prop, single, key⟩ := queue_key named
  rw [reading_queue name single key] at written
  cases storing : stored numbers Queue prop entry with
  | error error =>
      rw [storing] at written
      cases written
  | ok result =>
      rw [storing, Reading.queueWrite, if_pos rfl] at written
      cases written
      rw [key, stored_field storing]

theorem agree_of_key {Field : Type} [Fields Field] {raw : RawStatistics} {order : List Entry}
    (iterated : raw.Iterated order) {writes : Entry → Written numbers Field} {key : Field → String}
    (keyed : ∀ entry field value, writes entry = some ⟨field, value⟩ → entry.1 = key field) :
    Agree writes order := by
  intro first firstListed second secondListed field value other firstWritten secondWritten
  have same : first = second := by
    apply RawStatistics.eq_of_key (iterated.mem_iff.mp firstListed) (iterated.mem_iff.mp secondListed)
    rw [keyed first field value firstWritten, keyed second field other secondWritten]
  rw [same, secondWritten] at firstWritten
  cases firstWritten
  rfl

end Keys

section Orders

variable {raw : RawStatistics}

theorem findSome?_perm {Value : Type} {read : Entry → Option Value} {first second : List Entry}
    (agree : ∀ entry ∈ first, ∀ other ∈ first, ∀ value otherValue, read entry = some value →
      read other = some otherValue → value = otherValue) (perm : first.Perm second) :
    first.findSome? read = second.findSome? read := by
  cases found : second.findSome? read with
  | none =>
      apply List.findSome?_eq_none_iff.mpr
      intro entry listed
      exact List.findSome?_eq_none_iff.mp found entry (perm.mem_iff.mp listed)
  | some value =>
      obtain ⟨other, present, given⟩ := List.exists_of_findSome?_eq_some found
      have listed := perm.mem_iff.mpr present
      apply findSome?_unique _ listed
      · rw [given]
        exact nofun
      · intro entry alsoListed otherValue alsoGiven
        exact agree entry alsoListed other listed otherValue value alsoGiven given

theorem statistics_ext {first second : Statistics numbers} (metrics : first.metrics = second.metrics)
    (drive : first.drive = second.drive) (queues : ∀ name, first.queues name = second.queues name) :
    first = second := by
  cases first
  cases second
  cases metrics
  cases drive
  cases funext queues
  rfl

structure RawStatistics.DrivesAgree (raw : RawStatistics) (numbers : Numbers) : Prop where
  paths : ∀ entry ∈ raw.entries, ∀ other ∈ raw.entries, ∀ path otherPath,
    (reading numbers entry).path = some path → (reading numbers other).path = some otherPath →
      path = otherPath
  values : Agree (fun entry => (reading numbers entry).driveWrite) raw.entries

theorem path_perm (agree : raw.DrivesAgree numbers) {first second : List Entry}
    (firstIterated : raw.Iterated first) (secondIterated : raw.Iterated second) :
    (first.findSome? fun entry => (reading numbers entry).path) =
      second.findSome? fun entry => (reading numbers entry).path := by
  apply findSome?_perm _ (firstIterated.trans secondIterated.symm)
  intro entry listed other alsoListed
  exact agree.paths entry (firstIterated.mem_iff.mp listed) other
    (firstIterated.mem_iff.mp alsoListed)

theorem after_perm (agree : raw.DrivesAgree numbers) {first second : List Entry}
    (firstIterated : raw.Iterated first) (secondIterated : raw.Iterated second) :
    (Statistics.default numbers).after (first.map (reading numbers)) =
      (Statistics.default numbers).after (second.map (reading numbers)) := by
  have perm : first.Perm second := firstIterated.trans secondIterated.symm
  apply statistics_ext
  case metrics =>
    rw [Statistics.metrics_after_entries, Statistics.metrics_after_entries]
    exact fill_perm (agree_of_key firstIterated fun _ _ _ written => key_of_metric written) perm
  case drive =>
    have values : Agree (fun entry => (reading numbers entry).driveWrite) first := by
      intro entry listed other alsoListed
      exact agree.values entry (firstIterated.mem_iff.mp listed) other
        (firstIterated.mem_iff.mp alsoListed)
    rw [Statistics.drive_after_entries, Statistics.drive_after_entries, fill_perm values perm,
      path_perm agree firstIterated secondIterated]
  case queues =>
    intro name
    have filled : fill (fun entry => (reading numbers entry).queueWrite name)
        (Struct.default numbers) first =
          fill (fun entry => (reading numbers entry).queueWrite name)
            (Struct.default numbers) second :=
      fill_perm (agree_of_key firstIterated fun _ _ _ written => key_of_queue written) perm
    rw [Statistics.queues_after_entries, Statistics.queues_after_entries, filled, perm.any_eq]

theorem accepts_perm (agree : raw.DrivesAgree numbers) {first second : List Entry}
    (firstIterated : raw.Iterated first) (secondIterated : raw.Iterated second) :
    (Statistics.default numbers).Accepts (first.map (reading numbers)) ↔
      (Statistics.default numbers).Accepts (second.map (reading numbers)) := by
  have perm : first.Perm second := firstIterated.trans secondIterated.symm
  have paths : (first.map (reading numbers)).findSome? Reading.path =
      (second.map (reading numbers)).findSome? Reading.path := by
    rw [List.findSome?_map, List.findSome?_map]
    exact path_perm agree firstIterated secondIterated
  rw [Statistics.Accepts, Statistics.Accepts, paths]
  simp only [(perm.map (reading numbers)).mem_iff]

theorem parsed_eq_some_iff {result : Option (Except Error (Statistics numbers))}
    {stats : Statistics numbers} : parsed result = some stats ↔ result = some (.ok stats) := by
  cases result with
  | none => exact iff_of_false nofun nofun
  | some outcome =>
      cases outcome with
      | error error => exact iff_of_false nofun nofun
      | ok final => simp [parsed]

theorem agrees_of_drives (agree : raw.DrivesAgree numbers) {first second : List Entry}
    (firstIterated : raw.Iterated first) (secondIterated : raw.Iterated second) :
    parsed (parseStatistics numbers first) = parsed (parseStatistics numbers second) := by
  apply Option.ext
  intro stats
  rw [parsed_eq_some_iff, parsed_eq_some_iff, parseStatistics, parseStatistics,
    Statistics.run_ok_iff, Statistics.run_ok_iff, after_perm agree firstIterated secondIterated,
    accepts_perm agree firstIterated secondIterated]

theorem own_unique {name : String} {field : DriveStats}
    {value other : (Fields.kind field).Value numbers} (own : raw.Own numbers name field value)
    (alsoOwn : raw.Own numbers name field other) : value = other := by
  rcases own with ⟨entry, present, named, written⟩ | ⟨default, silent⟩
  · rcases alsoOwn with ⟨second, alsoPresent, alsoNamed, alsoWritten⟩ | ⟨_, silent⟩
    · have same : entry = second := by
        apply RawStatistics.eq_of_key present alsoPresent
        rw [key_of_drive named written, key_of_drive alsoNamed alsoWritten]
      rw [same, alsoWritten] at written
      cases written
      rfl
    · exact absurd written (silent entry present named value)
  · rcases alsoOwn with ⟨second, alsoPresent, alsoNamed, alsoWritten⟩ | ⟨alsoDefault, _⟩
    · exact absurd alsoWritten (silent second alsoPresent alsoNamed other)
    · exact default.trans alsoDefault.symm

/-- Entries among which are all those of one drive, and that write nothing else than these, fill a
field with what this drive has by itself. -/
theorem fill_own {name : String} {entries : List Entry}
    (all : ∀ entry ∈ raw.entries, driveName entry.1 = some name → entry ∈ entries)
    (values : ∀ entry ∈ entries, ∀ field value,
      (reading numbers entry).driveWrite = some ⟨field, value⟩ → raw.Own numbers name field value)
    (field : DriveStats) :
    raw.Own numbers name field
      (fill (fun entry => (reading numbers entry).driveWrite) (Struct.default numbers) entries
        field) := by
  by_cases written : ∃ entry ∈ entries, ∃ value,
      (reading numbers entry).driveWrite = some ⟨field, value⟩
  · obtain ⟨entry, listed, value, same⟩ := written
    have own := values entry listed field value same
    rw [fill_written _ ⟨entry, listed, same⟩]
    · exact own
    · intro other alsoListed otherValue alsoWritten
      exact own_unique (values other alsoListed field otherValue alsoWritten) own
  · have silent : ∀ entry ∈ entries, ∀ value,
        (reading numbers entry).driveWrite ≠ some ⟨field, value⟩ := by
      intro entry listed value same
      exact written ⟨entry, listed, value, same⟩
    rw [fill_kept silent]
    refine Or.inr ⟨rfl, ?_⟩
    intro entry present named
    exact silent entry (all entry present named)

theorem hopeless_fails (hopeless : raw.Hopeless numbers) {order : List Entry}
    (iterated : raw.Iterated order) (stats : Statistics numbers) :
    parseStatistics numbers order ≠ some (.ok stats) := by
  intro ok
  obtain ⟨sound, named⟩ := (Statistics.run_ok_iff.mp ok).1
  rcases hopeless with ⟨entry, present, broken⟩ | ⟨⟨entry, present, drive⟩, unplaced⟩
  · have listed := iterated.mem_iff.mpr present
    exact broken (sound _ (List.mem_map_of_mem listed))
  · refine named rfl ?_
    rw [List.findSome?_map]
    refine findSome?_unique ?_ (iterated.mem_iff.mpr present) drive
    intro other alsoListed path given
    exact unplaced other (iterated.mem_iff.mp alsoListed) path given

theorem driveWrite_placed {entry : Entry} {written : Assignment _}
    (same : (reading numbers entry).driveWrite = some written) :
    (reading numbers entry).path ≠ none := by
  intro elsewhere
  rw [Reading.driveWrite_elsewhere elsewhere] at same
  cases same

theorem drives_agree (unmixed : raw.Driveless numbers ∨ ∃ name path, raw.Single numbers name path) :
    raw.DrivesAgree numbers := by
  rcases unmixed with driveless | ⟨name, path, single⟩
  · constructor
    case paths =>
      intro entry present other alsoPresent path otherPath given
      rw [driveless entry present] at given
      cases given
    case values =>
      intro entry present other alsoPresent field value otherValue written
      exact absurd (driveless entry present) (driveWrite_placed written)
  · constructor
    case paths =>
      intro entry present other alsoPresent path otherPath given alsoGiven
      rw [single.paths entry present path given, single.paths other alsoPresent otherPath alsoGiven]
    case values =>
      intro entry present other alsoPresent field value otherValue written alsoWritten
      exact own_unique (single.values entry present field value written)
        (single.values other alsoPresent field otherValue alsoWritten)

theorem sound_of_parsed {order : List Entry} {stats : Statistics numbers}
    (ok : parseStatistics numbers order = some (.ok stats)) :
    ∀ entry ∈ order, (reading numbers entry).Sound := fun _ listed =>
  (Statistics.run_ok_iff.mp ok).1.1 _ (List.mem_map_of_mem listed)

theorem queue_alone {order : List Entry} {stats : Statistics numbers}
    (ok : parseStatistics numbers order = some (.ok stats)) {name : String}
    {queue : Struct numbers Queue} (found : stats.queues name = some queue) :
    ∃ alone, parseStatistics numbers
        (order.filter fun entry => queueName entry.1 = some name) = some (.ok alone) ∧
      alone.queues name = some queue := by
  have sound : ∀ entry ∈ order.filter (fun entry => queueName entry.1 = some name),
      (reading numbers entry).Sound := by
    intro entry listed
    exact sound_of_parsed ok entry (List.mem_filter.mp listed).1
  have placed : ∀ entry ∈ order.filter (fun entry => queueName entry.1 = some name),
      (reading numbers entry).path ≠ some none := by
    intro entry listed
    obtain ⟨prop, single, key⟩ := queue_key (of_decide_eq_true (List.mem_filter.mp listed).2)
    rw [reading_queue name single key]
    exact nofun
  refine ⟨_, parse_sound sound placed, ?_⟩
  rw [(Statistics.run_ok_iff.mp ok).2, Statistics.queues_after_entries] at found
  rw [Statistics.queues_after_entries, List.any_filter, fill_filter, ← found]
  · have own : ∀ entry : Entry, (decide (queueName entry.1 = some name) &&
        (reading numbers entry).ofQueue name) = (reading numbers entry).ofQueue name := by
      intro entry
      rw [Bool.and_eq_right_iff_imp]
      intro named
      exact decide_eq_true (ofQueue_iff.mp named)
    simp only [own]
  · intro entry _ other
    apply Reading.queueWrite_elsewhere
    rw [← Bool.not_eq_true, ofQueue_iff]
    exact of_decide_eq_false other

theorem placed_of_drive {entry : Entry} {name : String}
    (named : driveName entry.1 = some name) : (reading numbers entry).path ≠ none := by
  obtain ⟨prop, single, key⟩ := drive_key named
  rw [reading_drive name single key]
  exact nofun

theorem drive_alone {name path : String} (single : raw.Single numbers name path)
    {order : List Entry} (iterated : raw.Iterated order) {stats : Statistics numbers}
    (ok : parseStatistics numbers order = some (.ok stats)) :
    ∃ alone, parseStatistics numbers
        (order.filter fun entry => driveName entry.1 = some name) = some (.ok alone) ∧
      alone.drive = stats.drive := by
  let own := order.filter fun entry => driveName entry.1 = some name
  have inside : ∀ entry ∈ own, entry ∈ order := fun _ listed => (List.mem_filter.mp listed).1
  have placed : ∀ entry ∈ own, (reading numbers entry).path ≠ some none := by
    intro entry listed unplaced
    cases single.paths entry (iterated.mem_iff.mp (inside entry listed)) none unplaced
  refine ⟨_, parse_sound (fun entry listed => sound_of_parsed ok entry (inside entry listed)) placed,
    ?_⟩
  have first : ∀ entries : List Entry, (∀ entry ∈ entries, entry ∈ order) →
      (∀ entry ∈ raw.entries, driveName entry.1 = some name → entry ∈ entries) →
      ((Statistics.default numbers).after (entries.map (reading numbers))).drive =
        some ⟨path, fill (fun entry => (reading numbers entry).driveWrite)
          (Struct.default numbers) entries⟩ := by
    intro entries within all
    obtain ⟨entry, present, named⟩ := single.named
    have paths : (entries.findSome? fun entry => (reading numbers entry).path) =
        some (some path) := by
      apply findSome?_unique _ (all entry present named) (placed_of_drive named)
      intro other listed given
      exact single.paths other (iterated.mem_iff.mp (within other listed)) given
    rw [Statistics.drive_after_entries, paths]
    rfl
  have allOwn : ∀ entry ∈ raw.entries, driveName entry.1 = some name → entry ∈ own :=
    fun entry present named =>
      List.mem_filter.mpr ⟨iterated.mem_iff.mpr present, decide_eq_true named⟩
  have allListed : ∀ entry ∈ raw.entries, driveName entry.1 = some name → entry ∈ order :=
    fun entry present _ => iterated.mem_iff.mpr present
  have same : fill (fun entry => (reading numbers entry).driveWrite) (Struct.default numbers) own =
      fill (fun entry => (reading numbers entry).driveWrite) (Struct.default numbers) order := by
    funext field
    have filled := fill_own allOwn (fun entry listed =>
      single.values entry (iterated.mem_iff.mp (inside entry listed))) field
    have alsoFilled := fill_own allListed (fun entry listed =>
      single.values entry (iterated.mem_iff.mp listed)) field
    exact own_unique filled alsoFilled
  rw [(Statistics.run_ok_iff.mp ok).2, first own inside allOwn, same,
    first order (fun _ listed => listed) allListed]

theorem steady_of_unmixed (unmixed : raw.Unmixed numbers) : raw.Steady numbers := by
  rcases unmixed with hopeless | separate
  · have fails : ∀ order, raw.Iterated order →
        parsed (parseStatistics numbers order) = none := by
      intro order iterated
      cases result : parsed (parseStatistics numbers order) with
      | none => rfl
      | some stats =>
          exact absurd (parsed_eq_some_iff.mp result) (hopeless_fails hopeless iterated stats)
    constructor
    case agrees =>
      intro first second firstIterated secondIterated
      rw [fails first firstIterated, fails second secondIterated]
    case drives =>
      intro order iterated stats drive ok
      exact absurd ok (hopeless_fails hopeless iterated stats)
    case queues =>
      intro order iterated stats name queue ok
      exact absurd ok (hopeless_fails hopeless iterated stats)
  · constructor
    case agrees =>
      intro first second
      exact agrees_of_drives (drives_agree separate)
    case drives =>
      intro order iterated stats drive ok found
      rcases separate with driveless | ⟨name, path, single⟩
      · rw [(Statistics.run_ok_iff.mp ok).2, Statistics.drive_after_entries,
          Option.map_eq_some_iff] at found
        obtain ⟨path, given, _⟩ := found
        obtain ⟨entry, listed, placed⟩ := List.exists_of_findSome?_eq_some given
        rw [driveless entry (iterated.mem_iff.mp listed)] at placed
        cases placed
      · obtain ⟨alone, alsoOk, same⟩ := drive_alone single iterated ok
        exact ⟨name, alone, alsoOk, same.trans found⟩
    case queues =>
      intro order iterated stats name queue ok found
      exact queue_alone ok found

theorem drive_of_parsed {order : List Entry} {stats : Statistics numbers} {drive : Drive numbers}
    (ok : parseStatistics numbers order = some (.ok stats)) (found : stats.drive = some drive) :
    (order.findSome? fun entry => (reading numbers entry).path) = some (some drive.path) ∧
      drive.stats = fill (fun entry => (reading numbers entry).driveWrite)
        (Struct.default numbers) order := by
  obtain ⟨⟨_, named⟩, rfl⟩ := Statistics.run_ok_iff.mp ok
  rw [Statistics.drive_after_entries] at found
  obtain ⟨given, first, rfl⟩ := Option.map_eq_some_iff.mp found
  cases given with
  | some path => exact ⟨first, rfl⟩
  | none =>
      have unplaced := named rfl
      rw [List.findSome?_map] at unplaced
      exact absurd first unplaced

theorem placed_entry (hope : ¬ raw.Hopeless numbers) (drives : ¬ raw.Driveless numbers) :
    ∃ entry ∈ raw.entries, ∃ path, (reading numbers entry).path = some (some path) := by
  by_contra unplaced
  apply hope
  refine Or.inr ⟨?_, ?_⟩
  · by_contra none
    apply drives
    intro entry present
    by_contra placed
    exact none ⟨entry, present, placed⟩
  · intro entry present given placed
    cases given with
    | none => rfl
    | some path => exact absurd ⟨entry, present, path, placed⟩ unplaced

theorem steady_parsed (steady : raw.Steady numbers) (hope : ¬ raw.Hopeless numbers)
    (drives : ¬ raw.Driveless numbers) :
    ∃ stats drive, stats.drive = some drive ∧
      ∀ order, raw.Iterated order → parseStatistics numbers order = some (.ok stats) := by
  have sound : ∀ entry ∈ raw.entries, (reading numbers entry).Sound := by
    intro entry present
    by_contra broken
    exact hope (Or.inl ⟨entry, present, broken⟩)
  obtain ⟨main, mainPresent, path, placed⟩ := placed_entry hope drives
  -- with this entry first nothing stands in the way
  have mainFirst := first_iterated mainPresent
  have accepted : (Statistics.default numbers).Accepts
      ((main :: raw.entries.erase main).map (reading numbers)) := by
    constructor
    · intro reading listed
      obtain ⟨entry, present, rfl⟩ := List.mem_map.mp listed
      exact sound entry (mainFirst.mem_iff.mp present)
    · rw [List.map_cons, List.findSome?_cons, placed]
      exact fun _ => nofun
  have ok := Statistics.run_ok_iff.mpr ⟨accepted, rfl⟩
  have found := @Statistics.drive_after_entries numbers (main :: raw.entries.erase main)
  rw [List.findSome?_cons, placed] at found
  refine ⟨_, _, found, ?_⟩
  intro order iterated
  rw [← parsed_eq_some_iff, steady.agrees order _ iterated mainFirst]
  exact parsed_eq_some_iff.mpr ok

theorem unmixed_of_steady (steady : raw.Steady numbers) : raw.Unmixed numbers := by
  by_cases hopeless : raw.Hopeless numbers
  · exact Or.inl hopeless
  by_cases driveless : raw.Driveless numbers
  · exact Or.inr (Or.inl driveless)
  refine Or.inr (Or.inr ?_)
  obtain ⟨stats, drive, found, always⟩ := steady_parsed steady hopeless driveless
  have given : raw.Iterated raw.entries := List.Perm.refl _
  obtain ⟨name, alone, aloneOk, aloneFound⟩ :=
    steady.drives _ given stats drive (always _ given) found
  obtain ⟨aloneFirst, aloneStats⟩ := drive_of_parsed aloneOk aloneFound
  refine ⟨name, drive.path, ?_, ?_, ?_⟩
  case refine_1 =>
    obtain ⟨entry, listed, _⟩ := List.exists_of_findSome?_eq_some aloneFirst
    obtain ⟨present, named⟩ := List.mem_filter.mp listed
    exact ⟨entry, present, of_decide_eq_true named⟩
  case refine_2 =>
    intro entry present given hasPath
    -- an entry that comes first gives the path
    have first := (drive_of_parsed (always _ (first_iterated present)) found).1
    rw [List.findSome?_cons, hasPath] at first
    exact Option.some.inj first
  case refine_3 =>
    intro entry present field value written
    -- and one that comes last has its value stored
    have entryLast : raw.Iterated (raw.entries.erase entry ++ [entry]) :=
      (List.perm_append_singleton _ _).trans (first_iterated present)
    have last := (drive_of_parsed (always _ entryLast) found).2
    have ends : fill (fun entry => (reading numbers entry).driveWrite) (Struct.default numbers)
        (raw.entries.erase entry ++ [entry]) field = value := fill_last written
    have own : raw.Own numbers name field (drive.stats field) := by
      rw [aloneStats]
      apply fill_own
      · intro other alsoPresent named
        exact List.mem_filter.mpr ⟨alsoPresent, decide_eq_true named⟩
      · intro other listed otherField otherValue alsoWritten
        obtain ⟨alsoPresent, named⟩ := List.mem_filter.mp listed
        exact Or.inl ⟨other, alsoPresent, of_decide_eq_true named, alsoWritten⟩
    rw [last, ends] at own
    exact own

/-- The statistics do not depend on the order of the entries, and mix no drives or queues, exactly
when nothing can be parsed or no drive's entry says anything else than one and the same drive. -/
theorem statistics_steady_iff (numbers : Numbers) (raw : RawStatistics) :
    raw.Steady numbers ↔ raw.Unmixed numbers := by
  constructor
  · exact unmixed_of_steady
  · exact steady_of_unmixed

def twoDrives : RawStatistics :=
  ⟨[("sys-drive-a-usage", "1%"), ("sys-drive-b-totalBytes", "7")], by decide⟩

/-- The order of the entries decides which of two drives has the values of both. -/
theorem two_drives_mixed :
    (∃ stats drive, parseStatistics Numbers.textual twoDrives.entries = some (.ok stats) ∧
      stats.drive = some drive ∧ drive.path = "a" ∧ drive.stats .totalBytes = (7 : Nat)) ∧
    (∃ stats drive, parseStatistics Numbers.textual twoDrives.entries.reverse = some (.ok stats) ∧
      stats.drive = some drive ∧ drive.path = "b" ∧ drive.stats .usage = "1%") ∧
    ¬ twoDrives.Steady Numbers.textual := by
  have first : ∃ stats drive,
      parseStatistics Numbers.textual twoDrives.entries = some (.ok stats) ∧
        stats.drive = some drive ∧ drive.path = "a" ∧ drive.stats .totalBytes = (7 : Nat) :=
    ⟨_, _, rfl, rfl, rfl, rfl⟩
  have second : ∃ stats drive,
      parseStatistics Numbers.textual twoDrives.entries.reverse = some (.ok stats) ∧
        stats.drive = some drive ∧ drive.path = "b" ∧ drive.stats .usage = "1%" :=
    ⟨_, _, rfl, rfl, rfl, rfl⟩
  refine ⟨first, second, ?_⟩
  intro steady
  obtain ⟨stats, drive, ok, found, named, _⟩ := first
  obtain ⟨others, other, alsoOk, alsoFound, alsoNamed, _⟩ := second
  have same := steady.agrees _ _ (List.Perm.refl _) (List.reverse_perm _)
  rw [ok, alsoOk] at same
  cases same
  cases found.symm.trans alsoFound
  exact absurd (named.symm.trans alsoNamed) (by decide)

end Orders

end TrogonEventStore.Stats

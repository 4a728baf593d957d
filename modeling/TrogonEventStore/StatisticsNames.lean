import TrogonEventStore.StatisticsKeys

namespace TrogonEventStore.Stats

open Record SplitOnce

variable {numbers : Numbers}

section Properties

variable {Field : Type} [Fields Field]

theorem fieldOf_some {name : String} {field : Field} (found : fieldOf Field name = some field) :
    Fields.key field = name := by
  unfold fieldOf at found
  have same := List.find?_some found
  exact of_decide_eq_true same

theorem queue_keys (property : Queue) : fieldOf Queue (Fields.key property) = some property := by
  cases property <;> decide

theorem drive_keys (property : DriveStats) :
    fieldOf DriveStats (Fields.key property) = some property := by
  cases property <;> decide

theorem stored_field {name : String} {entry : Entry} {field : Field}
    {value : (Fields.kind field).Value numbers}
    (written : stored numbers Field name entry = .ok (some ⟨field, value⟩)) :
    Fields.key field = name := by
  rw [stored] at written
  split at written
  · cases written
  · next other found =>
      split at written
      · next read _ =>
          cases read with
          | none => cases written
          | some value =>
              cases written
              exact fieldOf_some found
      · cases written

theorem fill_prefixed [DecidableEq Field] {raw : RawStatistics} {order : List Entry}
    (iterated : raw.Iterated order) {writes : Entry → Written numbers Field} {front : String}
    (read : ∀ entry ∈ order, ∃ prop : String, entry.1 = front ++ prop ∧
      stored numbers Field prop entry = .ok (writes entry))
    {field : Field} {value : String} (known : fieldOf Field (Fields.key field) = some field)
    (listed : (front ++ Fields.key field, value) ∈ order) :
    ∃ written, (Fields.kind field).read numbers value = .ok written ∧
      fill writes (Struct.default numbers) order field =
        written.getD ((Fields.kind field).default numbers) := by
  obtain ⟨prop, key, own⟩ := read _ listed
  have named : Fields.key field = prop := (String.append_right_inj front).mp key
  rw [← named, stored, known] at own
  dsimp only at own
  have only : ∀ other ∈ order, ∀ last, writes other = some ⟨field, last⟩ →
      other = (front ++ Fields.key field, value) := by
    intro other present last written
    obtain ⟨otherProp, otherKey, storing⟩ := read other present
    apply RawStatistics.eq_of_key (iterated.mem_iff.mp present) (iterated.mem_iff.mp listed)
    rw [written] at storing
    rw [otherKey, ← stored_field storing]
  cases parsed : (Fields.kind field).read numbers value with
  | error error =>
      rw [parsed] at own
      cases own
  | ok written =>
      rw [parsed] at own
      refine ⟨written, rfl, ?_⟩
      cases written with
      | none =>
          apply fill_kept
          intro other present last written
          rw [only other present last written] at written
          cases own.trans (congrArg Except.ok written)
      | some number =>
          apply fill_written
          · intro other present last written
            rw [only other present last written] at written
            cases own.trans (congrArg Except.ok written)
            rfl
          · exact ⟨_, listed, (Except.ok.inj own).symm⟩

end Properties

inductive Target where
  | queue (name : String) (property : Queue)
  | drive (path : String) (property : DriveStats)

namespace Target

def prefixed (target : Target) (prop : String) : String :=
  match target with
  | .queue name _ => "es-queue-" ++ name ++ "-" ++ prop
  | .drive path _ => "sys-drive-" ++ path ++ "-" ++ prop

def key (target : Target) : String :=
  match target with
  | .queue _ property => target.prefixed (Fields.key property)
  | .drive _ property => target.prefixed (Fields.key property)

def Beside (target : Target) (entry : Entry) : Prop :=
  ∃ prop : String, '-' ∉ prop.toList ∧ entry.1 = target.prefixed prop

/-- The queue of exactly this name, or the drive of exactly this path, has in its field what the
value is read as; a `null` leaves the field empty. -/
def Filed (target : Target) (value : String) (stats : Statistics numbers) : Prop :=
  match target with
  | .queue name property => ∃ queue written, stats.queues name = some queue ∧
      (Fields.kind property).read numbers value = .ok written ∧
      queue property = written.getD ((Fields.kind property).default numbers)
  | .drive path property => ∃ drive written, stats.drive = some drive ∧ drive.path = path ∧
      (Fields.kind property).read numbers value = .ok written ∧
      drive.stats property = written.getD ((Fields.kind property).default numbers)

def Plain : Target → Prop
  | .queue _ _ => True
  | .drive path _ => '-' ∉ path.toList

end Target

theorem reading_queue (name : String) {prop : String} (single : '-' ∉ prop.toList)
    {entry : Entry} (key : entry.1 = "es-queue-" ++ name ++ "-" ++ prop) :
    reading numbers entry = .queue name (stored numbers Queue prop entry) := by
  have remainder : (name ++ "-" ++ prop).toList = name.toList ++ '-' :: prop.toList := by
    simp
  have placed : place entry.1 = .queue (name.toList ++ '-' :: prop.toList) := by
    rw [key, ← remainder, ← place_queue]
    simp only [String.append_assoc]
  rw [reading, placed]
  dsimp only
  rw [rsplitOnce_append name.toList single]
  simp only [String.ofList_toList]

/-- The path the source makes of a drive: its text up to the first hyphen. -/
def drivePath (path : String) : String :=
  match splitOnce '-' path.toList with
  | none => path
  | some split => String.ofList split.1

theorem drivePath_eq_iff (path : String) : drivePath path = path ↔ '-' ∉ path.toList := by
  unfold drivePath
  split
  · next unsplit => exact iff_of_true rfl (splitOnce_eq_none_iff.mp unsplit)
  · next split found =>
      obtain ⟨whole, absent⟩ := splitOnce_some found
      refine iff_of_false ?_ ?_
      · intro same
        have present : '-' ∈ path.toList := by
          rw [whole]
          exact List.mem_append_right _ List.mem_cons_self
        rw [← same, String.toList_ofList] at present
        exact absent present
      · intro none
        rw [whole] at none
        exact none (List.mem_append_right _ List.mem_cons_self)

theorem reading_drive (path : String) {prop : String} (single : '-' ∉ prop.toList)
    {entry : Entry} (key : entry.1 = "sys-drive-" ++ path ++ "-" ++ prop) :
    reading numbers entry =
      .drive (some (drivePath path)) (stored numbers DriveStats prop entry) := by
  have remainder : (path ++ "-" ++ prop).toList = path.toList ++ '-' :: prop.toList := by
    simp
  have placed : place entry.1 = .drive (path.toList ++ '-' :: prop.toList) := by
    rw [key, ← remainder, ← place_drive]
    simp only [String.append_assoc]
  have behind : rsplitOnce '-' entry.1.toList =
      some (("sys-drive-" ++ path).toList, prop.toList) := by
    have whole : entry.1.toList = ("sys-drive-" ++ path).toList ++ '-' :: prop.toList := by
      rw [key]
      simp
    rw [whole, rsplitOnce_append _ single]
  have before : (splitOnce '-' (path.toList ++ '-' :: prop.toList)).map
      (fun split => String.ofList split.1) = some (drivePath path) := by
    unfold drivePath
    cases split : splitOnce '-' path.toList with
    | none =>
        rw [splitOnce_append (splitOnce_eq_none_iff.mp split), Option.map_some,
          String.ofList_toList]
    | some parts =>
        obtain ⟨whole, absent⟩ := splitOnce_some split
        rw [whole, List.append_assoc, List.cons_append, splitOnce_append absent, Option.map_some]
  rw [reading, placed]
  dsimp only
  rw [before, behind]
  simp only [String.ofList_toList]

section Filed

theorem stored_ok {Field : Type} [Fields Field] {name : String} {entry : Entry}
    {convert : Except Error (Written numbers Field) → Reading numbers}
    (fails : ∀ error, (convert (.error error)).error = some error)
    (readable : (convert (stored numbers Field name entry)).error = none) :
    ∃ written, stored numbers Field name entry = .ok written := by
  cases storing : stored numbers Field name entry with
  | ok written => exact ⟨written, rfl⟩
  | error error =>
      rw [storing, fails] at readable
      cases readable

theorem beside_queue {name : String} {property : Queue} {entry : Entry}
    (beside : (Target.queue name property).Beside entry)
    (readable : (reading numbers entry).error = none) :
    ∃ prop : String, entry.1 = "es-queue-" ++ name ++ "-" ++ prop ∧
      ∃ written, stored numbers Queue prop entry = .ok written ∧
        reading numbers entry = .queue name (.ok written) := by
  obtain ⟨prop, single, key⟩ := beside
  have queue := @reading_queue numbers name prop single entry key
  rw [queue] at readable
  obtain ⟨written, storing⟩ := stored_ok (fun _ => rfl) readable
  rw [storing] at queue
  exact ⟨prop, key, written, storing, queue⟩

theorem beside_drive {path : String} {property : DriveStats} {entry : Entry}
    (beside : (Target.drive path property).Beside entry)
    (readable : (reading numbers entry).error = none) :
    ∃ prop : String, entry.1 = "sys-drive-" ++ path ++ "-" ++ prop ∧
      ∃ written, stored numbers DriveStats prop entry = .ok written ∧
        reading numbers entry = .drive (some (drivePath path)) (.ok written) := by
  obtain ⟨prop, single, key⟩ := beside
  have drive := @reading_drive numbers path prop single entry key
  rw [drive] at readable
  obtain ⟨written, storing⟩ := stored_ok (fun _ => rfl) readable
  rw [storing] at drive
  exact ⟨prop, key, written, storing, drive⟩

variable {target : Target} {raw : RawStatistics} {order : List Entry}

/-- The entries of one queue or drive are parsed in every order if they can all be read. -/
theorem beside_parsed
    (wellFormed : ∀ entry ∈ raw.entries,
      target.Beside entry ∧ (reading numbers entry).error = none)
    (iterated : raw.Iterated order) :
    parseStatistics numbers order =
      some (.ok ((Statistics.default numbers).after (order.map (reading numbers)))) := by
  have taken : ∀ entry ∈ order, (reading numbers entry).Sound ∧
      (reading numbers entry).path ≠ some none := by
    intro entry listed
    obtain ⟨beside, readable⟩ := wellFormed entry (iterated.mem_iff.mp listed)
    cases target with
    | queue name property =>
        obtain ⟨prop, _, written, _, queue⟩ := beside_queue beside readable
        rw [queue]
        exact ⟨⟨rfl, nofun⟩, nofun⟩
    | drive path property =>
        obtain ⟨prop, _, written, _, drive⟩ := beside_drive beside readable
        rw [drive]
        exact ⟨⟨rfl, nofun⟩, nofun⟩
  exact parse_sound (fun entry listed => (taken entry listed).1) fun entry listed =>
    (taken entry listed).2

theorem queue_filed {name : String} {property : Queue} {value : String}
    (held : ((Target.queue name property).key, value) ∈ raw.entries)
    (wellFormed : ∀ entry ∈ raw.entries,
      (Target.queue name property).Beside entry ∧ (reading numbers entry).error = none)
    (iterated : raw.Iterated order) :
    ∃ stats, parseStatistics numbers order = some (.ok stats) ∧
      (Target.queue name property).Filed value stats := by
  have read : ∀ entry ∈ order, ∃ prop : String, entry.1 = "es-queue-" ++ name ++ "-" ++ prop ∧
      ∃ written, stored numbers Queue prop entry = .ok written ∧
        reading numbers entry = .queue name (.ok written) := by
    intro entry listed
    obtain ⟨beside, readable⟩ := wellFormed entry (iterated.mem_iff.mp listed)
    exact beside_queue beside readable
  have listed := iterated.mem_iff.mpr held
  have filled : ∃ written, (Fields.kind property).read numbers value = .ok written ∧
      fill (fun entry => (reading numbers entry).queueWrite name) (Struct.default numbers) order
        property = written.getD ((Fields.kind property).default numbers) := by
    apply fill_prefixed iterated _ (queue_keys property) listed
    intro entry present
    obtain ⟨prop, key, written, storing, queue⟩ := read entry present
    refine ⟨prop, key, ?_⟩
    rw [queue, storing, Reading.queueWrite, if_pos rfl]
  have found : order.any (fun entry => (reading numbers entry).ofQueue name) = true := by
    obtain ⟨prop, _, written, _, queue⟩ := read _ listed
    refine List.any_eq_true.mpr ⟨_, listed, ?_⟩
    rw [queue]
    exact decide_eq_true rfl
  obtain ⟨written, parsed, same⟩ := filled
  refine ⟨_, beside_parsed wellFormed iterated, _, written, ?_, parsed, same⟩
  rw [Statistics.queues_after_entries]
  exact if_pos found

theorem drive_filed {path : String} {property : DriveStats} {value : String}
    (held : ((Target.drive path property).key, value) ∈ raw.entries)
    (wellFormed : ∀ entry ∈ raw.entries,
      (Target.drive path property).Beside entry ∧ (reading numbers entry).error = none)
    (iterated : raw.Iterated order) :
    ∃ stats drive written, parseStatistics numbers order = some (.ok stats) ∧
      stats.drive = some drive ∧ drive.path = drivePath path ∧
      (Fields.kind property).read numbers value = .ok written ∧
      drive.stats property = written.getD ((Fields.kind property).default numbers) := by
  have read : ∀ entry ∈ order, ∃ prop : String, entry.1 = "sys-drive-" ++ path ++ "-" ++ prop ∧
      ∃ written, stored numbers DriveStats prop entry = .ok written ∧
        reading numbers entry = .drive (some (drivePath path)) (.ok written) := by
    intro entry listed
    obtain ⟨beside, readable⟩ := wellFormed entry (iterated.mem_iff.mp listed)
    exact beside_drive beside readable
  have paths : ∀ entry ∈ order,
      (reading numbers entry).path = some (some (drivePath path)) := by
    intro entry listed
    obtain ⟨prop, _, written, _, drive⟩ := read entry listed
    rw [drive]
    rfl
  have listed := iterated.mem_iff.mpr held
  have first : order.findSome? (fun entry => (reading numbers entry).path) =
      some (some (drivePath path)) := by
    apply findSome?_unique _ listed
    · rw [paths _ listed]
      exact nofun
    · intro entry present given found
      exact Option.some.inj (found.symm.trans (paths entry present))
  have filled : ∃ written, (Fields.kind property).read numbers value = .ok written ∧
      fill (fun entry => (reading numbers entry).driveWrite) (Struct.default numbers) order
        property = written.getD ((Fields.kind property).default numbers) := by
    apply fill_prefixed iterated _ (drive_keys property) listed
    intro entry present
    obtain ⟨prop, key, written, storing, drive⟩ := read entry present
    refine ⟨prop, key, ?_⟩
    rw [drive, storing, Reading.driveWrite]
  obtain ⟨written, parsed, same⟩ := filled
  have found := @Statistics.drive_after_entries numbers order
  rw [first] at found
  exact ⟨_, _, written, beside_parsed wellFormed iterated, found, rfl, parsed, same⟩

/-- In every order of a map of entries of one queue or drive that can all be read, the value of a
property is filed under its name, exactly when it is a queue's or the drive's path has no hyphen. -/
theorem statistics_filed_iff (numbers : Numbers) (target : Target) (value : String)
    (raw : RawStatistics) (held : (target.key, value) ∈ raw.entries)
    (wellFormed : ∀ entry ∈ raw.entries,
      target.Beside entry ∧ (reading numbers entry).error = none) :
    (∀ order, raw.Iterated order →
      ∃ stats, parseStatistics numbers order = some (.ok stats) ∧ target.Filed value stats) ↔
      target.Plain := by
  cases target with
  | queue name property =>
      exact iff_of_true (fun _ iterated => queue_filed held wellFormed iterated) trivial
  | drive path property =>
      rw [Target.Plain, ← drivePath_eq_iff]
      constructor
      · intro filed
        obtain ⟨stats, drive, _, parsed, found, named, _⟩ :=
          drive_filed held wellFormed (List.Perm.refl _)
        obtain ⟨others, alsoParsed, other, _, alsoFound, exact, _⟩ := filed _ (List.Perm.refl _)
        cases parsed.symm.trans alsoParsed
        cases found.symm.trans alsoFound
        exact named.symm.trans exact
      · intro plain order iterated
        obtain ⟨stats, drive, written, parsed, found, named, read, same⟩ :=
          drive_filed held wellFormed iterated
        exact ⟨stats, parsed, drive, written, found, named.trans plain, read, same⟩

def oneQueue : RawStatistics :=
  ⟨[("es-queue-index Committer-inProgressMessage", "<none>"),
    ("es-queue-index Committer-length", "3")], by decide⟩

theorem queue_length_filed :
    (∀ order, oneQueue.Iterated order →
      ∃ stats, parseStatistics Numbers.textual order = some (.ok stats) ∧
        (Target.queue "index Committer" .length).Filed "3" stats) ↔
      (Target.queue "index Committer" .length).Plain := by
  apply statistics_filed_iff Numbers.textual (.queue "index Committer" .length) "3" oneQueue
  · decide
  · intro entry present
    rcases List.mem_cons.mp present with rfl | later
    · exact ⟨⟨"inProgressMessage", by decide, rfl⟩, rfl⟩
    · cases List.mem_singleton.mp later
      exact ⟨⟨"length", by decide, rfl⟩, rfl⟩

def hyphenatedDrive : RawStatistics :=
  ⟨[("sys-drive-/dev/disk-1-usage", "7%")], by decide⟩

/-- A drive of a hyphenated path is stored under another one. -/
theorem hyphenated_drive_misfiled :
    ((Target.drive "/dev/disk-1" .usage).key, "7%") ∈ hyphenatedDrive.entries ∧
      (∀ entry ∈ hyphenatedDrive.entries, (Target.drive "/dev/disk-1" .usage).Beside entry ∧
        (reading Numbers.textual entry).error = none) ∧
      (∃ stats drive, parseStatistics Numbers.textual hyphenatedDrive.entries = some (.ok stats) ∧
        stats.drive = some drive ∧ drive.path = "/dev/disk") ∧
      ¬ ∀ order, hyphenatedDrive.Iterated order →
        ∃ stats, parseStatistics Numbers.textual order = some (.ok stats) ∧
          (Target.drive "/dev/disk-1" .usage).Filed "7%" stats := by
  have short : ∃ stats drive,
      parseStatistics Numbers.textual hyphenatedDrive.entries = some (.ok stats) ∧
        stats.drive = some drive ∧ drive.path = "/dev/disk" := ⟨_, _, rfl, rfl, rfl⟩
  refine ⟨by decide, ?_, short, ?_⟩
  · intro entry present
    cases List.mem_singleton.mp present
    exact ⟨⟨"usage", by decide, rfl⟩, rfl⟩
  · intro filed
    obtain ⟨stats, drive, parsed, found, named⟩ := short
    obtain ⟨others, alsoParsed, other, _, alsoFound, exact, _⟩ := filed _ (List.Perm.refl _)
    cases parsed.symm.trans alsoParsed
    cases found.symm.trans alsoFound
    exact absurd (named.symm.trans exact) (by decide)

end Filed

end TrogonEventStore.Stats

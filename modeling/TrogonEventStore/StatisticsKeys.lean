import TrogonEventStore.StatisticsReadings

namespace TrogonEventStore.Stats

open Record SplitOnce

variable {numbers : Numbers}

section Keys

theorem place_drive (remainder : String) :
    place ("sys-drive-" ++ remainder) = .drive remainder.toList := by
  have found : drivePrefix.isPrefixOf? ("sys-drive-" ++ remainder).toList =
      some remainder.toList := by
    rw [List.isPrefixOf?_eq_some_iff_append_eq, String.toList_append]
    rfl
  rw [place, found]

theorem place_queue (remainder : String) :
    place ("es-queue-" ++ remainder) = .queue remainder.toList := by
  have found : queuePrefix.isPrefixOf? ("es-queue-" ++ remainder).toList =
      some remainder.toList := by
    rw [List.isPrefixOf?_eq_some_iff_append_eq, String.toList_append]
    rfl
  have other : drivePrefix.isPrefixOf? ("es-queue-" ++ remainder).toList = none := by
    rw [String.toList_append]
    rfl
  rw [place, other, found]

theorem drive_of_place {key : String} {remainder : List Char}
    (placed : place key = .drive remainder) : key = "sys-drive-" ++ String.ofList remainder := by
  unfold place at placed
  split at placed
  · next other found =>
      cases placed
      have whole := List.isPrefixOf?_eq_some_iff_append_eq.mp found
      have rest : (String.ofList remainder).toList = remainder := String.toList_ofList
      rw [← String.toList_inj, String.toList_append, rest]
      exact whole.symm
  · split at placed <;> cases placed

theorem queue_of_place {key : String} {remainder : List Char}
    (placed : place key = .queue remainder) : key = "es-queue-" ++ String.ofList remainder := by
  unfold place at placed
  split at placed
  · cases placed
  · split at placed
    · next other found =>
        cases placed
        have whole := List.isPrefixOf?_eq_some_iff_append_eq.mp found
        have rest : (String.ofList remainder).toList = remainder := String.toList_ofList
        rw [← String.toList_inj, String.toList_append, rest]
        exact whole.symm
    · cases placed

theorem unnamedQueue_iff {entry : Entry} : reading numbers entry = .unnamedQueue ↔
    ∃ remainder : String, entry.1 = "es-queue-" ++ remainder ∧ '-' ∉ remainder.toList := by
  constructor
  · intro unnamed
    unfold reading at unnamed
    split at unnamed
    · cases unnamed
    · next remainder placed =>
        split at unnamed
        · next unsplit =>
            refine ⟨String.ofList remainder, queue_of_place placed, ?_⟩
            rw [String.toList_ofList]
            exact rsplitOnce_eq_none_iff.mp unsplit
        · cases unnamed
    · cases unnamed
  · intro ⟨remainder, key, absent⟩
    rw [reading, key, place_queue]
    dsimp only
    rw [rsplitOnce_eq_none_iff.mpr absent]

theorem path_none_iff {entry : Entry} : (reading numbers entry).path = some none ↔
    ∃ remainder : String, entry.1 = "sys-drive-" ++ remainder ∧ '-' ∉ remainder.toList := by
  constructor
  · intro unplaced
    unfold reading at unplaced
    split at unplaced
    · next remainder placed =>
        refine ⟨String.ofList remainder, drive_of_place placed, ?_⟩
        rw [String.toList_ofList]
        exact splitOnce_eq_none_iff.mp (Option.map_eq_none_iff.mp (Option.some.inj unplaced))
    · split at unplaced <;> cases unplaced
    · cases unplaced
  · intro ⟨remainder, key, absent⟩
    rw [reading, key, place_drive]
    dsimp only [Reading.path]
    rw [splitOnce_eq_none_iff.mpr absent, Option.map_none]

end Keys

def known (entry : Entry) : Bool :=
  match place entry.1 with
  | .drive _ =>
      match rsplitOnce '-' entry.1.toList with
      | none => false
      | some split => (fieldOf DriveStats (String.ofList split.2)).isSome
  | .queue remainder =>
      match rsplitOnce '-' remainder with
      | none => false
      | some split => (fieldOf Queue (String.ofList split.2)).isSome
  | .metric => (fieldOf Metric entry.1).isSome

/-- The entry stores nothing and cannot fail by its value. -/
structure Reading.Silent (reading : Reading numbers) : Prop where
  metric : reading.metricWrite = none
  drive : reading.driveWrite = none
  queue : ∀ name, reading.queueWrite name = none
  error : reading.error = none

theorem stored_unknown {Field : Type} [Fields Field] {name : String}
    (unknown : (fieldOf Field name).isSome = false) (entry : Entry) :
    stored numbers Field name entry = .ok none := by
  rw [stored]
  cases found : fieldOf Field name with
  | none => rfl
  | some field =>
      rw [found] at unknown
      cases unknown

theorem unknown_silent {entry : Entry} (unknown : known entry = false) :
    (reading numbers entry).Silent := by
  unfold known at unknown
  unfold reading
  cases placed : place entry.1 with
  | metric =>
      rw [placed] at unknown
      dsimp only at unknown ⊢
      rw [stored_unknown unknown]
      exact ⟨rfl, rfl, fun _ => rfl, rfl⟩
  | drive remainder =>
      rw [placed] at unknown
      dsimp only at unknown ⊢
      cases split : rsplitOnce '-' entry.1.toList with
      | none => exact ⟨rfl, rfl, fun _ => rfl, rfl⟩
      | some parts =>
          rw [split] at unknown
          dsimp only at unknown ⊢
          rw [stored_unknown unknown]
          exact ⟨rfl, rfl, fun _ => rfl, rfl⟩
  | queue remainder =>
      rw [placed] at unknown
      dsimp only at unknown ⊢
      cases split : rsplitOnce '-' remainder with
      | none => exact ⟨rfl, rfl, fun _ => rfl, rfl⟩
      | some parts =>
          rw [split] at unknown
          dsimp only at unknown ⊢
          rw [stored_unknown unknown]
          exact ⟨rfl, rfl, fun _ => ite_self none, rfl⟩

/-- Everything the rest stores is stored, and nothing else but queues and a drive without any
values of their own. -/
structure Statistics.Keeps (stats rest : Statistics numbers) : Prop where
  metrics : stats.metrics = rest.metrics
  queues : ∀ name queue, rest.queues name = some queue → stats.queues name = some queue
  drive : ∀ drive, rest.drive = some drive → stats.drive = some drive
  emptyQueues : ∀ name queue, rest.queues name = none → stats.queues name = some queue →
    queue = Struct.default numbers
  emptyDrive : ∀ drive, rest.drive = none → stats.drive = some drive →
    drive.stats = Struct.default numbers

/-- Parsing the rest comes to the same. -/
inductive Unaffected : Option (Except Error (Statistics numbers)) →
    Option (Except Error (Statistics numbers)) → Prop
  | stored {stats rest : Statistics numbers} (keeps : stats.Keeps rest) :
      Unaffected (some (.ok stats)) (some (.ok rest))
  | failed (error : Error) : Unaffected (some (.error error)) (some (.error error))

/-- In every order the map is parsed or refused with a parsing error, and unknown metrics do not
matter to the others. -/
structure RawStatistics.Robust (raw : RawStatistics) (numbers : Numbers) : Prop where
  returns : ∀ order, raw.Iterated order →
    (∃ stats, parseStatistics numbers order = some (.ok stats)) ∨
      ∃ message, parseStatistics numbers order = some (.error (.internalParsingError message))
  skips : ∀ order, raw.Iterated order →
    Unaffected (parseStatistics numbers order) (parseStatistics numbers (order.filter known))

structure RawStatistics.Hyphenated (raw : RawStatistics) : Prop where
  drives : ∀ entry ∈ raw.entries, ∀ remainder : String,
    entry.1 = "sys-drive-" ++ remainder → '-' ∈ remainder.toList
  queues : ∀ entry ∈ raw.entries, ∀ remainder : String,
    entry.1 = "es-queue-" ++ remainder → '-' ∈ remainder.toList

/-- Keys have their hyphens; and some value cannot be read, or a drive's unknown property comes with
the path of every known one. -/
structure RawStatistics.Harmless (raw : RawStatistics) (numbers : Numbers) : Prop where
  hyphenated : raw.Hyphenated
  paths : (∃ entry ∈ raw.entries, (reading numbers entry).error ≠ none) ∨
    ∀ entry ∈ raw.entries, known entry = false →
      ∀ other ∈ raw.entries, known other = true →
        ∀ path otherPath, (reading numbers entry).path = some path →
          (reading numbers other).path = some otherPath → path = otherPath

section Robust

theorem stored_error {Field : Type} [Fields Field] {name : String} {entry : Entry} {error : Error}
    (failed : stored numbers Field name entry = .error error) :
    ∃ message, error = .internalParsingError message := by
  rw [stored] at failed
  split at failed
  · cases failed
  · split at failed
    · cases failed
    · cases failed
      exact ⟨_, rfl⟩

theorem stored_failure {Field : Type} [Fields Field] {name : String} {entry : Entry} {error : Error}
    {convert : Except Error (Written numbers Field) → Reading numbers}
    (passes : ∀ written, (convert (.ok written)).error = none)
    (fails : ∀ other, (convert (.error other)).error = some other)
    (failed : (convert (stored numbers Field name entry)).error = some error) :
    ∃ message, error = .internalParsingError message := by
  cases written : stored numbers Field name entry with
  | ok value =>
      rw [written, passes] at failed
      cases failed
  | error other =>
      rw [written, fails] at failed
      cases failed
      exact stored_error written

theorem reading_error {entry : Entry} {error : Error}
    (failed : (reading numbers entry).error = some error) :
    ∃ message, error = .internalParsingError message := by
  unfold reading at failed
  split at failed
  · split at failed
    · cases failed
    · exact stored_failure (fun _ => rfl) (fun _ => rfl) failed
  · split at failed
    · cases failed
    · exact stored_failure (fun _ => rfl) (fun _ => rfl) failed
  · exact stored_failure (fun _ => rfl) (fun _ => rfl) failed

/-- Entries that nothing is wrong with are parsed, whatever their order. -/
theorem parse_sound {order : List Entry} (sound : ∀ entry ∈ order, (reading numbers entry).Sound)
    (placed : ∀ entry ∈ order, (reading numbers entry).path ≠ some none) :
    parseStatistics numbers order =
      some (.ok ((Statistics.default numbers).after (order.map (reading numbers)))) := by
  rw [parseStatistics, Statistics.run_ok_iff]
  refine ⟨⟨?_, ?_⟩, rfl⟩
  · intro reading listed
    obtain ⟨entry, present, rfl⟩ := List.mem_map.mp listed
    exact sound entry present
  · intro _ unplaced
    obtain ⟨reading, listed, path⟩ := List.exists_of_findSome?_eq_some unplaced
    obtain ⟨entry, present, rfl⟩ := List.mem_map.mp listed
    exact placed entry present path

theorem take_unplaced {stats : Statistics numbers} {reading : Reading numbers}
    (first : stats.drive = none) (unplaced : reading.path = some none) :
    stats.take reading = none := by
  cases reading with
  | drive path written =>
      cases unplaced
      rw [Statistics.take, first]
      rfl
  | queue name written => cases unplaced
  | unnamedQueue => cases unplaced
  | metric written => cases unplaced

theorem first_iterated {raw : RawStatistics} {entry : Entry} (present : entry ∈ raw.entries) :
    raw.Iterated (entry :: raw.entries.erase entry) :=
  (List.perm_cons_erase present).symm

theorem returns_of_first {raw : RawStatistics} (robust : raw.Robust numbers) {entry : Entry}
    (present : entry ∈ raw.entries) :
    (Statistics.default numbers).take (reading numbers entry) ≠ none := by
  intro panics
  have stuck : parseStatistics numbers (entry :: raw.entries.erase entry) = none := by
    rw [parseStatistics, Statistics.run, Statistics.step_eq_take, panics]
  rcases robust.returns _ (first_iterated present) with ⟨stats, parsed⟩ | ⟨message, failed⟩
  · cases stuck.symm.trans parsed
  · cases stuck.symm.trans failed

theorem findSome?_unique {Value : Type} {read : Entry → Option Value} {entries : List Entry}
    {value : Value} (unique : ∀ entry ∈ entries, ∀ given, read entry = some given → given = value)
    {entry : Entry} (listed : entry ∈ entries) (given : read entry ≠ none) :
    entries.findSome? read = some value := by
  cases first : entries.findSome? read with
  | none => exact absurd (List.findSome?_eq_none_iff.mp first entry listed) given
  | some other =>
      obtain ⟨earlier, present, found⟩ := List.exists_of_findSome?_eq_some first
      rw [unique earlier present other found]

theorem findSome?_kept {Value : Type} {keep : Entry → Bool} {read : Entry → Option Value}
    {entries : List Entry} {value : Value}
    (agree : ∀ entry ∈ entries, keep entry = false → ∀ other ∈ entries, keep other = true →
      ∀ value otherValue, read entry = some value → read other = some otherValue →
        value = otherValue)
    (found : (entries.filter keep).findSome? read = some value) :
    entries.findSome? read = some value := by
  induction entries with
  | nil => cases found
  | cons entry entries ih =>
      have later : ∀ other ∈ entries, keep other = false → ∀ third ∈ entries, keep third = true →
          ∀ value otherValue, read other = some value → read third = some otherValue →
            value = otherValue := fun other present unkept third listed =>
        agree other (List.mem_cons_of_mem _ present) unkept third (List.mem_cons_of_mem _ listed)
      rw [List.findSome?_cons]
      cases kept : keep entry with
      | true =>
          rw [List.filter_cons_of_pos kept, List.findSome?_cons] at found
          cases first : read entry with
          | none =>
              rw [first] at found
              exact ih later found
          | some other =>
              rw [first] at found
              exact found
      | false =>
          rw [List.filter_cons_of_neg (by rw [kept]; exact Bool.false_ne_true)] at found
          cases first : read entry with
          | none => exact ih later found
          | some other =>
              obtain ⟨third, listed, same⟩ := List.exists_of_findSome?_eq_some found
              obtain ⟨present, keeps⟩ := List.mem_filter.mp listed
              rw [agree entry List.mem_cons_self kept third (List.mem_cons_of_mem _ present) keeps
                other value first same]

theorem keeps_known {order : List Entry}
    (agree : ∀ entry ∈ order, known entry = false → ∀ other ∈ order, known other = true →
      ∀ path otherPath, (reading numbers entry).path = some path →
        (reading numbers other).path = some otherPath → path = otherPath) :
    ((Statistics.default numbers).after (order.map (reading numbers))).Keeps
      ((Statistics.default numbers).after ((order.filter known).map (reading numbers))) := by
  constructor
  case metrics =>
    rw [Statistics.metrics_after_entries, Statistics.metrics_after_entries]
    exact (fill_filter fun entry _ unknown => (unknown_silent unknown).metric).symm
  case queues =>
    intro name queue found
    rw [Statistics.queues_after_entries] at found ⊢
    split at found
    · next named =>
        obtain ⟨entry, listed, same⟩ := List.any_eq_true.mp named
        rw [if_pos (List.any_eq_true.mpr ⟨entry, (List.mem_filter.mp listed).1, same⟩), ← found]
        exact congrArg some
          (fill_filter fun entry _ unknown => (unknown_silent unknown).queue name).symm
    · cases found
  case drive =>
    intro drive found
    rw [Statistics.drive_after_entries] at found ⊢
    obtain ⟨path, first, same⟩ := Option.map_eq_some_iff.mp found
    rw [findSome?_kept agree first, Option.map_some, ← same,
      fill_filter fun entry _ unknown => (unknown_silent unknown).drive]
  case emptyQueues =>
    intro name queue absent found
    rw [Statistics.queues_after_entries] at absent found
    split at absent
    · cases absent
    · next unnamed =>
        split at found
        · cases found
          rw [← fill_filter fun entry _ unknown => (unknown_silent unknown).queue name]
          apply fill_silent
          intro entry listed
          apply Reading.queueWrite_elsewhere
          rw [← Bool.not_eq_true]
          exact fun named => unnamed (List.any_eq_true.mpr ⟨entry, listed, named⟩)
        · cases found
  case emptyDrive =>
    intro drive absent found
    rw [Statistics.drive_after_entries] at absent found
    obtain ⟨path, _, same⟩ := Option.map_eq_some_iff.mp found
    rw [← same]
    dsimp only
    rw [← fill_filter fun entry _ unknown => (unknown_silent unknown).drive]
    apply fill_silent
    intro entry listed
    apply Reading.driveWrite_elsewhere
    exact List.findSome?_eq_none_iff.mp (Option.map_eq_none_iff.mp absent) entry listed

theorem RawStatistics.Hyphenated.named {raw : RawStatistics} (hyphenated : raw.Hyphenated)
    {order : List Entry} (iterated : raw.Iterated order) :
    ∀ entry ∈ order, reading numbers entry ≠ .unnamedQueue := by
  intro entry listed unnamed
  obtain ⟨remainder, key, absent⟩ := unnamedQueue_iff.mp unnamed
  exact absent (hyphenated.queues entry (iterated.mem_iff.mp listed) remainder key)

theorem RawStatistics.Hyphenated.placed {raw : RawStatistics} (hyphenated : raw.Hyphenated)
    {order : List Entry} (iterated : raw.Iterated order) :
    ∀ entry ∈ order, (reading numbers entry).path ≠ some none := by
  intro entry listed unplaced
  obtain ⟨remainder, key, absent⟩ := path_none_iff.mp unplaced
  exact absent (hyphenated.drives entry (iterated.mem_iff.mp listed) remainder key)

theorem parse_returns {order : List Entry}
    (named : ∀ entry ∈ order, reading numbers entry ≠ .unnamedQueue)
    (placed : ∀ entry ∈ order, (reading numbers entry).path ≠ some none) :
    (∃ stats, parseStatistics numbers order = some (.ok stats)) ∨
      ∃ message, parseStatistics numbers order = some (.error (.internalParsingError message)) := by
  cases parsed : parseStatistics numbers order with
  | none => exact absurd parsed (Statistics.run_ne_none named placed)
  | some result =>
      cases result with
      | ok stats => exact Or.inl ⟨stats, rfl⟩
      | error error =>
          obtain ⟨reading, listed, failed⟩ :=
            List.exists_of_findSome?_eq_some (Statistics.run_error parsed)
          obtain ⟨entry, _, rfl⟩ := List.mem_map.mp listed
          obtain ⟨message, rfl⟩ := reading_error failed
          exact Or.inr ⟨message, rfl⟩

theorem unaffected_failed {order : List Entry}
    (named : ∀ entry ∈ order, reading numbers entry ≠ .unnamedQueue)
    (placed : ∀ entry ∈ order, (reading numbers entry).path ≠ some none)
    (unread : ∃ entry ∈ order, (reading numbers entry).error ≠ none) :
    Unaffected (parseStatistics numbers order) (parseStatistics numbers (order.filter known)) := by
  have fails : ∀ entries : List Entry, (∀ entry ∈ entries, entry ∈ order) →
      (∃ entry ∈ entries, (reading numbers entry).error ≠ none) →
      ∃ error, parseStatistics numbers entries = some (.error error) ∧
        entries.findSome? (fun entry => (reading numbers entry).error) = some error := by
    intro entries inside ⟨entry, present, broken⟩
    rcases parse_returns (fun other listed => named other (inside other listed))
      (fun other listed => placed other (inside other listed)) with ⟨stats, parsed⟩ | ⟨message, failed⟩
    · have accepted := (Statistics.run_ok_iff.mp parsed).1
      exact absurd (accepted.1 _ (List.mem_map_of_mem present)).1 broken
    · have first := Statistics.run_error failed
      rw [List.findSome?_map] at first
      exact ⟨_, failed, first⟩
  have agree : ∀ entry ∈ order, known entry = false → ∀ other ∈ order, known other = true →
      ∀ error otherError, (reading numbers entry).error = some error →
        (reading numbers other).error = some otherError → error = otherError := by
    intro entry _ unknown other _ _ error otherError failed
    rw [(unknown_silent unknown).error] at failed
    cases failed
  obtain ⟨entry, present, broken⟩ := unread
  have kept : known entry = true := by
    rw [← Bool.not_eq_false]
    exact fun unknown => broken (unknown_silent unknown).error
  obtain ⟨first, failed, reported⟩ := fails order (fun _ listed => listed) ⟨entry, present, broken⟩
  obtain ⟨second, alsoFailed, alsoReported⟩ := fails (order.filter known)
    (fun _ listed => (List.mem_filter.mp listed).1)
    ⟨entry, List.mem_filter.mpr ⟨present, kept⟩, broken⟩
  have same : first = second :=
    Option.some.inj (reported.symm.trans (findSome?_kept agree alsoReported))
  rw [failed, alsoFailed, same]
  exact .failed second

theorem parse_both {raw : RawStatistics} (hyphenated : raw.Hyphenated) {order : List Entry}
    (iterated : raw.Iterated order)
    (readable : ∀ entry ∈ order, (reading numbers entry).error = none) :
    parseStatistics numbers order =
        some (.ok ((Statistics.default numbers).after (order.map (reading numbers)))) ∧
      parseStatistics numbers (order.filter known) =
        some (.ok ((Statistics.default numbers).after
          ((order.filter known).map (reading numbers)))) := by
  have sound : ∀ entry ∈ order, (reading numbers entry).Sound := fun entry listed =>
    ⟨readable entry listed, hyphenated.named iterated entry listed⟩
  have placed := @RawStatistics.Hyphenated.placed numbers raw hyphenated order iterated
  constructor
  · exact parse_sound sound placed
  · apply parse_sound
    · exact fun entry listed => sound entry (List.mem_filter.mp listed).1
    · exact fun entry listed => placed entry (List.mem_filter.mp listed).1

theorem robust_of_harmless {raw : RawStatistics} (harmless : raw.Harmless numbers) :
    raw.Robust numbers := by
  have hyphenated := harmless.hyphenated
  constructor
  case returns =>
    intro order iterated
    exact parse_returns (hyphenated.named iterated) (hyphenated.placed iterated)
  case skips =>
    intro order iterated
    by_cases unread : ∃ entry ∈ order, (reading numbers entry).error ≠ none
    · exact unaffected_failed (hyphenated.named iterated) (hyphenated.placed iterated) unread
    · have readable : ∀ entry ∈ order, (reading numbers entry).error = none := by
        intro entry listed
        by_contra broken
        exact unread ⟨entry, listed, broken⟩
      have agree := harmless.paths.resolve_left fun ⟨entry, present, broken⟩ =>
        unread ⟨entry, iterated.mem_iff.mpr present, broken⟩
      obtain ⟨all, rest⟩ := parse_both hyphenated iterated readable
      rw [all, rest]
      apply Unaffected.stored
      apply keeps_known
      intro entry listed unknown other alsoListed kept
      exact agree entry (iterated.mem_iff.mp listed) unknown other (iterated.mem_iff.mp alsoListed)
        kept

theorem path_of_unaffected {entry other : Entry} {others : List Entry} {path otherPath : String}
    (unknown : known entry = false) (kept : known other = true)
    (hasPath : (reading numbers entry).path = some (some path))
    (hasOther : (reading numbers other).path = some (some otherPath))
    (keeps : ((Statistics.default numbers).after
        ((entry :: other :: others).map (reading numbers))).Keeps
      ((Statistics.default numbers).after
        (((entry :: other :: others).filter known).map (reading numbers)))) :
    path = otherPath := by
  have named := @Statistics.drive_after_entries numbers (entry :: other :: others)
  have renamed := @Statistics.drive_after_entries numbers
    ((entry :: other :: others).filter known)
  rw [List.findSome?_cons, hasPath] at named
  rw [List.filter_cons_of_neg (by rw [unknown]; exact Bool.false_ne_true),
    List.filter_cons_of_pos kept, List.findSome?_cons, hasOther] at renamed
  rw [List.filter_cons_of_neg (by rw [unknown]; exact Bool.false_ne_true),
    List.filter_cons_of_pos kept] at keeps
  have same := (keeps.drive _ renamed).symm.trans named
  exact (congrArg Drive.path (Option.some.inj same)).symm

theorem hyphenated_of_robust {raw : RawStatistics} (robust : raw.Robust numbers) :
    raw.Hyphenated := by
  constructor
  case drives =>
    intro entry present remainder key
    by_contra absent
    have unplaced : (reading numbers entry).path = some none :=
      path_none_iff.mpr ⟨remainder, key, absent⟩
    exact returns_of_first robust present (take_unplaced rfl unplaced)
  case queues =>
    intro entry present remainder key
    by_contra absent
    have unnamed : reading numbers entry = .unnamedQueue :=
      unnamedQueue_iff.mpr ⟨remainder, key, absent⟩
    have panics := returns_of_first robust present
    rw [unnamed] at panics
    exact panics rfl

/-- The parser panics on no order of a map and skips unknown metrics exactly when every key of a
drive or queue has its hyphen and no unknown property gives a drive another path. -/
theorem statistics_robust_iff (numbers : Numbers) (raw : RawStatistics) :
    raw.Robust numbers ↔ raw.Harmless numbers := by
  constructor
  · intro robust
    have hyphenated := hyphenated_of_robust robust
    refine ⟨hyphenated, ?_⟩
    by_cases unread : ∃ entry ∈ raw.entries, (reading numbers entry).error ≠ none
    · exact Or.inl unread
    refine Or.inr ?_
    intro entry present unknown other alsoPresent kept path otherPath hasPath hasOther
    have apart : other ≠ entry := by
      rintro rfl
      rw [unknown] at kept
      cases kept
    have later : other ∈ raw.entries.erase entry := (List.mem_erase_of_ne apart).mpr alsoPresent
    have iterated : raw.Iterated (entry :: other :: (raw.entries.erase entry).erase other) :=
      ((List.perm_cons_erase later).symm.cons entry).trans (List.perm_cons_erase present).symm
    have readable : ∀ third ∈ entry :: other :: (raw.entries.erase entry).erase other,
        (reading numbers third).error = none := by
      intro third listed
      by_contra broken
      exact unread ⟨third, iterated.mem_iff.mp listed, broken⟩
    have placed := @RawStatistics.Hyphenated.placed numbers raw hyphenated _ iterated
    obtain ⟨all, rest⟩ := parse_both hyphenated iterated readable
    have unaffected := robust.skips _ iterated
    rw [all, rest] at unaffected
    cases path with
    | none => exact absurd hasPath (placed entry List.mem_cons_self)
    | some path =>
        cases otherPath with
        | none => exact absurd hasOther (placed other (List.mem_cons_of_mem _ List.mem_cons_self))
        | some otherPath =>
            cases unaffected with
            | stored keeps => rw [path_of_unaffected unknown kept hasPath hasOther keeps]
  · exact robust_of_harmless

def Numbers.textual : Numbers :=
  ⟨String, String, String, .ok, .ok, .ok, "0", "0", "1970-01-01T00:00:00Z"⟩

def unnamedDrive : RawStatistics :=
  ⟨[("sys-drive-usage", "7%"), ("sys-drive-c-usage", "5%")], by decide⟩

/-- A drive's key without a hyphen panics when it comes first, and only then. -/
theorem unnamed_drive_panics :
    parseStatistics Numbers.textual unnamedDrive.entries = none ∧
      (parseStatistics Numbers.textual unnamedDrive.entries.reverse).isSome ∧
      ¬ unnamedDrive.Robust Numbers.textual := by
  refine ⟨rfl, rfl, ?_⟩
  intro robust
  rcases robust.returns unnamedDrive.entries (List.Perm.refl _) with ⟨stats, parsed⟩ |
    ⟨message, failed⟩
  · cases parsed
  · cases failed

end Robust

end TrogonEventStore.Stats

import TrogonEventStore.ConnectionActor
import Mathlib.Data.Prod.Lex

namespace TrogonEventStore

namespace ServerVersion

def eqMajor (version : ServerVersion) (other : Nat) : Bool := version.major == other

def eqPair (version : ServerVersion) (other : Nat × Nat) : Bool :=
  version.eqMajor other.1 && version.minor == other.2

def eqTriple (version : ServerVersion) (other : Nat × Nat × Nat) : Bool :=
  version.eqPair (other.1, other.2.1) && version.patch == other.2.2

def partialCmpMajor (version : ServerVersion) (other : Nat) : Option Ordering :=
  some (compare version.major other)

def partialCmpPair (version : ServerVersion) (other : Nat × Nat) : Option Ordering := do
  match ← version.partialCmpMajor other.1 with
  | .eq => some (compare version.minor other.2)
  | other => some other

def partialCmpTriple (version : ServerVersion) (other : Nat × Nat × Nat) : Option Ordering := do
  match ← version.partialCmpPair (other.1, other.2.1) with
  | .eq => some (compare version.patch other.2.2)
  | other => some other

end ServerVersion

/-- The comparisons of the version are those of its three numbers, the first that differ deciding. -/
structure ServerVersion.ComparesAs (version : ServerVersion) (major minor patch : Nat) : Prop where
  number : ∀ other, version.partialCmpMajor other = some (compare major other) ∧
    (version.eqMajor other = true ↔ major = other)
  pair : ∀ other : Nat × Nat,
    version.partialCmpPair other = some (compare (toLex (major, minor)) (toLex other)) ∧
    (version.eqPair other = true ↔ (major, minor) = other)
  triple : ∀ other : Nat × Nat × Nat,
    version.partialCmpTriple other =
      some (compare (toLex (major, toLex (minor, patch))) (toLex (other.1, toLex other.2))) ∧
    (version.eqTriple other = true ↔ (major, minor, patch) = other)

/-- The text is understood as the version: it is what the server information says, it compares so,
and no node that reports it is given up, nor the actor stopped. -/
structure UnderstoodAs (text : String) (version : ServerVersion) : Prop where
  reported : ∀ methods, ∃ features,
    supportedMethods (.ok ⟨methods, text⟩) = .ok ⟨version, features⟩
  compares : ∀ methods serverInfo, supportedMethods (.ok ⟨methods, text⟩) = .ok serverInfo →
    serverInfo.version.ComparesAs version.major version.minor version.patch
  connects : ∀ (connection : NodeConnection) (world : World) (locals : Discovery) node methods,
    world.crates.uriParses (connection.settings.toHyperUri node) = true →
    world.features (locals.attempts - 1) = .replied (.ok ⟨methods, text⟩) →
    ∃ returned handle, connection.contactTurn world locals node = .finished returned ∧
      returned.result = .ok handle
  kept : ∀ (actor : Connection.Actor) (world : World) node methods,
    world.crates.uriParses (actor.connection.settings.toHyperUri node) = true →
    world.features 0 = .replied (.ok ⟨methods, text⟩) →
    (Connection.process actor (.createChannel ⟨actor.connection.id, some node⟩) world).actor ≠ none

def versionText (major minor patch suffix : List Char) : String :=
  String.ofList (major ++ '.' :: minor ++ '.' :: patch ++ suffix)

/-- The characters of a suffix that are read as further digits of the patch number. -/
def leakedDigits (suffix : List Char) : List Char :=
  (suffix.takeWhile fun char => char ≠ '.').filter Char.isDigit

theorem compare_toLex {First Second : Type} [LinearOrder First] [LinearOrder Second]
    (first other : First) (second next : Second) :
    compare (toLex (first, second)) (toLex (other, next)) =
      (compare first other).then (compare second next) := by
  rw [Prod.Lex.compare_def]
  rfl

theorem ServerVersion.partialCmpPair_eq (version : ServerVersion) (major minor : Nat) :
    version.partialCmpPair (major, minor) =
      some ((compare version.major major).then (compare version.minor minor)) := by
  simp only [partialCmpPair, partialCmpMajor]
  cases compare version.major major <;> rfl

theorem ServerVersion.partialCmpTriple_eq (version : ServerVersion) (major minor patch : Nat) :
    version.partialCmpTriple (major, minor, patch) =
      some ((compare version.major major).then
        ((compare version.minor minor).then (compare version.patch patch))) := by
  simp only [partialCmpTriple, partialCmpPair_eq]
  cases compare version.major major <;> cases compare version.minor minor <;> rfl

theorem ServerVersion.comparesAs (version : ServerVersion) :
    version.ComparesAs version.major version.minor version.patch := by
  constructor
  case number => exact fun other => ⟨rfl, by simp [eqMajor]⟩
  case pair =>
    intro other
    refine ⟨?_, by simp [eqPair, eqMajor, Prod.ext_iff]⟩
    rw [version.partialCmpPair_eq, compare_toLex]
  case triple =>
    intro other
    refine ⟨?_, by simp [eqTriple, eqPair, eqMajor, Prod.ext_iff, and_assoc]⟩
    rw [version.partialCmpTriple_eq, compare_toLex, compare_toLex]

theorem digit_zero {char : Char} (digit : char.isDigit) (zero : char.toNat - '0'.toNat = 0) :
    char = '0' := by
  have least := (Char.isDigit_iff_toNat.mp digit).1
  exact Char.toNat_inj.mp (by omega)

theorem ofDigitChars_eq_self_iff {digits : List Char} (all : ∀ char ∈ digits, char.isDigit)
    (value : Nat) :
    Nat.ofDigitChars 10 digits value = value ↔ ∀ char ∈ digits, value = 0 ∧ char = '0' := by
  induction digits generalizing value with
  | nil => exact iff_of_true Nat.ofDigitChars_nil fun _ impossible => absurd impossible List.not_mem_nil
  | cons char digits ih =>
      have later := ih fun other member => all other (List.mem_cons_of_mem _ member)
      rw [Nat.ofDigitChars_cons]
      constructor
      · intro same
        have least := ofDigitChars_ge digits (10 * value + (char.toNat - '0'.toNat))
        have zero : value = 0 := by omega
        have first := digit_zero (all char List.mem_cons_self) (by omega)
        subst zero first
        intro other member
        rcases List.mem_cons.mp member with rfl | rest
        · exact ⟨rfl, rfl⟩
        · exact (later 0).mp same other rest
      · intro zeros
        obtain ⟨rfl, rfl⟩ := zeros char List.mem_cons_self
        exact (later 0).mpr fun other member => zeros other (List.mem_cons_of_mem _ member)

theorem splitDots_front {front rest : List Char} (plain : ∀ char ∈ front, char ≠ '.') :
    splitDots (front ++ '.' :: rest) = front :: splitDots rest := by
  induction front with
  | nil => rw [List.nil_append, splitDots]
  | cons char front ih =>
      have first := plain char List.mem_cons_self
      rw [List.cons_append, splitDots, ih fun other later => plain other (List.mem_cons_of_mem _ later)]
      exact first

theorem splitDots_head (text : List Char) :
    ∃ parts, splitDots text = (text.takeWhile fun char => char ≠ '.') :: parts := by
  induction text with
  | nil => exact ⟨[], rfl⟩
  | cons char text ih =>
      obtain ⟨parts, split⟩ := ih
      by_cases dot : char = '.'
      · exact ⟨splitDots text, by simp [dot, splitDots]⟩
      · refine ⟨parts, ?_⟩
        rw [splitDots, split]
        · simp [dot]
        · exact dot

theorem digit_not_dot {digits : List Char} (all : ∀ char ∈ digits, char.isDigit) :
    ∀ char ∈ digits, char ≠ '.' := by
  intro char member same
  have digit := all char member
  rw [same] at digit
  exact absurd digit (by decide)

theorem filter_digits {digits : List Char} (all : ∀ char ∈ digits, char.isDigit) :
    digits.filter (fun char => char.isDigit || char == '.') = digits := by
  rw [List.filter_eq_self]
  intro char member
  rw [all char member, Bool.true_or]

theorem takeWhile_filter (suffix : List Char) :
    (suffix.filter fun char => char.isDigit || char == '.').takeWhile (fun char => char ≠ '.') =
      leakedDigits suffix := by
  unfold leakedDigits
  induction suffix with
  | nil => rfl
  | cons char suffix ih =>
      by_cases dot : char = '.'
      · simp [dot]
      · cases digit : char.isDigit with
        | true => simpa [dot, digit] using ih
        | false => simpa [dot, digit] using ih

theorem takeWhile_digits_append {digits rest : List Char} (all : ∀ char ∈ digits, char.isDigit) :
    (digits ++ rest).takeWhile (fun char => char ≠ '.') =
      digits ++ rest.takeWhile fun char => char ≠ '.' := by
  rw [List.takeWhile_append_of_pos]
  intro char member
  exact decide_eq_true (digit_not_dot all char member)

/-- The parts of a reported version: its numerals, the last with what leaks from the suffix. -/
theorem splitDots_version {major minor patch : List Char} (suffix : List Char)
    (majors : ∀ char ∈ major, char.isDigit) (minors : ∀ char ∈ minor, char.isDigit)
    (patches : ∀ char ∈ patch, char.isDigit) :
    ∃ parts, splitDots ((versionText major minor patch suffix).toList.filter
      (fun char => char.isDigit || char == '.')) =
        major :: minor :: (patch ++ leakedDigits suffix) :: parts := by
  have kept : (versionText major minor patch suffix).toList.filter
      (fun char => char.isDigit || char == '.') =
        major ++ '.' :: (minor ++ '.' :: (patch ++
          suffix.filter fun char => char.isDigit || char == '.')) := by
    simp [versionText, List.filter_append, filter_digits majors, filter_digits minors,
      filter_digits patches]
  obtain ⟨parts, last⟩ := splitDots_head
    (patch ++ suffix.filter fun char => char.isDigit || char == '.')
  refine ⟨parts, ?_⟩
  rw [kept, splitDots_front (digit_not_dot majors), splitDots_front (digit_not_dot minors), last,
    takeWhile_digits_append patches, takeWhile_filter]

theorem parseUnsigned_numeral {digits : List Char} {number : Nat} (numeral : Numeral digits number) :
    parseUnsigned u64Bound (String.ofList digits) = some number := by
  rw [parseUnsigned_iff, String.toList_ofList]
  exact Or.inl numeral

theorem supportedMethods_version {major minor patch suffix : List Char} {a b c : Nat}
    (majorNumeral : Numeral major a) (minorNumeral : Numeral minor b)
    (patchNumeral : Numeral patch c) (methods : List SupportedMethod) :
    supportedMethods (.ok ⟨methods, versionText major minor patch suffix⟩) =
      match parseUnsigned u64Bound (String.ofList (patch ++ leakedDigits suffix)) with
      | none => .error (Status.new .invalidArgument "invalid semver format")
      | some read => .ok ⟨⟨a, b, read⟩,
          methods.foldl (fun features method => features.union (methodFeatures method))
            Features.nothing⟩ := by
  obtain ⟨parts, split⟩ := splitDots_version suffix majorNumeral.all minorNumeral.all patchNumeral.all
  simp only [supportedMethods, split, parseVersion, parseUnsigned_numeral majorNumeral,
    parseUnsigned_numeral minorNumeral]
  cases read : parseUnsigned u64Bound (String.ofList (patch ++ leakedDigits suffix)) with
  | none => simp
  | some number => cases parts <;> simp [parseVersion]

theorem understood_of_reported {text : String} {version : ServerVersion}
    (reported : ∀ methods, ∃ features,
      supportedMethods (.ok ⟨methods, text⟩) = .ok ⟨version, features⟩) :
    UnderstoodAs text version := by
  have contact : ∀ methods, ∃ serverInfo,
      (FeaturesCall.replied (.ok ⟨methods, text⟩)).contact = .answered serverInfo := by
    intro methods
    obtain ⟨features, read⟩ := reported methods
    exact ⟨⟨version, features⟩, by rw [FeaturesCall.contact, read]⟩
  constructor
  case reported => exact reported
  case compares =>
    intro methods serverInfo read
    obtain ⟨features, given⟩ := reported methods
    rw [given] at read
    cases read
    exact version.comparesAs
  case connects =>
    intro connection world locals node methods parses reply
    obtain ⟨serverInfo, answered⟩ := contact methods
    rw [← reply] at answered
    exact ⟨_, _, NodeConnection.contactTurn_answered parses answered, rfl⟩
  case kept =>
    intro actor world node methods parses reply
    obtain ⟨serverInfo, answered⟩ := contact methods
    rw [← reply] at answered
    have result := actor.connection.next_named parses answered
    simp only [Connection.process, Option.map_some, result]
    exact Option.some_ne_none _

/-- A suffix is harmless just if no digit of it leaks into the patch number, or only zeros do into
zero. -/
theorem tagged_version_understood_iff {major minor patch suffix : List Char} {a b c : Nat}
    (majorNumeral : Numeral major a) (minorNumeral : Numeral minor b)
    (patchNumeral : Numeral patch c) :
    UnderstoodAs (versionText major minor patch suffix) ⟨a, b, c⟩ ↔
      ∀ char ∈ leakedDigits suffix, c = 0 ∧ char = '0' := by
  have leaked : ∀ char ∈ leakedDigits suffix, char.isDigit := fun char member =>
    (List.mem_filter.mp member).2
  have longer : Nat.ofDigitChars 10 (patch ++ leakedDigits suffix) 0 =
      Nat.ofDigitChars 10 (leakedDigits suffix) c := by
    rw [Nat.ofDigitChars_append, patchNumeral.value]
  have all : ∀ char ∈ patch ++ leakedDigits suffix, char.isDigit := by
    intro char member
    rcases List.mem_append.mp member with own | later
    · exact patchNumeral.all char own
    · exact leaked char later
  have present : patch ++ leakedDigits suffix ≠ [] :=
    List.append_ne_nil_of_left_ne_nil patchNumeral.present _
  constructor
  · intro understood
    obtain ⟨features, read⟩ := understood.reported []
    rw [supportedMethods_version majorNumeral minorNumeral patchNumeral] at read
    cases parsed : parseUnsigned u64Bound (String.ofList (patch ++ leakedDigits suffix)) with
    | none =>
        rw [parsed] at read
        cases read
    | some number =>
        rw [parsed] at read
        cases read
        rw [parseUnsigned_digits (by rwa [String.toList_ofList]) (by rwa [String.toList_ofList]),
          String.toList_ofList] at parsed
        exact (ofDigitChars_eq_self_iff leaked c).mp (longer.symm.trans (parseDigits_value parsed).2)
  · intro harmless
    have same : Numeral (patch ++ leakedDigits suffix) c :=
      ⟨present, all, longer.trans ((ofDigitChars_eq_self_iff leaked c).mpr harmless),
        patchNumeral.bounded⟩
    apply understood_of_reported
    intro methods
    rw [supportedMethods_version majorNumeral minorNumeral patchNumeral,
      parseUnsigned_numeral same]
    exact ⟨_, rfl⟩

/-- A nightly build of 24.2.0, whose tag has its digits after a dot. -/
theorem nightly_understood :
    UnderstoodAs (versionText ['2', '4'] ['2'] ['0'] "-nightly.20240115".toList) ⟨24, 2, 0⟩ ↔
      ∀ char ∈ leakedDigits "-nightly.20240115".toList, 0 = 0 ∧ char = '0' :=
  tagged_version_understood_iff (.of_all (by decide) (by decide) rfl (by decide))
    (.of_all (by decide) (by decide) rfl (by decide))
    (.of_all (by decide) (by decide) rfl (by decide))

/-- The release candidate 24.2.0-rc1 counts as 24.2.1, and a time stamp stops the actor. -/
theorem release_candidate_misread :
    ¬ UnderstoodAs (versionText ['2', '4'] ['2'] ['0'] "-rc1".toList) ⟨24, 2, 0⟩ ∧
      supportedMethods (.ok ⟨[], "24.2.0-alpha-20240115093000123456"⟩) =
        .error (Status.new .invalidArgument "invalid semver format") := by
  constructor
  · intro understood
    obtain ⟨features, read⟩ := understood.reported []
    have other : supportedMethods (.ok ⟨[], versionText ['2', '4'] ['2'] ['0'] "-rc1".toList⟩) =
        .ok ⟨⟨24, 2, 1⟩, Features.nothing⟩ := by decide
    rw [other] at read
    cases read
  · decide

end TrogonEventStore

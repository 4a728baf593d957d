import TrogonEventStore.ConnectionString
import TrogonEventStore.Library.Replacement

namespace TrogonEventStore

open Replacement

def Slashed (text other : String) : Prop :=
  List.Forall₂ (fun char after => after = char ∨ char = ',' ∧ after = '/') text.toList other.toList

theorem commasToSlashes_toList (s : String) :
    (commasToSlashes s).toList = replaced ',' '/' s.toList := String.toList_ofList

theorem map_ok {Error First Second : Type} {result : Except Error First} {f : First → Second}
    {value : Second} (mapped : result.map f = .ok value) :
    ∃ first, result = .ok first ∧ f first = value := by
  cases result with
  | error error => cases mapped
  | ok first =>
      cases mapped
      exact ⟨first, rfl, rfl⟩

theorem foldParams_cons {pair : String × String} {pairs : List (String × String)}
    {settings next : ClientSettings} :
    (pair :: pairs).foldlM readParam settings = .ok next ↔
      ∃ update, paramUpdate pair = .ok update ∧
        pairs.foldlM readParam (update settings) = .ok next := by
  rw [List.foldlM_cons, readParam]
  cases paramUpdate pair with
  | error error =>
      constructor
      · intro impossible
        cases impossible
      · intro ⟨_, impossible, _⟩
        cases impossible
  | ok update =>
      constructor
      · intro folded
        exact ⟨update, rfl, folded⟩
      · intro ⟨_, same, folded⟩
        cases same
        exact folded

theorem readParams_ok_iff {pairs : List (String × String)} {settings next : ClientSettings} :
    readParams settings pairs = .ok next ↔
      pairs.foldlM readParam settings = .ok next ∧
        (next.userKeyFile.isNone ^^ next.userCertFile.isNone) = false := by
  unfold readParams
  cases pairs.foldlM readParam settings with
  | error error =>
      constructor
      · intro impossible
        cases impossible
      · intro ⟨impossible, _⟩
        cases impossible
  | ok settled =>
      change (if settled.userKeyFile.isNone ^^ settled.userCertFile.isNone then _ else _) = _ ↔ _
      constructor
      · intro read
        split at read
        · cases read
        · next whole =>
            cases read
            exact ⟨rfl, Bool.eq_false_iff.mpr whole⟩
      · intro ⟨same, whole⟩
        cases same
        exact if_neg (Bool.eq_false_iff.mp whole)

/-- Settings that differ at most in what the check of the user certificate does not look at. -/
structure Alike (settings other : ClientSettings) : Prop where
  key : settings.userKeyFile.isNone = other.userKeyFile.isNone
  cert : settings.userCertFile.isNone = other.userCertFile.isNone

structure Harmless (update other : ClientSettings → ClientSettings) : Prop where
  hosts : ∀ settings, (other settings).hosts = settings.hosts
  alike : ∀ settings twin, Alike settings twin → Alike (update settings) (other twin)

theorem paramUpdate_harmless {pair : String × String} {update : ClientSettings → ClientSettings}
    (read : paramUpdate pair = .ok update) : Harmless update update := by
  unfold paramUpdate at read
  dsimp only at read
  split at read
  case h_10 | h_11 | h_12 | h_13 | h_14 =>
    cases read
    exact ⟨fun settings => rfl, fun settings twin alike => ⟨by first | rfl | exact alike.key,
      by first | rfl | exact alike.cert⟩⟩
  all_goals
    obtain ⟨value, _, rfl⟩ := map_ok read
    exact ⟨fun settings => rfl, fun settings twin alike => ⟨alike.key, alike.cert⟩⟩

def Stray (char : Char) : Prop := char = ',' ∨ char = '/'

theorem Stray.ne {char other : Char} (stray : Stray char) (comma : ',' ≠ other) (slash : '/' ≠ other) :
    char ≠ other := by
  rcases stray with rfl | rfl
  · exact comma
  · exact slash

theorem readDigits_stray (bound : Nat) (overflow : ParseIntError) (value : Nat)
    (chars : List Char) {stray : Char} (odd : Stray stray) (present : stray ∈ chars) :
    ∃ error, readDigits bound overflow value chars = .error error := by
  induction chars generalizing value with
  | nil => cases present
  | cons char chars ih =>
      rw [readDigits]
      split
      · next digit =>
          rcases List.mem_cons.mp present with rfl | later
          · rcases odd with rfl | rfl
            · exact absurd digit (by decide)
            · exact absurd digit (by decide)
          · dsimp only
            split
            · exact ih _ later
            · exact ⟨overflow, rfl⟩
      · exact ⟨.invalidDigit, rfl⟩

theorem readU64_plain {text : String} {value : Nat} (read : readU64 text = .ok value)
    {stray : Char} (odd : Stray stray) : stray ∉ text.toList := by
  intro present
  unfold readU64 at read
  split at read
  · cases read
  · cases read
  · next digits _ signed =>
      rw [signed] at present
      have later : stray ∈ digits :=
        (List.mem_cons.mp present).resolve_left (odd.ne (by decide) (by decide))
      obtain ⟨error, fails⟩ := readDigits_stray u64Bound .posOverflow 0 digits odd later
      rw [fails] at read
      cases read
  · obtain ⟨error, fails⟩ := readDigits_stray u64Bound .posOverflow 0 text.toList odd present
    rw [fails] at read
    cases read

theorem readI64_plain {text : String} {value : Int} (read : readI64 text = .ok value)
    {stray : Char} (odd : Stray stray) : stray ∉ text.toList := by
  intro present
  have fails : ∀ bound overflow digits, stray ∈ digits →
      ∀ parsed, readDigits bound overflow 0 digits ≠ .ok parsed := by
    intro bound overflow digits inside parsed same
    obtain ⟨error, fails⟩ := readDigits_stray bound overflow 0 digits odd inside
    rw [fails] at same
    cases same
  have plus := odd.ne (by decide : ',' ≠ '+') (by decide)
  have minus := odd.ne (by decide : ',' ≠ '-') (by decide)
  unfold readI64 at read
  split at read
  · cases read
  · cases read
  · cases read
  · next digits _ signed =>
      rw [signed] at present
      obtain ⟨parsed, same, _⟩ := map_ok read
      exact fails _ _ digits ((List.mem_cons.mp present).resolve_left plus) parsed same
  · next digits _ signed =>
      rw [signed] at present
      obtain ⟨parsed, same, _⟩ := map_ok read
      exact fails _ _ digits ((List.mem_cons.mp present).resolve_left minus) parsed same
  · obtain ⟨parsed, same, _⟩ := map_ok read
    exact fails _ _ _ present parsed same

theorem parseParam_ok {Value : Type} {read : String → Except String Value} {name text : String}
    {value : Value} (parsed : parseParam read name text = .ok value) : read text = .ok value := by
  unfold parseParam at parsed
  split at parsed
  · cases parsed
  · next same =>
      cases parsed
      exact same

theorem mapError_ok {Error Other Value : Type} {result : Except Error Value} {f : Error → Other}
    {value : Value} (mapped : result.mapError f = .ok value) : result = .ok value := by
  cases result with
  | error error => cases mapped
  | ok first =>
      cases mapped
      rfl

section Plain

variable {label name text : String} {stray : Char}

theorem parseU64Param_plain {value : Nat} (parsed : parseU64Param name text = .ok value)
    (odd : Stray stray) : stray ∉ text.toList :=
  readU64_plain (mapError_ok (parseParam_ok parsed)) odd

theorem parseBoolParam_plain {value : Bool} (parsed : parseBoolParam name text = .ok value)
    (odd : Stray stray) : stray ∉ text.toList := by
  have read := parseParam_ok parsed
  unfold readBool at read
  split at read
  · next same =>
      rw [same]
      rcases odd with rfl | rfl <;> decide
  · split at read
    · next same =>
        rw [same]
        rcases odd with rfl | rfl <;> decide
    · cases read

theorem parseMillisParam_read {recommended : Int} {value : Option Duration}
    (parsed : parseMillisParam label recommended name text = .ok value) :
    ∃ number, readI64 text = .ok number := by
  unfold parseMillisParam at parsed
  cases read : parseI64Param name text with
  | error error =>
      rw [read] at parsed
      cases parsed
  | ok number => exact ⟨number, mapError_ok (parseParam_ok read)⟩

theorem parseMillisParam_plain {recommended : Int} {value : Option Duration}
    (parsed : parseMillisParam label recommended name text = .ok value) (odd : Stray stray) :
    stray ∉ text.toList := by
  obtain ⟨number, read⟩ := parseMillisParam_read parsed
  exact readI64_plain read odd

theorem toLowercase_stray (odd : Stray stray) (present : stray ∈ text.toList) :
    stray ∈ (toLowercase text).toList := by
  rw [toLowercase, String.toList_ofList]
  refine List.mem_map.mpr ⟨stray, present, ?_⟩
  rcases odd with rfl | rfl <;> decide

theorem parseNodePreference_plain {value : NodePreference}
    (parsed : parseNodePreference text = .ok value) (odd : Stray stray) : stray ∉ text.toList := by
  intro present
  have lowered := toLowercase_stray odd present
  unfold parseNodePreference at parsed
  split at parsed
  case h_5 => cases parsed
  all_goals
    next same =>
      rw [same] at lowered
      rcases odd with rfl | rfl <;> exact absurd lowered (by decide)

theorem paramUpdate_unknown {value : String} (odd : Stray stray) (present : stray ∈ name.toList) :
    paramUpdate (name, value) = .ok id := by
  have lowered := toLowercase_stray odd present
  unfold paramUpdate
  dsimp only
  split
  case h_14 => rfl
  all_goals
    next same =>
      rw [same] at lowered
      rcases odd with rfl | rfl <;> exact absurd lowered (by decide)

end Plain

theorem slashed_cases {chars others : List Char}
    (slashed : List.Forall₂ (fun char after => after = char ∨ char = ',' ∧ after = '/') chars
      others) :
    (',' ∉ chars ∧ others = chars) ∨
      (',' ∈ chars ∧ ∃ char ∈ others, char = ',' ∨ char = '/') := by
  induction slashed with
  | nil => exact Or.inl ⟨List.not_mem_nil, rfl⟩
  | @cons char after chars others first rest ih =>
      by_cases comma : char = ','
      · refine Or.inr ⟨comma ▸ List.mem_cons_self, after, List.mem_cons_self, ?_⟩
        rcases first with same | ⟨_, slashed⟩
        · exact Or.inl (same.trans comma)
        · exact Or.inr slashed
      · have same : after = char := first.resolve_right fun given => comma given.1
        rcases ih with ⟨none, unchanged⟩ | ⟨some, stray, present, kind⟩
        · refine Or.inl ⟨?_, by rw [same, unchanged]⟩
          intro present
          rcases List.mem_cons.mp present with impossible | later
          · exact comma impossible.symm
          · exact none later
        · exact Or.inr ⟨List.mem_cons_of_mem _ some, stray, List.mem_cons_of_mem _ present, kind⟩

/-- A parameter that was accepted is accepted with slashes for its commas. -/
theorem paramUpdate_slashed {pair other : String × String}
    {update : ClientSettings → ClientSettings} (name : Slashed pair.1 other.1)
    (value : Slashed pair.2 other.2) (read : paramUpdate pair = .ok update) :
    ∃ after, paramUpdate other = .ok after ∧ Harmless update after := by
  obtain ⟨name₁, value₁⟩ := pair
  obtain ⟨name₂, value₂⟩ := other
  have harmless := paramUpdate_harmless read
  rcases slashed_cases name with ⟨_, sameName⟩ | ⟨comma, stray, present, kind⟩
  · have names : name₂ = name₁ := String.toList_inj.mp sameName
    subst names
    rcases slashed_cases value with ⟨_, sameValue⟩ | ⟨comma, _⟩
    · have values : value₂ = value₁ := String.toList_inj.mp sameValue
      subst values
      exact ⟨update, read, harmless⟩
    · unfold paramUpdate at read ⊢
      dsimp only at read ⊢
      split at read
      case h_1 | h_2 | h_3 =>
        obtain ⟨parsed, same, _⟩ := map_ok read
        exact absurd comma (parseU64Param_plain same (Or.inl rfl))
      case h_4 | h_5 =>
        obtain ⟨parsed, same, _⟩ := map_ok read
        exact absurd comma (parseBoolParam_plain same (Or.inl rfl))
      case h_6 =>
        obtain ⟨parsed, same, _⟩ := map_ok read
        exact absurd comma (parseNodePreference_plain same (Or.inl rfl))
      case h_7 | h_8 | h_9 =>
        obtain ⟨parsed, same, _⟩ := map_ok read
        exact absurd comma (parseMillisParam_plain same (Or.inl rfl))
      all_goals
        cases read
        refine ⟨_, rfl, fun settings => rfl, fun settings twin alike => ?_⟩
        exact ⟨by first | rfl | exact alike.key, by first | rfl | exact alike.cert⟩
  · have unknown : paramUpdate (name₁, value₁) = .ok id :=
      paramUpdate_unknown (Or.inl rfl) comma
    rw [unknown] at read
    cases read
    exact ⟨id, paramUpdate_unknown kind present, harmless⟩

theorem foldParams_slashed {pairs others : List (String × String)} {settings next : ClientSettings}
    (twin : ClientSettings) (alike : Alike settings twin)
    (slashed : List.Forall₂ (fun pair other => Slashed pair.1 other.1 ∧ Slashed pair.2 other.2)
      pairs others) (read : pairs.foldlM readParam settings = .ok next) :
    ∃ after, others.foldlM readParam twin = .ok after ∧ after.hosts = twin.hosts ∧
      Alike next after := by
  induction slashed generalizing settings twin with
  | nil =>
      cases read
      exact ⟨twin, rfl, rfl, alike⟩
  | @cons pair other pairs others first rest ih =>
      obtain ⟨update, parsed, folded⟩ := foldParams_cons.mp read
      obtain ⟨after, again, harmless⟩ := paramUpdate_slashed first.1 first.2 parsed
      have alikeNext := harmless.alike settings twin alike
      obtain ⟨final, rest, hosts, alikeFinal⟩ := ih (after twin) alikeNext folded
      exact ⟨final, foldParams_cons.mpr ⟨after, again, rest⟩, hosts.trans (harmless.hosts twin),
        alikeFinal⟩

theorem readParams_slashed {pairs others : List (String × String)} {settings next : ClientSettings}
    (twin : ClientSettings) (alike : Alike settings twin)
    (slashed : List.Forall₂ (fun pair other => Slashed pair.1 other.1 ∧ Slashed pair.2 other.2)
      pairs others) (read : readParams settings pairs = .ok next) :
    ∃ after, readParams twin others = .ok after ∧ after.hosts = twin.hosts := by
  obtain ⟨folded, whole⟩ := readParams_ok_iff.mp read
  obtain ⟨after, again, hosts, alikeAfter⟩ := foldParams_slashed twin alike slashed folded
  rw [alikeAfter.key, alikeAfter.cert] at whole
  exact ⟨after, readParams_ok_iff.mpr ⟨again, whole⟩, hosts⟩

end TrogonEventStore

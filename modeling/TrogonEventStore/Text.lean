import Mathlib.Algebra.Group.Int.Defs
import Mathlib.Algebra.Group.Nat.Defs
import Mathlib.Data.List.Basic

namespace TrogonEventStore

abbrev Bytes := List UInt8

/-- Digits of an unsigned integer below `bound`; any other character or an overflow is an error. -/
def parseDigits (bound : Nat) : Nat → List Char → Option Nat
  | value, [] => some value
  | value, char :: chars =>
      if char.isDigit then
        let next := 10 * value + (char.toNat - '0'.toNat)
        if next < bound then parseDigits bound next chars else none
      else none

/-- `str::parse` for an unsigned integer type: an optional plus sign and at least one digit. -/
def parseUnsigned (bound : Nat) (text : String) : Option Nat :=
  match text.toList with
  | [] => none
  | ['+'] => none
  | '+' :: digits => parseDigits bound 0 digits
  | digits => parseDigits bound 0 digits

theorem ofDigitChars_ge (chars : List Char) (value : Nat) :
    value ≤ Nat.ofDigitChars 10 chars value := by
  induction chars generalizing value with
  | nil => exact Nat.le_of_eq Nat.ofDigitChars_nil.symm
  | cons char chars ih =>
      rw [Nat.ofDigitChars_cons]
      have rest := ih (10 * value + (char.toNat - '0'.toNat))
      omega

theorem parseDigits_digits (bound value : Nat) (chars : List Char)
    (digits : ∀ char ∈ chars, char.isDigit)
    (below : Nat.ofDigitChars 10 chars value < bound) :
    parseDigits bound value chars = some (Nat.ofDigitChars 10 chars value) := by
  induction chars generalizing value with
  | nil => rw [parseDigits, Nat.ofDigitChars_nil]
  | cons char chars ih =>
      rw [Nat.ofDigitChars_cons] at below ⊢
      have next := ofDigitChars_ge chars (10 * value + (char.toNat - '0'.toNat))
      rw [parseDigits, if_pos (digits char List.mem_cons_self), if_pos (by omega)]
      exact ih _ (fun other later => digits other (List.mem_cons_of_mem _ later)) below

theorem parseDigits_none (bound value : Nat) (chars : List Char)
    (stray : ∃ char ∈ chars, char.isDigit = false) : parseDigits bound value chars = none := by
  induction chars generalizing value with
  | nil =>
      obtain ⟨char, impossible, _⟩ := stray
      cases impossible
  | cons char chars ih =>
      obtain ⟨other, present, odd⟩ := stray
      rw [parseDigits]
      split
      · next digit =>
          rcases List.mem_cons.mp present with rfl | later
          · rw [odd] at digit
            cases digit
          · dsimp only
            split
            · exact ih _ ⟨other, later, odd⟩
            · rfl
      · rfl

theorem parseDigits_lt {bound value number : Nat} {chars : List Char} (below : value < bound)
    (parsed : parseDigits bound value chars = some number) : number < bound := by
  induction chars generalizing value with
  | nil =>
      cases parsed
      exact below
  | cons char chars ih =>
      rw [parseDigits] at parsed
      split at parsed
      · dsimp only at parsed
        split at parsed
        · next fits => exact ih fits parsed
        · cases parsed
      · cases parsed

theorem parseUnsigned_lt {bound number : Nat} {text : String} (positive : 0 < bound)
    (parsed : parseUnsigned bound text = some number) : number < bound := by
  unfold parseUnsigned at parsed
  split at parsed
  · cases parsed
  · cases parsed
  · exact parseDigits_lt positive parsed
  · exact parseDigits_lt positive parsed

theorem toString_digits (value : Nat) : ∀ char ∈ (toString value).toList, char.isDigit := by
  intro char present
  rw [Nat.toString_eq_repr, Nat.toList_repr] at present
  exact Nat.isDigit_of_mem_toDigits (by decide) (by decide) present

theorem toString_ne_nil (value : Nat) : (toString value).toList ≠ [] := by
  rw [Nat.toString_eq_repr, Nat.toList_repr]
  exact Nat.toDigits_ne_nil

theorem parseDigits_toString {bound value : Nat} (below : value < bound) :
    parseDigits bound 0 (toString value).toList = some value := by
  have same : Nat.ofDigitChars 10 (toString value).toList 0 = value := by
    rw [Nat.toString_eq_repr, Nat.toList_repr, Nat.ofDigitChars_ten_toDigits]
  have read := parseDigits_digits bound 0 _ (toString_digits value) (by omega)
  rw [read, same]

theorem parseUnsigned_digits {bound : Nat} {text : String} (present : text.toList ≠ [])
    (digits : ∀ char ∈ text.toList, char.isDigit) :
    parseUnsigned bound text = parseDigits bound 0 text.toList := by
  unfold parseUnsigned
  split
  · next empty => exact absurd empty present
  · next plus =>
      have impossible := digits '+' (by rw [plus]; exact List.mem_cons_self)
      exact absurd impossible (by decide)
  · next others plus =>
      have impossible := digits '+' (by rw [plus]; exact List.mem_cons_self)
      exact absurd impossible (by decide)
  · rfl

theorem parseUnsigned_toString {bound value : Nat} (below : value < bound) :
    parseUnsigned bound (toString value) = some value := by
  rw [parseUnsigned_digits (toString_ne_nil value) (toString_digits value)]
  exact parseDigits_toString below

def u32Bound : Nat := 2 ^ 32
def u64Bound : Nat := 2 ^ 64

structure Numeral (digits : List Char) (number : Nat) : Prop where
  present : digits ≠ []
  all : ∀ char ∈ digits, char.isDigit
  value : Nat.ofDigitChars 10 digits 0 = number
  bounded : number < u64Bound

theorem Numeral.of_all {digits : List Char} {number : Nat} (present : digits ≠ [])
    (all : digits.all Char.isDigit) (value : Nat.ofDigitChars 10 digits 0 = number)
    (bounded : number < u64Bound) : Numeral digits number :=
  ⟨present, List.all_eq_true.mp all, value, bounded⟩

theorem parseDigits_value {bound value number : Nat} {chars : List Char}
    (parsed : parseDigits bound value chars = some number) :
    (∀ char ∈ chars, char.isDigit) ∧ Nat.ofDigitChars 10 chars value = number := by
  induction chars generalizing value with
  | nil =>
      cases parsed
      exact ⟨fun _ impossible => absurd impossible List.not_mem_nil, Nat.ofDigitChars_nil⟩
  | cons char chars ih =>
      rw [parseDigits] at parsed
      split at parsed
      · next digit =>
          dsimp only at parsed
          split at parsed
          · obtain ⟨digits, same⟩ := ih parsed
            refine ⟨?_, ?_⟩
            · intro other member
              rcases List.mem_cons.mp member with rfl | later
              · exact digit
              · exact digits other later
            · rw [Nat.ofDigitChars_cons]
              exact same
          · cases parsed
      · cases parsed

theorem numeral_iff {digits : List Char} {value : Nat} :
    Numeral digits value ↔ digits ≠ [] ∧ parseDigits u64Bound 0 digits = some value := by
  constructor
  · intro numeral
    have read := parseDigits_digits u64Bound 0 digits numeral.all
      (numeral.value ▸ numeral.bounded)
    exact ⟨numeral.present, read.trans (congrArg some numeral.value)⟩
  · intro ⟨present, parsed⟩
    obtain ⟨all, same⟩ := parseDigits_value parsed
    exact ⟨present, all, same, parseDigits_lt (by decide) parsed⟩

theorem toString_numeral {value : Nat} (below : value < u64Bound) :
    Numeral (toString value).toList value :=
  numeral_iff.mpr ⟨toString_ne_nil value, parseDigits_toString below⟩

theorem numeral_head {char : Char} {chars : List Char} {number : Nat}
    (numeral : Numeral (char :: chars) number) : char.isDigit :=
  numeral.all char List.mem_cons_self

theorem parseUnsigned_iff {input : String} {number : Nat} :
    parseUnsigned u64Bound input = some number ↔
      Numeral input.toList number ∨ ∃ digits, Numeral digits number ∧ input.toList = '+' :: digits := by
  unfold parseUnsigned
  have plus : ¬ '+'.isDigit := by decide
  split
  · next empty =>
      refine iff_of_false (fun impossible => Option.some_ne_none _ impossible.symm) ?_
      rintro (numeral | ⟨digits, _, same⟩)
      · exact numeral.present empty
      · rw [empty] at same
        cases same
  · next alone =>
      refine iff_of_false (fun impossible => Option.some_ne_none _ impossible.symm) ?_
      rintro (numeral | ⟨digits, numeral, same⟩)
      · rw [alone] at numeral
        exact plus (numeral_head numeral)
      · rw [alone] at same
        cases same
        exact numeral.present rfl
  · next digits some_digits signed =>
      rw [signed]
      constructor
      · intro parsed
        exact Or.inr ⟨digits, numeral_iff.mpr ⟨some_digits, parsed⟩, rfl⟩
      · rintro (numeral | ⟨others, numeral, same⟩)
        · exact absurd (numeral_head numeral) plus
        · cases same
          exact (numeral_iff.mp numeral).2
  · next present _ unsigned =>
      constructor
      · intro parsed
        exact Or.inl (numeral_iff.mpr ⟨present, parsed⟩)
      · rintro (numeral | ⟨digits, numeral, same⟩)
        · exact (numeral_iff.mp numeral).2
        · exact absurd same (unsigned digits)

/-- `HeaderValue::to_str`: tabs and visible ASCII only. -/
def headerToStr (value : Bytes) : Option String :=
  if value.all (fun byte => (32 ≤ byte && byte < 127) || byte == 9) then
    some (String.ofList (value.map fun byte => Char.ofNat byte.toNat))
  else none

def continuationByte (byte : UInt8) : Bool := 0x80 ≤ byte && byte ≤ 0xBF

/-- The range the second byte of a multi-byte sequence must lie in, by its first byte. -/
def secondByteRange (first : UInt8) : UInt8 × UInt8 :=
  if first = 0xE0 then (0xA0, 0xBF)
  else if first = 0xED then (0x80, 0x9F)
  else if first = 0xF0 then (0x90, 0xBF)
  else if first = 0xF4 then (0x80, 0x8F)
  else (0x80, 0xBF)

def sequenceTail (first : UInt8) : Option Nat :=
  if first < 0x80 then some 0
  else if 0xC2 ≤ first && first ≤ 0xDF then some 1
  else if 0xE0 ≤ first && first ≤ 0xEF then some 2
  else if 0xF0 ≤ first && first ≤ 0xF4 then some 3
  else none

/-- Length of the longest valid start of the announced continuation. -/
def validTail (first : UInt8) (tail : Nat) (rest : Bytes) : Nat :=
  match tail, rest with
  | 0, _ => 0
  | _, [] => 0
  | tail + 1, second :: others =>
      if (secondByteRange first).1 ≤ second && second ≤ (secondByteRange first).2 then
        1 + ((others.take tail).takeWhile continuationByte).length
      else 0

def scalarValue (first : UInt8) (rest : Bytes) : Nat → Char
  | 0 => Char.ofNat first.toNat
  | tail => Char.ofNat ((rest.take tail).foldl (fun value byte => value * 64 + byte.toNat % 64)
      (first.toNat % 2 ^ (6 - tail)))

def replacement : Char := Char.ofNat 0xFFFD

/-- One decoded character per valid sequence, one replacement character per maximal
invalid start; every round consumes at least one byte. -/
def decodeLossy : Nat → Bytes → List Char
  | 0, _ => []
  | _, [] => []
  | fuel + 1, first :: rest =>
      match sequenceTail first with
      | none => replacement :: decodeLossy fuel rest
      | some tail =>
          let valid := validTail first tail rest
          if valid = tail then scalarValue first rest tail :: decodeLossy fuel (rest.drop tail)
          else replacement :: decodeLossy fuel (rest.drop valid)

def fromUtf8Lossy (bytes : Bytes) : String :=
  String.ofList (decodeLossy bytes.length bytes)

end TrogonEventStore

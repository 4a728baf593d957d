import Mathlib.Data.List.Basic

/-! Percent-encoding: the characters a writer does not keep are spelled as their UTF-8 bytes, each
in two hexadecimal digits. -/

namespace PercentEncoding

def hexDigits : List Char := "0123456789ABCDEF".toList

def hexDigit (value : Nat) : Char := hexDigits.getD value '0'

def escapeByte (byte : UInt8) : List Char :=
  ['%', hexDigit (byte.toNat / 16), hexDigit (byte.toNat % 16)]

def encodeChar (kept : Char → Bool) (char : Char) : List Char :=
  if kept char then [char] else (String.utf8EncodeChar char).flatMap escapeByte

def encode (kept : Char → Bool) (text : List Char) : List Char := text.flatMap (encodeChar kept)

variable {kept : Char → Bool}

theorem hexDigit_mem (value : Nat) : hexDigit value ∈ hexDigits := by
  unfold hexDigit
  rw [List.getD_eq_getElem?_getD]
  cases found : hexDigits[value]? with
  | none => decide
  | some char => exact List.mem_of_getElem? found

theorem encodeChar_escaped {char : Char} (escaped : kept char = false) :
    1 < (encodeChar kept char).length := by
  unfold encodeChar
  rw [escaped]
  cases bytes : String.utf8EncodeChar char with
  | nil => exact absurd bytes String.utf8EncodeChar_ne_nil
  | cons byte bytes =>
      rw [if_neg Bool.false_ne_true, List.flatMap_cons, List.length_append]
      have three : (escapeByte byte).length = 3 := rfl
      omega

theorem encodeChar_kept {char : Char} (same : kept char = true) : encodeChar kept char = [char] :=
  if_pos same

theorem encode_length (text : List Char) : text.length ≤ (encode kept text).length := by
  induction text with
  | nil => exact Nat.le_refl _
  | cons char text ih =>
      unfold encode at ih ⊢
      rw [List.flatMap_cons, List.length_append, List.length_cons]
      cases same : kept char with
      | true =>
          rw [encodeChar_kept same, List.length_singleton]
          omega
      | false =>
          have longer := encodeChar_escaped same
          omega

theorem encode_eq_self_iff (text : List Char) :
    encode kept text = text ↔ ∀ char ∈ text, kept char = true := by
  induction text with
  | nil => exact iff_of_true rfl fun char impossible => absurd impossible List.not_mem_nil
  | cons char text ih =>
      rw [List.forall_mem_cons, ← ih, encode, List.flatMap_cons]
      cases same : kept char with
      | true =>
          rw [encodeChar_kept same, List.singleton_append, List.cons.injEq]
          exact and_congr_left fun _ => iff_of_true rfl rfl
      | false =>
          refine iff_of_false ?_ fun both => Bool.false_ne_true both.1
          intro equal
          have lengths := congrArg List.length equal
          have longer := encodeChar_escaped same
          have rest : text.length ≤ (encode kept text).length := encode_length text
          unfold encode at rest
          rw [List.length_append, List.length_cons] at lengths
          omega

theorem encode_chars (text : List Char) {char : Char} (present : char ∈ encode kept text) :
    kept char = true ∨ char = '%' ∨ char ∈ hexDigits := by
  obtain ⟨source, _, written⟩ := List.mem_flatMap.mp present
  unfold encodeChar at written
  split at written
  · next same =>
      cases List.mem_singleton.mp written
      exact Or.inl same
  · obtain ⟨byte, _, escaped⟩ := List.mem_flatMap.mp written
    refine Or.inr ?_
    rcases List.mem_cons.mp escaped with percent | digits
    · exact Or.inl percent
    · refine Or.inr ?_
      rcases List.mem_cons.mp digits with rfl | last
      · exact hexDigit_mem _
      · cases List.mem_singleton.mp last
        exact hexDigit_mem _

def hexValue (char : Char) : Option Nat :=
  if char.isDigit then some (char.toNat - '0'.toNat)
  else if 'A' ≤ char ∧ char ≤ 'F' then some (char.toNat - 'A'.toNat + 10)
  else if 'a' ≤ char ∧ char ≤ 'f' then some (char.toNat - 'a'.toNat + 10)
  else none

/-- The bytes a text stands for; a percent sign without two digits stands for itself. -/
def decode : List Char → List UInt8
  | [] => []
  | [char] => String.utf8EncodeChar char
  | [first, second] => String.utf8EncodeChar first ++ String.utf8EncodeChar second
  | char :: high :: low :: rest =>
      if char = '%' then
        match hexValue high, hexValue low with
        | some upper, some lower => UInt8.ofNat (16 * upper + lower) :: decode rest
        | _, _ => String.utf8EncodeChar char ++ decode (high :: low :: rest)
      else String.utf8EncodeChar char ++ decode (high :: low :: rest)

theorem decode_cons {char : Char} (plain : char ≠ '%') (rest : List Char) :
    decode (char :: rest) = String.utf8EncodeChar char ++ decode rest := by
  match rest with
  | [] => rw [decode, decode, List.append_nil]
  | [second] => rw [decode, decode]
  | high :: low :: rest => rw [decode, if_neg plain]

theorem hexValue_hexDigit {value : Nat} (small : value < 16) :
    hexValue (hexDigit value) = some value := by
  have all : ∀ digit : Fin 16, hexValue (hexDigit digit) = some digit.val := by decide
  exact all ⟨value, small⟩

theorem decode_escapeByte (byte : UInt8) (rest : List Char) :
    decode (escapeByte byte ++ rest) = byte :: decode rest := by
  have bound : byte.toNat < 256 := byte.toNat_lt
  have high : byte.toNat / 16 < 16 := by omega
  have low : byte.toNat % 16 < 16 := by omega
  have whole : 16 * (byte.toNat / 16) + byte.toNat % 16 = byte.toNat := by omega
  change decode ('%' :: hexDigit (byte.toNat / 16) :: hexDigit (byte.toNat % 16) :: rest) = _
  rw [decode, if_pos rfl, hexValue_hexDigit high, hexValue_hexDigit low]
  simp only [whole, UInt8.ofNat_toNat]

theorem decode_escaped (bytes : List UInt8) (rest : List Char) :
    decode (bytes.flatMap escapeByte ++ rest) = bytes ++ decode rest := by
  induction bytes with
  | nil => rfl
  | cons byte bytes ih =>
      rw [List.flatMap_cons, List.append_assoc, decode_escapeByte, ih, List.cons_append]

/-- An encoded text stands for its own bytes, provided that percent signs are escaped. -/
theorem decode_encode (escapes : kept '%' = false) (text : List Char) :
    decode (encode kept text) = text.flatMap String.utf8EncodeChar := by
  induction text with
  | nil => rfl
  | cons char text ih =>
      rw [encode, List.flatMap_cons, List.flatMap_cons]
      change decode (encodeChar kept char ++ encode kept text) = _
      cases same : kept char with
      | true =>
          have plain : char ≠ '%' := by
            intro percent
            rw [percent, escapes] at same
            cases same
          rw [encodeChar_kept same, List.singleton_append, decode_cons plain, ih]
      | false => rw [encodeChar, same, if_neg Bool.false_ne_true, decode_escaped, ih]

end PercentEncoding

import TrogonEventStore.Subscription

namespace TrogonEventStore

inductive RevisionOrPosition where
  | revision (revision : Nat)
  | position (position : Position)
  deriving DecidableEq, Repr

def tag (text input : List Char) : Option (List Char) :=
  if text.isPrefixOf input then some (input.drop text.length) else none

/-- nom's `u64`: as many digits as there are, at least one. -/
def takeU64 (input : List Char) : Option (Nat × List Char) :=
  match input.takeWhile Char.isDigit with
  | [] => none
  | digits => (parseDigits u64Bound 0 digits).map fun value => (value, input.dropWhile Char.isDigit)

def parsePositionStartFrom (input : List Char) : Option (Position × List Char) := do
  let input ← tag ['C', ':'] input
  let (commit, input) ← takeU64 input
  let input ← tag ['/', 'P', ':'] input
  let (prepare, input) ← takeU64 input
  some (⟨commit, prepare⟩, input)

def parsePosition (input : String) : Except Error Position :=
  match parsePositionStartFrom input.toList with
  | some (pos, _) => .ok pos
  | none => .error (.internalParsingError
      ("Failed to parse a transaction log position: '" ++ input ++ "'"))

def parseRevisionOrPosition (input : String) : Except Error RevisionOrPosition :=
  match parseUnsigned u64Bound input with
  | some v => .ok (.revision v)
  | none =>
      match parsePosition input with
      | .ok pos => .ok (.position pos)
      | .error _ => .error (.internalParsingError
          ("Failed to parse either a stream revision or a transaction log position: '" ++ input ++
            "'"))

def parseStreamPosition (input : String) : Except Error (StreamPosition RevisionOrPosition) :=
  if input = "-1" ∨ input = "C:-1/P:-1" then .ok .atEnd
  else if input = "0" ∨ input = "C:0/P:0" then .ok .start
  else (parseRevisionOrPosition input).map StreamPosition.position

/-- The JSON values a stream position is read from. -/
inductive StreamPositionJson where
  | number (value : Int)
  | text (value : String)
  deriving DecidableEq, Repr

namespace StreamRevOrPosVisitor

def visitI64 (v : Int) : StreamPosition RevisionOrPosition :=
  if v = -1 then .atEnd
  else if v = 0 then .start
  else .position (.revision (BitVec.ofInt 64 v).toNat)

def visitU64 (v : Nat) : StreamPosition RevisionOrPosition :=
  if v = 0 then .start else .position (.revision v)

def visitStr (v : String) : Option (StreamPosition RevisionOrPosition) :=
  (parseStreamPosition v).toOption

/-- `deserialize_any` as serde_json calls the visitor: numbers that are no `u64` and no `i64` are
floats, which it does not take. -/
def deserialize : StreamPositionJson → Option (StreamPosition RevisionOrPosition)
  | .number value =>
      if 0 ≤ value ∧ value < u64Bound then some (visitU64 value.toNat)
      else if -2 ^ 63 ≤ value ∧ value < 0 then some (visitI64 value)
      else none
  | .text value => visitStr value

end StreamRevOrPosVisitor

theorem parsePosition_starts {input : String} {position : Position}
    (parsed : parsePosition input = .ok position) : ∃ rest, input.toList = 'C' :: ':' :: rest := by
  unfold parsePosition at parsed
  split at parsed
  · next read =>
      unfold parsePositionStartFrom at read
      cases tagged : tag ['C', ':'] input.toList with
      | none =>
          rw [tagged] at read
          cases read
      | some rest =>
          unfold tag at tagged
          split at tagged
          · next starts =>
              obtain ⟨others, whole⟩ := List.isPrefixOf_iff_prefix.mp starts
              exact ⟨others, whole.symm⟩
          · cases tagged
  · cases parsed

theorem parseRevisionOrPosition_position {input : String} {position : Position}
    (parsed : parsePosition input = .ok position) :
    parseRevisionOrPosition input = .ok (.position position) := by
  obtain ⟨rest, starts⟩ := parsePosition_starts parsed
  have letter : parseUnsigned u64Bound input = none := by
    unfold parseUnsigned
    rw [starts]
    exact parseDigits_none u64Bound 0 _ ⟨'C', List.mem_cons_self, by decide⟩
  simp only [parseRevisionOrPosition, letter, parsed]

theorem parseRevisionOrPosition_revision {value : Nat} (below : value < u64Bound) :
    parseRevisionOrPosition (toString value) = .ok (.revision value) := by
  simp only [parseRevisionOrPosition, parseUnsigned_toString below]

theorem parseStreamPosition_revision {value : Nat} (below : value < u64Bound) :
    parseStreamPosition (toString value) = .ok (StreamRevOrPosVisitor.visitU64 value) := by
  have plain : ∀ text : String, text.toList.all Char.isDigit = false → toString value ≠ text := by
    intro text odd same
    have digits : (toString value).toList.all Char.isDigit = true :=
      List.all_eq_true.mpr (toString_digits value)
    rw [same, odd] at digits
    cases digits
  have notEnd : ¬ (toString value = "-1" ∨ toString value = "C:-1/P:-1") := by
    rintro (same | same)
    · exact plain "-1" (by decide) same
    · exact plain "C:-1/P:-1" (by decide) same
  unfold parseStreamPosition StreamRevOrPosVisitor.visitU64
  rw [if_neg notEnd]
  by_cases zero : value = 0
  · rw [zero]
    rfl
  · have notStart : ¬ (toString value = "0" ∨ toString value = "C:0/P:0") := by
      rintro (same | same)
      · have read := parseUnsigned_toString below
        rw [same] at read
        have zeroText : parseUnsigned u64Bound "0" = some 0 := by decide
        rw [zeroText, Option.some.injEq] at read
        exact zero read.symm
      · exact plain "C:0/P:0" (by decide) same
    rw [if_neg notStart, if_neg zero, parseRevisionOrPosition_revision below]
    rfl

end TrogonEventStore

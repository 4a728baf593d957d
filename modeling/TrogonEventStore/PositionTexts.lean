import TrogonEventStore.Json
import TrogonEventStore.Positions

namespace TrogonEventStore

def PositionText (text : List Char) (position : Position) : Prop :=
  ∃ commit prepare, Numeral commit position.commit ∧ Numeral prepare position.prepare ∧
    text = 'C' :: ':' :: commit ++ '/' :: 'P' :: ':' :: prepare

def NoDigit (rest : List Char) : Prop := ∀ char chars, rest = char :: chars → char.isDigit = false

def Trailing (input : List Char) : Prop :=
  ∃ text position char rest, PositionText text position ∧ char.isDigit = false ∧
    input = text ++ char :: rest

def Signed (input : List Char) : Prop := ∃ digits number, Numeral digits number ∧ input = '+' :: digits

def Position.display (position : Position) : String :=
  "C:" ++ toString position.commit ++ "/P:" ++ toString position.prepare

/-- `Deserialize for Position`: only strings are visited. -/
def Position.deserialize : Json → Option Position
  | .string text => (parsePosition text).toOption
  | _ => none

def StreamPosition.serialize : StreamPosition RevisionOrPosition → Json
  | .start => .number 0
  | .position (.revision revision) => .number revision
  | .position (.position place) => .string place.display
  | .atEnd => .number (-1)

/-- `Deserialize for StreamPosition<RevisionOrPosition>`: numbers and strings are visited. -/
def StreamPosition.deserialize : Json → Option (StreamPosition RevisionOrPosition)
  | .number value => StreamRevOrPosVisitor.deserialize (.number value)
  | .string text => StreamRevOrPosVisitor.deserialize (.text text)
  | _ => none

/-- The stream position with this revision; revision 0 is also the start. -/
def StreamPosition.AtRevision (position : StreamPosition RevisionOrPosition) (revision : Nat) :
    Prop := position = .position (.revision revision) ∨ (position = .start ∧ revision = 0)

def StreamPosition.AtPosition (position : StreamPosition RevisionOrPosition) (place : Position) :
    Prop := position = .position (.position place) ∨ (position = .start ∧ place = ⟨0, 0⟩)

def StreamPositionText (text : List Char) (position : StreamPosition RevisionOrPosition) : Prop :=
  ((text = ['-', '1'] ∨ text = ['C', ':', '-', '1', '/', 'P', ':', '-', '1']) ∧ position = .atEnd) ∨
    (∃ revision, Numeral text revision ∧ position.AtRevision revision) ∨
    ∃ place, PositionText text place ∧ position.AtPosition place

def StreamPositionValue (value : Json) (position : StreamPosition RevisionOrPosition) : Prop :=
  match value with
  | .number number => (number = -1 ∧ position = .atEnd) ∨
      ∃ revision : Nat, revision < u64Bound ∧ number = revision ∧ position.AtRevision revision
  | .string text => StreamPositionText text.toList position
  | _ => False

/-- What is read is what is meant, and all that means something is read. -/
def Exact {Input Value : Type} (read : Input → Option Value) (means : Input → Value → Prop)
    (input : Input) : Prop :=
  (∀ value, read input = some value → means input value) ∧
    ((∃ value, means input value) → ∃ value, read input = some value)

theorem takeWhile_digits {digits rest : List Char} (all : ∀ char ∈ digits, char.isDigit)
    (stops : NoDigit rest) : (digits ++ rest).takeWhile Char.isDigit = digits ∧
      (digits ++ rest).dropWhile Char.isDigit = rest := by
  induction digits with
  | nil =>
      cases rest with
      | nil => exact ⟨rfl, rfl⟩
      | cons char chars => simp [stops char chars rfl]
  | cons char digits ih =>
      have digit := all char List.mem_cons_self
      obtain ⟨taken, dropped⟩ := ih fun other later => all other (List.mem_cons_of_mem _ later)
      rw [List.cons_append, List.takeWhile_cons_of_pos digit, List.dropWhile_cons_of_pos digit,
        taken, dropped]
      exact ⟨rfl, rfl⟩

theorem noDigit_dropWhile (input : List Char) : NoDigit (input.dropWhile Char.isDigit) := by
  induction input with
  | nil =>
      intro char chars impossible
      cases impossible
  | cons first input ih =>
      cases digit : first.isDigit with
      | true => rwa [List.dropWhile_cons_of_pos digit]
      | false =>
          rw [List.dropWhile_cons_of_neg (Bool.not_eq_true _ ▸ digit)]
          intro char chars same
          cases same
          exact digit

theorem takeU64_iff {input rest : List Char} {value : Nat} : takeU64 input = some (value, rest) ↔
    ∃ digits, input = digits ++ rest ∧ Numeral digits value ∧ NoDigit rest := by
  constructor
  · intro read
    have whole := List.takeWhile_append_dropWhile (p := Char.isDigit) (l := input)
    unfold takeU64 at read
    split at read
    · cases read
    · next digits present =>
        obtain ⟨number, parsed, same⟩ := Option.map_eq_some_iff.mp read
        cases same
        refine ⟨input.takeWhile Char.isDigit, whole.symm, numeral_iff.mpr ⟨?_, parsed⟩,
          noDigit_dropWhile input⟩
        exact fun empty => present empty
  · rintro ⟨digits, rfl, numeral, stops⟩
    obtain ⟨taken, dropped⟩ := takeWhile_digits numeral.all stops
    obtain ⟨present, parsed⟩ := numeral_iff.mp numeral
    unfold takeU64
    rw [taken, dropped]
    cases digits with
    | nil => exact absurd rfl present
    | cons char digits =>
        dsimp only
        rw [parsed, Option.map_some]

theorem tag_iff {text input rest : List Char} :
    tag text input = some rest ↔ input = text ++ rest := by
  unfold tag
  constructor
  · intro read
    split at read
    · next starts =>
        obtain ⟨others, whole⟩ := List.isPrefixOf_iff_prefix.mp starts
        cases read
        rw [← whole, List.drop_left]
    · cases read
  · rintro rfl
    rw [if_pos (List.isPrefixOf_iff_prefix.mpr (List.prefix_append text rest)), List.drop_left]

theorem parsePositionStartFrom_iff {input rest : List Char} {position : Position} :
    parsePositionStartFrom input = some (position, rest) ↔
      ∃ text, input = text ++ rest ∧ PositionText text position ∧ NoDigit rest := by
  have reads : parsePositionStartFrom input = some (position, rest) ↔ ∃ first second third,
      tag ['C', ':'] input = some first ∧ takeU64 first = some (position.commit, second) ∧
        tag ['/', 'P', ':'] second = some third ∧ takeU64 third = some (position.prepare, rest) := by
    simp only [parsePositionStartFrom, Option.bind_eq_bind, Option.bind_eq_some_iff, Prod.exists,
      Option.some.injEq, Prod.mk.injEq]
    constructor
    · rintro ⟨first, tagged, commit, second, read, third, again, prepare, last, final, rfl, rfl⟩
      exact ⟨first, second, third, tagged, read, again, final⟩
    · intro ⟨first, second, third, tagged, read, again, final⟩
      exact ⟨first, tagged, _, second, read, third, again, _, rest, final, rfl, rfl⟩
  rw [reads]
  constructor
  · intro ⟨first, second, third, tagged, read, again, final⟩
    rw [tag_iff] at tagged again
    obtain ⟨commit, rfl, commitNumeral, _⟩ := takeU64_iff.mp read
    obtain ⟨prepare, rfl, prepareNumeral, stops⟩ := takeU64_iff.mp final
    refine ⟨'C' :: ':' :: commit ++ '/' :: 'P' :: ':' :: prepare, ?_,
      ⟨commit, prepare, commitNumeral, prepareNumeral, rfl⟩, stops⟩
    rw [tagged, again]
    simp
  · rintro ⟨text, rfl, ⟨commit, prepare, commitNumeral, prepareNumeral, rfl⟩, stops⟩
    refine ⟨commit ++ '/' :: 'P' :: ':' :: prepare ++ rest, '/' :: 'P' :: ':' :: prepare ++ rest,
      prepare ++ rest, ?_, ?_, ?_, takeU64_iff.mpr ⟨prepare, rfl, prepareNumeral, stops⟩⟩
    · rw [tag_iff]
      simp
    · refine takeU64_iff.mpr ⟨commit, by simp, commitNumeral, ?_⟩
      intro char chars same
      cases same
      decide
    · rw [tag_iff]
      simp

theorem positionText_cons {text : List Char} {position : Position}
    (whole : PositionText text position) : ∃ rest, text = 'C' :: ':' :: rest := by
  obtain ⟨commit, prepare, _, _, rfl⟩ := whole
  exact ⟨commit ++ '/' :: 'P' :: ':' :: prepare, rfl⟩

theorem positionText_not_trailing {text : List Char} {position : Position}
    (whole : PositionText text position) : ¬ Trailing text := by
  intro ⟨front, other, char, rest, starts, stops, same⟩
  have nothing : NoDigit [] := by
    intro char chars impossible
    cases impossible
  have stopped : NoDigit (char :: rest) := by
    intro first chars split
    cases split
    exact stops
  have all : parsePositionStartFrom text = some (position, []) :=
    parsePositionStartFrom_iff.mpr ⟨text, (List.append_nil text).symm, whole, nothing⟩
  have part : parsePositionStartFrom text = some (other, char :: rest) :=
    parsePositionStartFrom_iff.mpr ⟨front, same, starts, stopped⟩
  rw [all] at part
  cases part

theorem parsePosition_iff {input : String} {position : Position} :
    parsePosition input = .ok position ↔
      ∃ rest, parsePositionStartFrom input.toList = some (position, rest) := by
  unfold parsePosition
  cases read : parsePositionStartFrom input.toList with
  | none => simp
  | some found => simp [Prod.ext_iff, eq_comm]

theorem parsePosition_cases {input : String} {position : Position}
    (parsed : parsePosition input = .ok position) :
    PositionText input.toList position ∨ Trailing input.toList := by
  obtain ⟨rest, read⟩ := parsePosition_iff.mp parsed
  obtain ⟨text, split, whole, stops⟩ := parsePositionStartFrom_iff.mp read
  cases rest with
  | nil =>
      rw [List.append_nil] at split
      exact Or.inl (split ▸ whole)
  | cons char rest => exact Or.inr ⟨text, position, char, rest, whole, stops char rest rfl, split⟩

theorem parsePosition_whole {input : String} {position : Position}
    (whole : PositionText input.toList position) : parsePosition input = .ok position := by
  refine parsePosition_iff.mpr ⟨[], parsePositionStartFrom_iff.mpr
    ⟨input.toList, (List.append_nil _).symm, whole, ?_⟩⟩
  intro char chars impossible
  cases impossible

theorem parsePosition_trailing {input : String} (trailing : Trailing input.toList) :
    ∃ position, parsePosition input = .ok position := by
  obtain ⟨text, position, char, rest, whole, stops, split⟩ := trailing
  refine ⟨position, parsePosition_iff.mpr ⟨char :: rest, parsePositionStartFrom_iff.mpr
    ⟨text, split, whole, ?_⟩⟩⟩
  intro first chars same
  cases same
  exact stops

theorem parsePosition_exact_iff (input : String) :
    Exact (fun input : String => (parsePosition input).toOption)
        (fun input position => PositionText input.toList position) input ↔
      ¬ Trailing input.toList := by
  have read : ∀ position, (parsePosition input).toOption = some position ↔
      parsePosition input = .ok position := by
    intro position
    cases parsePosition input with
    | ok other => simp [Except.toOption]
    | error failure => simp [Except.toOption]
  constructor
  · intro ⟨sound, _⟩ trailing
    obtain ⟨position, parsed⟩ := parsePosition_trailing trailing
    exact positionText_not_trailing (sound position ((read position).mpr parsed)) trailing
  · intro ends
    refine ⟨?_, ?_⟩
    · intro position parsed
      exact (parsePosition_cases ((read position).mp parsed)).resolve_right ends
    · intro ⟨position, whole⟩
      exact ⟨position, (read position).mpr (parsePosition_whole whole)⟩

/-- Neither kind of text that is read besides means a stream position. -/
theorem trailing_meaningless {text : List Char} (trailing : Trailing text)
    (position : StreamPosition RevisionOrPosition) : ¬ StreamPositionText text position := by
  have starts : ∃ digit rest, text = 'C' :: ':' :: digit :: rest ∧ digit.isDigit := by
    obtain ⟨front, place, char, rest, ⟨commit, prepare, numeral, _, rfl⟩, _, rfl⟩ := trailing
    cases commit with
    | nil => exact absurd rfl numeral.present
    | cons digit commit => exact ⟨digit, _, rfl, numeral_head numeral⟩
  obtain ⟨digit, rest, rfl, isDigit⟩ := starts
  rintro (⟨ends | ends, _⟩ | ⟨revision, numeral, _⟩ | ⟨place, whole, _⟩)
  · cases ends
  · cases ends
    exact absurd isDigit (by decide)
  · exact absurd (numeral_head numeral) (by decide)
  · exact positionText_not_trailing whole trailing

theorem signed_meaningless {text : List Char} (signed : Signed text)
    (position : StreamPosition RevisionOrPosition) : ¬ StreamPositionText text position := by
  obtain ⟨digits, number, _, rfl⟩ := signed
  rintro (⟨ends | ends, _⟩ | ⟨revision, numeral, _⟩ | ⟨place, whole, _⟩)
  · cases ends
  · cases ends
  · exact absurd (numeral_head numeral) (by decide)
  · obtain ⟨rest, same⟩ := positionText_cons whole
    cases same

theorem toList_eq_iff {input text : String} : input = text ↔ input.toList = text.toList :=
  String.toList_inj.symm

theorem parseStreamPosition_cases {input : String} {position : StreamPosition RevisionOrPosition}
    (parsed : parseStreamPosition input = .ok position) :
    StreamPositionText input.toList position ∨ Trailing input.toList ∨ Signed input.toList := by
  have zero : Numeral ['0'] 0 := .of_all (by decide) (by decide) rfl (by decide)
  unfold parseStreamPosition at parsed
  split at parsed
  · next ends =>
      cases parsed
      refine Or.inl (Or.inl ⟨?_, rfl⟩)
      exact ends.imp toList_eq_iff.mp toList_eq_iff.mp
  · split at parsed
    · next starts =>
        cases parsed
        rcases starts with rfl | rfl
        · exact Or.inl (Or.inr (Or.inl ⟨0, zero, Or.inr ⟨rfl, rfl⟩⟩))
        · exact Or.inl (Or.inr (Or.inr ⟨⟨0, 0⟩, ⟨['0'], ['0'], zero, zero, rfl⟩,
            Or.inr ⟨rfl, rfl⟩⟩))
    · unfold parseRevisionOrPosition at parsed
      split at parsed
      · next number read =>
          cases parsed
          rcases parseUnsigned_iff.mp read with numeral | ⟨digits, numeral, signed⟩
          · exact Or.inl (Or.inr (Or.inl ⟨number, numeral, Or.inl rfl⟩))
          · exact Or.inr (Or.inr ⟨digits, number, numeral, signed⟩)
      · split at parsed
        · next place read =>
            cases parsed
            rcases parsePosition_cases read with whole | trailing
            · exact Or.inl (Or.inr (Or.inr ⟨place, whole, Or.inl rfl⟩))
            · exact Or.inr (Or.inl trailing)
        · cases parsed

theorem parseStreamPosition_accepts {input : String}
    (read : ∃ found, parseRevisionOrPosition input = .ok found) :
    ∃ position, parseStreamPosition input = .ok position := by
  obtain ⟨found, read⟩ := read
  unfold parseStreamPosition
  split
  · exact ⟨_, rfl⟩
  · split
    · exact ⟨_, rfl⟩
    · exact ⟨.position found, by rw [read]; rfl⟩

theorem parseRevisionOrPosition_accepts {input : String}
    (read : (∃ number, parseUnsigned u64Bound input = some number) ∨
      ∃ position, parsePosition input = .ok position) :
    ∃ found, parseRevisionOrPosition input = .ok found := by
  rcases read with ⟨number, read⟩ | ⟨position, read⟩
  · exact ⟨.revision number, by rw [parseRevisionOrPosition, read]⟩
  · exact ⟨.position position, parseRevisionOrPosition_position read⟩

theorem parseStreamPosition_complete {input : String}
    {position : StreamPosition RevisionOrPosition}
    (means : StreamPositionText input.toList position) :
    ∃ other, parseStreamPosition input = .ok other := by
  rcases means with ⟨ends, _⟩ | ⟨revision, numeral, _⟩ | ⟨place, whole, _⟩
  · have text : input = "-1" ∨ input = "C:-1/P:-1" := ends.imp toList_eq_iff.mpr toList_eq_iff.mpr
    exact ⟨.atEnd, by rw [parseStreamPosition, if_pos text]⟩
  · exact parseStreamPosition_accepts (parseRevisionOrPosition_accepts
      (Or.inl ⟨revision, parseUnsigned_iff.mpr (Or.inl numeral)⟩))
  · exact parseStreamPosition_accepts (parseRevisionOrPosition_accepts
      (Or.inr ⟨place, parsePosition_whole whole⟩))

theorem parseStreamPosition_exact_iff (input : String) :
    Exact (fun input : String => (parseStreamPosition input).toOption)
        (fun input position => StreamPositionText input.toList position) input ↔
      ¬ Trailing input.toList ∧ ¬ Signed input.toList := by
  have read : ∀ position, (parseStreamPosition input).toOption = some position ↔
      parseStreamPosition input = .ok position := by
    intro position
    cases parseStreamPosition input with
    | ok other => simp [Except.toOption]
    | error failure => simp [Except.toOption]
  constructor
  · intro ⟨sound, _⟩
    constructor
    · intro trailing
      obtain ⟨position, parsed⟩ := parseStreamPosition_accepts
        (parseRevisionOrPosition_accepts (Or.inr (parsePosition_trailing trailing)))
      exact trailing_meaningless trailing position (sound position ((read position).mpr parsed))
    · intro signed
      obtain ⟨digits, number, numeral, same⟩ := signed
      obtain ⟨position, parsed⟩ := parseStreamPosition_accepts (parseRevisionOrPosition_accepts
        (Or.inl ⟨number, parseUnsigned_iff.mpr (Or.inr ⟨digits, numeral, same⟩)⟩))
      exact signed_meaningless ⟨digits, number, numeral, same⟩ position
        (sound position ((read position).mpr parsed))
  · intro ⟨ends, unsigned⟩
    refine ⟨?_, ?_⟩
    · intro position parsed
      rcases parseStreamPosition_cases ((read position).mp parsed) with means | trailing | signed
      · exact means
      · exact absurd trailing ends
      · exact absurd signed unsigned
    · intro ⟨position, means⟩
      obtain ⟨other, parsed⟩ := parseStreamPosition_complete means
      exact ⟨other, (read other).mpr parsed⟩

/-- The JSON number is one that no case of `visit_i64` was meant for. -/
def BelowEnd (number : Int) : Prop := -2 ^ 63 ≤ number ∧ number < -1

def MisreadValue : Json → Prop
  | .number number => BelowEnd number
  | .string text => Trailing text.toList ∨ Signed text.toList
  | _ => False

def TrailingValue : Json → Prop
  | .string text => Trailing text.toList
  | _ => False

theorem deserialize_unsigned {number : Int} (low : 0 ≤ number) (high : number < u64Bound) :
    StreamPosition.deserialize (.number number) =
      some (StreamRevOrPosVisitor.visitU64 number.toNat) := by
  rw [StreamPosition.deserialize, StreamRevOrPosVisitor.deserialize, if_pos ⟨low, high⟩]

theorem deserialize_negative {number : Int} (low : -2 ^ 63 ≤ number) (high : number < 0) :
    StreamPosition.deserialize (.number number) =
      some (StreamRevOrPosVisitor.visitI64 number) := by
  have negative : ¬ (0 ≤ number ∧ number < u64Bound) := by omega
  rw [StreamPosition.deserialize, StreamRevOrPosVisitor.deserialize, if_neg negative,
    if_pos ⟨low, high⟩]

theorem deserialize_outside {number : Int} (outside : number < -2 ^ 63 ∨ (u64Bound : Int) ≤ number) :
    StreamPosition.deserialize (.number number) = none := by
  have bound : (u64Bound : Int) = 2 ^ 64 := rfl
  rw [StreamPosition.deserialize, StreamRevOrPosVisitor.deserialize, if_neg (by omega),
    if_neg (by omega)]

theorem visitU64_atRevision (revision : Nat) :
    (StreamRevOrPosVisitor.visitU64 revision).AtRevision revision := by
  unfold StreamRevOrPosVisitor.visitU64
  split
  · next zero => exact Or.inr ⟨rfl, zero⟩
  · exact Or.inl rfl

theorem deserialize_number_exact_iff (number : Int) :
    Exact StreamPosition.deserialize StreamPositionValue (.number number) ↔ ¬ BelowEnd number := by
  have bound : (u64Bound : Int) = 2 ^ 64 := rfl
  constructor
  · rintro ⟨sound, _⟩ ⟨low, high⟩
    have means := sound _ (deserialize_negative low (by omega))
    rcases means with ⟨same, _⟩ | ⟨revision, _, same, _⟩
    · omega
    · omega
  · intro understood
    by_cases outside : number < -2 ^ 63 ∨ (u64Bound : Int) ≤ number
    · refine ⟨?_, ?_⟩
      · intro position read
        rw [deserialize_outside outside] at read
        cases read
      · rintro ⟨position, ⟨same, _⟩ | ⟨revision, below, same, _⟩⟩
        · omega
        · omega
    · by_cases low : 0 ≤ number
      · have high : number < u64Bound := by omega
        refine ⟨?_, fun _ => ⟨_, deserialize_unsigned low high⟩⟩
        intro position read
        rw [deserialize_unsigned low high] at read
        cases read
        exact Or.inr ⟨number.toNat, by omega, by omega, visitU64_atRevision _⟩
      · have last : number = -1 := by
          have notBelow : ¬ (-2 ^ 63 ≤ number ∧ number < -1) := understood
          omega
        subst last
        refine ⟨?_, fun _ => ⟨_, deserialize_negative (by decide) (by decide)⟩⟩
        intro position read
        rw [deserialize_negative (by decide) (by decide)] at read
        cases read
        exact Or.inl ⟨rfl, rfl⟩

/-- What each of the four decoders reads is exactly what means a position, but for texts that go on
after a position, numerals with a sign, and numbers below the one that stands for the end. -/
theorem position_decoders_exact_iff (input : String) (value : Json) :
    (Exact (fun input : String => (parsePosition input).toOption)
        (fun input position => PositionText input.toList position) input ↔
      ¬ Trailing input.toList) ∧
    (Exact (fun input : String => (parseStreamPosition input).toOption)
        (fun input position => StreamPositionText input.toList position) input ↔
      ¬ Trailing input.toList ∧ ¬ Signed input.toList) ∧
    (Exact Position.deserialize
        (fun value position => ∃ text, value = .string text ∧ PositionText text.toList position)
        value ↔ ¬ TrailingValue value) ∧
    (Exact StreamPosition.deserialize StreamPositionValue value ↔ ¬ MisreadValue value) := by
  refine ⟨parsePosition_exact_iff input, parseStreamPosition_exact_iff input, ?_, ?_⟩
  · cases value with
    | string text =>
        refine Iff.trans ?_ (parsePosition_exact_iff text)
        simp [Exact, Position.deserialize]
    | _ => simp [Exact, Position.deserialize, TrailingValue]
  · cases value with
    | number number => exact deserialize_number_exact_iff number
    | string text =>
        refine Iff.trans (parseStreamPosition_exact_iff text) ?_
        rw [MisreadValue, not_or]
    | _ => simp [Exact, StreamPosition.deserialize, StreamPositionValue, MisreadValue]

/-- A text that goes on after a position, and a number below the one that stands for the end. -/
theorem other_positions_read :
    ¬ Exact (fun input : String => (parsePosition input).toOption)
        (fun input position => PositionText input.toList position) "C:1/P:2,C:9/P:9" ∧
      ¬ Exact StreamPosition.deserialize StreamPositionValue (.number (-2)) := by
  constructor
  · rw [parsePosition_exact_iff, not_not]
    refine ⟨"C:1/P:2".toList, ⟨1, 2⟩, ',', "C:9/P:9".toList, ?_, by decide, by decide⟩
    have one : Numeral ['1'] 1 := .of_all (by decide) (by decide) rfl (by decide)
    have two : Numeral ['2'] 2 := .of_all (by decide) (by decide) rfl (by decide)
    exact ⟨['1'], ['2'], one, two, by decide⟩
  · rw [deserialize_number_exact_iff, not_not]
    exact ⟨by decide, by decide⟩

def StreamPosition.InRange : StreamPosition RevisionOrPosition → Prop
  | .position (.revision revision) => revision < u64Bound
  | .position (.position place) => place.commit < u64Bound ∧ place.prepare < u64Bound
  | _ => True

/-- The first revision and the first position are the start. -/
def StreamPosition.normal : StreamPosition RevisionOrPosition → StreamPosition RevisionOrPosition
  | .position (.revision 0) => .start
  | .position (.position ⟨0, 0⟩) => .start
  | other => other

theorem display_positionText {position : Position} (commit : position.commit < u64Bound)
    (prepare : position.prepare < u64Bound) : PositionText position.display.toList position := by
  refine ⟨_, _, toString_numeral commit, toString_numeral prepare, ?_⟩
  simp [Position.display]

theorem parsePosition_display {position : Position} (commit : position.commit < u64Bound)
    (prepare : position.prepare < u64Bound) : parsePosition position.display = .ok position :=
  parsePosition_whole (display_positionText commit prepare)

theorem normal_revision (revision : Nat) :
    StreamPosition.normal (.position (.revision revision)) =
      StreamRevOrPosVisitor.visitU64 revision := by
  cases revision <;> rfl

theorem parseStreamPosition_display {position : Position} (commit : position.commit < u64Bound)
    (prepare : position.prepare < u64Bound) :
    parseStreamPosition position.display =
      .ok (StreamPosition.normal (.position (.position position))) := by
  have read := parsePosition_display commit prepare
  have other : ∀ text, (parsePosition text).toOption = none → position.display ≠ text := by
    intro text unread same
    rw [← same, read] at unread
    cases unread
  have notEnd : ¬ (position.display = "-1" ∨ position.display = "C:-1/P:-1") := by
    rintro (same | same)
    · exact other "-1" (by decide) same
    · exact other "C:-1/P:-1" (by decide) same
  rw [parseStreamPosition, if_neg notEnd]
  by_cases first : position = ⟨0, 0⟩
  · have start : position.display = "C:0/P:0" := by
      rw [first]
      decide
    rw [if_pos (Or.inr start), first]
    rfl
  · have notStart : ¬ (position.display = "0" ∨ position.display = "C:0/P:0") := by
      rintro (same | same)
      · exact other "0" (by decide) same
      · have zero : (parsePosition "C:0/P:0").toOption = some ⟨0, 0⟩ := by decide
        rw [← same, read] at zero
        exact first (Option.some.inj zero)
    rw [if_neg notStart, parseRevisionOrPosition_position read]
    rw [StreamPosition.normal]
    · rfl
    · intro impossible
      cases impossible
    · intro same
      cases same
      exact first rfl

theorem serialize_round_trip {position : StreamPosition RevisionOrPosition}
    (range : position.InRange) :
    StreamPosition.deserialize position.serialize = some position.normal := by
  cases position with
  | start => rfl
  | atEnd => rfl
  | position place =>
      cases place with
      | revision revision =>
          rw [StreamPosition.serialize, deserialize_unsigned (by omega) (by exact_mod_cast range),
            normal_revision, Int.toNat_natCast]
      | position place =>
          have read := parseStreamPosition_display range.1 range.2
          rw [StreamPosition.serialize, StreamPosition.deserialize,
            StreamRevOrPosVisitor.deserialize, StreamRevOrPosVisitor.visitStr, read]
          rfl

theorem number_and_text_agree {number : Int} (low : -1 ≤ number) (high : number < u64Bound) :
    ∃ position, StreamPosition.deserialize (.number number) = some position ∧
      StreamPosition.deserialize (.string (toString number)) = some position ∧
      parseStreamPosition (toString number) = .ok position := by
  have both : ∀ position, StreamPosition.deserialize (.number number) = some position →
      parseStreamPosition (toString number) = .ok position →
      ∃ position, StreamPosition.deserialize (.number number) = some position ∧
        StreamPosition.deserialize (.string (toString number)) = some position ∧
        parseStreamPosition (toString number) = .ok position := by
    intro position read parsed
    refine ⟨position, read, ?_, parsed⟩
    rw [StreamPosition.deserialize, StreamRevOrPosVisitor.deserialize,
      StreamRevOrPosVisitor.visitStr, parsed]
    rfl
  by_cases negative : number < 0
  · obtain rfl : number = -1 := by omega
    exact both .atEnd (deserialize_negative (by decide) (by decide)) rfl
  · obtain ⟨value, rfl⟩ := Int.eq_ofNat_of_zero_le (Int.not_lt.mp negative)
    have below : value < u64Bound := by exact_mod_cast high
    apply both (StreamRevOrPosVisitor.visitU64 value)
    · rw [deserialize_unsigned (by omega) high, Int.toNat_natCast]
    · exact parseStreamPosition_revision below

/-- Stream positions, positions and revisions come back from their JSON values and their texts. -/
theorem positions_round_trip :
    (∀ position : StreamPosition RevisionOrPosition, position.InRange →
      StreamPosition.deserialize position.serialize = some position.normal) ∧
    (∀ position : Position, position.commit < u64Bound → position.prepare < u64Bound →
      parsePosition position.display = .ok position) ∧
    (∀ number : Int, -1 ≤ number → number < u64Bound →
      ∃ position, StreamPosition.deserialize (.number number) = some position ∧
        StreamPosition.deserialize (.string (toString number)) = some position ∧
        parseStreamPosition (toString number) = .ok position) :=
  ⟨fun _ range => serialize_round_trip range,
    fun _ commit prepare => parsePosition_display commit prepare,
    fun _ low high => number_and_text_agree low high⟩

theorem checkpoint_round_trips :
    StreamPosition.deserialize (StreamPosition.position (.revision 42)).serialize =
        some (.position (.revision 42)) ∧
      parsePosition (Position.display ⟨7, 5⟩) = .ok ⟨7, 5⟩ ∧
      ∃ position, StreamPosition.deserialize (.number (-1)) = some position ∧
        StreamPosition.deserialize (.string (toString (-1 : Int))) = some position ∧
        parseStreamPosition (toString (-1 : Int)) = .ok position := by
  have restored := positions_round_trip
  have revision : (42 : Nat) < u64Bound := by decide
  exact ⟨restored.1 (.position (.revision 42)) revision,
    restored.2.1 ⟨7, 5⟩ (by decide) (by decide), restored.2.2 (-1) (by decide) (by decide)⟩

end TrogonEventStore

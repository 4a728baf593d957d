import TrogonEventStore.Library.JsonTree
import Mathlib.Algebra.Group.Nat.Defs
import Mathlib.Data.List.Basic
import Mathlib.Tactic.SplitIfs

/-! The compact text of JSON documents whose numbers are natural, and a reader of such texts. -/

namespace JsonText

def mark (char : Char) : Option Char :=
  if char = '"' then some '"'
  else if char = '\\' then some '\\'
  else if char = '\x08' then some 'b'
  else if char = '\x0c' then some 'f'
  else if char = '\n' then some 'n'
  else if char = '\r' then some 'r'
  else if char = '\t' then some 't'
  else none

def unmark (char : Char) : Option Char :=
  if char = '"' then some '"'
  else if char = '\\' then some '\\'
  else if char = 'b' then some '\x08'
  else if char = 'f' then some '\x0c'
  else if char = 'n' then some '\n'
  else if char = 'r' then some '\r'
  else if char = 't' then some '\t'
  else none

theorem unmark_mark {char letter : Char} (marked : mark char = some letter) :
    unmark letter = some char ∧ letter ≠ 'u' := by
  unfold mark at marked
  split_ifs at marked with same same same same same same same
  all_goals
    cases marked
    subst same
    decide

def escape (char : Char) : List Char :=
  match mark char with
  | some letter => ['\\', letter]
  | none =>
      if char.toNat < 32 then
        ['\\', 'u', '0', '0', Nat.digitChar (char.toNat / 16), Nat.digitChar (char.toNat % 16)]
      else [char]

def hexValue (char : Char) : Nat :=
  if char.isDigit then char.toNat - '0'.toNat else char.toNat - 'a'.toNat + 10

theorem hexValue_digitChar : ∀ digit < 16, hexValue (Nat.digitChar digit) = digit := by decide

def readText : List Char → Option (List Char × List Char)
  | [] => none
  | '"' :: rest => some ([], rest)
  | '\\' :: 'u' :: '0' :: '0' :: high :: low :: rest =>
      (readText rest).map fun read =>
        (Char.ofNat (16 * hexValue high + hexValue low) :: read.1, read.2)
  | '\\' :: letter :: rest =>
      match unmark letter with
      | some char => (readText rest).map fun read => (char :: read.1, read.2)
      | none => none
  | char :: rest => (readText rest).map fun read => (char :: read.1, read.2)

theorem readText_escape (char : Char) (rest : List Char) :
    readText (escape char ++ rest) = (readText rest).map fun read => (char :: read.1, read.2) := by
  unfold escape
  cases marked : mark char with
  | some letter =>
      obtain ⟨unmarked, other⟩ := unmark_mark marked
      change readText ('\\' :: letter :: rest) = _
      rw [readText, unmarked]
      intro high low after same
      exact absurd same other
  | none =>
      dsimp only
      split
      · next control =>
          have high := hexValue_digitChar (char.toNat / 16) (by omega)
          have low := hexValue_digitChar (char.toNat % 16) (by omega)
          have same : Char.ofNat (16 * (char.toNat / 16) + char.toNat % 16) = char := by
            rw [Nat.div_add_mod]
            exact Char.ofNat_toNat char
          change readText ('\\' :: 'u' :: '0' :: '0' :: _ :: _ :: rest) = _
          rw [readText, high, low, same]
      · have quote : char ≠ '"' := by
          rintro rfl
          exact absurd marked (by decide)
        have slash : char ≠ '\\' := by
          rintro rfl
          exact absurd marked (by decide)
        change readText (char :: rest) = _
        rw [readText]
        · exact quote
        · intro high low after same
          exact absurd same slash
        · intro letter after same
          exact absurd same slash

def quoted (text : List Char) : List Char := text.flatMap escape ++ ['"']

theorem readText_quoted (text rest : List Char) :
    readText (quoted text ++ rest) = some (text, rest) := by
  induction text with
  | nil => rfl
  | cons char text ih =>
      rw [quoted, List.flatMap_cons, List.append_assoc, List.append_assoc, readText_escape,
        ← List.append_assoc]
      change (readText (quoted text ++ rest)).map _ = _
      rw [ih]
      rfl

mutual

def write : JsonTree Nat → List Char
  | .null => ['n', 'u', 'l', 'l']
  | .bool true => ['t', 'r', 'u', 'e']
  | .bool false => ['f', 'a', 'l', 's', 'e']
  | .number value => Nat.toDigits 10 value
  | .string text => '"' :: quoted text.toList
  | .array [] => ['[', ']']
  | .array (item :: items) => '[' :: (write item ++ writeItems items)
  | .object [] => ['\x7b', '\x7d']
  | .object (entry :: entries) =>
      '\x7b' :: '"' :: (quoted entry.1.toList ++ ':' :: (write entry.2 ++ writeEntries entries))

def writeItems : List (JsonTree Nat) → List Char
  | [] => [']']
  | item :: items => ',' :: (write item ++ writeItems items)

def writeEntries : List (String × JsonTree Nat) → List Char
  | [] => ['\x7d']
  | entry :: entries =>
      ',' :: '"' :: (quoted entry.1.toList ++ ':' :: (write entry.2 ++ writeEntries entries))

end

mutual

def read : Nat → List Char → Option (JsonTree Nat × List Char)
  | 0, _ => none
  | fuel + 1, chars =>
      if (chars.takeWhile Char.isDigit).isEmpty then
        match chars with
        | 'n' :: 'u' :: 'l' :: 'l' :: rest => some (.null, rest)
        | 't' :: 'r' :: 'u' :: 'e' :: rest => some (.bool true, rest)
        | 'f' :: 'a' :: 'l' :: 's' :: 'e' :: rest => some (.bool false, rest)
        | '"' :: rest => do
            let (text, rest) ← readText rest
            some (.string (String.ofList text), rest)
        | '[' :: ']' :: rest => some (.array [], rest)
        | '[' :: rest => do
            let (item, rest) ← read fuel rest
            let (items, rest) ← readItems fuel rest
            some (.array (item :: items), rest)
        | '\x7b' :: '\x7d' :: rest => some (.object [], rest)
        | '\x7b' :: '"' :: rest => do
            let (key, rest) ← readText rest
            let (value, rest) ← readValue fuel rest
            let (entries, rest) ← readEntries fuel rest
            some (.object ((String.ofList key, value) :: entries), rest)
        | _ => none
      else some (.number (Nat.ofDigitChars 10 (chars.takeWhile Char.isDigit) 0),
        chars.dropWhile Char.isDigit)

def readValue : Nat → List Char → Option (JsonTree Nat × List Char)
  | fuel + 1, ':' :: rest => read fuel rest
  | _, _ => none

def readItems : Nat → List Char → Option (List (JsonTree Nat) × List Char)
  | _ + 1, ']' :: rest => some ([], rest)
  | fuel + 1, ',' :: rest => do
      let (item, rest) ← read fuel rest
      let (items, rest) ← readItems fuel rest
      some (item :: items, rest)
  | _, _ => none

def readEntries : Nat → List Char → Option (List (String × JsonTree Nat) × List Char)
  | _ + 1, '\x7d' :: rest => some ([], rest)
  | fuel + 1, ',' :: '"' :: rest => do
      let (key, rest) ← readText rest
      let (value, rest) ← readValue fuel rest
      let (entries, rest) ← readEntries fuel rest
      some ((String.ofList key, value) :: entries, rest)
  | _, _ => none

end

/-- No number goes on here. -/
def Stops (rest : List Char) : Prop := rest.takeWhile Char.isDigit = []

theorem stops_nil : Stops [] := rfl

theorem stops_cons {char : Char} {rest : List Char} (other : char.isDigit = false) :
    Stops (char :: rest) := by
  rw [Stops, List.takeWhile_cons, other]
  rfl

theorem write_cons (tree : JsonTree Nat) : ∃ char rest, write tree = char :: rest ∧ char ≠ ']' := by
  cases tree with
  | null => exact ⟨_, _, rfl, by decide⟩
  | bool flag => cases flag <;> exact ⟨_, _, rfl, by decide⟩
  | string text => exact ⟨_, _, rfl, by decide⟩
  | array items => cases items <;> exact ⟨_, _, rfl, by decide⟩
  | object entries => cases entries <;> exact ⟨_, _, rfl, by decide⟩
  | number value =>
      cases digits : Nat.toDigits 10 value with
      | nil => exact absurd digits Nat.toDigits_ne_nil
      | cons char rest =>
          have digit : char.isDigit := Nat.isDigit_of_mem_toDigits (by decide) (by decide)
            (digits ▸ List.mem_cons_self)
          refine ⟨char, rest, digits, ?_⟩
          rintro rfl
          exact absurd digit (by decide)

theorem read_number {fuel value : Nat} {rest : List Char} (stops : Stops rest) :
    read (fuel + 1) (Nat.toDigits 10 value ++ rest) = some (.number value, rest) := by
  have digits : ∀ char ∈ Nat.toDigits 10 value, char.isDigit := fun char member =>
    Nat.isDigit_of_mem_toDigits (by decide) (by decide) member
  have taken : (Nat.toDigits 10 value ++ rest).takeWhile Char.isDigit = Nat.toDigits 10 value := by
    rw [List.takeWhile_append_of_pos digits, stops, List.append_nil]
  have dropped : (Nat.toDigits 10 value ++ rest).dropWhile Char.isDigit = rest := by
    have split := List.takeWhile_append_dropWhile (p := Char.isDigit) (l := rest)
    rw [stops, List.nil_append] at split
    rw [List.dropWhile_append_of_pos digits, split]
  have present : (Nat.toDigits 10 value).isEmpty = false := by
    rw [List.isEmpty_eq_false_iff]
    exact Nat.toDigits_ne_nil
  rw [read.eq_def]
  dsimp only
  rw [taken, dropped, present, Nat.ofDigitChars_ten_toDigits]
  rfl

theorem read_array {fuel : Nat} {char : Char} {rest : List Char} (other : char ≠ ']') :
    read (fuel + 1) ('[' :: char :: rest) = (do
      let (item, rest) ← read fuel (char :: rest)
      let (items, rest) ← readItems fuel rest
      some (.array (item :: items), rest)) := by
  rw [read]
  · rfl
  · intro after same
    exact other (List.cons.inj same).1

theorem writeItems_stops (items : List (JsonTree Nat)) (rest : List Char) :
    Stops (writeItems items ++ rest) := by
  cases items <;> exact stops_cons (by decide)

theorem writeEntries_stops (entries : List (String × JsonTree Nat)) (rest : List Char) :
    Stops (writeEntries entries ++ rest) := by
  cases entries <;> exact stops_cons (by decide)

mutual

theorem read_write (tree : JsonTree Nat) {fuel : Nat} {rest : List Char}
    (enough : (write tree).length ≤ fuel) (stops : Stops rest) :
    read fuel (write tree ++ rest) = some (tree, rest) := by
  obtain ⟨char, others, written, other⟩ := write_cons tree
  obtain ⟨fuel, rfl⟩ : ∃ less, fuel = less + 1 := by
    rw [written, List.length_cons] at enough
    exact ⟨fuel - 1, by omega⟩
  match tree with
  | .null => rfl
  | .bool true => rfl
  | .bool false => rfl
  | .number value => exact read_number stops
  | .string text =>
      change ((readText (quoted text.toList ++ rest)).bind _) = _
      rw [readText_quoted]
      exact congrArg (fun text => some (JsonTree.string text, rest)) String.ofList_toList
  | .array [] => rfl
  | .array (item :: items) =>
      obtain ⟨char, others, first, other⟩ := write_cons item
      have lengths : (write item).length + (writeItems items).length ≤ fuel := by
        rw [write, List.length_cons, List.length_append] at enough
        omega
      have itemRead : read fuel (write item ++ (writeItems items ++ rest)) =
          some (item, writeItems items ++ rest) :=
        read_write item (by omega) (writeItems_stops items rest)
      have itemsRead : readItems fuel (writeItems items ++ rest) = some (items, rest) :=
        readItems_write items (by omega)
      rw [write, List.cons_append, List.append_assoc, first, List.cons_append, read_array other,
        ← List.cons_append, ← first, itemRead]
      change ((readItems fuel (writeItems items ++ rest)).bind _) = _
      rw [itemsRead]
      rfl
  | .object [] => rfl
  | .object (entry :: entries) =>
      have lengths : (write entry.2).length + (writeEntries entries).length + 1 ≤ fuel := by
        rw [write, List.length_cons, List.length_cons, List.length_append, List.length_cons,
          List.length_append] at enough
        omega
      obtain ⟨less, rfl⟩ : ∃ less, fuel = less + 1 := ⟨fuel - 1, by omega⟩
      have valueRead : read less (write entry.2 ++ (writeEntries entries ++ rest)) =
          some (entry.2, writeEntries entries ++ rest) :=
        read_write entry.2 (by omega) (writeEntries_stops entries rest)
      have entriesRead : readEntries (less + 1) (writeEntries entries ++ rest) =
          some (entries, rest) := readEntries_write entries (by omega)
      rw [write, List.cons_append, List.cons_append, List.append_assoc, List.cons_append,
        List.append_assoc]
      change ((readText (quoted entry.1.toList ++ _)).bind _) = _
      rw [readText_quoted]
      change ((read less (write entry.2 ++ (writeEntries entries ++ rest))).bind _) = _
      rw [valueRead]
      change ((readEntries (less + 1) (writeEntries entries ++ rest)).bind _) = _
      rw [entriesRead]
      exact congrArg (fun key => some (JsonTree.object ((key, entry.2) :: entries), rest))
        String.ofList_toList

theorem readItems_write (items : List (JsonTree Nat)) {fuel : Nat} {rest : List Char}
    (enough : (writeItems items).length ≤ fuel) :
    readItems fuel (writeItems items ++ rest) = some (items, rest) := by
  match items with
  | [] =>
      obtain ⟨less, rfl⟩ : ∃ less, fuel = less + 1 := ⟨fuel - 1, (Nat.sub_add_cancel enough).symm⟩
      rfl
  | item :: items =>
      have lengths : (write item).length + (writeItems items).length + 1 ≤ fuel := by
        rw [writeItems, List.length_cons, List.length_append] at enough
        exact enough
      obtain ⟨less, rfl⟩ : ∃ less, fuel = less + 1 := ⟨fuel - 1, by omega⟩
      have itemRead : read less (write item ++ (writeItems items ++ rest)) =
          some (item, writeItems items ++ rest) :=
        read_write item (by omega) (writeItems_stops items rest)
      have itemsRead : readItems less (writeItems items ++ rest) = some (items, rest) :=
        readItems_write items (by omega)
      rw [writeItems, List.cons_append, List.append_assoc]
      change ((read less (write item ++ (writeItems items ++ rest))).bind _) = _
      rw [itemRead]
      change ((readItems less (writeItems items ++ rest)).bind _) = _
      rw [itemsRead]
      rfl

theorem readEntries_write (entries : List (String × JsonTree Nat)) {fuel : Nat} {rest : List Char}
    (enough : (writeEntries entries).length ≤ fuel) :
    readEntries fuel (writeEntries entries ++ rest) = some (entries, rest) := by
  match entries with
  | [] =>
      obtain ⟨less, rfl⟩ : ∃ less, fuel = less + 1 := ⟨fuel - 1, (Nat.sub_add_cancel enough).symm⟩
      rfl
  | entry :: entries =>
      have lengths : (write entry.2).length + (writeEntries entries).length + 2 ≤ fuel := by
        rw [writeEntries, List.length_cons, List.length_cons, List.length_append, List.length_cons,
          List.length_append] at enough
        omega
      obtain ⟨less, rfl⟩ : ∃ less, fuel = less + 2 := ⟨fuel - 2, by omega⟩
      have valueRead : read less (write entry.2 ++ (writeEntries entries ++ rest)) =
          some (entry.2, writeEntries entries ++ rest) :=
        read_write entry.2 (by omega) (writeEntries_stops entries rest)
      have entriesRead : readEntries (less + 1) (writeEntries entries ++ rest) =
          some (entries, rest) := readEntries_write entries (by omega)
      rw [writeEntries, List.cons_append, List.cons_append, List.append_assoc, List.cons_append,
        List.append_assoc]
      change ((readText (quoted entry.1.toList ++ _)).bind _) = _
      rw [readText_quoted]
      change ((read less (write entry.2 ++ (writeEntries entries ++ rest))).bind _) = _
      rw [valueRead]
      change ((readEntries (less + 1) (writeEntries entries ++ rest)).bind _) = _
      rw [entriesRead]
      exact congrArg (fun key => some ((key, entry.2) :: entries, rest)) String.ofList_toList

end

def readAll (chars : List Char) : Option (JsonTree Nat) :=
  match read chars.length chars with
  | some (tree, []) => some tree
  | _ => none

/-- Every document is read back from its text. -/
theorem readAll_write (tree : JsonTree Nat) : readAll (write tree) = some tree := by
  have whole := read_write tree (Nat.le_refl _) stops_nil
  rw [List.append_nil] at whole
  rw [readAll, whole]

end JsonText

import Mathlib.Data.List.Basic
import Mathlib.Logic.Function.Basic

/-! Records as functions from their fields, filled by a run of entries that each assign at most one
field. -/

namespace Record

variable {Field : Type} {Value : Field → Type} {Entry : Type}

abbrev Assignment (Value : Field → Type) := (field : Field) × Value field

section Fill

variable [DecidableEq Field]

def assign (record : ∀ field, Value field) : Option (Assignment Value) → ∀ field, Value field
  | none => record
  | some assignment => Function.update record assignment.1 assignment.2

def fill (writes : Entry → Option (Assignment Value)) (record : ∀ field, Value field)
    (entries : List Entry) : ∀ field, Value field :=
  entries.foldl (fun record entry => assign record (writes entry)) record

variable {writes : Entry → Option (Assignment Value)} {record : ∀ field, Value field}
  {entries others : List Entry} {field : Field} {value : Value field}

@[simp] theorem fill_nil : fill writes record [] = record := rfl

@[simp] theorem fill_cons (entry : Entry) :
    fill writes record (entry :: entries) = fill writes (assign record (writes entry)) entries := rfl

theorem fill_append :
    fill writes record (entries ++ others) = fill writes (fill writes record entries) others :=
  List.foldl_append

theorem fill_map {Source : Type} (convert : Source → Entry) (sources : List Source) :
    fill writes record (sources.map convert) =
      fill (fun source => writes (convert source)) record sources :=
  List.foldl_map

theorem assign_written : assign record (some ⟨field, value⟩) field = value :=
  Function.update_self field value record

theorem assign_kept {written : Option (Assignment Value)}
    (apart : ∀ value, written ≠ some ⟨field, value⟩) : assign record written field = record field := by
  cases written with
  | none => rfl
  | some assignment =>
      obtain ⟨other, value⟩ := assignment
      refine Function.update_of_ne ?_ value record
      rintro rfl
      exact apart value rfl

theorem assign_comm {first second : Option (Assignment Value)}
    (agree : ∀ field value other, first = some ⟨field, value⟩ → second = some ⟨field, other⟩ →
      value = other) :
    assign (assign record first) second = assign (assign record second) first := by
  cases first with
  | none => rfl
  | some one =>
      cases second with
      | none => rfl
      | some two =>
          obtain ⟨field, value⟩ := one
          obtain ⟨other, last⟩ := two
          by_cases same : field = other
          · subst same
            rw [agree field value last rfl rfl]
          · exact Function.update_comm same value last record

def Agree (writes : Entry → Option (Assignment Value)) (entries : List Entry) : Prop :=
  ∀ first ∈ entries, ∀ second ∈ entries, ∀ field value other,
    writes first = some ⟨field, value⟩ → writes second = some ⟨field, other⟩ → value = other

/-- Entries that agree fill a record alike in any order. -/
theorem fill_perm (agree : Agree writes entries) (perm : entries.Perm others) :
    fill writes record entries = fill writes record others := by
  apply perm.foldl_eq'
  intro first firstListed second secondListed record
  exact assign_comm (agree first firstListed second secondListed)

theorem fill_kept (apart : ∀ entry ∈ entries, ∀ value, writes entry ≠ some ⟨field, value⟩) :
    fill writes record entries field = record field := by
  induction entries generalizing record with
  | nil => rfl
  | cons entry entries ih =>
      rw [fill_cons, ih fun other later => apart other (List.mem_cons_of_mem _ later),
        assign_kept (apart entry List.mem_cons_self)]

theorem fill_written (agree : ∀ entry ∈ entries, ∀ other, writes entry = some ⟨field, other⟩ →
      other = value) (written : ∃ entry ∈ entries, writes entry = some ⟨field, value⟩) :
    fill writes record entries field = value := by
  induction entries generalizing record with
  | nil =>
      obtain ⟨entry, impossible, _⟩ := written
      exact absurd impossible List.not_mem_nil
  | cons head entries ih =>
      have later := fun other present => agree other (List.mem_cons_of_mem head present)
      rw [fill_cons]
      by_cases again : ∃ entry ∈ entries, writes entry = some ⟨field, value⟩
      · exact ih later again
      · obtain ⟨entry, listed, same⟩ := written
        rcases List.mem_cons.mp listed with rfl | present
        · have apart : ∀ other ∈ entries, ∀ last, writes other ≠ some ⟨field, last⟩ := by
            intro other present last written
            rw [later other present last written] at written
            exact again ⟨other, present, written⟩
          rw [fill_kept apart, same, assign_written]
        · exact absurd ⟨entry, present, same⟩ again

theorem fill_last {last : Entry} (written : writes last = some ⟨field, value⟩) :
    fill writes record (entries ++ [last]) field = value := by
  rw [fill_append, fill_cons, fill_nil, written, assign_written]

theorem fill_silent (silent : ∀ entry ∈ entries, writes entry = none) :
    fill writes record entries = record := by
  induction entries with
  | nil => rfl
  | cons entry entries ih =>
      rw [fill_cons, silent entry List.mem_cons_self]
      exact ih fun other later => silent other (List.mem_cons_of_mem _ later)

theorem fill_filter {keep : Entry → Bool}
    (silent : ∀ entry ∈ entries, keep entry = false → writes entry = none) :
    fill writes record (entries.filter keep) = fill writes record entries := by
  induction entries generalizing record with
  | nil => rfl
  | cons entry entries ih =>
      have later := fun other present => silent other (List.mem_cons_of_mem entry present)
      cases kept : keep entry with
      | true => rw [List.filter_cons_of_pos kept, fill_cons, fill_cons, ih later]
      | false =>
          rw [List.filter_cons_of_neg (by rw [kept]; exact Bool.false_ne_true), fill_cons,
            silent entry List.mem_cons_self kept, ih later]
          rfl

end Fill

end Record

import TrogonEventStore.Library.SortedEntries
import Mathlib.Data.String.Basic

inductive JsonTree (Number : Type) where
  | null
  | bool (value : Bool)
  | number (value : Number)
  | string (text : String)
  | array (items : List (JsonTree Number))
  | object (entries : List (String × JsonTree Number))

namespace JsonTree

variable {Number Other : Type}

mutual

/-- The value of a document: the order of the members of an object does not count. -/
def denote (value : Number → Other) : JsonTree Number → JsonTree Other
  | .null => .null
  | .bool flag => .bool flag
  | .number digits => .number (value digits)
  | .string text => .string text
  | .array items => .array (denoteItems value items)
  | .object entries => .object (SortedEntries.ofList (denoteEntries value entries))

def denoteItems (value : Number → Other) : List (JsonTree Number) → List (JsonTree Other)
  | [] => []
  | item :: items => denote value item :: denoteItems value items

def denoteEntries (value : Number → Other) :
    List (String × JsonTree Number) → List (String × JsonTree Other)
  | [] => []
  | entry :: entries => (entry.1, denote value entry.2) :: denoteEntries value entries

end

mutual

def Distinct : JsonTree Number → Prop
  | .null | .bool _ | .number _ | .string _ => True
  | .array items => DistinctItems items
  | .object entries => (entries.map Prod.fst).Nodup ∧ DistinctEntries entries

def DistinctItems : List (JsonTree Number) → Prop
  | [] => True
  | item :: items => Distinct item ∧ DistinctItems items

def DistinctEntries : List (String × JsonTree Number) → Prop
  | [] => True
  | entry :: entries => Distinct entry.2 ∧ DistinctEntries entries

end

mutual

def AllNumbers (holds : Number → Prop) : JsonTree Number → Prop
  | .null | .bool _ | .string _ => True
  | .number digits => holds digits
  | .array items => AllItems holds items
  | .object entries => AllEntries holds entries

def AllItems (holds : Number → Prop) : List (JsonTree Number) → Prop
  | [] => True
  | item :: items => AllNumbers holds item ∧ AllItems holds items

def AllEntries (holds : Number → Prop) : List (String × JsonTree Number) → Prop
  | [] => True
  | entry :: entries => AllNumbers holds entry.2 ∧ AllEntries holds entries

end

theorem denoteEntries_eq (value : Number → Other) (entries : List (String × JsonTree Number)) :
    denoteEntries value entries = entries.map fun entry => (entry.1, denote value entry.2) := by
  induction entries with
  | nil => rfl
  | cons entry entries ih => rw [denoteEntries, ih, List.map_cons]

theorem keys_denoteEntries (value : Number → Other) (entries : List (String × JsonTree Number)) :
    (denoteEntries value entries).map Prod.fst = entries.map Prod.fst := by
  rw [denoteEntries_eq, List.map_map]
  rfl

theorem lookup_denoteEntries (value : Number → Other) (entries : List (String × JsonTree Number))
    (key : String) :
    (denoteEntries value entries).lookup key = (entries.lookup key).map (denote value) := by
  rw [denoteEntries_eq, SortedEntries.lookup_map]

theorem distinctEntries_iff (entries : List (String × JsonTree Number)) :
    DistinctEntries entries ↔ ∀ entry ∈ entries, entry.2.Distinct := by
  induction entries with
  | nil => simp [DistinctEntries]
  | cons entry entries ih => simp [DistinctEntries, ih]

end JsonTree

import Mathlib.Data.List.Induction
import Mathlib.Data.List.Pairwise
import Mathlib.Order.Lattice

namespace SortedEntries

variable {Key Value Other : Type} [LinearOrder Key]

def Sorted (entries : List (Key × Value)) : Prop :=
  entries.Pairwise fun first second => first.1 < second.1

def insert (key : Key) (value : Value) : List (Key × Value) → List (Key × Value)
  | [] => [(key, value)]
  | entry :: entries =>
      if key < entry.1 then (key, value) :: entry :: entries
      else if key = entry.1 then (key, value) :: entries
      else entry :: insert key value entries

/-- Of entries with one key the last one counts. -/
def ofList (entries : List (Key × Value)) : List (Key × Value) :=
  entries.foldl (fun sorted entry => insert entry.1 entry.2 sorted) []

theorem lookup_cons (key : Key) (entry : Key × Value) (entries : List (Key × Value)) :
    (entry :: entries).lookup key =
      if key = entry.1 then some entry.2 else entries.lookup key := by
  obtain ⟨name, value⟩ := entry
  by_cases same : key = name
  · rw [same, List.lookup_cons_self, if_pos rfl]
  · rw [List.lookup_cons, beq_false_of_ne same, if_neg same]

theorem lookup_insert (key other : Key) (value : Value) (entries : List (Key × Value)) :
    (insert key value entries).lookup other =
      if other = key then some value else entries.lookup other := by
  induction entries with
  | nil => rw [insert, lookup_cons]
  | cons entry entries ih =>
      rw [insert]
      split
      · rw [lookup_cons]
      · split
        · next same =>
            rw [lookup_cons, lookup_cons, ← same]
            split
            · rfl
            · rfl
        · next apart =>
            rw [lookup_cons, lookup_cons, ih]
            by_cases here : other = entry.1
            · rw [if_pos here, if_pos here, if_neg (fun same => apart (same.symm.trans here))]
            · rw [if_neg here, if_neg here]

theorem mem_insert {key : Key} {value : Value} {entries : List (Key × Value)}
    {entry : Key × Value} (member : entry ∈ insert key value entries) :
    entry = (key, value) ∨ entry ∈ entries := by
  induction entries with
  | nil => exact Or.inl (List.mem_singleton.mp member)
  | cons head entries ih =>
      rw [insert] at member
      split at member
      · exact List.mem_cons.mp member
      · split at member
        · rcases List.mem_cons.mp member with rfl | later
          · exact Or.inl rfl
          · exact Or.inr (List.mem_cons_of_mem _ later)
        · rcases List.mem_cons.mp member with rfl | later
          · exact Or.inr List.mem_cons_self
          · exact (ih later).imp_right (List.mem_cons_of_mem _)

theorem sorted_insert (key : Key) (value : Value) {entries : List (Key × Value)}
    (sorted : Sorted entries) : Sorted (insert key value entries) := by
  induction entries with
  | nil => exact List.pairwise_singleton _ _
  | cons entry entries ih =>
      obtain ⟨above, rest⟩ := List.pairwise_cons.mp sorted
      rw [insert]
      split
      · next before =>
          refine List.pairwise_cons.mpr ⟨?_, sorted⟩
          intro other member
          rcases List.mem_cons.mp member with rfl | later
          · exact before
          · exact lt_trans before (above other later)
      · next notBefore =>
          split
          · next same =>
              refine List.pairwise_cons.mpr ⟨?_, rest⟩
              intro other later
              rw [same]
              exact above other later
          · next apart =>
              refine List.pairwise_cons.mpr ⟨?_, ih rest⟩
              intro other member
              rcases mem_insert member with rfl | later
              · exact lt_of_le_of_ne (not_lt.mp notBefore) (Ne.symm apart)
              · exact above other later

theorem sorted_iff_keys {entries : List (Key × Value)} :
    Sorted entries ↔ (entries.map Prod.fst).Pairwise (· < ·) := List.pairwise_map.symm

theorem insert_last {key : Key} (value : Value) {entries : List (Key × Value)}
    (below : ∀ entry ∈ entries, entry.1 < key) :
    insert key value entries = entries ++ [(key, value)] := by
  induction entries with
  | nil => rfl
  | cons entry entries ih =>
      have first := below entry List.mem_cons_self
      rw [insert, if_neg (not_lt_of_gt first), if_neg (ne_of_gt first),
        ih fun other later => below other (List.mem_cons_of_mem _ later), List.cons_append]

theorem sorted_filter (keep : Key × Value → Bool) {entries : List (Key × Value)}
    (sorted : Sorted entries) : Sorted (entries.filter keep) := List.Pairwise.filter keep sorted

theorem lookup_above {key : Key} {entries : List (Key × Value)}
    (above : ∀ entry ∈ entries, key < entry.1) : entries.lookup key = none := by
  rw [List.lookup_eq_none_iff]
  intro entry member
  exact bne_iff_ne.mpr (ne_of_lt (above entry member))

/-- Sorted entries are known by what is found under each key. -/
theorem ext_lookup {left right : List (Key × Value)} (leftSorted : Sorted left)
    (rightSorted : Sorted right) (same : ∀ key, left.lookup key = right.lookup key) :
    left = right := by
  induction left generalizing right with
  | nil =>
      cases right with
      | nil => rfl
      | cons entry right =>
          have found := same entry.1
          rw [List.lookup_nil, lookup_cons, if_pos rfl] at found
          cases found
  | cons first left ih =>
      cases right with
      | nil =>
          have found := same first.1
          rw [List.lookup_nil, lookup_cons, if_pos rfl] at found
          cases found
      | cons second right =>
          obtain ⟨leftAbove, leftRest⟩ := List.pairwise_cons.mp leftSorted
          obtain ⟨rightAbove, rightRest⟩ := List.pairwise_cons.mp rightSorted
          have keys : first.1 = second.1 := by
            rcases lt_trichotomy first.1 second.1 with before | equal | after
            · have found := same first.1
              rw [lookup_cons, lookup_cons, if_pos rfl, if_neg (ne_of_lt before),
                lookup_above fun entry later => lt_trans before (rightAbove entry later)] at found
              cases found
            · exact equal
            · have found := same second.1
              rw [lookup_cons, lookup_cons, if_pos rfl, if_neg (ne_of_lt after),
                lookup_above fun entry later => lt_trans after (leftAbove entry later)] at found
              cases found
          have values : first.2 = second.2 := by
            have found := same first.1
            rw [lookup_cons, lookup_cons, if_pos rfl, if_pos keys] at found
            exact Option.some.inj found
          have rest : left = right := by
            apply ih leftRest rightRest
            intro key
            have found := same key
            rw [lookup_cons, lookup_cons] at found
            by_cases here : key = first.1
            · have there : key = second.1 := here.trans keys
              rw [lookup_above (here ▸ leftAbove), lookup_above (there ▸ rightAbove)]
            · have away : key ≠ second.1 := fun there => here (there.trans keys.symm)
              rwa [if_neg here, if_neg away] at found
          rw [rest, Prod.ext keys values]

theorem lookup_filter (keep : Key → Bool) (key : Key) (entries : List (Key × Value)) :
    (entries.filter fun entry => keep entry.1).lookup key =
      if keep key then entries.lookup key else none := by
  induction entries with
  | nil => rw [List.filter_nil, List.lookup_nil, ite_self]
  | cons entry entries ih =>
      by_cases kept : keep entry.1
      · rw [List.filter_cons, if_pos kept, lookup_cons, lookup_cons, ih]
        by_cases here : key = entry.1
        · rw [if_pos here, if_pos here, if_pos (here ▸ kept)]
        · rw [if_neg here, if_neg here]
      · rw [List.filter_cons, if_neg kept, ih, lookup_cons]
        by_cases here : key = entry.1
        · rw [if_neg (here ▸ kept), if_neg (here ▸ kept)]
        · rw [if_neg here]

theorem lookup_map (convert : Value → Other) (key : Key) (entries : List (Key × Value)) :
    (entries.map fun entry => (entry.1, convert entry.2)).lookup key =
      (entries.lookup key).map convert := by
  induction entries with
  | nil => rfl
  | cons entry entries ih =>
      rw [List.map_cons, lookup_cons, lookup_cons, ih]
      split
      · rfl
      · rfl

theorem map_insert (convert : Value → Other) (key : Key) (value : Value)
    (entries : List (Key × Value)) :
    (insert key value entries).map (fun entry => (entry.1, convert entry.2)) =
      insert key (convert value) (entries.map fun entry => (entry.1, convert entry.2)) := by
  induction entries with
  | nil => rfl
  | cons entry entries ih =>
      rw [List.map_cons, insert, insert]
      split
      · rfl
      · split
        · rfl
        · rw [List.map_cons, ih]

theorem ofList_append (entries : List (Key × Value)) (entry : Key × Value) :
    ofList (entries ++ [entry]) = insert entry.1 entry.2 (ofList entries) := by
  rw [ofList, List.foldl_append]
  rfl

theorem ofList_sorted {entries : List (Key × Value)} (sorted : Sorted entries) :
    ofList entries = entries := by
  induction entries using List.reverseRecOn with
  | nil => rfl
  | append_singleton entries entry ih =>
      obtain ⟨front, _, below⟩ := List.pairwise_append.mp sorted
      rw [ofList_append, ih front]
      exact insert_last entry.2 fun other member => below other member entry List.mem_cons_self

theorem map_ofList (convert : Value → Other) (entries : List (Key × Value)) :
    (ofList entries).map (fun entry => (entry.1, convert entry.2)) =
      ofList (entries.map fun entry => (entry.1, convert entry.2)) := by
  induction entries using List.reverseRecOn with
  | nil => rfl
  | append_singleton entries entry ih =>
      rw [ofList_append, map_insert, ih, List.map_append, List.map_singleton, ofList_append]

theorem lookup_ofList {entries : List (Key × Value)} (distinct : (entries.map Prod.fst).Nodup)
    (key : Key) : (ofList entries).lookup key = entries.lookup key := by
  induction entries using List.reverseRecOn with
  | nil => rfl
  | append_singleton entries entry ih =>
      rw [List.map_append, List.nodup_append] at distinct
      obtain ⟨earlier, _, apart⟩ := distinct
      rw [ofList_append, lookup_insert, ih earlier, List.lookup_append, lookup_cons,
        List.lookup_nil]
      by_cases here : key = entry.1
      · have absent : entries.lookup key = none := by
          rw [List.lookup_eq_none_iff]
          intro other member
          have differs := apart other.1 (List.mem_map_of_mem member) entry.1 List.mem_cons_self
          rw [here]
          exact bne_iff_ne.mpr (Ne.symm differs)
        rw [if_pos here, if_pos here, absent, Option.none_or]
      · rw [if_neg here, if_neg here, Option.or_none]

theorem eq_of_lookup {left right : List (Key × Value)}
    (keys : left.map Prod.fst = right.map Prod.fst) (distinct : (left.map Prod.fst).Nodup)
    (same : ∀ key, left.lookup key = right.lookup key) : left = right := by
  induction left generalizing right with
  | nil => exact (List.map_eq_nil_iff.mp keys.symm).symm
  | cons first left ih =>
      cases right with
      | nil => cases keys
      | cons second right =>
          rw [List.map_cons, List.map_cons, List.cons.injEq] at keys
          obtain ⟨name, names⟩ := keys
          obtain ⟨fresh, rest⟩ := List.nodup_cons.mp distinct
          have absent : ∀ entries : List (Key × Value), entries.map Prod.fst = left.map Prod.fst →
              entries.lookup first.1 = none := by
            intro entries listed
            rw [List.lookup_eq_none_iff]
            intro entry member
            refine bne_iff_ne.mpr fun here => fresh ?_
            rw [← listed, here]
            exact List.mem_map_of_mem member
          have value : first.2 = second.2 := by
            have found := same first.1
            rw [lookup_cons, lookup_cons, if_pos rfl, if_pos name] at found
            exact Option.some.inj found
          have others : left = right := by
            apply ih names rest
            intro key
            by_cases here : key = first.1
            · rw [here, absent left rfl, absent right names.symm]
            · have found := same key
              rwa [lookup_cons, lookup_cons, if_neg here, if_neg (name ▸ here)] at found
          rw [others, Prod.ext name value]

theorem ofList_inj {left right : List (Key × Value)}
    (keys : left.map Prod.fst = right.map Prod.fst) (distinct : (left.map Prod.fst).Nodup)
    (same : ofList left = ofList right) : left = right := by
  apply eq_of_lookup keys distinct
  intro key
  rw [← lookup_ofList distinct, same, lookup_ofList (keys ▸ distinct)]

end SortedEntries

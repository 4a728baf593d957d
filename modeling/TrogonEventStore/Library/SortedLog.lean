import Mathlib.Data.List.Pairwise
import Mathlib.Order.WithBot

/-! Logs whose entries have strictly increasing keys, read from exclusive positions.

A reader at a position has before it the entries strictly after the position; the position `⊥`
is before every entry. -/

structure SortedLog {Entry Key : Type} [LinearOrder Key] (key : Entry → Key) where
  entries : List Entry
  sorted : entries.Pairwise fun first second => key first < key second

namespace SortedLog

variable {Entry Key : Type} [LinearOrder Key] {key : Entry → Key}

def empty (key : Entry → Key) : SortedLog key := ⟨[], List.Pairwise.nil⟩

/-- An entry is added only above all others. -/
def append (log : SortedLog key) (entry : Entry) : Option (SortedLog key) :=
  if above : ∀ other ∈ log.entries, key other < key entry then
    some ⟨log.entries ++ [entry], by simpa [List.pairwise_append] using ⟨log.sorted, above⟩⟩
  else none

def after (log : SortedLog key) (position : WithBot Key) : List Entry :=
  log.entries.filter fun entry => position < key entry

def latest (log : SortedLog key) : WithBot Key :=
  match log.entries.getLast? with
  | some entry => key entry
  | none => ⊥

theorem mem_after {log : SortedLog key} {position : WithBot Key} {entry : Entry} :
    entry ∈ log.after position ↔ entry ∈ log.entries ∧ position < key entry := by
  simp [after]

theorem after_sorted (log : SortedLog key) (position : WithBot Key) :
    (log.after position).Pairwise fun first second => key first < key second :=
  log.sorted.filter _

theorem le_latest {log : SortedLog key} {entry : Entry} (member : entry ∈ log.entries) :
    (key entry : WithBot Key) ≤ log.latest := by
  unfold latest
  rcases List.eq_nil_or_concat log.entries with none_left | ⟨front, last, split⟩
  · rw [none_left] at member
    cases member
  · have sorted := log.sorted
    rw [List.concat_eq_append] at split
    rw [split] at sorted member
    rw [split, List.getLast?_concat]
    rcases List.mem_append.mp member with earlier | now
    · have below := (List.pairwise_append.mp sorted).2.2 entry earlier last (List.mem_singleton_self _)
      exact WithBot.coe_le_coe.mpr below.le
    · rw [List.mem_singleton.mp now]

theorem after_next {log : SortedLog key} {position : WithBot Key} {entry : Entry}
    {rest : List Entry} (next : log.after position = entry :: rest) :
    log.after (key entry) = rest := by
  obtain ⟨front, back, split, passed, reached, rest_eq⟩ := List.filter_eq_cons_iff.mp next
  have reached : position < key entry := by simpa using reached
  have sorted := log.sorted
  rw [split] at sorted
  have parts := List.pairwise_append.mp sorted
  have later : ∀ other ∈ back, key entry < key other := (List.pairwise_cons.mp parts.2.1).1
  have before : front.filter (fun other => decide ((key entry : WithBot Key) < key other)) = [] := by
    apply List.filter_eq_nil_iff.mpr
    intro other member
    have below := parts.2.2 other member entry List.mem_cons_self
    simpa using below.le
  have ahead : back.filter (fun other => decide ((key entry : WithBot Key) < key other)) = back := by
    apply List.filter_eq_self.mpr
    intro other member
    simpa using later other member
  have unread : back.filter (fun other => decide (position < key other)) = back := by
    apply List.filter_eq_self.mpr
    intro other member
    have further := WithBot.coe_lt_coe.mpr (later other member)
    simpa using reached.trans further
  calc
    log.after (key entry) =
        (front ++ entry :: back).filter fun other => decide ((key entry : WithBot Key) < key other) := by
      rw [after, split]
    _ = back := by
      rw [List.filter_append, before, List.filter_cons_of_neg (by simp), ahead, List.nil_append]
    _ = rest := unread.symm.trans rest_eq

theorem append_cases {log grown : SortedLog key} {entry : Entry}
    (appended : log.append entry = some grown) :
    grown.entries = log.entries ++ [entry] ∧ log.latest < key entry := by
  unfold append at appended
  split at appended
  · next above =>
      cases appended
      refine ⟨rfl, ?_⟩
      unfold latest
      split
      · next last found =>
          exact WithBot.coe_lt_coe.mpr (above last (List.mem_of_getLast? found))
      · exact WithBot.bot_lt_coe _
  · cases appended

theorem after_append {log grown : SortedLog key} {entry : Entry} (position : WithBot Key)
    (appended : log.append entry = some grown) :
    grown.after position =
      log.after position ++ if position < key entry then [entry] else [] := by
  rw [after, (append_cases appended).1, List.filter_append]
  by_cases reached : position < key entry <;> simp [after, reached]

theorem latest_append {log grown : SortedLog key} {entry : Entry}
    (appended : log.append entry = some grown) : grown.latest = key entry := by
  rw [latest, (append_cases appended).1, List.getLast?_concat]

end SortedLog

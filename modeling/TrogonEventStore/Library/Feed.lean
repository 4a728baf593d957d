import Mathlib.Data.List.Basic

/-! Finite feeds: items that are still to come, then an end that may be a failure.

Once a feed has ended it keeps saying so. -/

structure Feed (Item Failure : Type) where
  pending : List Item
  ending : Option Failure
  deriving DecidableEq, Repr

namespace Feed

variable {Item Failure : Type}

/-- The next item, the end, or the failure; what is left of the feed comes with it. -/
def tryNext (feed : Feed Item Failure) : Except Failure (Option Item) × Feed Item Failure :=
  match feed.pending, feed.ending with
  | item :: rest, ending => (.ok (some item), ⟨rest, ending⟩)
  | [], some failure => (.error failure, ⟨[], none⟩)
  | [], none => (.ok none, feed)

def Finished (feed : Feed Item Failure) : Prop := feed.pending = [] ∧ feed.ending = none

instance (feed : Feed Item Failure) : Decidable feed.Finished :=
  decidable_of_iff (feed.pending.isEmpty = true ∧ feed.ending.isNone = true) (by
    simp [Finished])

def remaining (feed : Feed Item Failure) : Nat :=
  feed.pending.length + feed.ending.toList.length

@[simp] theorem tryNext_cons (item : Item) (rest : List Item) (ending : Option Failure) :
    tryNext ⟨item :: rest, ending⟩ = (.ok (some item), ⟨rest, ending⟩) := rfl

@[simp] theorem tryNext_failed (failure : Failure) :
    tryNext (⟨[], some failure⟩ : Feed Item Failure) = (.error failure, ⟨[], none⟩) := rfl

@[simp] theorem tryNext_ended :
    tryNext (⟨[], none⟩ : Feed Item Failure) = (.ok none, ⟨[], none⟩) := rfl

theorem tryNext_finished {feed : Feed Item Failure} (finished : feed.Finished) :
    feed.tryNext = (.ok none, feed) := by
  obtain ⟨pending, ending⟩ := feed
  obtain ⟨rfl, rfl⟩ := finished
  rfl

theorem finished_of_tryNext {feed next : Feed Item Failure}
    (ended : feed.tryNext = (.ok none, next)) : feed.Finished := by
  obtain ⟨pending, ending⟩ := feed
  cases pending with
  | cons item rest => cases ended
  | nil =>
      cases ending with
      | some failure => cases ended
      | none => exact ⟨rfl, rfl⟩

theorem pending_of_tryNext {feed next : Feed Item Failure} {item : Item}
    (arrived : feed.tryNext = (.ok (some item), next)) :
    feed.pending = item :: next.pending ∧ feed.ending = next.ending := by
  obtain ⟨pending, ending⟩ := feed
  cases pending with
  | cons head rest =>
      cases arrived
      exact ⟨rfl, rfl⟩
  | nil =>
      cases ending with
      | some failure => cases arrived
      | none => cases arrived

def only (keep : Item → Bool) (feed : Feed Item Failure) : Feed Item Failure :=
  ⟨feed.pending.filter keep, feed.ending⟩

/-- A reader that passes over some items comes to this one. -/
def Reaches (passes : Item → Prop) (feed : Feed Item Failure) (item : Item) : Prop :=
  ∃ front back, feed.pending = front ++ item :: back ∧ ∀ passed ∈ front, passes passed

def Ends (passes : Item → Prop) (feed : Feed Item Failure) : Prop :=
  ∀ item ∈ feed.pending, passes item

variable {passes : Item → Prop} {item other : Item} {rest : List Item} {ending : Option Failure}

@[simp] theorem reaches_nil : ¬ Reaches passes (⟨[], ending⟩ : Feed Item Failure) item := by
  intro reaches
  obtain ⟨front, back, split, _⟩ := reaches
  cases front with
  | nil => cases split
  | cons first front => cases split

@[simp] theorem reaches_cons :
    Reaches passes (⟨item :: rest, ending⟩ : Feed Item Failure) other ↔
      other = item ∨ passes item ∧ Reaches passes (⟨rest, ending⟩ : Feed Item Failure) other := by
  constructor
  · intro reaches
    obtain ⟨front, back, split, passed⟩ := reaches
    cases front with
    | nil =>
        cases split
        exact Or.inl rfl
    | cons first front =>
        cases split
        exact Or.inr ⟨passed _ List.mem_cons_self, front, back, rfl,
          fun other member => passed other (List.mem_cons_of_mem _ member)⟩
  · intro cases
    rcases cases with rfl | ⟨first, front, back, split, passed⟩
    · exact ⟨[], rest, rfl, by simp⟩
    · simp only at split
      refine ⟨item :: front, back, by rw [split, List.cons_append], ?_⟩
      intro other member
      rcases List.mem_cons.mp member with rfl | member
      · exact first
      · exact passed other member

@[simp] theorem ends_nil : Ends passes (⟨[], ending⟩ : Feed Item Failure) := by
  intro item member
  cases member

@[simp] theorem ends_cons :
    Ends passes (⟨item :: rest, ending⟩ : Feed Item Failure) ↔
      passes item ∧ Ends passes (⟨rest, ending⟩ : Feed Item Failure) :=
  List.forall_mem_cons

end Feed

/-- A reader takes a feed item by item until one makes it stop, or the end does. -/
structure Reader (Item Failure Result : Type) where
  take : Item → Option Result
  ended : Option Failure → Result

namespace Reader

variable {Item Failure Result : Type}

def readFrom (reader : Reader Item Failure Result) (ending : Option Failure) : List Item → Result
  | [] => reader.ended ending
  | item :: rest =>
      match reader.take item with
      | some result => result
      | none => readFrom reader ending rest

def read (reader : Reader Item Failure Result) (feed : Feed Item Failure) : Result :=
  reader.readFrom feed.ending feed.pending

def Passes (reader : Reader Item Failure Result) (item : Item) : Prop := reader.take item = none

variable (reader : Reader Item Failure Result)

theorem read_nil (ending : Option Failure) : reader.read ⟨[], ending⟩ = reader.ended ending := rfl

theorem read_passed {item : Item} (passed : reader.Passes item) (rest : List Item)
    (ending : Option Failure) : reader.read ⟨item :: rest, ending⟩ = reader.read ⟨rest, ending⟩ := by
  have nothing : reader.take item = none := passed
  simp only [read, readFrom, nothing]

theorem read_taken {item : Item} {result : Result} (taken : reader.take item = some result)
    (rest : List Item) (ending : Option Failure) :
    reader.read ⟨item :: rest, ending⟩ = result := by
  simp only [read, readFrom, taken]

/-- What a reader comes to is good when every item that may stop it gives something good, and
so does the end where it gets there. -/
theorem read_iff (good : Result → Prop) (feed : Feed Item Failure) :
    good (reader.read feed) ↔
      (∀ item, feed.Reaches reader.Passes item → ∀ result ∈ reader.take item, good result) ∧
        (feed.Ends reader.Passes → good (reader.ended feed.ending)) := by
  obtain ⟨pending, ending⟩ := feed
  induction pending with
  | nil => simp [read_nil]
  | cons item rest ih =>
      cases taken : reader.take item with
      | some result =>
          have stops : ¬ reader.Passes item := by
            intro passed
            cases taken.symm.trans passed
          rw [reader.read_taken taken]
          simp [stops, taken]
      | none =>
          have passed : reader.Passes item := taken
          rw [reader.read_passed passed, ih]
          simp [passed, taken]

theorem read_only (keep : Item → Bool) {feed : Feed Item Failure}
    (kept : ∀ item, feed.Reaches reader.Passes item → keep item = true) :
    reader.read (feed.only keep) = reader.read feed := by
  obtain ⟨pending, ending⟩ := feed
  induction pending with
  | nil => rfl
  | cons item rest ih =>
      have first : keep item = true := kept item (by simp)
      have same : Feed.only keep ⟨item :: rest, ending⟩ =
          ⟨item :: (Feed.only keep ⟨rest, ending⟩ : Feed Item Failure).pending, ending⟩ := by
        simp [Feed.only, first]
      rw [same]
      cases taken : reader.take item with
      | some result => rw [reader.read_taken taken, reader.read_taken taken]
      | none =>
          have passed : reader.Passes item := taken
          rw [reader.read_passed passed, reader.read_passed passed]
          apply ih
          intro other reached
          exact kept other (Feed.reaches_cons.mpr (Or.inr ⟨passed, reached⟩))

def map {Other : Type} (convert : Result → Other) : Reader Item Failure Other where
  take item := (reader.take item).map convert
  ended ending := convert (reader.ended ending)

theorem read_map {Other : Type} (convert : Result → Other) (feed : Feed Item Failure) :
    (reader.map convert).read feed = convert (reader.read feed) := by
  obtain ⟨pending, ending⟩ := feed
  induction pending with
  | nil => rfl
  | cons item rest ih =>
      cases taken : reader.take item with
      | some result =>
          have converted : (reader.map convert).take item = some (convert result) := by
            simp [map, taken]
          rw [reader.read_taken taken, Reader.read_taken _ converted]
      | none =>
          have passed : (reader.map convert).Passes item := by simp [Passes, map, taken]
          rw [reader.read_passed taken, Reader.read_passed _ passed, ih]

end Reader

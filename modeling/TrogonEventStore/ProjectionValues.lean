import Mathlib.Algebra.Ring.Nat
import TrogonEventStore.Library.Loop
import TrogonEventStore.Json

namespace TrogonEventStore

open SortedEntries

/-- `prost_types::Value` with its kind, `unset` where there is none. The fields of a struct are a
`BTreeMap`; a number is known by its bits. -/
inductive ProtoValue where
  | unset
  | nullValue (value : Int)
  | numberValue (bits : UInt64)
  | stringValue (text : String)
  | boolValue (value : Bool)
  | structValue (fields : List (String × ProtoValue))
  | listValue (values : List ProtoValue)

def isFinite (bits : UInt64) : Bool := (bits.toNat / 2 ^ 52) % 2 ^ 11 ≠ 2 ^ 11 - 1

def fromF64 (bits : UInt64) : Option Json := if isFinite bits then some (.float bits) else none

inductive StackElem where
  | list (iter : List ProtoValue) (acc : List Json)
  | map (iter : List (String × ProtoValue)) (scope : String) (acc : JsonMap)
  | value (value : Json)
  | proto (value : ProtoValue)

/-- The stack of `parse_value`, its top first, and the value that was finished last. -/
structure ParseState where
  stack : List StackElem
  param : Option Json

/-- What a popped protobuf value pushes; `none` where its number has no JSON form. -/
def ProtoValue.push : ProtoValue → Option (List StackElem)
  | .unset => some [.value .null]
  | .nullValue _ => some [.value .null]
  | .numberValue bits => (fromF64 bits).map fun number => [.value number]
  | .stringValue text => some [.value (.string text)]
  | .boolValue flag => some [.value (.bool flag)]
  | .structValue [] => some [.value (.object [])]
  | .structValue ((key, first) :: iter) => some [.proto first, .map iter key []]
  | .listValue [] => some [.value (.array [])]
  | .listValue (first :: iter) => some [.proto first, .list iter []]

/-- A turn of the `while let` loop; a result of `none` is an `expect` that fails. -/
def parseTurn (state : ParseState) : Turn ParseState (Option Json) :=
  match state.stack with
  | [] => .finished state.param
  | .value value :: stack => .again ⟨stack, some value⟩
  | .map iter scope acc :: stack =>
      match state.param with
      | none => .finished none
      | some value =>
          match iter with
          | (next, first) :: iter =>
              .again
                ⟨.proto first :: .map iter next (SortedEntries.insert scope value acc) :: stack, none⟩
          | [] => .again ⟨.value (.object (SortedEntries.insert scope value acc)) :: stack, none⟩
  | .list iter acc :: stack =>
      match state.param with
      | none => .finished none
      | some value =>
          match iter with
          | first :: iter => .again ⟨.proto first :: .list iter (acc ++ [value]) :: stack, none⟩
          | [] => .again ⟨.value (.array (acc ++ [value])) :: stack, none⟩
  | .proto value :: stack =>
      match value.push with
      | none => .finished none
      | some elems => .again ⟨elems ++ stack, state.param⟩

mutual

/-- The turns that a value still takes, at most. -/
def ProtoValue.weight : ProtoValue → Nat
  | .structValue fields => fieldsWeight fields + 2
  | .listValue values => valuesWeight values + 2
  | _ => 2

def ProtoValue.fieldsWeight : List (String × ProtoValue) → Nat
  | [] => 0
  | field :: fields => ProtoValue.weight field.2 + 1 + fieldsWeight fields

def ProtoValue.valuesWeight : List ProtoValue → Nat
  | [] => 0
  | value :: values => ProtoValue.weight value + 1 + valuesWeight values

end

def StackElem.weight : StackElem → Nat
  | .list iter _ => ProtoValue.valuesWeight iter + 2
  | .map iter _ _ => ProtoValue.fieldsWeight iter + 2
  | .value _ => 1
  | .proto top => top.weight

def stackWeight (stack : List StackElem) : Nat := (stack.map StackElem.weight).sum

theorem push_weight {value : ProtoValue} {elems : List StackElem}
    (pushed : value.push = some elems) : stackWeight elems < value.weight := by
  unfold ProtoValue.push at pushed
  split at pushed
  case h_3 =>
    obtain ⟨number, _, rfl⟩ := Option.map_eq_some_iff.mp pushed
    simp [stackWeight, StackElem.weight, ProtoValue.weight]
  all_goals
    cases pushed
    simp [stackWeight, StackElem.weight, ProtoValue.weight, ProtoValue.fieldsWeight,
      ProtoValue.valuesWeight]
  all_goals omega

/-- `parse_value` as a loop: what is left on the stack gets less with every turn. -/
def parseLoop : Loop ParseState (Option Json) where
  body := parseTurn
  variant := fun state => stackWeight state.stack
  decreases := by
    intro state next turn
    unfold parseTurn at turn
    split at turn
    · cases turn
    · next value stack given =>
        cases turn
        simp [given, stackWeight, StackElem.weight]
    · next iter scope acc stack given =>
        split at turn
        · cases turn
        · split at turn
          · cases turn
            simp [given, stackWeight, StackElem.weight, ProtoValue.fieldsWeight]
            omega
          · cases turn
            simp [given, stackWeight, StackElem.weight]
    · next iter acc stack given =>
        split at turn
        · cases turn
        · split at turn
          · cases turn
            simp [given, stackWeight, StackElem.weight, ProtoValue.valuesWeight]
            omega
          · cases turn
            simp [given, stackWeight, StackElem.weight]
    · next value stack given =>
        split at turn
        · cases turn
        · next elems pushed =>
            cases turn
            have less := push_weight pushed
            simp only [stackWeight] at less
            simp [given, stackWeight, StackElem.weight]
            omega

def parseValue (value : ProtoValue) : Option Json := parseLoop.run ⟨[.proto value], none⟩

mutual

def ProtoValue.convert : ProtoValue → Json
  | .unset => .null
  | .nullValue _ => .null
  | .numberValue bits => .float bits
  | .stringValue text => .string text
  | .boolValue flag => .bool flag
  | .structValue fields => .object (convertFields fields)
  | .listValue values => .array (convertValues values)

def ProtoValue.convertFields : List (String × ProtoValue) → JsonMap
  | [] => []
  | field :: fields => (field.1, ProtoValue.convert field.2) :: convertFields fields

def ProtoValue.convertValues : List ProtoValue → List Json
  | [] => []
  | value :: values => ProtoValue.convert value :: convertValues values

end

mutual

/-- Every number in it is finite, and every struct has its keys in order, as the map keeps them. -/
def ProtoValue.WellFormed : ProtoValue → Prop
  | .numberValue bits => isFinite bits = true
  | .structValue fields => Sorted fields ∧ WellFormedFields fields
  | .listValue values => WellFormedValues values
  | _ => True

def ProtoValue.WellFormedFields : List (String × ProtoValue) → Prop
  | [] => True
  | field :: fields => ProtoValue.WellFormed field.2 ∧ WellFormedFields fields

def ProtoValue.WellFormedValues : List ProtoValue → Prop
  | [] => True
  | value :: values => ProtoValue.WellFormed value ∧ WellFormedValues values

end

theorem run_value (value : Json) (stack : List StackElem) (param : Option Json) :
    parseLoop.run ⟨.value value :: stack, param⟩ = parseLoop.run ⟨stack, some value⟩ :=
  parseLoop.run_again rfl

theorem run_leaf {value : ProtoValue} {converted : Json} (pushed : value.push = some [.value converted])
    (stack : List StackElem) (param : Option Json) :
    parseLoop.run ⟨.proto value :: stack, param⟩ = parseLoop.run ⟨stack, some converted⟩ := by
  have turn : parseLoop.body ⟨.proto value :: stack, param⟩ =
      .again ⟨.value converted :: stack, param⟩ := by
    simp [parseLoop, parseTurn, pushed]
  rw [parseLoop.run_again turn, run_value]

theorem convertFields_keys (fields : List (String × ProtoValue)) :
    (ProtoValue.convertFields fields).map Prod.fst = fields.map Prod.fst := by
  induction fields with
  | nil => rfl
  | cons field fields ih => rw [ProtoValue.convertFields, List.map_cons, List.map_cons, ih]

theorem below_scope {acc later : JsonMap} {scope : String} {value : Json}
    (sorted : Sorted (acc ++ (scope, value) :: later)) : ∀ entry ∈ acc, entry.1 < scope := by
  intro entry member
  exact (List.pairwise_append.mp sorted).2.2 entry member (scope, value) List.mem_cons_self

mutual

/-- A value on top of the stack becomes the finished value, the stack below it as it was. -/
theorem run_proto : ∀ {value : ProtoValue}, value.WellFormed →
    ∀ (stack : List StackElem) (param : Option Json),
      parseLoop.run ⟨.proto value :: stack, param⟩ = parseLoop.run ⟨stack, some value.convert⟩
  | .unset, _, stack, param => run_leaf rfl stack param
  | .nullValue _, _, stack, param => run_leaf rfl stack param
  | .numberValue bits, finite, stack, param => by
      have number : fromF64 bits = some (.float bits) := if_pos finite
      apply run_leaf
      rw [ProtoValue.push, number, Option.map_some, ProtoValue.convert]
  | .stringValue _, _, stack, param => run_leaf rfl stack param
  | .boolValue _, _, stack, param => run_leaf rfl stack param
  | .structValue [], _, stack, param => run_leaf rfl stack param
  | .structValue ((key, first) :: iter), ⟨sorted, inner, others⟩, stack, param => by
      have turn : parseLoop.body ⟨.proto (.structValue ((key, first) :: iter)) :: stack, param⟩ =
          .again ⟨.proto first :: .map iter key [] :: stack, param⟩ := rfl
      have entries : Sorted ([] ++ (key, first.convert) :: ProtoValue.convertFields iter) := by
        rw [List.nil_append, sorted_iff_keys, List.map_cons, convertFields_keys]
        exact sorted_iff_keys.mp sorted
      rw [parseLoop.run_again turn, run_proto inner, run_fields others [] key _ stack entries]
      rfl
  | .listValue [], _, stack, param => run_leaf rfl stack param
  | .listValue (first :: iter), ⟨inner, others⟩, stack, param => by
      have turn : parseLoop.body ⟨.proto (.listValue (first :: iter)) :: stack, param⟩ =
          .again ⟨.proto first :: .list iter [] :: stack, param⟩ := rfl
      rw [parseLoop.run_again turn, run_proto inner, run_values others [] first.convert stack]
      rfl

theorem run_values : ∀ {iter : List ProtoValue}, ProtoValue.WellFormedValues iter →
    ∀ (acc : List Json) (value : Json) (stack : List StackElem),
      parseLoop.run ⟨.list iter acc :: stack, some value⟩ =
        parseLoop.run ⟨stack, some (.array (acc ++ value :: ProtoValue.convertValues iter))⟩
  | [], _, acc, value, stack => by
      have turn : parseLoop.body ⟨.list [] acc :: stack, some value⟩ =
          .again ⟨.value (.array (acc ++ [value])) :: stack, none⟩ := rfl
      rw [parseLoop.run_again turn, run_value, ProtoValue.convertValues]
  | first :: iter, ⟨inner, others⟩, acc, value, stack => by
      have turn : parseLoop.body ⟨.list (first :: iter) acc :: stack, some value⟩ =
          .again ⟨.proto first :: .list iter (acc ++ [value]) :: stack, none⟩ := rfl
      rw [parseLoop.run_again turn, run_proto inner, run_values others, List.append_assoc,
        List.singleton_append, ProtoValue.convertValues]

/-- The map on top of the stack takes the finished value under the key in scope. The keys it has
are below that key, and the keys to come are above it. -/
theorem run_fields : ∀ {iter : List (String × ProtoValue)}, ProtoValue.WellFormedFields iter →
    ∀ (acc : JsonMap) (scope : String) (value : Json) (stack : List StackElem),
      Sorted (acc ++ (scope, value) :: ProtoValue.convertFields iter) →
      parseLoop.run ⟨.map iter scope acc :: stack, some value⟩ =
        parseLoop.run
          ⟨stack, some (.object (acc ++ (scope, value) :: ProtoValue.convertFields iter))⟩
  | [], _, acc, scope, value, stack, sorted => by
      have turn : parseLoop.body ⟨.map [] scope acc :: stack, some value⟩ =
          .again ⟨.value (.object (SortedEntries.insert scope value acc)) :: stack, none⟩ := rfl
      rw [parseLoop.run_again turn, run_value,
        insert_last value (below_scope sorted), ProtoValue.convertFields]
  | (next, first) :: iter, ⟨inner, others⟩, acc, scope, value, stack, sorted => by
      have turn : parseLoop.body ⟨.map ((next, first) :: iter) scope acc :: stack, some value⟩ =
          .again
            ⟨.proto first :: .map iter next (SortedEntries.insert scope value acc) :: stack, none⟩ :=
        rfl
      have longer : acc ++ (scope, value) :: ProtoValue.convertFields ((next, first) :: iter) =
          (acc ++ [(scope, value)]) ++ (next, first.convert) :: ProtoValue.convertFields iter := by
        rw [List.append_assoc, List.singleton_append, ProtoValue.convertFields]
      rw [parseLoop.run_again turn, run_proto inner,
        insert_last value (below_scope sorted), longer]
      rw [longer] at sorted
      exact run_fields others _ next first.convert stack sorted

end

/-- The stack machine gives what the recursion gives, and never fails to. -/
theorem parse_value_converts {value : ProtoValue} (wellFormed : value.WellFormed) :
    parseValue value = some value.convert := by
  have ends : parseLoop.run ⟨[], some value.convert⟩ = some value.convert :=
    parseLoop.run_finished rfl
  rw [parseValue, run_proto wellFormed, ends]

def countedOrders : ProtoValue :=
  .structValue [("north", .structValue []), ("south", .listValue [.numberValue 0x4000000000000000,
    .unset, .structValue [("last", .stringValue "42")]])]

theorem counted_orders_convert : parseValue countedOrders = some countedOrders.convert := by
  have order : "north" < "south" := by
    rw [String.lt_iff_toList_lt]
    decide
  have sorted : ["north", "south"].Pairwise (· < ·) :=
    List.pairwise_cons.mpr ⟨fun key member => List.mem_singleton.mp member ▸ order,
      List.pairwise_singleton _ _⟩
  have finite : isFinite 0x4000000000000000 = true := by decide
  exact parse_value_converts ⟨sorted_iff_keys.mpr sorted, ⟨List.Pairwise.nil, trivial⟩,
    ⟨finite, trivial, ⟨List.pairwise_singleton _ _, trivial, trivial⟩, trivial⟩, trivial⟩

end TrogonEventStore

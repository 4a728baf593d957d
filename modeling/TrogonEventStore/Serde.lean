import TrogonEventStore.Json

/-! Reading typed values from JSON as the serde crate does: visitors, and the code derived for
structures. -/

namespace TrogonEventStore.Serde

inductive Unexpected where
  | bool (value : Bool)
  | unsigned (value : Nat)
  | signed (value : Int)
  | float (bits : UInt64)
  | str (text : String)
  | unit
  | seq
  | map
  deriving DecidableEq, Repr

inductive DeError where
  | invalidType (unexpected : Unexpected) (expected : String)
  | invalidValue (unexpected : Unexpected) (expected : String)
  | invalidLength (length : Nat) (expected : String)
  | unknownVariant (variant : String) (expected : List String)
  | missingField (field : String)
  | duplicateField (field : String)
  | trailingCharacters
  | expectedSomeValue
  deriving DecidableEq, Repr

abbrev Read (Value : Type) := Json → Except DeError Value

/-- Non-negative numbers are unsigned to serde_json. -/
def unexpectedNumber (value : Int) : Unexpected :=
  if 0 ≤ value then .unsigned value.toNat else .signed value

def unexpected : Json → Unexpected
  | .null => .unit
  | .bool value => .bool value
  | .number value => unexpectedNumber value
  | .float bits => .float bits
  | .string text => .str text
  | .array _ => .seq
  | .object _ => .map

def bool : Read Bool
  | .bool value => .ok value
  | other => .error (.invalidType (unexpected other) "a boolean")

def string : Read String
  | .string text => .ok text
  | other => .error (.invalidType (unexpected other) "a string")

def unsigned (bound : Nat) (name : String) : Read Nat
  | .number value =>
      if 0 ≤ value ∧ value < bound then .ok value.toNat
      else .error (.invalidValue (unexpectedNumber value) name)
  | other => .error (.invalidType (unexpected other) name)

def vec {Value : Type} (read : Read Value) : Read (List Value)
  | .array items => items.mapM read
  | other => .error (.invalidType (unexpected other) "a sequence")

def option {Value : Type} (read : Read Value) : Read (Option Value)
  | .null => .ok none
  | value => (read value).map some

/-- An enumeration of unit variants: the name of one, or an object that maps it to `null`. -/
def unitVariant {Value : Type} (variants : List (String × Value)) : Read Value
  | .string name => variant name
  | .object ((name, content) :: others) => do
      let value ← variant name
      match content with
      | .null => if others.isEmpty then .ok value else .error .expectedSomeValue
      | other => .error (.invalidType (unexpected other) "unit")
  | _ => .error .expectedSomeValue
where
  variant (name : String) : Except DeError Value :=
    match variants.lookup name with
    | some value => .ok value
    | none => .error (.unknownVariant name (variants.map Prod.fst))

/-- What of `serde::de::Visitor` a type implements; the rest is an invalid type. -/
structure Visitor (Value : Type) where
  expecting : String
  visitU64 : Option (Nat → Value)
  visitI64 : Option (Int → Value)
  visitStr : Option (String → Value)

def Visitor.visited {Value Shown : Type} (visitor : Visitor Value) (visit : Option (Shown → Value))
    (shown : Shown) (unexpected : Unexpected) : Except DeError Value :=
  match visit with
  | some visit => .ok (visit shown)
  | none => .error (.invalidType unexpected visitor.expecting)

def Visitor.deserializeAny {Value : Type} (visitor : Visitor Value) : Read Value
  | .number value =>
      if 0 ≤ value then
        visitor.visited visitor.visitU64 value.toNat (.unsigned value.toNat)
      else visitor.visited visitor.visitI64 value (.signed value)
  | .string text => visitor.visited visitor.visitStr text (.str text)
  | other => .error (.invalidType (unexpected other) visitor.expecting)

def field {Value : Type} (name : String) (read : Read Value) (seen : Option Value) (value : Json) :
    Except DeError (Option Value) :=
  match seen with
  | some _ => .error (.duplicateField name)
  | none => (read value).map some

def required {Value : Type} (name : String) (seen : Option Value) : Except DeError Value :=
  match seen with
  | some value => .ok value
  | none => .error (.missingField name)

/-- What `derive(Deserialize)` makes of a structure: an object is visited entry by entry, an array
as the fields in their order. The first `optional` fields have defaults. -/
def struct {Fields : Type} (name : String) (fields : List String) (optional : Nat)
    (visit : Fields → String × Json → Except DeError Fields) (start : Fields) : Read Fields
  | .object entries => entries.foldlM visit start
  | .array items => do
      let seen ← (fields.zip items).foldlM visit start
      if items.length < fields.length then
        .error (.invalidLength (max items.length optional)
          (name ++ " with " ++ toString fields.length ++ " elements"))
      else if fields.length < items.length then .error .trailingCharacters
      else .ok seen
  | other => .error (.invalidType (unexpected other) name)

section Laws

variable {Value Fields : Type}

theorem string_text (text : String) : string (.string text) = .ok text := rfl

theorem unsigned_number {bound value : Nat} (name : String) (below : value < bound) :
    unsigned bound name (.number value) = .ok value := by
  have given : (0 : Int) ≤ value ∧ (value : Int) < bound := by omega
  rw [unsigned, if_pos given, Int.toNat_natCast]

theorem vec_array {read : Read Value} {write : Value → Json} {values : List Value}
    (reads : ∀ value ∈ values, read (write value) = .ok value) :
    vec read (.array (values.map write)) = .ok values := by
  change (values.map write).mapM read = .ok values
  induction values with
  | nil => rfl
  | cons value values ih =>
      have rest := ih fun other listed => reads other (List.mem_cons_of_mem _ listed)
      rw [List.map_cons, List.mapM_cons, reads value List.mem_cons_self, rest]
      rfl

/-- A visitor without `visit_u64` takes no number that is not negative. -/
theorem deserializeAny_unsigned {visitor : Visitor Value} (signed : visitor.visitU64 = none)
    (value : Nat) : visitor.deserializeAny (.number value) =
      .error (.invalidType (.unsigned value) visitor.expecting) := by
  have given : (0 : Int) ≤ value := by omega
  rw [Visitor.deserializeAny, if_pos given, signed]
  rfl

theorem field_refused {name : String} {read : Read Value} {value : Json} {error : DeError}
    (refused : read value = .error error) (seen : Option Value) :
    ∃ error, field name read seen value = .error error := by
  cases seen with
  | some other => exact ⟨.duplicateField name, rfl⟩
  | none =>
      rw [field, refused]
      exact ⟨error, rfl⟩

theorem foldlM_refused {visit : Fields → String × Json → Except DeError Fields}
    {entries : List (String × Json)} {entry : String × Json} (listed : entry ∈ entries)
    (refused : ∀ fields, ∃ error, visit fields entry = .error error) (fields : Fields) :
    ∃ error, entries.foldlM visit fields = .error error := by
  induction entries generalizing fields with
  | nil => cases listed
  | cons first entries ih =>
      rw [List.foldlM_cons]
      cases visited : visit fields first with
      | error error => exact ⟨error, rfl⟩
      | ok next =>
          rcases List.mem_cons.mp listed with rfl | later
          · obtain ⟨error, fails⟩ := refused fields
            rw [fails] at visited
            cases visited
          · exact ih later next

end Laws

end TrogonEventStore.Serde

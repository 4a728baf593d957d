import TrogonEventStore.EventWire
import TrogonEventStore.Settings

namespace TrogonEventStore

structure StreamAcl where
  readRoles : Option (List String)
  writeRoles : Option (List String)
  deleteRoles : Option (List String)
  metaReadRoles : Option (List String)
  metaWriteRoles : Option (List String)
  deriving DecidableEq, Repr

inductive Acl where
  | userStream
  | systemStream
  | stream (acl : StreamAcl)
  deriving DecidableEq, Repr

/-- `HashMap<String, Value>`: every key occurs once. -/
structure Properties where
  entries : List (String × Json)
  distinct : (entries.map Prod.fst).Nodup

def Properties.empty : Properties := ⟨[], List.nodup_nil⟩

theorem distinct_insert {entries : List (String × Json)} (distinct : (entries.map Prod.fst).Nodup)
    (key : String) (value : Json) :
    ((entries.filter (fun entry => entry.1 ≠ key) ++ [(key, value)]).map Prod.fst).Nodup := by
  rw [List.map_append]
  refine List.nodup_append.mpr ⟨distinct.sublist (List.filter_sublist.map Prod.fst),
    List.pairwise_singleton _ key, ?_⟩
  intro other kept last member same
  obtain ⟨entry, given, rfl⟩ := List.mem_map.mp kept
  have differs := of_decide_eq_true (List.mem_filter.mp given).2
  exact differs (same.trans (List.mem_singleton.mp member))

def Properties.insert (properties : Properties) (entry : String × Json) : Properties :=
  ⟨properties.entries.filter (fun other => other.1 ≠ entry.1) ++ [entry],
    distinct_insert properties.distinct entry.1 entry.2⟩

structure StreamMetadata where
  maxCount : Option UInt64
  maxAge : Option Duration
  truncateBefore : Option UInt64
  cacheControl : Option Duration
  acl : Option Acl
  customProperties : Properties

def StreamMetadata.new : StreamMetadata := ⟨none, none, none, none, none, .empty⟩

/-- A field that is skipped where it is `None`. -/
def serializeField {Value : Type} (name : String) (serialize : Value → Json) (value : Option Value) :
    List (String × Json) :=
  (value.map fun value => (name, serialize value)).toList

/-- A field that is `None` where it is missing, and must not be given twice. -/
def deserializeField {Value : Type} (name : String) (deserialize : Json → Option Value)
    (entries : List (String × Json)) : Option (Option Value) :=
  match entries.filter fun entry => entry.1 = name with
  | [] => some none
  | [(_, value)] => (deserialize value).map some
  | _ => none

def serializeU64 (value : UInt64) : Json := .number value.toNat

def deserializeU64 : Json → Option UInt64
  | .number value =>
      if 0 ≤ value ∧ value < u64Bound then some (.ofNat value.toNat) else none
  | _ => none

/-- `Option<u64>` also reads `null`. -/
def deserializeOptionU64 : Json → Option (Option UInt64)
  | .null => some none
  | value => (deserializeU64 value).map some

/-- `as_millis() as u64`: whole milliseconds, and the cast wraps. -/
def serializeDuration (src : Duration) : Json := .number ((src / 1000000 % u64Bound : Nat) : Int)

/-- `DurationVisitor` has no `visit_unit`, so that `null` is an error. -/
def deserializeDuration (value : Json) : Option Duration :=
  (deserializeU64 value).map fun millis => .fromMillis millis.toNat

def serializeRoles : List String → Json
  | [role] => .string role
  | roles => .array (roles.map .string)

def Json.asString : Json → Option String
  | .string text => some text
  | _ => none

def deserializeRoles : Json → Option (List String)
  | .string role => some [role]
  | .array items => items.mapM Json.asString
  | _ => none

def StreamAcl.serialize (acl : StreamAcl) : Json :=
  .object (serializeField "$r" serializeRoles acl.readRoles ++
    serializeField "$w" serializeRoles acl.writeRoles ++
    serializeField "$d" serializeRoles acl.deleteRoles ++
    serializeField "$mr" serializeRoles acl.metaReadRoles ++
    serializeField "$mw" serializeRoles acl.metaWriteRoles)

def StreamAcl.deserialize (entries : List (String × Json)) : Option StreamAcl := do
  let readRoles ← deserializeField "$r" deserializeRoles entries
  let writeRoles ← deserializeField "$w" deserializeRoles entries
  let deleteRoles ← deserializeField "$d" deserializeRoles entries
  let metaReadRoles ← deserializeField "$mr" deserializeRoles entries
  let metaWriteRoles ← deserializeField "$mw" deserializeRoles entries
  some ⟨readRoles, writeRoles, deleteRoles, metaReadRoles, metaWriteRoles⟩

def serializeAcl : Acl → Json
  | .userStream => .string "$userStreamAcl"
  | .systemStream => .string "$systemStreamAcl"
  | .stream acl => acl.serialize

def deserializeAcl : Json → Option Acl
  | .string text =>
      if text = "$userStreamAcl" then some .userStream
      else if text = "$systemStreamAcl" then some .systemStream
      else none
  | .object entries => (StreamAcl.deserialize entries).map .stream
  | _ => none

def StreamMetadata.systemKeys : List String := ["$maxCount", "$maxAge", "$tb", "$cacheControl", "$acl"]

def StreamMetadata.systemEntries (metadata : StreamMetadata) : List (String × Json) :=
  serializeField "$maxCount" serializeU64 metadata.maxCount ++
    serializeField "$maxAge" serializeDuration metadata.maxAge ++
    serializeField "$tb" serializeU64 metadata.truncateBefore ++
    serializeField "$cacheControl" serializeDuration metadata.cacheControl ++
    serializeField "$acl" serializeAcl metadata.acl

def StreamMetadata.serialize (metadata : StreamMetadata) : Json :=
  .object (metadata.systemEntries ++ metadata.customProperties.entries)

def StreamMetadata.deserialize : Json → Option StreamMetadata
  | .object entries => do
      let maxCount ← deserializeField "$maxCount" deserializeOptionU64 entries
      let maxAge ← deserializeField "$maxAge" deserializeDuration entries
      let truncateBefore ← deserializeField "$tb" deserializeOptionU64 entries
      let cacheControl ← deserializeField "$cacheControl" deserializeDuration entries
      let acl ← deserializeField "$acl" deserializeAcl entries
      let collected := entries.filter fun entry => entry.1 ∉ systemKeys
      some ⟨maxCount.join, maxAge, truncateBefore.join, cacheControl, acl,
        collected.foldl .insert .empty⟩
  | _ => none

def StreamMetadata.WholeMillis (metadata : StreamMetadata) : Prop :=
  ∀ duration, metadata.maxAge = some duration ∨ metadata.cacheControl = some duration →
    duration % 1000000 = 0 ∧ duration / 1000000 < u64Bound

/-- No custom property goes by the name of a system property. -/
def StreamMetadata.KeysApart (metadata : StreamMetadata) : Prop :=
  ∀ entry ∈ metadata.customProperties.entries, entry.1 ∉ systemKeys

theorem deserialize_serializeU64 (value : UInt64) :
    deserializeU64 (serializeU64 value) = some value := by
  have bound := value.toNat_lt
  have given : (0 : Int) ≤ value.toNat ∧ (value.toNat : Int) < u64Bound := by
    simp only [u64Bound]
    omega
  rw [serializeU64, deserializeU64, if_pos given, Int.toNat_natCast, UInt64.ofNat_toNat]

theorem deserialize_serializeDuration {duration : Nat} (whole : duration % 1000000 = 0)
    (bounded : duration / 1000000 < u64Bound) :
    deserializeDuration (serializeDuration duration) = some duration := by
  have given : (0 : Int) ≤ (duration / 1000000 : Nat) ∧
      ((duration / 1000000 : Nat) : Int) < u64Bound := by omega
  have small : duration / 1000000 < 2 ^ 64 := bounded
  have restored : duration / 1000000 * 1000000 = duration := by omega
  rw [deserializeDuration, serializeDuration, Nat.mod_eq_of_lt bounded, deserializeU64, if_pos given,
    Int.toNat_natCast, Option.map_some, UInt64.toNat_ofNat_of_lt' small, Duration.fromMillis, restored]

theorem mapM_asString (roles : List String) :
    (roles.map Json.string).mapM Json.asString = some roles := by
  induction roles with
  | nil => rfl
  | cons role roles ih => simp [Json.asString, ih]

theorem deserialize_serializeRoles (roles : List String) :
    deserializeRoles (serializeRoles roles) = some roles := by
  unfold serializeRoles
  split
  · rfl
  · exact mapM_asString roles

theorem filter_serializeField {Value : Type} (name other : String) (serialize : Value → Json)
    (value : Option Value) :
    (serializeField name serialize value).filter (fun entry => entry.1 = other) =
      if name = other then serializeField name serialize value else [] := by
  cases value with
  | none => simp [serializeField]
  | some value => by_cases same : name = other <;> simp [serializeField, same]

theorem deserializeField_eq {Value Other : Type} (convert : Value → Other) {name : String}
    {serialize : Value → Json} {deserialize : Json → Option Other} {value : Option Value}
    {entries : List (String × Json)}
    (found : entries.filter (fun entry => entry.1 = name) = serializeField name serialize value)
    (restores : ∀ given, value = some given → deserialize (serialize given) = some (convert given)) :
    deserializeField name deserialize entries = some (value.map convert) := by
  rw [deserializeField, found]
  cases value with
  | none => rfl
  | some given => simp [serializeField, restores given rfl]

theorem StreamAcl.deserialize_entries (acl : StreamAcl) :
    deserializeAcl acl.serialize = some (.stream acl) := by
  have read : ∀ (name : String) (roles : Option (List String)) (entries : List (String × Json)),
      entries.filter (fun entry => entry.1 = name) = serializeField name serializeRoles roles →
      deserializeField name deserializeRoles entries = some roles := by
    intro name roles entries found
    have field := deserializeField_eq id found fun given _ => deserialize_serializeRoles given
    rwa [Option.map_id] at field
  rw [StreamAcl.serialize, deserializeAcl, StreamAcl.deserialize]
  rw [read "$r" acl.readRoles _ (by simp [filter_serializeField]),
    read "$w" acl.writeRoles _ (by simp [filter_serializeField]),
    read "$d" acl.deleteRoles _ (by simp [filter_serializeField]),
    read "$mr" acl.metaReadRoles _ (by simp [filter_serializeField]),
    read "$mw" acl.metaWriteRoles _ (by simp [filter_serializeField])]
  rfl

theorem deserialize_serializeAcl (acl : Acl) : deserializeAcl (serializeAcl acl) = some acl := by
  cases acl with
  | userStream => rfl
  | systemStream => rfl
  | stream acl => exact acl.deserialize_entries

theorem join_map_some {Value : Type} (value : Option Value) : (value.map some).join = value := by
  cases value <;> rfl

theorem deserialize_u64_field {name : String} {value : Option UInt64}
    {entries : List (String × Json)}
    (found : entries.filter (fun entry => entry.1 = name) = serializeField name serializeU64 value) :
    deserializeField name deserializeOptionU64 entries = some (value.map some) := by
  apply deserializeField_eq some found
  intro given _
  have number := deserialize_serializeU64 given
  rw [serializeU64] at number ⊢
  rw [deserializeOptionU64, number, Option.map_some]
  intro impossible
  cases impossible

theorem collect_entries (entries : List (String × Json)) (properties : Properties)
    (distinct : ((properties.entries ++ entries).map Prod.fst).Nodup) :
    (entries.foldl Properties.insert properties).entries = properties.entries ++ entries := by
  induction entries generalizing properties with
  | nil => rw [List.foldl_nil, List.append_nil]
  | cons entry entries ih =>
      have fresh : properties.entries.filter (fun other => other.1 ≠ entry.1) =
          properties.entries := by
        rw [List.filter_eq_self]
        intro other member
        rw [List.map_append, List.nodup_append] at distinct
        exact decide_eq_true (distinct.2.2 other.1 (List.mem_map_of_mem member) entry.1
          List.mem_cons_self)
      have inserted : (properties.insert entry).entries = properties.entries ++ [entry] :=
        congrArg (· ++ [entry]) fresh
      have split : properties.entries ++ entry :: entries =
          (properties.insert entry).entries ++ entries := by
        rw [inserted, List.append_assoc, List.singleton_append]
      rw [List.foldl_cons, split]
      apply ih
      rw [← split]
      exact distinct

theorem collect_properties (properties : Properties) :
    properties.entries.foldl Properties.insert .empty = properties := by
  have kept := collect_entries properties.entries .empty properties.distinct
  cases collected : properties.entries.foldl Properties.insert .empty with
  | mk entries distinct =>
      rw [collected] at kept
      cases properties
      cases kept
      rfl

def StreamMetadata.fieldsWith (write : Acl → Json) (metadata : StreamMetadata) :
    List (String × Json) :=
  serializeField "$maxCount" serializeU64 metadata.maxCount ++
    serializeField "$maxAge" serializeDuration metadata.maxAge ++
    serializeField "$tb" serializeU64 metadata.truncateBefore ++
    serializeField "$cacheControl" serializeDuration metadata.cacheControl ++
    serializeField "$acl" write metadata.acl

theorem keys_serializeField {Value : Type} (name : String) (serialize : Value → Json)
    (value : Option Value) :
    ((serializeField name serialize value).map Prod.fst).Sublist [name] := by
  cases value with
  | none => exact List.nil_sublist _
  | some value => exact List.Sublist.refl _

theorem StreamMetadata.keys_fieldsWith (metadata : StreamMetadata) (write : Acl → Json) :
    ((metadata.fieldsWith write).map Prod.fst).Sublist systemKeys := by
  simp only [StreamMetadata.fieldsWith, List.map_append]
  exact ((((keys_serializeField _ _ _).append (keys_serializeField _ _ _)).append
    (keys_serializeField _ _ _)).append (keys_serializeField _ _ _)).append
    (keys_serializeField _ _ _)

section Apart

variable {metadata : StreamMetadata} (apart : metadata.KeysApart) (write : Acl → Json)

include apart

theorem StreamMetadata.filter_system {name : String} (system : name ∈ systemKeys) :
    (metadata.fieldsWith write ++ metadata.customProperties.entries).filter
        (fun entry => entry.1 = name) =
      (metadata.fieldsWith write).filter fun entry => entry.1 = name := by
  have absent : metadata.customProperties.entries.filter (fun entry => entry.1 = name) = [] := by
    rw [List.filter_eq_nil_iff]
    intro entry member same
    rw [decide_eq_true_eq] at same
    exact apart entry member (same ▸ system)
  rw [List.filter_append, absent, List.append_nil]

theorem StreamMetadata.filter_custom :
    (metadata.fieldsWith write ++ metadata.customProperties.entries).filter
        (fun entry => entry.1 ∉ systemKeys) = metadata.customProperties.entries := by
  have absent : (metadata.fieldsWith write).filter (fun entry => entry.1 ∉ systemKeys) = [] := by
    rw [List.filter_eq_nil_iff]
    intro entry member other
    exact of_decide_eq_true other
      ((metadata.keys_fieldsWith write).subset (List.mem_map_of_mem member))
  have kept : metadata.customProperties.entries.filter (fun entry => entry.1 ∉ systemKeys) =
      metadata.customProperties.entries := by
    rw [List.filter_eq_self]
    intro entry member
    exact decide_eq_true (apart entry member)
  rw [List.filter_append, absent, kept, List.nil_append]

end Apart

theorem deserialize_duration_field {name : String} {value : Option Duration}
    {entries : List (String × Json)}
    (found : entries.filter (fun entry => entry.1 = name) =
      serializeField name serializeDuration value)
    (whole : ∀ duration, value = some duration →
      duration % 1000000 = 0 ∧ duration / 1000000 < u64Bound) :
    deserializeField name deserializeDuration entries = some value := by
  have restores : ∀ given, value = some given →
      deserializeDuration (serializeDuration given) = some (id given) := by
    intro given present
    have fits := whole given present
    exact deserialize_serializeDuration fits.1 fits.2
  have field := deserializeField_eq id found restores
  rwa [Option.map_id] at field

theorem StreamMetadata.deserialize_fields {metadata : StreamMetadata} {write : Acl → Json}
    {entries : List (String × Json)} (whole : metadata.WholeMillis)
    (forms : ∀ acl, metadata.acl = some acl → deserializeAcl (write acl) = some acl)
    (found : ∀ name ∈ systemKeys, entries.filter (fun entry => entry.1 = name) =
      (metadata.fieldsWith write).filter (fun entry => entry.1 = name)) :
    StreamMetadata.deserialize (.object entries) =
      some { metadata with
        customProperties :=
          (entries.filter fun entry => entry.1 ∉ systemKeys).foldl .insert .empty } := by
  have maxCount : deserializeField "$maxCount" deserializeOptionU64 entries =
      some (metadata.maxCount.map some) :=
    deserialize_u64_field ((found _ (by decide)).trans (by
      simp [StreamMetadata.fieldsWith, filter_serializeField]))
  have maxAge : deserializeField "$maxAge" deserializeDuration entries = some metadata.maxAge :=
    deserialize_duration_field ((found _ (by decide)).trans (by
      simp [StreamMetadata.fieldsWith, filter_serializeField]))
      fun duration present => whole duration (Or.inl present)
  have truncateBefore : deserializeField "$tb" deserializeOptionU64 entries =
      some (metadata.truncateBefore.map some) :=
    deserialize_u64_field ((found _ (by decide)).trans (by
      simp [StreamMetadata.fieldsWith, filter_serializeField]))
  have cacheControl : deserializeField "$cacheControl" deserializeDuration entries =
      some metadata.cacheControl :=
    deserialize_duration_field ((found _ (by decide)).trans (by
      simp [StreamMetadata.fieldsWith, filter_serializeField]))
      fun duration present => whole duration (Or.inr present)
  have acl : deserializeField "$acl" deserializeAcl entries = some (metadata.acl.map id) :=
    deserializeField_eq id ((found _ (by decide)).trans (by
      simp [StreamMetadata.fieldsWith, filter_serializeField])) forms
  rw [StreamMetadata.deserialize, maxCount, maxAge, truncateBefore, cacheControl, acl]
  simp only [Option.bind_eq_bind, Option.bind_some, join_map_some, Option.map_id, id_eq]

/-- What has been written of some metadata gives them back. -/
theorem StreamMetadata.deserialize_serialize {metadata : StreamMetadata}
    (whole : metadata.WholeMillis) (apart : metadata.KeysApart) :
    StreamMetadata.deserialize metadata.serialize = some metadata := by
  have written : metadata.serialize =
      .object (metadata.fieldsWith serializeAcl ++ metadata.customProperties.entries) := rfl
  have forms : ∀ acl, metadata.acl = some acl → deserializeAcl (serializeAcl acl) = some acl :=
    fun acl _ => deserialize_serializeAcl acl
  rw [written, StreamMetadata.deserialize_fields whole forms
    fun name system => filter_system apart serializeAcl system, filter_custom apart,
    collect_properties]

end TrogonEventStore

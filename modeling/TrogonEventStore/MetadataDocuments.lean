import TrogonEventStore.StreamMetadata
import Mathlib.Data.List.Perm.Basic
import Mathlib.Data.List.Induction

namespace TrogonEventStore

/-- The value written for an ACL, the role lists of a stream ACL in any order. -/
def Acl.Form (acl : Acl) (value : Json) : Prop :=
  value = serializeAcl acl ∨ ∃ members entries,
    serializeAcl acl = .object members ∧ value = .object entries ∧ entries.Perm members

def StreamMetadata.Form (metadata : StreamMetadata) (value : Json) : Prop :=
  ∃ write entries, (∀ acl : Acl, acl.Form (write acl)) ∧ value = .object entries ∧
    entries.Perm (metadata.fieldsWith write ++ metadata.customProperties.entries)

/-- The same metadata: a hash map has its entries in no order. -/
structure StreamMetadata.Same (left right : StreamMetadata) : Prop where
  maxCount : left.maxCount = right.maxCount
  maxAge : left.maxAge = right.maxAge
  truncateBefore : left.truncateBefore = right.truncateBefore
  cacheControl : left.cacheControl = right.cacheControl
  acl : left.acl = right.acl
  customProperties : left.customProperties.entries.Perm right.customProperties.entries

theorem filter_of_perm {entries members : List (String × Json)} (order : entries.Perm members)
    (distinct : (members.map Prod.fst).Nodup) (name : String) :
    entries.filter (fun entry => entry.1 = name) =
      members.filter (fun entry => entry.1 = name) := by
  have kept : (entries.filter fun entry => entry.1 = name).Perm
      (members.filter fun entry => entry.1 = name) := order.filter _
  have own : ((members.filter fun entry => entry.1 = name).map Prod.fst).Nodup :=
    distinct.sublist (List.filter_sublist.map Prod.fst)
  cases found : members.filter (fun entry => entry.1 = name) with
  | nil =>
      rw [found] at kept
      exact List.perm_nil.mp kept
  | cons first others =>
      rw [found] at kept own
      cases others with
      | nil => exact List.perm_singleton.mp kept
      | cons second others =>
          have named : ∀ entry ∈ first :: second :: others, entry.1 = name := by
            intro entry member
            rw [← found] at member
            exact of_decide_eq_true (List.mem_filter.mp member).2
          have same : first.1 = second.1 := by
            rw [named first (by simp), named second (by simp)]
          simp [same] at own

theorem deserializeField_perm {Value : Type} {entries members : List (String × Json)}
    (order : entries.Perm members) (distinct : (members.map Prod.fst).Nodup) (name : String)
    (deserialize : Json → Option Value) :
    deserializeField name deserialize entries = deserializeField name deserialize members := by
  rw [deserializeField, filter_of_perm order distinct, deserializeField]

theorem StreamAcl.distinct_members {acl : StreamAcl} {members : List (String × Json)}
    (written : acl.serialize = .object members) : (members.map Prod.fst).Nodup := by
  rw [StreamAcl.serialize, Json.object.injEq] at written
  have keys : (members.map Prod.fst).Sublist (["$r"] ++ ["$w"] ++ ["$d"] ++ ["$mr"] ++ ["$mw"]) := by
    rw [← written]
    simp only [List.map_append]
    exact ((((keys_serializeField _ _ _).append (keys_serializeField _ _ _)).append
      (keys_serializeField _ _ _)).append (keys_serializeField _ _ _)).append
      (keys_serializeField _ _ _)
  have names : (["$r"] ++ ["$w"] ++ ["$d"] ++ ["$mr"] ++ ["$mw"]).Nodup := by decide
  exact names.sublist keys

theorem StreamAcl.deserialize_perm {acl : StreamAcl} {members entries : List (String × Json)}
    (written : acl.serialize = .object members) (order : entries.Perm members) :
    StreamAcl.deserialize entries = StreamAcl.deserialize members := by
  have distinct := StreamAcl.distinct_members written
  simp only [StreamAcl.deserialize, deserializeField_perm order distinct]

theorem deserializeAcl_form {acl : Acl} {value : Json} (form : acl.Form value) :
    deserializeAcl value = some acl := by
  rcases form with rfl | ⟨members, entries, written, rfl, order⟩
  · exact deserialize_serializeAcl acl
  · cases acl with
    | userStream => cases written
    | systemStream => cases written
    | stream acl =>
        have read := acl.deserialize_entries
        have members_eq : acl.serialize = .object members := written
        rw [members_eq, deserializeAcl] at read
        rw [deserializeAcl, StreamAcl.deserialize_perm members_eq order, read]

theorem StreamMetadata.distinct_members {metadata : StreamMetadata} (apart : metadata.KeysApart)
    (write : Acl → Json) :
    ((metadata.fieldsWith write ++ metadata.customProperties.entries).map Prod.fst).Nodup := by
  have system : systemKeys.Nodup := by decide
  rw [List.map_append, List.nodup_append]
  refine ⟨system.sublist (metadata.keys_fieldsWith write), metadata.customProperties.distinct, ?_⟩
  intro key field other custom same
  obtain ⟨entry, member, rfl⟩ := List.mem_map.mp custom
  exact apart entry member (same ▸ (metadata.keys_fieldsWith write).subset field)

theorem StreamMetadata.deserialize_form {metadata : StreamMetadata} {value : Json}
    (whole : metadata.WholeMillis) (apart : metadata.KeysApart) (form : metadata.Form value) :
    ∃ decoded, StreamMetadata.deserialize value = some decoded ∧ decoded.Same metadata := by
  obtain ⟨write, entries, forms, rfl, order⟩ := form
  have found : ∀ name ∈ systemKeys, entries.filter (fun entry => entry.1 = name) =
      (metadata.fieldsWith write).filter (fun entry => entry.1 = name) := by
    intro name system
    rw [filter_of_perm order (distinct_members apart write), filter_system apart write system]
  have custom : (entries.filter fun entry => entry.1 ∉ systemKeys).Perm
      metadata.customProperties.entries := by
    have both := order.filter fun entry => entry.1 ∉ systemKeys
    rwa [filter_custom apart write] at both
  have distinct : ((entries.filter fun entry => entry.1 ∉ systemKeys).map Prod.fst).Nodup :=
    (custom.map Prod.fst).nodup_iff.mpr metadata.customProperties.distinct
  refine ⟨_, StreamMetadata.deserialize_fields whole
    (fun acl _ => deserializeAcl_form (forms acl)) found, ?_⟩
  constructor
  case customProperties =>
    have collected : ((entries.filter fun entry => entry.1 ∉ systemKeys).foldl
        Properties.insert .empty).entries = entries.filter fun entry => entry.1 ∉ systemKeys :=
      collect_entries _ .empty distinct
    rw [← collected] at custom
    exact custom
  all_goals rfl

theorem StreamMetadata.serialize_form (metadata : StreamMetadata) :
    metadata.Form metadata.serialize :=
  ⟨serializeAcl, _, fun _ => Or.inl rfl, rfl, List.Perm.refl _⟩

/-- Metadata come back from their JSON object, and from one with its members in another order. -/
theorem stream_metadata_survive_codec {metadata : StreamMetadata} (whole : metadata.WholeMillis)
    (apart : metadata.KeysApart) :
    StreamMetadata.deserialize metadata.serialize = some metadata ∧
      metadata.Form metadata.serialize ∧
      ∀ value, metadata.Form value →
        ∃ decoded, StreamMetadata.deserialize value = some decoded ∧ decoded.Same metadata :=
  ⟨StreamMetadata.deserialize_serialize whole apart, metadata.serialize_form,
    fun _ form => StreamMetadata.deserialize_form whole apart form⟩

def StreamMetadata.sample : StreamMetadata where
  maxCount := some 10
  maxAge := some (.fromMillis 2500)
  truncateBefore := some 3
  cacheControl := none
  acl := some (.stream ⟨some ["reader"], some ["writer", "$admins"], some [], none, none⟩)
  customProperties := Properties.empty.insert ("owner", .array [.string "shipping", .null])

theorem sample_survives_codec :
    StreamMetadata.deserialize StreamMetadata.sample.serialize = some .sample ∧
      StreamMetadata.sample.Form StreamMetadata.sample.serialize ∧
      ∀ value, StreamMetadata.sample.Form value →
        ∃ decoded, StreamMetadata.deserialize value = some decoded ∧ decoded.Same .sample := by
  refine stream_metadata_survive_codec ?_ ?_
  · intro duration present
    rcases present with age | control
    · cases age
      decide
    · cases control
  · intro entry member
    obtain rfl : entry = ("owner", .array [.string "shipping", .null]) := List.mem_singleton.mp member
    decide

/-- The calls on a builder. `insert_custom_property` has made a JSON value of its argument. -/
inductive BuilderCall where
  | maxCount (value : UInt64)
  | maxAge (value : Duration)
  | truncateBefore (value : UInt64)
  | cacheControl (value : Duration)
  | acl (value : Acl)
  | insertCustomProperty (key : String) (value : Json)

structure StreamMetadataBuilder where
  maxCount : Option UInt64
  maxAge : Option Duration
  truncateBefore : Option UInt64
  cacheControl : Option Duration
  acl : Option Acl
  properties : Properties

namespace StreamMetadataBuilder

def new : StreamMetadataBuilder := ⟨none, none, none, none, none, .empty⟩

def call (builder : StreamMetadataBuilder) : BuilderCall → StreamMetadataBuilder
  | .maxCount value => { builder with maxCount := some value }
  | .maxAge value => { builder with maxAge := some value }
  | .truncateBefore value => { builder with truncateBefore := some value }
  | .cacheControl value => { builder with cacheControl := some value }
  | .acl value => { builder with acl := some value }
  | .insertCustomProperty key value =>
      { builder with properties := builder.properties.insert (key, value) }

def build (builder : StreamMetadataBuilder) : StreamMetadata where
  maxCount := builder.maxCount
  maxAge := builder.maxAge
  truncateBefore := builder.truncateBefore
  cacheControl := builder.cacheControl
  acl := builder.acl
  customProperties := builder.properties

end StreamMetadataBuilder

def builtMetadata (calls : List BuilderCall) : StreamMetadata :=
  (calls.foldl StreamMetadataBuilder.call .new).build

def BuilderCall.setting (name : String) : BuilderCall → Option Json
  | .maxCount value => if name = "$maxCount" then some (serializeU64 value) else none
  | .maxAge value => if name = "$maxAge" then some (serializeDuration value) else none
  | .truncateBefore value => if name = "$tb" then some (serializeU64 value) else none
  | .cacheControl value => if name = "$cacheControl" then some (serializeDuration value) else none
  | .acl value => if name = "$acl" then some (serializeAcl value) else none
  | .insertCustomProperty _ _ => none

/-- The object has each system member just where its setter was called, with the last value set. -/
def NotShadowed (calls : List BuilderCall) : Prop :=
  ∃ members, (builtMetadata calls).serialize = .object members ∧
    ∀ name ∈ StreamMetadata.systemKeys, members.filter (fun entry => entry.1 = name) =
      serializeField name id (calls.filterMap (BuilderCall.setting name)).getLast?

def BuilderCall.Apart : BuilderCall → Prop
  | .insertCustomProperty key _ => key ∉ StreamMetadata.systemKeys
  | _ => True

theorem builtMetadata_append (calls : List BuilderCall) (call : BuilderCall) :
    builtMetadata (calls ++ [call]) = ((calls.foldl StreamMetadataBuilder.call .new).call call).build := by
  rw [builtMetadata, List.foldl_append, List.foldl_cons, List.foldl_nil]

theorem settings_append (calls : List BuilderCall) (call : BuilderCall) (name : String) :
    ((calls ++ [call]).filterMap (BuilderCall.setting name)).getLast? =
      (call.setting name).or (calls.filterMap (BuilderCall.setting name)).getLast? := by
  rw [List.filterMap_append, List.getLast?_append]
  cases set : call.setting name with
  | none => simp [set]
  | some value => simp [set]

theorem settings_eq (calls : List BuilderCall) :
    (calls.filterMap (BuilderCall.setting "$maxCount")).getLast? =
        (builtMetadata calls).maxCount.map serializeU64 ∧
      (calls.filterMap (BuilderCall.setting "$maxAge")).getLast? =
        (builtMetadata calls).maxAge.map serializeDuration ∧
      (calls.filterMap (BuilderCall.setting "$tb")).getLast? =
        (builtMetadata calls).truncateBefore.map serializeU64 ∧
      (calls.filterMap (BuilderCall.setting "$cacheControl")).getLast? =
        (builtMetadata calls).cacheControl.map serializeDuration ∧
      (calls.filterMap (BuilderCall.setting "$acl")).getLast? =
        (builtMetadata calls).acl.map serializeAcl := by
  induction calls using List.reverseRecOn with
  | nil => exact ⟨rfl, rfl, rfl, rfl, rfl⟩
  | append_singleton calls call ih =>
      simp only [settings_append, builtMetadata_append, ih]
      cases call <;> simp [BuilderCall.setting, StreamMetadataBuilder.call,
        StreamMetadataBuilder.build, builtMetadata]

theorem serializeField_map {Value : Type} (name : String) (serialize : Value → Json)
    (value : Option Value) :
    serializeField name id (value.map serialize) = serializeField name serialize value := by
  cases value <;> rfl

theorem systemEntries_built (calls : List BuilderCall) {name : String}
    (system : name ∈ StreamMetadata.systemKeys) :
    (builtMetadata calls).systemEntries.filter (fun entry => entry.1 = name) =
      serializeField name id (calls.filterMap (BuilderCall.setting name)).getLast? := by
  obtain ⟨maxCount, maxAge, truncateBefore, cacheControl, acl⟩ := settings_eq calls
  simp only [StreamMetadata.systemKeys, List.mem_cons, List.not_mem_nil, or_false] at system
  rcases system with rfl | rfl | rfl | rfl | rfl
  · simp [StreamMetadata.systemEntries, filter_serializeField, maxCount, serializeField_map]
  · simp [StreamMetadata.systemEntries, filter_serializeField, maxAge, serializeField_map]
  · simp [StreamMetadata.systemEntries, filter_serializeField, truncateBefore, serializeField_map]
  · simp [StreamMetadata.systemEntries, filter_serializeField, cacheControl, serializeField_map]
  · simp [StreamMetadata.systemEntries, filter_serializeField, acl, serializeField_map]

theorem Properties.mem_insert (properties : Properties) (entry : String × Json) (key : String) :
    key ∈ (properties.insert entry).entries.map Prod.fst ↔
      key ∈ properties.entries.map Prod.fst ∨ key = entry.1 := by
  have inserted : (properties.insert entry).entries =
      properties.entries.filter (fun other => other.1 ≠ entry.1) ++ [entry] := rfl
  rw [inserted, List.map_append, List.mem_append, List.map_singleton, List.mem_singleton]
  constructor
  · rintro (kept | here)
    · obtain ⟨other, member, rfl⟩ := List.mem_map.mp kept
      exact Or.inl (List.mem_map_of_mem (List.mem_filter.mp member).1)
    · exact Or.inr here
  · rintro (present | here)
    · by_cases same : key = entry.1
      · exact Or.inr same
      · obtain ⟨other, member, rfl⟩ := List.mem_map.mp present
        exact Or.inl (List.mem_map_of_mem (List.mem_filter.mpr ⟨member, decide_eq_true same⟩))
    · exact Or.inr here

theorem custom_keys_built (calls : List BuilderCall) (key : String) :
    key ∈ (builtMetadata calls).customProperties.entries.map Prod.fst ↔
      ∃ value, BuilderCall.insertCustomProperty key value ∈ calls := by
  induction calls using List.reverseRecOn with
  | nil =>
      refine iff_of_false List.not_mem_nil ?_
      intro ⟨value, impossible⟩
      cases impossible
  | append_singleton calls call ih =>
      have earlier : key ∈ (calls.foldl StreamMetadataBuilder.call .new).properties.entries.map
          Prod.fst ↔ ∃ value, BuilderCall.insertCustomProperty key value ∈ calls := ih
      rw [builtMetadata_append]
      cases call with
      | insertCustomProperty name value =>
          have added := Properties.mem_insert
            (calls.foldl StreamMetadataBuilder.call .new).properties (name, value) key
          rw [earlier] at added
          refine added.trans ?_
          simp [exists_or]
      | _ => simpa [StreamMetadataBuilder.call, StreamMetadataBuilder.build] using earlier

/-- A custom property shadows no setting just if none goes by the name of one. -/
theorem settings_not_shadowed_iff (calls : List BuilderCall) :
    NotShadowed calls ↔ ∀ call ∈ calls, call.Apart := by
  have members : (builtMetadata calls).serialize = .object
      ((builtMetadata calls).systemEntries ++ (builtMetadata calls).customProperties.entries) := rfl
  have shadows : ∀ name ∈ StreamMetadata.systemKeys,
      (((builtMetadata calls).systemEntries ++
          (builtMetadata calls).customProperties.entries).filter (fun entry => entry.1 = name) =
        serializeField name id (calls.filterMap (BuilderCall.setting name)).getLast? ↔
      ¬ ∃ value, BuilderCall.insertCustomProperty name value ∈ calls) := by
    intro name system
    rw [List.filter_append, systemEntries_built calls system, List.append_right_eq_self,
      ← custom_keys_built, List.filter_eq_nil_iff]
    constructor
    · intro absent present
      obtain ⟨entry, member, same⟩ := List.mem_map.mp present
      exact absent entry member (decide_eq_true same)
    · intro absent entry member same
      exact absent (of_decide_eq_true same ▸ List.mem_map_of_mem member)
  constructor
  · intro ⟨written, given, alone⟩ call called
    rw [members, Json.object.injEq] at given
    cases call with
    | insertCustomProperty key value =>
        intro system
        have own := alone key system
        rw [← given, shadows key system] at own
        exact own ⟨value, called⟩
    | _ => trivial
  · intro apart
    refine ⟨_, members, ?_⟩
    intro name system
    rw [shadows name system]
    intro ⟨value, called⟩
    exact apart _ called system

/-- An ACL beside the one that was set. -/
theorem acl_shadowed : ¬ NotShadowed [.acl .systemStream,
    .insertCustomProperty "$acl" (.string "$userStreamAcl")] := by
  intro ⟨members, given, alone⟩
  cases given
  have twice := congrArg List.length (alone "$acl" (by decide))
  revert twice
  decide

end TrogonEventStore

import TrogonEventStore.StreamMetadata
import Mathlib.Data.List.Induction

namespace TrogonEventStore

open SortedEntries

/-- `EventMetadataCarrier::get`. -/
def JsonMap.get (carrier : JsonMap) (key : String) : Option String :=
  carrier.findSome? fun entry => if eqIgnoreAsciiCase entry.1 key then entry.2.asString else none

/-- `extract_event_context` up to the carrier that the propagator is given. -/
def extractedCarrier (json : SerdeJson) : Bytes → Option JsonMap
  | [] => none
  | metadata =>
      match json.fromSlice metadata with
      | some (.object entries) => some entries
      | _ => none

/-- `serde_json::Map` keeps its entries in the order of their keys. -/
def SerdeJson.ReadsMaps (json : SerdeJson) : Prop :=
  ∀ bytes entries, json.fromSlice bytes = some (.object entries) → Sorted entries

def SerdeJson.Restores (json : SerdeJson) (value : Json) : Prop :=
  json.toVec value ≠ [] ∧ json.fromSlice (json.toVec value) = some value

/-- The text written for an object is read as an object that has its trace fields. -/
def SerdeJson.KeepsTrace (json : SerdeJson) (entries : JsonMap) : Prop :=
  json.toVec (.object entries) ≠ [] ∧
    ∃ back : JsonMap, json.fromSlice (json.toVec (.object entries)) = some (.object back) ∧
      ∀ key, isPersistedTraceField key = true → back.get key = entries.get key

/-- The last of the pairs whose key is this one up to case. -/
def lastEmitted (pairs : List (String × String)) (key : String) : Option (String × String) :=
  (pairs.filter fun pair => eqIgnoreAsciiCase pair.1 key).getLast?

def traced (pairs : List (String × String)) (key : String) (before : Option Json) : Option Json :=
  if isPersistedTraceField key then
    match lastEmitted pairs key with
    | some pair => if key = pair.1 then some (.string pair.2) else none
    | none => before
  else before

/-- The object that is written holds each emitted trace field once, and what was there besides. -/
structure TraceContext.Traces (context : TraceContext) (before after : JsonMap) : Prop where
  one : ∀ key pair, isPersistedTraceField key = true →
    lastEmitted context.propagated key = some pair →
      after.filter (fun entry => eqIgnoreAsciiCase entry.1 key) = [(pair.1, .string pair.2)]
  others : ∀ key, (isPersistedTraceField key = true → lastEmitted context.propagated key = none) →
    after.lookup key = before.lookup key
  get : ∀ key pair, isPersistedTraceField key = true →
    lastEmitted context.propagated key = some pair → after.get key = some pair.2
  again : after.carryFields context.fields = after

structure TraceContext.InjectionLaw (context : TraceContext) (json : SerdeJson)
    (event : EventData) : Prop where
  unchanged : ((∀ pair ∈ context.propagated, isPersistedTraceField pair.1 = false) ∨
      ∃ metadata, event.customMetadata = some metadata ∧ metadata ≠ [] ∧
        ∀ entries, json.fromSlice metadata ≠ some (.object entries)) →
    injectEventContext json event context = event
  traced : (∃ pair ∈ context.propagated, isPersistedTraceField pair.1 = true) →
    ∀ before, metadataObject json event.customMetadata = some before →
      ∃ after, (injectEventContext json event context).customMetadata =
          some (json.toVec (.object after)) ∧ context.Traces before after ∧
        (json.Restores (.object after) →
          extractedCarrier json (json.toVec (.object after)) = some after ∧
          injectEventContext json (injectEventContext json event context) context =
            injectEventContext json event context)
  kept : (injectEventContext json event context).idOpt = event.idOpt ∧
    (injectEventContext json event context).metadata = event.metadata ∧
    (injectEventContext json event context).payload = event.payload

theorem eqIgnoreAsciiCase_iff {left right : String} :
    eqIgnoreAsciiCase left right = true ↔ left.toLower = right.toLower := beq_iff_eq

theorem persisted_congr {left right : String} (same : eqIgnoreAsciiCase left right = true) :
    isPersistedTraceField left = isPersistedTraceField right := by
  unfold isPersistedTraceField eqIgnoreAsciiCase
  rw [eqIgnoreAsciiCase_iff.mp same]

theorem sorted_carry {carrier : JsonMap} (sorted : Sorted carrier) (pair : String × String) :
    Sorted (carrier.carry pair) := by
  rw [JsonMap.carry]
  split
  · exact sorted_insert _ _ (sorted_filter _ sorted)
  · exact sorted

theorem sorted_carries (pairs : List (String × String)) {carrier : JsonMap}
    (sorted : Sorted carrier) : Sorted (pairs.foldl JsonMap.carry carrier) := by
  induction pairs generalizing carrier with
  | nil => exact sorted
  | cons pair pairs ih => exact ih (sorted_carry sorted pair)

theorem lookup_carry (carrier : JsonMap) {pair : String × String}
    (persisted : isPersistedTraceField pair.1 = true) (key : String) :
    (carrier.carry pair).lookup key =
      if key = pair.1 then some (.string pair.2)
      else if eqIgnoreAsciiCase pair.1 key then none else carrier.lookup key := by
  have symm : eqIgnoreAsciiCase key pair.1 = eqIgnoreAsciiCase pair.1 key := Bool.beq_comm
  rw [JsonMap.carry, if_pos persisted, lookup_insert,
    lookup_filter (fun name => !eqIgnoreAsciiCase name pair.1), symm]
  cases eqIgnoreAsciiCase pair.1 key <;> rfl

theorem lastEmitted_append (pairs : List (String × String)) (pair : String × String)
    (key : String) : lastEmitted (pairs ++ [pair]) key =
      if eqIgnoreAsciiCase pair.1 key then some pair else lastEmitted pairs key := by
  rw [lastEmitted, List.filter_append]
  by_cases same : eqIgnoreAsciiCase pair.1 key
  · rw [List.filter_cons, if_pos same, List.filter_nil, List.getLast?_concat, if_pos same]
  · rw [List.filter_cons, if_neg same, List.filter_nil, List.append_nil, if_neg same, lastEmitted]

theorem lookup_carries (pairs : List (String × String)) (carrier : JsonMap) (key : String) :
    (pairs.foldl JsonMap.carry carrier).lookup key = traced pairs key (carrier.lookup key) := by
  induction pairs using List.reverseRecOn with
  | nil =>
      rw [List.foldl_nil, traced]
      split
      · rfl
      · rfl
  | append_singleton pairs pair ih =>
      rw [List.foldl_append, List.foldl_cons, List.foldl_nil, traced, lastEmitted_append]
      by_cases persisted : isPersistedTraceField pair.1
      · rw [lookup_carry _ persisted, ih, traced]
        by_cases same : eqIgnoreAsciiCase pair.1 key
        · rw [persisted_congr same] at persisted
          rw [if_pos same, if_pos same, if_pos persisted]
        · have away : key ≠ pair.1 := by
            rintro rfl
            exact same (eqIgnoreAsciiCase_iff.mpr rfl)
          rw [if_neg same, if_neg same, if_neg away]
      · rw [JsonMap.carry, if_neg persisted, ih, traced]
        by_cases same : eqIgnoreAsciiCase pair.1 key
        · rw [persisted_congr same] at persisted
          rw [if_neg persisted, if_neg persisted]
        · rw [if_neg same]

theorem lookup_single (key : String) (pair : String × String) :
    [(pair.1, Json.string pair.2)].lookup key =
      if key = pair.1 then some (.string pair.2) else none := by
  rw [SortedEntries.lookup_cons, List.lookup_nil]

theorem filter_carries {pairs : List (String × String)} {carrier : JsonMap}
    (sorted : Sorted carrier) {key : String} (persisted : isPersistedTraceField key = true) :
    (pairs.foldl JsonMap.carry carrier).filter (fun entry => eqIgnoreAsciiCase entry.1 key) =
      match lastEmitted pairs key with
      | some pair => [(pair.1, .string pair.2)]
      | none => carrier.filter fun entry => eqIgnoreAsciiCase entry.1 key := by
  have found : ∀ other, eqIgnoreAsciiCase other key = true →
      (pairs.foldl JsonMap.carry carrier).lookup other =
        match lastEmitted pairs key with
        | some pair => if other = pair.1 then some (.string pair.2) else none
        | none => carrier.lookup other := by
    intro other same
    have class_eq : lastEmitted pairs other = lastEmitted pairs key := by
      unfold lastEmitted eqIgnoreAsciiCase
      rw [eqIgnoreAsciiCase_iff.mp same]
    rw [lookup_carries, traced, persisted_congr same, if_pos persisted, class_eq]
  refine ext_lookup (sorted_filter _ (sorted_carries pairs sorted)) ?_ ?_
  · cases lastEmitted pairs key with
    | some pair => exact List.pairwise_singleton _ _
    | none => exact sorted_filter _ sorted
  · intro other
    rw [lookup_filter (fun name => eqIgnoreAsciiCase name key)]
    by_cases same : eqIgnoreAsciiCase other key
    · rw [if_pos same, found other same]
      cases last : lastEmitted pairs key with
      | some pair => exact (lookup_single other pair).symm
      | none => rw [lookup_filter (fun name => eqIgnoreAsciiCase name key), if_pos same]
    · rw [if_neg same]
      cases last : lastEmitted pairs key with
      | some pair =>
          have own : eqIgnoreAsciiCase pair.1 key = true :=
            (List.mem_filter.mp (List.mem_of_getLast? last)).2
          have away : other ≠ pair.1 := by
            rintro rfl
            exact same own
          exact ((lookup_single other pair).trans (if_neg away)).symm
      | none => rw [lookup_filter (fun name => eqIgnoreAsciiCase name key), if_neg same]

def fieldPair : String × Json → Option (String × String)
  | (key, .string value) => some (key, value)
  | _ => none

theorem carryFields_eq (fields carrier : JsonMap) :
    carrier.carryFields fields = (fields.filterMap fieldPair).foldl JsonMap.carry carrier := by
  rw [JsonMap.carryFields]
  induction fields generalizing carrier with
  | nil => rfl
  | cons field fields ih =>
      obtain ⟨key, value⟩ := field
      cases value <;> exact ih _

theorem filter_fieldPairs (fields : JsonMap) (key : String) :
    (fields.filterMap fieldPair).filter (fun pair => eqIgnoreAsciiCase pair.1 key) =
      (fields.filter fun entry => eqIgnoreAsciiCase entry.1 key).filterMap fieldPair := by
  induction fields with
  | nil => rfl
  | cons field fields ih =>
      obtain ⟨name, value⟩ := field
      cases value <;> by_cases same : eqIgnoreAsciiCase name key <;>
        simp [fieldPair, List.filterMap_cons, same, ih]

theorem lastEmitted_fields (context : TraceContext) {key : String}
    (persisted : isPersistedTraceField key = true) :
    lastEmitted (context.fields.filterMap fieldPair) key = lastEmitted context.propagated key := by
  rw [lastEmitted, filter_fieldPairs, TraceContext.fields, filter_carries List.Pairwise.nil persisted]
  cases lastEmitted context.propagated key <;> rfl

theorem lookup_carryFields (context : TraceContext) (carrier : JsonMap) (key : String) :
    (carrier.carryFields context.fields).lookup key =
      traced context.propagated key (carrier.lookup key) := by
  rw [carryFields_eq, lookup_carries, traced, traced]
  split
  · next persisted => rw [lastEmitted_fields context persisted]
  · rfl

theorem traced_twice (pairs : List (String × String)) (key : String) (before : Option Json) :
    traced pairs key (traced pairs key before) = traced pairs key before := by
  unfold traced
  split
  · cases lastEmitted pairs key <;> rfl
  · rfl

theorem findSome?_filter {Entry Value : Type} (keep : Entry → Bool) (read : Entry → Option Value)
    (entries : List Entry) : (entries.filter keep).findSome? read =
      entries.findSome? fun entry => if keep entry then read entry else none := by
  induction entries with
  | nil => rfl
  | cons entry entries ih =>
      by_cases kept : keep entry <;> simp [List.findSome?_cons, kept, ih]

theorem carryFields_traces (context : TraceContext) {carrier : JsonMap} (sorted : Sorted carrier) :
    context.Traces carrier (carrier.carryFields context.fields) := by
  have one : ∀ key pair, isPersistedTraceField key = true →
      lastEmitted context.propagated key = some pair →
        (carrier.carryFields context.fields).filter (fun entry => eqIgnoreAsciiCase entry.1 key) =
          [(pair.1, .string pair.2)] := by
    intro key pair persisted last
    rw [carryFields_eq, filter_carries sorted persisted, lastEmitted_fields context persisted, last]
  constructor
  case one => exact one
  case others =>
    intro key untouched
    rw [lookup_carryFields, traced]
    split
    · next persisted => rw [untouched persisted]
    · rfl
  case get =>
    intro key pair persisted last
    rw [JsonMap.get, ← findSome?_filter, one key pair persisted last]
    rfl
  case again =>
    have once : Sorted (carrier.carryFields context.fields) := by
      rw [carryFields_eq]
      exact sorted_carries _ sorted
    apply ext_lookup
    · rw [carryFields_eq]
      exact sorted_carries _ once
    · exact once
    · intro key
      rw [lookup_carryFields, lookup_carryFields, traced_twice]

theorem fields_eq_nil_iff (context : TraceContext) : context.fields = [] ↔
    ∀ pair ∈ context.propagated, isPersistedTraceField pair.1 = false := by
  constructor
  · intro empty pair emitted
    by_contra persisted
    rw [Bool.not_eq_false] at persisted
    have found : context.fields.filter (fun entry => eqIgnoreAsciiCase entry.1 pair.1) = _ :=
      filter_carries List.Pairwise.nil persisted
    rw [empty] at found
    have present : pair ∈ context.propagated.filter
        (fun other => eqIgnoreAsciiCase other.1 pair.1) :=
      List.mem_filter.mpr ⟨emitted, eqIgnoreAsciiCase_iff.mpr rfl⟩
    cases last : lastEmitted context.propagated pair.1 with
    | some other =>
        rw [last] at found
        cases found
    | none =>
        rw [lastEmitted, List.getLast?_eq_none_iff] at last
        rw [last] at present
        cases present
  · intro unrelated
    refine ext_lookup (sorted_carries _ List.Pairwise.nil) List.Pairwise.nil ?_
    intro key
    rw [TraceContext.fields, lookup_carries, traced]
    split
    · next persisted =>
        have last : lastEmitted context.propagated key = none := by
          rw [lastEmitted, List.getLast?_eq_none_iff, List.filter_eq_nil_iff]
          intro pair emitted same
          rw [← persisted_congr same, unrelated pair emitted] at persisted
          cases persisted
        rw [last]
    · rfl

theorem sorted_metadataObject {json : SerdeJson} (maps : json.ReadsMaps) {metadata : Option Bytes}
    {before : JsonMap} (given : metadataObject json metadata = some before) : Sorted before := by
  unfold metadataObject at given
  split at given
  · cases given
    exact List.Pairwise.nil
  · cases given
    exact List.Pairwise.nil
  · split at given
    · next read =>
        cases given
        exact maps _ _ read
    · cases given

theorem metadataObject_of_text {json : SerdeJson} {metadata : Bytes} (present : metadata ≠ []) :
    metadataObject json (some metadata) =
      match json.fromSlice metadata with
      | some (.object entries) => some entries
      | _ => none := by
  cases metadata with
  | nil => exact absurd rfl present
  | cons byte bytes => rfl

theorem metadataObject_written {json : SerdeJson} {entries : JsonMap}
    (back : json.Restores (.object entries)) :
    metadataObject json (some (json.toVec (.object entries))) = some entries ∧
      extractedCarrier json (json.toVec (.object entries)) = some entries := by
  obtain ⟨present, read⟩ := back
  have carrier : metadataObject json (some (json.toVec (.object entries))) = some entries := by
    rw [metadataObject_of_text present, read]
  refine ⟨carrier, ?_⟩
  cases written : json.toVec (.object entries) with
  | nil => exact absurd written present
  | cons byte bytes =>
      rw [written] at carrier
      exact carrier

theorem inject_traced {json : SerdeJson} {event : EventData} {context : TraceContext}
    {before : JsonMap} (valid : context.isValid = true) (emitted : context.fields ≠ [])
    (given : metadataObject json event.customMetadata = some before) :
    injectEventContext json event context =
      { event with
        customMetadata := some (json.toVec (.object (before.carryFields context.fields))) } := by
  rw [injectEventContext, if_pos valid, given]
  cases fields : context.fields with
  | nil => exact absurd fields emitted
  | cons field fields => rfl

theorem trace_injection_law {json : SerdeJson} {event : EventData} {context : TraceContext}
    (maps : json.ReadsMaps) (valid : context.isValid = true) : context.InjectionLaw json event := by
  constructor
  case kept => exact inject_keeps json event context
  case unchanged =>
    intro plain
    apply inject_unchanged
    intro ⟨_, emitted, carried⟩
    rcases plain with unrelated | ⟨metadata, given, present, other⟩
    · exact emitted ((fields_eq_nil_iff context).mpr unrelated)
    · rw [given, metadataObject_of_text present] at carried
      split at carried
      · next entries read => exact other entries read
      · exact carried rfl
  case traced =>
    intro ⟨pair, emitted, persisted⟩ before given
    have fields : context.fields ≠ [] := by
      intro empty
      rw [(fields_eq_nil_iff context).mp empty pair emitted] at persisted
      cases persisted
    have traces := carryFields_traces context (sorted_metadataObject maps given)
    have once := inject_traced valid fields given
    refine ⟨before.carryFields context.fields, ?_, traces, ?_⟩
    · rw [once]
    · intro back
      obtain ⟨again, extracted⟩ := metadataObject_written back
      refine ⟨extracted, ?_⟩
      rw [once, inject_traced valid fields again, traces.again]

def tracedJson : SerdeJson :=
  { plainJson with
    fromSlice := fun bytes =>
      if bytes = plainJson.toVec (.object sampledFields) then some (.object sampledFields)
      else none }

theorem tracedJson_readsMaps : tracedJson.ReadsMaps := by
  intro bytes entries read
  simp only [tracedJson] at read
  split at read
  · cases read
    have before : "traceparent" < "tracestate" := by decide +kernel
    exact List.pairwise_pair.mpr before
  · cases read

theorem order_trace_law : sampledContext.InjectionLaw tracedJson orderEvent :=
  trace_injection_law tracedJson_readsMaps rfl

end TrogonEventStore

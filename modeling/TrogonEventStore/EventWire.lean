import TrogonEventStore.Json
import TrogonEventStore.Reads

/-! Events on their way onto the wire: their construction, the trace context that is injected into
them, the messages of the two append calls, and what their recorded forms are decoded to. -/

namespace TrogonEventStore

/-- `EventData::json`, `payload` being what `serde_json::to_vec` gives. -/
def EventData.json (eventType : String) (payload : Bytes) : EventData :=
  ⟨payload, none, [("type", eventType), ("content-type", "application/json")], none⟩

def EventData.binary (eventType : String) (payload : Bytes) : EventData :=
  ⟨payload, none, [("type", eventType), ("content-type", "application/octet-stream")], none⟩

/-- The events that can be built with the public functions, by their type and by whether
`EventData::json` made them. -/
inductive EventData.Built (eventType : String) : Bool → EventData → Prop where
  | json (payload : Bytes) : Built eventType true (.json eventType payload)
  | binary (payload : Bytes) : Built eventType false (.binary eventType payload)
  | id {isJson : Bool} {event : EventData} (built : Built eventType isJson event) (value : Uuid) :
      Built eventType isJson { event with idOpt := some value }
  | metadata {isJson : Bool} {event : EventData} (built : Built eventType isJson event)
      (payload : Bytes) : Built eventType isJson { event with customMetadata := some payload }

/-- A tracing context: whether its span context is valid, and what the installed propagator sets
on a carrier. -/
structure TraceContext where
  isValid : Bool
  propagated : List (String × String)
  deriving DecidableEq, Repr

def isPersistedTraceField (key : String) : Bool :=
  eqIgnoreAsciiCase key "traceparent" || eqIgnoreAsciiCase key "tracestate"

/-- `EventMetadataCarrier::set`. -/
def JsonMap.carry (carrier : JsonMap) (pair : String × String) : JsonMap :=
  if isPersistedTraceField pair.1 then
    SortedEntries.insert pair.1 (.string pair.2)
      (carrier.filter fun entry => !eqIgnoreAsciiCase entry.1 pair.1)
  else carrier

def TraceContext.fields (context : TraceContext) : JsonMap := context.propagated.foldl .carry []

def JsonMap.carryFields (carrier fields : JsonMap) : JsonMap :=
  fields.foldl (fun carrier field =>
    match field.2 with
    | .string value => carrier.carry (field.1, value)
    | _ => carrier) carrier

/-- The object the trace fields go into, unless the custom metadata is something else. -/
def metadataObject (json : SerdeJson) : Option Bytes → Option JsonMap
  | none => some []
  | some [] => some []
  | some metadata =>
      match json.fromSlice metadata with
      | some (.object entries) => some entries
      | _ => none

def injectEventContext (json : SerdeJson) (event : EventData) (context : TraceContext) :
    EventData :=
  if context.isValid then
    match context.fields, metadataObject json event.customMetadata with
    | field :: fields, some carrier =>
        { event with
          customMetadata := some (json.toVec (.object (carrier.carryFields (field :: fields)))) }
    | _, _ => event
  else event

/-- `From<uuid::Uuid> for common::Uuid`: the two halves as signed integers. -/
def WireUuid.ofUuid (value : Uuid) : WireUuid :=
  ⟨some (.structured ((value >>> 64).setWidth 64).toInt (value.setWidth 64).toInt)⟩

/-- `append_req::ProposedMessage`. -/
structure ProposedMessage where
  id : Option WireUuid
  metadata : StringMap
  customMetadata : Bytes
  data : Bytes
  deriving DecidableEq, Repr

/-- `From<EventData> for AppendReq`; `newV4` is the id of an event that has none. -/
def EventData.intoAppendReq (newV4 : Uuid) (event : EventData) : ProposedMessage :=
  ⟨some (.ofUuid (event.idOpt.getD newV4)), event.metadata, event.customMetadata.getD [],
    event.payload⟩

def appendMessage (json : SerdeJson) (newV4 : Uuid) (context : TraceContext) (event : EventData) :
    ProposedMessage :=
  (injectEventContext json event context).intoAppendReq newV4

namespace Batch

structure ProposedMessage where
  id : Option WireUuid
  metadata : StringMap
  customMetadata : Bytes
  data : Bytes
  deriving DecidableEq, Repr

def convertEventDataToBatchProposedMessage (json : SerdeJson) (newV4 : Uuid) (event : EventData)
    (context : TraceContext) : ProposedMessage :=
  let event := injectEventContext json event context
  ⟨some (.ofUuid (event.idOpt.getD newV4)), event.metadata, event.customMetadata.getD [],
    event.payload⟩

end Batch

def WireRecordedEvent.asPersistent (wire : WireRecordedEvent) : Persistent.WireRecordedEvent :=
  { id := wire.id
    streamIdentifier := wire.streamIdentifier
    streamRevision := wire.streamRevision
    preparePosition := wire.preparePosition
    commitPosition := wire.commitPosition
    metadata := wire.metadata
    customMetadata := wire.customMetadata
    data := wire.data }

/-- A recorded event carries the four fields of a message back, but for a `created` entry. The
decoders expect every recorded event to have a stream identifier. -/
structure ProposedMessage.CarriedBack (message : ProposedMessage) (wire : WireRecordedEvent) :
    Prop where
  placed : wire.streamIdentifier ≠ none
  id : wire.id = message.id
  metadata : ∀ key, key ≠ "created" → wire.metadata.lookup key = message.metadata.lookup key
  customMetadata : wire.customMetadata = message.customMetadata
  data : wire.data = message.data

structure RecordedEvent.Restores (recorded : RecordedEvent) (event : EventData) (eventType : String)
    (isJson : Bool) (customMetadata : Bytes) : Prop where
  id : some recorded.id = event.idOpt
  eventType : recorded.eventType = eventType
  data : recorded.data = event.payload
  customMetadata : recorded.customMetadata = customMetadata
  isJson : recorded.isJson = isJson

/-- Both append calls send the same four fields, and both decoders restore the event from them. -/
structure EventData.SurvivesWire (event : EventData) (json : SerdeJson) (decoders : Decoders)
    (context : TraceContext) (newV4 : Uuid) (eventType : String) (isJson : Bool)
    (customMetadata : Bytes) : Prop where
  proposed : Batch.convertEventDataToBatchProposedMessage json newV4 event context =
    let message := appendMessage json newV4 context event
    ⟨message.id, message.metadata, message.customMetadata, message.data⟩
  recorded : ∀ wire, (appendMessage json newV4 context event).CarriedBack wire →
    ∃ recorded, wire.decode decoders = some recorded ∧
      wire.asPersistent.decode decoders = some recorded ∧
      recorded.Restores event eventType isJson customMetadata

theorem ofUuid_tryInto (parseUuid : String → Option Uuid) (value : Uuid) :
    (WireUuid.ofUuid value).tryInto parseUuid = some value := by
  simp only [WireUuid.ofUuid, WireUuid.tryInto, BitVec.ofInt_toInt, Option.some.injEq]
  apply BitVec.eq_of_toNat_eq
  have bound := value.isLt
  rw [BitVec.toNat_append, BitVec.toNat_setWidth, BitVec.toNat_setWidth, BitVec.toNat_ushiftRight,
    Nat.shiftRight_eq_div_pow, ← Nat.shiftLeft_add_eq_or_of_lt (Nat.mod_lt _ (by decide)),
    Nat.shiftLeft_eq]
  omega

theorem inject_keeps (json : SerdeJson) (event : EventData) (context : TraceContext) :
    (injectEventContext json event context).idOpt = event.idOpt ∧
      (injectEventContext json event context).metadata = event.metadata ∧
      (injectEventContext json event context).payload = event.payload := by
  unfold injectEventContext
  split
  · split
    · exact ⟨rfl, rfl, rfl⟩
    · exact ⟨rfl, rfl, rfl⟩
  · exact ⟨rfl, rfl, rfl⟩

def TraceContext.Injects (context : TraceContext) (json : SerdeJson) (event : EventData) : Prop :=
  context.isValid = true ∧ context.fields ≠ [] ∧ metadataObject json event.customMetadata ≠ none

theorem inject_unchanged {json : SerdeJson} {event : EventData} {context : TraceContext}
    (plain : ¬ context.Injects json event) : injectEventContext json event context = event := by
  unfold injectEventContext
  split
  · next valid =>
      split
      · next given carrier =>
          refine absurd ⟨valid, ?_, ?_⟩ plain
          · rw [given]
            exact List.cons_ne_nil _ _
          · rw [carrier]
            exact Option.some_ne_none _
      · rfl
  · rfl

theorem built_metadata {event : EventData} {eventType : String} {isJson : Bool}
    (built : event.Built eventType isJson) :
    event.metadata.lookup "type" = some eventType ∧
      (event.metadata.lookup "content-type" = some "application/json" ↔ isJson = true) := by
  induction built with
  | json payload => exact ⟨rfl, iff_of_true rfl rfl⟩
  | binary payload =>
      have binary : some "application/octet-stream" ≠ some "application/json" := by decide
      exact ⟨rfl, iff_of_false binary Bool.false_ne_true⟩
  | id built value ih => exact ih
  | metadata built payload ih => exact ih

theorem lookup_filter_ne {Value : Type} {key other : String} (differs : key ≠ other)
    (entries : List (String × Value)) :
    (entries.filter fun entry => entry.1 ≠ other).lookup key = entries.lookup key := by
  induction entries with
  | nil => rfl
  | cons entry entries ih =>
      obtain ⟨name, value⟩ := entry
      by_cases dropped : name = other
      · have missed : (key == name) = false := by
          rw [dropped]
          exact beq_false_of_ne differs
        rw [List.filter_cons_of_neg (by simp [dropped]), ih, List.lookup_cons, missed]
      · rw [List.filter_cons_of_pos (by simp [dropped]), List.lookup_cons, List.lookup_cons, ih]

theorem asPersistent_decode (decoders : Decoders) (wire : WireRecordedEvent) :
    wire.asPersistent.decode decoders = wire.decode decoders := rfl

/-- Decoding needs the id and the stream identifier only. -/
theorem decode_placed {decoders : Decoders} {wire : WireRecordedEvent} {id : Uuid}
    (placed : wire.streamIdentifier ≠ none) (identified : wire.id = some (.ofUuid id)) :
    ∃ recorded, wire.decode decoders = some recorded ∧ recorded.id = id ∧
      recorded.eventType = (wire.metadata.lookup "type").getD "" ∧ recorded.data = wire.data ∧
      recorded.customMetadata = wire.customMetadata ∧
      (recorded.isJson = true ↔
        wire.metadata.lookup "content-type" = some "application/json") := by
  obtain ⟨stream, named⟩ := Option.ne_none_iff_exists'.mp placed
  simp only [WireRecordedEvent.decode, identified, named, ofUuid_tryInto, Option.bind_eq_bind,
    Option.bind_some, Option.some.injEq, exists_eq_left', true_and, decide_eq_true_eq]
  rw [lookup_filter_ne (by decide)]

theorem events_survive_wire {event : EventData} {json : SerdeJson} {decoders : Decoders}
    {context : TraceContext} {newV4 id : Uuid} {eventType : String} {isJson : Bool}
    (built : event.Built eventType isJson) (identified : event.idOpt = some id) :
    event.SurvivesWire json decoders context newV4 eventType isJson
        ((injectEventContext json event context).customMetadata.getD []) ∧
      (¬ context.Injects json event →
        event.SurvivesWire json decoders context newV4 eventType isJson
          (event.customMetadata.getD [])) := by
  have survives : event.SurvivesWire json decoders context newV4 eventType isJson
      ((injectEventContext json event context).customMetadata.getD []) := by
    obtain ⟨sameId, sameMetadata, samePayload⟩ := inject_keeps json event context
    obtain ⟨typed, content⟩ := built_metadata built
    refine ⟨rfl, ?_⟩
    intro wire carried
    have wireId : wire.id = some (.ofUuid id) := by
      rw [carried.id, appendMessage, EventData.intoAppendReq, sameId, identified, Option.getD_some]
    have lookup : ∀ key, key ≠ "created" → wire.metadata.lookup key = event.metadata.lookup key := by
      intro key known
      rw [carried.metadata key known, appendMessage, EventData.intoAppendReq, sameMetadata]
    obtain ⟨recorded, decoded, atId, atType, atData, atCustom, atJson⟩ :=
      decode_placed carried.placed wireId
    refine ⟨recorded, decoded, (asPersistent_decode decoders wire).trans decoded, ?_⟩
    constructor
    · rw [atId, identified]
    · rw [atType, lookup "type" (by decide), typed, Option.getD_some]
    · rw [atData, carried.data, appendMessage, EventData.intoAppendReq, samePayload]
    · rw [atCustom, carried.customMetadata, appendMessage, EventData.intoAppendReq]
    · rw [Bool.eq_iff_iff, atJson, lookup "content-type" (by decide), content]
  refine ⟨survives, ?_⟩
  intro plain
  rw [inject_unchanged plain] at survives
  exact survives

theorem EventData.SurvivesWire.customMetadata_eq {event : EventData} {json : SerdeJson}
    {decoders : Decoders} {context : TraceContext} {newV4 id : Uuid} {eventType : String}
    {isJson : Bool} {customMetadata : Bytes}
    (survives : event.SurvivesWire json decoders context newV4 eventType isJson customMetadata)
    (identified : event.idOpt = some id) :
    customMetadata = (injectEventContext json event context).customMetadata.getD [] := by
  obtain ⟨sameId, _⟩ := inject_keeps json event context
  have wireId : (appendMessage json newV4 context event).id = some (.ofUuid id) := by
    rw [appendMessage, EventData.intoAppendReq, sameId, identified, Option.getD_some]
  let wire : WireRecordedEvent :=
    { id := some (.ofUuid id)
      streamIdentifier := some []
      streamRevision := 0
      preparePosition := 0
      commitPosition := 0
      metadata := (appendMessage json newV4 context event).metadata
      customMetadata := (appendMessage json newV4 context event).customMetadata
      data := (appendMessage json newV4 context event).data }
  have placed : wire.streamIdentifier ≠ none := Option.some_ne_none _
  obtain ⟨recorded, decoded, _, restored⟩ :=
    survives.recorded wire ⟨placed, wireId.symm, fun _ _ => rfl, rfl, rfl⟩
  obtain ⟨other, again, _, _, _, custom, _⟩ := decode_placed placed rfl
  obtain rfl : recorded = other := Option.some.inj (decoded.symm.trans again)
  rw [← restored.customMetadata, custom]
  rfl

def plainMember : String × Json → Bytes
  | (key, .string text) => utf8 ("\"" ++ key ++ "\":\"" ++ text ++ "\"")
  | _ => []

def plainJson : SerdeJson where
  fromSlice _ := none
  document _ := none
  toVec
    | .object entries => 123 :: ((entries.map plainMember).intersperse [44]).flatten ++ [125]
    | _ => []
  complaint _ := ""

def orderEvent : EventData :=
  { EventData.json "order-created" [110, 117, 108, 108] with idOpt := some 5 }

def sampledContext : TraceContext :=
  ⟨true, [("traceparent", "00-58406520a006649127e371903a2de979-58406520a0066491-01"),
    ("tracestate", "")]⟩

def sampledFields : JsonMap :=
  [("traceparent", .string "00-58406520a006649127e371903a2de979-58406520a0066491-01"),
    ("tracestate", .string "")]

theorem order_survives_wire :
    orderEvent.SurvivesWire plainJson .blank sampledContext 0 "order-created" true
      ((injectEventContext plainJson orderEvent sampledContext).customMetadata.getD []) :=
  (events_survive_wire (.id (.json _) 5) rfl).1

theorem JsonMap.carry_last {carrier : JsonMap} {pair : String × String}
    (persisted : isPersistedTraceField pair.1 = true)
    (apart : ∀ entry ∈ carrier, eqIgnoreAsciiCase entry.1 pair.1 = false)
    (below : ∀ entry ∈ carrier, entry.1 < pair.1) :
    carrier.carry pair = carrier ++ [(pair.1, .string pair.2)] := by
  have all : carrier.filter (fun entry => !eqIgnoreAsciiCase entry.1 pair.1) = carrier := by
    apply List.filter_eq_self.mpr
    intro entry member
    rw [apart entry member, Bool.not_false]
  rw [JsonMap.carry, if_pos persisted, all]
  exact SortedEntries.insert_last _ below

theorem sampled_fields : sampledContext.fields = sampledFields := by
  have parent : JsonMap.carry []
      ("traceparent", "00-58406520a006649127e371903a2de979-58406520a0066491-01") = _ :=
    JsonMap.carry_last (by decide +kernel) (by decide +kernel) (by decide +kernel)
  change JsonMap.carry (JsonMap.carry [] _) _ = _
  rw [parent]
  exact JsonMap.carry_last (by decide +kernel) (by decide +kernel) (by decide +kernel)

theorem sampled_carried : JsonMap.carryFields [] sampledFields = sampledFields := sampled_fields

theorem order_traced : injectEventContext plainJson orderEvent sampledContext =
    { orderEvent with customMetadata := some (plainJson.toVec (.object sampledFields)) } := by
  have valid : sampledContext.isValid = true := rfl
  rw [injectEventContext, if_pos valid, sampled_fields]
  exact congrArg (fun carrier =>
    { orderEvent with customMetadata := some (plainJson.toVec (.object carrier)) }) sampled_carried

theorem traced_event_gains_metadata :
    orderEvent.Built "order-created" true ∧ orderEvent.idOpt = some 5 ∧
      ¬ orderEvent.SurvivesWire plainJson .blank sampledContext 0 "order-created" true
        (orderEvent.customMetadata.getD []) := by
  refine ⟨.id (.json _) 5, rfl, ?_⟩
  intro survives
  have written := survives.customMetadata_eq rfl
  rw [order_traced] at written
  cases written

end TrogonEventStore

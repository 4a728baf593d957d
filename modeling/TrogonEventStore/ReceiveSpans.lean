import TrogonEventStore.AppendPaths
import TrogonEventStore.TraceInjection

namespace TrogonEventStore

/-- A text-map propagator: what it sets on a carrier for a span context, and what it gets from one,
the current span context where there is nothing to get. `remote` is what a span context is on the
other side, and `empty` the span context of a new context. -/
structure Propagator (SpanContext : Type) where
  isValid : SpanContext → Bool
  empty : SpanContext
  inject : SpanContext → List (String × String)
  extract : SpanContext → (String → Option String) → List String → SpanContext
  remote : SpanContext → SpanContext

/-- A span that is ended for a received event. A stream name is known by its bytes. -/
structure ReceiveSpan (SpanContext : Type) where
  name : Bytes
  attributes : List (String × Bytes)
  links : List SpanContext

inductive Received (SpanContext : Type) where
  | nothing
  | span (span : ReceiveSpan SpanContext)
  | panicked

namespace Propagator

variable {SpanContext : Type} (propagator : Propagator SpanContext)

def traceContext (context : SpanContext) : TraceContext :=
  ⟨propagator.isValid context, propagator.inject context⟩

variable (json : SerdeJson) (current : SpanContext)

def extractEventContext (metadata : Bytes) : SpanContext :=
  match extractedCarrier json metadata with
  | some carrier => propagator.extract current carrier.get (carrier.map Prod.fst)
  | none => propagator.empty

def links (metadata : Bytes) : List SpanContext :=
  let messageSpanContext := propagator.extractEventContext json current metadata
  if propagator.isValid messageSpanContext then [messageSpanContext] else []

/-- `SubscriptionReceive::complete`; `display` is that of the ids. -/
def complete (display : Uuid → String) (consumerGroupName : Option String)
    (resolved : ResolvedEvent) : Received SpanContext :=
  match resolved.event.or resolved.link with
  | none => .nothing
  | some delivered =>
      match resolved.getOriginalEvent with
      | none => .panicked
      | some original => .span {
          name := utf8 "receive " ++ original.streamIdRaw
          attributes := [("messaging.system", utf8 "trogoneventstore"),
            ("messaging.operation.name", utf8 "receive"),
            ("messaging.operation.type", utf8 "receive"),
            ("messaging.destination.name", original.streamIdRaw),
            ("messaging.message.id", utf8 (display original.id)),
            ("trogon.eventstore.event.type", utf8 delivered.eventType)] ++
            consumerGroupName.toList.map fun name => ("messaging.consumer.group.name", utf8 name)
          links := propagator.links json current delivered.customMetadata }

/-- What is documented of the propagators that carry a span context in the trace fields, alone or
together with others such as baggage: they set trace fields, get the context from any carrier that
has these as they were set last, and fall back on the current context. -/
structure Documented : Prop where
  fresh : propagator.isValid propagator.empty = false
  emits : ∀ context, propagator.isValid context = true →
    ∃ pair ∈ propagator.inject context, isPersistedTraceField pair.1 = true
  extracts : ∀ context, propagator.isValid context = true → ∀ current get keys,
    (∀ key pair, isPersistedTraceField key = true →
      lastEmitted (propagator.inject context) key = some pair → get key = some pair.2) →
      propagator.extract current get keys = propagator.remote context
  remote : ∀ context, propagator.isValid context = true →
    propagator.isValid (propagator.remote context) = true
  falls : ∀ current get keys, (∀ key, isPersistedTraceField key = true → get key = none) →
    propagator.extract current get keys = current

/-- How the span of a receiver, with the current context of its own, is to be linked for an event that
was appended in a context: to that context, if the custom metadata has taken it; without a trace in the
metadata, to the current context of the receiver. -/
structure Links (context : SpanContext) (event : EventData) (links : List SpanContext) :
    Prop where
  traced : propagator.isValid context = true → metadataObject json event.customMetadata ≠ none →
    links = [propagator.remote context]
  unreadable : metadataObject json event.customMetadata = none → links = []
  bare : propagator.isValid context = false → event.customMetadata.getD [] = [] → links = []
  untraced : propagator.isValid context = false → ∀ carrier,
    extractedCarrier json (event.customMetadata.getD []) = some carrier →
      (∀ key, isPersistedTraceField key = true → carrier.get key = none) →
        links = if propagator.isValid current then [current] else []

end Propagator

inductive Asked (json : SerdeJson) (context : TraceContext) (events : List EventData) :
    Appending → Prop where
  | single {asked : Appending} (newV4 : Nat → Uuid) (stream : Bytes) (state : StreamState)
      (read : readAppend (appendRequests json newV4 context stream (.streamState state) events) =
        some asked) : Asked json context events asked
  | batch {asked : Appending} {wire : Batch.BatchAppendReq} {id : Uuid} (deadline : Option Duration)
      (req : Batch.Req) (moment : Batch.Moment) (parseUuid : String → Option Uuid)
      (generated : Batch.generate json deadline (req, moment) = some wire)
      (read : wire.read parseUuid = some (id, asked)) (sent : req.events = events)
      (within : moment.context = context) : Asked json context events asked

theorem Asked.messages {json : SerdeJson} {context : TraceContext} {events : List EventData}
    {asked : Appending} (asks : Asked json context events asked) :
    ∃ newV4 : Nat → Uuid, asked.messages =
      events.mapIdx fun index event => appendMessage json (newV4 index) context event := by
  cases asks with
  | single newV4 stream state read =>
      rw [readAppend_requests] at read
      cases read
      exact ⟨newV4, rfl⟩
  | batch deadline req moment parseUuid generated read sent within =>
      have asks := Batch.generate_asks generated parseUuid
      rw [read, Batch.Req.asks, readAppend_requests, sent, within] at asks
      cases asks
      exact ⟨moment.newV4, rfl⟩

theorem ProposedMessage.CarriedBack.decoded {message : ProposedMessage} {wire : WireRecordedEvent}
    (carried : message.CarriedBack wire) {decoders : Decoders} {recorded : RecordedEvent}
    (decoded : wire.decode decoders = some recorded) :
    recorded.customMetadata = message.customMetadata := by
  simp only [WireRecordedEvent.decode, Option.bind_eq_bind, Option.bind_eq_some_iff,
    Option.some.injEq] at decoded
  obtain ⟨_, _, _, _, _, _, rfl⟩ := decoded
  exact carried.customMetadata

theorem extractedCarrier_eq {json : SerdeJson} {metadata : Option Bytes}
    (present : metadata.getD [] ≠ []) :
    extractedCarrier json (metadata.getD []) = metadataObject json metadata := by
  cases metadata with
  | none => exact absurd rfl present
  | some metadata =>
      cases metadata with
      | nil => exact absurd rfl present
      | cons byte bytes => rfl

section Links

variable {SpanContext : Type} {propagator : Propagator SpanContext} {json : SerdeJson}
variable {current context : SpanContext} {event : EventData}

theorem Propagator.links_none (documented : propagator.Documented) {metadata : Bytes}
    (absent : extractedCarrier json metadata = none) :
    propagator.links json current metadata = [] := by
  have fresh := documented.fresh
  simp [Propagator.links, Propagator.extractEventContext, absent, fresh]

theorem Propagator.links_some {metadata : Bytes} {carrier : JsonMap} {extracted : SpanContext}
    (found : extractedCarrier json metadata = some carrier)
    (gets : propagator.extract current carrier.get (carrier.map Prod.fst) = extracted) :
    propagator.links json current metadata =
      if propagator.isValid extracted then [extracted] else [] := by
  simp only [Propagator.links, Propagator.extractEventContext, found, gets]

/-- The trace that goes into the metadata of an event is what is got from it again. -/
theorem Propagator.links_traced (documented : propagator.Documented) (maps : json.ReadsMaps)
    (valid : propagator.isValid context = true) {before : JsonMap}
    (given : metadataObject json event.customMetadata = some before)
    (kept : json.KeepsTrace (before.carryFields (propagator.traceContext context).fields)) :
    propagator.links json current
      ((injectEventContext json event (propagator.traceContext context)).customMetadata.getD []) =
        [propagator.remote context] := by
  have emitted : (propagator.traceContext context).fields ≠ [] := by
    intro empty
    obtain ⟨pair, present, persisted⟩ := documented.emits context valid
    have foreign := (fields_eq_nil_iff _).mp empty pair present
    rw [persisted] at foreign
    cases foreign
  have traces := carryFields_traces (propagator.traceContext context)
    (sorted_metadataObject maps given)
  obtain ⟨present, back, read, same⟩ := kept
  have gets : propagator.extract current back.get (back.map Prod.fst) =
      propagator.remote context := by
    apply documented.extracts context valid
    intro key pair persisted last
    rw [same key persisted]
    exact traces.get key pair persisted last
  have carrier : extractedCarrier json (json.toVec
      (.object (before.carryFields (propagator.traceContext context).fields))) = some back := by
    have carried := @extractedCarrier_eq json (some (json.toVec
      (.object (before.carryFields (propagator.traceContext context).fields)))) present
    rw [Option.getD_some] at carried
    rw [carried, metadataObject_of_text present, read]
  rw [inject_traced valid emitted given, Option.getD_some, Propagator.links_some carrier gets,
    if_pos (documented.remote context valid)]

theorem Propagator.links_appended (documented : propagator.Documented) (maps : json.ReadsMaps)
    (kept : ∀ before, metadataObject json event.customMetadata = some before →
      json.KeepsTrace (before.carryFields (propagator.traceContext context).fields)) :
    propagator.Links json current context event (propagator.links json current
      ((injectEventContext json event (propagator.traceContext context)).customMetadata.getD [])) := by
  have plain (same : injectEventContext json event (propagator.traceContext context) = event)
      (absent : extractedCarrier json (event.customMetadata.getD []) = none) :
      propagator.links json current ((injectEventContext json event
        (propagator.traceContext context)).customMetadata.getD []) = [] := by
    rw [same]
    exact Propagator.links_none documented absent
  have invalid (untraced : propagator.isValid context = false) :
      injectEventContext json event (propagator.traceContext context) = event := by
    apply inject_unchanged
    rintro ⟨valid, _⟩
    exact Bool.false_ne_true (untraced.symm.trans valid)
  constructor
  case traced =>
    intro valid taken
    obtain ⟨before, given⟩ := Option.ne_none_iff_exists'.mp taken
    exact Propagator.links_traced documented maps valid given (kept before given)
  case unreadable =>
    intro other
    have present : event.customMetadata.getD [] ≠ [] := by
      intro empty
      cases metadata : event.customMetadata with
      | none =>
          rw [metadata] at other
          cases other
      | some bytes =>
          rw [metadata] at other empty
          obtain rfl : bytes = [] := empty
          cases other
    apply plain
    · apply inject_unchanged
      rintro ⟨_, _, taken⟩
      exact taken other
    · rw [extractedCarrier_eq present, other]
  case bare =>
    intro untraced empty
    apply plain (invalid untraced)
    rw [empty]
    rfl
  case untraced =>
    intro untraced carrier found silent
    rw [invalid untraced]
    exact Propagator.links_some found (documented.falls current carrier.get _ silent)

/-- Whichever call an event was appended with, and whether it is received itself or through a link, its
receiver ends a span, and that span is linked to the context of the append. -/
theorem receives_linked {decoders : Decoders} {display : Uuid → String} {events : List EventData}
    {asked : Appending} {place : Nat} {message : ProposedMessage} {wire : WireRecordedEvent}
    {recorded : RecordedEvent} {resolved : ResolvedEvent} (documented : propagator.Documented)
    (maps : json.ReadsMaps)
    (asks : Asked json (propagator.traceContext context) events asked)
    (sent : events[place]? = some event) (found : asked.messages[place]? = some message)
    (kept : ∀ before, metadataObject json event.customMetadata = some before →
      json.KeepsTrace (before.carryFields (propagator.traceContext context).fields))
    (carried : message.CarriedBack wire) (decoded : wire.decode decoders = some recorded)
    (delivered : resolved.event.or resolved.link = some recorded)
    (consumerGroupName : Option String) :
    ∃ span, propagator.complete json current display consumerGroupName resolved = .span span ∧
      propagator.Links json current context event span.links := by
  obtain ⟨newV4, messages⟩ := asks.messages
  rw [messages, List.getElem?_mapIdx, sent] at found
  obtain rfl := Option.some.inj found
  have metadata : recorded.customMetadata = (injectEventContext json event
      (propagator.traceContext context)).customMetadata.getD [] := carried.decoded decoded
  obtain ⟨original, shown⟩ : ∃ original, resolved.getOriginalEvent = some original := by
    rw [ResolvedEvent.getOriginalEvent]
    cases link : resolved.link with
    | some linked => exact ⟨linked, rfl⟩
    | none =>
        rw [link, Option.or_none] at delivered
        exact ⟨recorded, delivered⟩
  have linked : propagator.Links json current context event (propagator.links json current
      ((injectEventContext json event (propagator.traceContext context)).customMetadata.getD [])) :=
    Propagator.links_appended documented maps kept
  rw [← metadata] at linked
  rw [Propagator.complete, delivered, shown]
  exact ⟨_, rfl, linked⟩

end Links

/-- The W3C propagator and the one for baggage, where the sampled span is the only one and has
some baggage. -/
def samplePropagator : Propagator Bool where
  isValid context := context
  empty := false
  inject context :=
    if context then sampledContext.propagated ++ [("baggage", "tenant=secret")] else []
  extract current get _ :=
    match get "traceparent" with
    | some _ => true
    | none => current
  remote context := context

theorem samplePropagator_documented : samplePropagator.Documented where
  fresh := rfl
  emits := by
    rintro context ⟨⟩
    exact ⟨_, List.mem_cons_self, by decide +kernel⟩
  extracts := by
    rintro context ⟨⟩ current get keys gets
    have last : lastEmitted (samplePropagator.inject true) "traceparent" =
        sampledContext.propagated.head? := by decide +kernel
    have got := gets "traceparent" _ (by decide +kernel) last
    simp only [samplePropagator]
    rw [got]
  remote _ valid := valid
  falls := by
    intro current get keys silent
    have missing := silent "traceparent" (by decide +kernel)
    simp only [samplePropagator]
    rw [missing]

def recordedOrder (metadata : Bytes) : WireRecordedEvent where
  id := some (.ofUuid 5)
  streamIdentifier := some (utf8 "orders")
  streamRevision := 0
  preparePosition := 0
  commitPosition := 0
  metadata := orderEvent.metadata
  customMetadata := metadata
  data := orderEvent.payload

theorem order_kept : tracedJson.KeepsTrace
    (JsonMap.carryFields [] (samplePropagator.traceContext true).fields) := by
  have foreign : isPersistedTraceField "baggage" = false := by decide +kernel
  have fields : (samplePropagator.traceContext true).fields = sampledFields := by
    change sampledContext.fields.carry ("baggage", "tenant=secret") = _
    rw [JsonMap.carry, foreign, if_neg Bool.false_ne_true, sampled_fields]
  rw [fields, sampled_carried]
  refine ⟨List.cons_ne_nil _ _, sampledFields, ?_, fun key persisted => rfl⟩
  simp [tracedJson]

/-- The order, appended by itself, is received by a consumer group. -/
theorem order_linked : ∃ (wire : WireRecordedEvent) (recorded : RecordedEvent) (span : ReceiveSpan Bool),
    wire.decode .blank = some recorded ∧
      samplePropagator.complete tracedJson false (fun _ => "") (some "billing")
        ⟨some recorded, none, none⟩ = .span span ∧
      samplePropagator.Links tracedJson false true orderEvent span.links := by
  let message := appendMessage tracedJson 0 (samplePropagator.traceContext true) orderEvent
  obtain ⟨sameId, sameMetadata, samePayload⟩ :=
    inject_keeps tracedJson orderEvent (samplePropagator.traceContext true)
  have carried : message.CarriedBack (recordedOrder message.customMetadata) := by
    refine ⟨Option.some_ne_none _, ?_, ?_, rfl, samePayload.symm⟩
    · simp only [message, appendMessage, EventData.intoAppendReq, sameId]
      rfl
    · simp only [message, appendMessage, EventData.intoAppendReq, sameMetadata]
      exact fun _ _ => rfl
  obtain ⟨recorded, decoded, _⟩ :=
    @decode_placed .blank (recordedOrder message.customMetadata) 5 carried.placed rfl
  have kept : ∀ before, metadataObject tracedJson orderEvent.customMetadata = some before →
      tracedJson.KeepsTrace
        (before.carryFields (samplePropagator.traceContext true).fields) := by
    rintro before ⟨⟩
    exact order_kept
  have asks : Asked tracedJson (samplePropagator.traceContext true) [orderEvent]
      ⟨utf8 "orders", .any, [message]⟩ :=
    .single (fun _ => 0) (utf8 "orders") .any (readAppend_requests _ _ _ _ _ _)
  have sent : [orderEvent][0]? = some orderEvent := rfl
  have found : [message][0]? = some message := rfl
  have delivered : Option.or (some recorded) none = some recorded := rfl
  obtain ⟨span, completes, linked⟩ :=
    @receives_linked Bool samplePropagator tracedJson false true orderEvent .blank (fun _ => "")
      [orderEvent] _ 0 message _ recorded ⟨some recorded, none, none⟩ samplePropagator_documented
      tracedJson_readsMaps asks sent found kept carried decoded delivered (some "billing")
  exact ⟨_, recorded, span, decoded, completes, linked⟩

end TrogonEventStore

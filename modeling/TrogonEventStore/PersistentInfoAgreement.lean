import TrogonEventStore.PersistentInfo

namespace TrogonEventStore

open Grpc Http

/-- A `usize` of the JSON record and an integer of the message that are the same number. -/
def Same64 (json : UInt64) (wire : Int64) : Prop := (json.toNat : Int) = wire.toInt

def Same32 (json : UInt64) (wire : Int32) : Prop := (json.toNat : Int) = wire.toInt

theorem Same64.eq {json : UInt64} {wire : Int64} (same : Same64 json wire) :
    json = wire.toUInt64 := by
  have low : 0 ≤ wire := by
    rw [Int64.le_iff_toInt_le]
    unfold Same64 at same
    rw [← same]
    exact Int.natCast_nonneg _
  apply UInt64.toNat_inj.mp
  rw [Int64.toNat_toUInt64_of_le low]
  unfold Same64 at same
  change json.toNat = wire.toInt.toNat
  omega

theorem Same32.eq {json : UInt64} {wire : Int32} (same : Same32 json wire) :
    json = asUsize wire := by
  have widened : Same64 json wire.toInt64 := by
    unfold Same64
    rw [Int32.toInt_toInt64]
    exact same
  exact widened.eq

/-- An `i64` of the JSON record and an `i32` of the message that are the same number. -/
def SameInt (json : Int64) (wire : Int32) : Prop := json.toInt = wire.toInt

theorem SameInt.eq {json : Int64} {wire : Int32} (same : SameInt json wire) :
    json = wire.toInt64 := by
  apply Int64.toInt_inj.mp
  rw [Int32.toInt_toInt64]
  exact same

theorem SameInt.narrowed {json : Int64} {wire : Int32} (same : SameInt json wire) :
    json.toInt32 = wire := by
  rw [same.eq]
  exact Int32.toInt32_toInt64 wire

variable {F64 : Type} {asF64 : Int32 → F64}

structure SameConnection (asF64 : Int32 → F64) (json : ConnectionJson F64)
    (wire : ConnectionInfo) : Prop where
  fromAddress : json.fromAddress = wire.fromAddress
  username : json.username = wire.username
  averageItemsPerSecond : json.averageItemsPerSecond = asF64 wire.averageItemsPerSecond
  totalItems : Same64 json.totalItemsProcessed wire.totalItems
  countSinceLastMeasurement : Same64 json.countSinceLastMeasurement wire.countSinceLastMeasurement
  availableSlots : Same32 json.availableSlots wire.availableSlots
  inFlightMessages : Same32 json.inFlightMessages wire.inFlightMessages
  connectionName : json.connectionName = wire.connectionName
  extraStatistics : json.extraStatistics = wire.observedMeasurements

/-- The start position of a stream: the same text, or a number of at least -1 and its decimal
text. -/
inductive SameStart : StreamPositionJson → String → Prop where
  | number (value : Int) (low : -1 ≤ value) : SameStart (.number value) (toString value)
  | text (value : String) : SameStart (.text value) value

/-- How far the subscription has come: the same text of a position for `$all`, and a number of at
least -1 and its decimal text for a stream. -/
def SameProgress (eventStreamId : String) (number : Int64) (position : Option String)
    (wire : String) : Prop :=
  if eventStreamId = "$all" then wire = position.getD ""
  else -1 ≤ number.toInt ∧ wire = toString number.toInt

def StrategyJson.name : StrategyJson → String
  | .variant name => name
  | .custom name => name

structure SameConfig (eventStreamId : String) (json : ConfigJson) (wire : SubscriptionInfo) :
    Prop where
  resolveLinkTos : json.resolveLinktos = wire.resolveLinkTos
  startFrom : if eventStreamId = "$all" then json.startPosition = wire.startFrom
    else SameStart json.startFrom wire.startFrom
  messageTimeout : SameInt json.messageTimeoutMilliseconds wire.messageTimeoutMilliseconds
  extraStatistics : json.extraStatistics = wire.extraStatistics
  maxRetryCount : SameInt json.maxRetryCount wire.maxRetryCount
  liveBufferSize : SameInt json.liveBufferSize wire.liveBufferSize
  bufferSize : SameInt json.bufferSize wire.bufferSize
  readBatchSize : SameInt json.readBatchSize wire.readBatchSize
  checkpointAfter : SameInt json.checkpointAfterMilliseconds wire.checkPointAfterMilliseconds
  minCheckpointCount : SameInt json.minCheckpointCount wire.minCheckPointCount
  maxCheckpointCount : SameInt json.maxCheckpointCount wire.maxCheckPointCount
  maxSubscriberCount : SameInt json.maxSubscriberCount wire.maxSubscriberCount
  namedConsumerStrategy : json.namedConsumerStrategy.name = wire.namedConsumerStrategy

structure SameInfo (asF64 : Int32 → F64) (json : InfoJson F64) (config : ConfigJson)
    (wire : SubscriptionInfo) : Prop where
  configured : json.config = some config
  settings : SameConfig json.eventStreamId config wire
  eventSource : json.eventStreamId = wire.eventSource
  groupName : json.groupName = wire.groupName
  status : json.status = wire.status
  connections : List.Forall₂ (SameConnection asF64) json.connections wire.connections
  average : json.averageItemsPerSecond = asF64 wire.averagePerSecond
  totalItems : Same64 json.totalItemsProcessed wire.totalItems
  countSinceLastMeasurement : Same64 json.countSinceLastMeasurement wire.countSinceLastMeasurement
  lastCheckpointed : SameProgress json.eventStreamId json.lastProcessedEventNumber
    json.lastCheckpointedEventPosition wire.lastCheckpointedEventPosition
  lastKnown : SameProgress json.eventStreamId json.lastKnownEventNumber
    json.lastKnownEventPosition wire.lastKnownEventPosition
  readBufferCount : Same32 json.readBufferCount wire.readBufferCount
  liveBufferCount : Same64 json.liveBufferCount wire.liveBufferCount
  retryBufferCount : Same32 json.retryBufferCount wire.retryBufferCount
  totalInFlightMessages : Same32 json.totalInFlightMessages wire.totalInFlightMessages
  outstandingMessagesCount : Same32 json.outstandingMessagesCount wire.outstandingMessagesCount
  parkedMessageCount : Same64 json.parkedMessageCount wire.parkedMessageCount

def Agree {Info : Type} (http : Option (Except Error Info)) (grpc : Except Error Info) : Prop :=
  ∃ result, http = some result ∧
    ((∃ first second, result = .error first ∧ grpc = .error second) ∨
      ∃ info, result = .ok info ∧ grpc = .ok info)

/-- A strategy that is not spelled out as a custom one under the name of another. -/
def StrategyJson.Proper (json : StrategyJson) : Prop :=
  ∀ name, json = .custom name → SystemConsumerStrategy.fromString name = .custom name

/-- Progress that HTTP and gRPC read alike: no position or one that reads, or a revision. -/
def ReadsProgress (eventStreamId : String) (number : Int64) (position : Option String) : Prop :=
  if eventStreamId = "$all" then
    ∀ text, position = some text → ∃ read, parsePosition text = .ok read
  else 0 ≤ number.toInt

theorem connections_agree {json : List (ConnectionJson F64)} {wire : List ConnectionInfo}
    (same : List.Forall₂ (SameConnection asF64) json wire) :
    json.map ConnectionJson.deserialize = wire.map (ConnectionInfo.into asF64) := by
  induction same with
  | nil => rfl
  | @cons first other json wire head _ ih =>
      have equal : first.deserialize = other.into asF64 := by
        simp only [ConnectionJson.deserialize, ConnectionInfo.into, head.fromAddress, head.username,
          head.averageItemsPerSecond, head.totalItems.eq, head.countSinceLastMeasurement.eq,
          head.availableSlots.eq, head.inFlightMessages.eq, head.connectionName,
          head.extraStatistics]
      rw [List.map_cons, List.map_cons, equal, ih]

theorem toString_nonneg {value : Int} (low : 0 ≤ value) : toString value = toString value.toNat := by
  obtain ⟨nat, rfl⟩ := Int.eq_ofNat_of_zero_le low
  rfl

theorem start_agrees {json : StreamPositionJson} {text : String} (same : SameStart json text)
    {position : StreamPosition RevisionOrPosition}
    (read : StreamRevOrPosVisitor.deserialize json = some position) :
    parseStreamPosition text = .ok position := by
  cases same with
  | text =>
      simp only [StreamRevOrPosVisitor.deserialize, StreamRevOrPosVisitor.visitStr] at read
      cases parsed : parseStreamPosition text with
      | error error =>
          rw [parsed] at read
          cases read
      | ok value =>
          rw [parsed] at read
          cases read
          rfl
  | number value low =>
      simp only [StreamRevOrPosVisitor.deserialize] at read
      split at read
      · next within =>
          cases read
          rw [toString_nonneg within.1]
          exact parseStreamPosition_revision (by omega)
      · split at read
        · next negative =>
            have one : value = -1 := by omega
            subst one
            cases read
            rfl
        · cases read

theorem strategy_agrees {json : StrategyJson} {strategy : SystemConsumerStrategy}
    (read : json.deserialize = some strategy) :
    strategy = .fromString json.name ↔ json.Proper := by
  cases json with
  | custom name =>
      cases read
      constructor
      · intro same other equal
        cases equal
        exact same.symm
      · intro proper
        exact (proper name rfl).symm
  | variant name =>
      have named : strategy = .fromString name := by
        unfold StrategyJson.deserialize at read
        split at read
        · cases read; next same => cases same; rfl
        · cases read; next same => cases same; rfl
        · cases read; next same => cases same; rfl
        · cases read; next same => cases same; rfl
        · cases read
        · next impossible => cases impossible
      constructor
      · intro _ other impossible
        cases impossible
      · exact fun _ => named

theorem ConfigJson.deserialize_parts {json : ConfigJson} {c : PersistentSubscriptionConfig}
    (read : json.deserialize = some c) :
    ∃ startFrom strategy, StreamRevOrPosVisitor.deserialize json.startFrom = some startFrom ∧
      json.namedConsumerStrategy.deserialize = some strategy ∧
      c = { json with startFrom := startFrom, namedConsumerStrategy := strategy } := by
  unfold ConfigJson.deserialize at read
  cases startRead : StreamRevOrPosVisitor.deserialize json.startFrom with
  | none =>
      rw [startRead] at read
      cases read
  | some startFrom =>
      cases strategyRead : json.namedConsumerStrategy.deserialize with
      | none =>
          rw [startRead, strategyRead] at read
          cases read
      | some strategy =>
          rw [startRead, strategyRead] at read
          cases read
          exact ⟨startFrom, strategy, rfl, rfl, rfl⟩

theorem settings_agree {eventStreamId : String} {json : ConfigJson} {wire : SubscriptionInfo}
    (same : SameConfig eventStreamId json wire) {c : PersistentSubscriptionConfig}
    (read : json.deserialize = some c) (position : StreamPosition RevisionOrPosition) :
    c.settings position = wire.settings position ↔ json.namedConsumerStrategy.Proper := by
  obtain ⟨startFrom, strategy, _, strategyRead, rfl⟩ := ConfigJson.deserialize_parts read
  have named := strategy_agrees strategyRead
  rw [same.namedConsumerStrategy] at named
  simp only [PersistentSubscriptionConfig.settings, SubscriptionInfo.settings,
    same.resolveLinkTos, same.extraStatistics, same.messageTimeout.eq,
    same.maxRetryCount.narrowed, same.liveBufferSize.narrowed, same.bufferSize.narrowed,
    same.readBatchSize.narrowed, same.checkpointAfter.eq, same.minCheckpointCount.narrowed,
    same.maxCheckpointCount.narrowed, same.maxSubscriberCount.narrowed,
    PersistentSubscriptionSettings.mk.injEq, true_and]
  exact named

theorem selectStart_both (position : StreamPosition RevisionOrPosition) :
    selectStart bothTypeOfStream position = some position := by
  cases position <;> rfl

/-- Both sides read the same start position, or fail on it alike; only `$all` can fail. -/
theorem fromConfig_agrees {eventStreamId : String} {json : ConfigJson} {wire : SubscriptionInfo}
    (same : SameConfig eventStreamId json wire) {c : PersistentSubscriptionConfig}
    (read : json.deserialize = some c) :
    fromConfig bothTypeOfStream eventStreamId c =
        some ((parseStreamPosition wire.startFrom).map c.settings) ∧
      ((∃ error, parseStreamPosition wire.startFrom = .error error) ↔
        eventStreamId = "$all" ∧
          ∃ error, parseStreamPosition json.startPosition = .error error) := by
  have startFrom := same.startFrom
  obtain ⟨position, strategy, startRead, _, rfl⟩ := ConfigJson.deserialize_parts read
  unfold fromConfig
  by_cases all : eventStreamId = "$all"
  · rw [if_pos all] at startFrom
    rw [if_pos all, ← startFrom]
    refine ⟨?_, by simp [all]⟩
    dsimp only
    cases parseStreamPosition json.startPosition with
    | error error => rfl
    | ok parsed =>
        dsimp only
        rw [selectStart_both]
        rfl
  · rw [if_neg all] at startFrom
    have parsed := start_agrees startFrom startRead
    rw [if_neg all, parsed]
    dsimp only
    rw [selectStart_both]
    refine ⟨rfl, ?_⟩
    simp [all]

def halfProgress (eventStreamId : String) (number : Int64) (position : Option String) :
    Except Error (Option Nat × Option Position) :=
  if eventStreamId = "$all" then (parsePositionOpt position).map fun read => (none, read)
  else .ok (some number.toUInt64.toNat, none)

theorem fromProgress_halves (info : PersistentSubscriptionInfoHttpJson F64) :
    fromProgress info =
      (halfProgress info.eventStreamId info.lastProcessedEventNumber
        info.lastCheckpointedEventPosition).bind fun checkpointed =>
          (halfProgress info.eventStreamId info.lastKnownEventNumber
            info.lastKnownEventPosition).map fun known =>
              ⟨checkpointed.1, known.1, checkpointed.2, known.2⟩ := by
  unfold fromProgress halfProgress
  by_cases all : info.eventStreamId = "$all"
  · simp only [if_pos all]
    cases parsePositionOpt info.lastCheckpointedEventPosition with
    | error error => rfl
    | ok first =>
        cases parsePositionOpt info.lastKnownEventPosition with
        | error error => rfl
        | ok second => rfl
  · simp only [if_neg all]
    rfl

theorem progress_empty : progress "" = (none, none) := by decide

theorem halfProgress_agrees {eventStreamId : String} {number : Int64} {position : Option String}
    {wire : String} (same : SameProgress eventStreamId number position wire) :
    halfProgress eventStreamId number position = .ok (progress wire) ↔
      ReadsProgress eventStreamId number position := by
  unfold SameProgress at same
  unfold halfProgress ReadsProgress
  by_cases all : eventStreamId = "$all"
  · rw [if_pos all] at same
    rw [if_pos all, if_pos all, same]
    cases position with
    | none => simp [parsePositionOpt, Except.map, progress_empty]
    | some text =>
        cases parsed : parsePosition text with
        | error error => simp [parsePositionOpt, Except.map, parsed]
        | ok read =>
            simp [parsePositionOpt, Except.map, parsed, progress,
              parseRevisionOrPosition_position parsed]
  · rw [if_neg all] at same
    rw [if_neg all, if_neg all, same.2]
    constructor
    · intro equal
      by_contra negative
      have one : number.toInt = -1 := by omega
      rw [one] at equal
      have nothing : progress (toString (-1 : Int)) = (none, none) := by decide
      rw [nothing] at equal
      cases equal
    · intro low
      have bound := Int64.toInt_lt number
      have unsigned : number.toUInt64.toNat = number.toInt.toNat :=
        Int64.toNat_toUInt64_of_le (Int64.le_iff_toInt_le.mpr low)
      have below : number.toInt.toNat < u64Bound := by
        unfold u64Bound
        omega
      rw [toString_nonneg low, progress, parseRevisionOrPosition_revision below, unsigned]

def wireInfo (asF64 : Int32 → F64) (wire : SubscriptionInfo)
    (position : StreamPosition RevisionOrPosition) :
    PersistentSubscriptionInfo F64 RevisionOrPosition where
  eventSource := wire.eventSource
  groupName := wire.groupName
  status := wire.status
  connections := wire.connections.map (ConnectionInfo.into asF64)
  settings := some (wire.settings position)
  stats := wire.stats asF64

/-- Where the record agrees with the message: its start position fails, or its strategy is spelled
out under its own name and how far the subscription has come reads alike. -/
def Faithful (json : InfoJson F64) (config : ConfigJson) : Prop :=
  (json.eventStreamId = "$all" ∧
    ∃ error, parseStreamPosition config.startPosition = .error error) ∨
  (config.namedConsumerStrategy.Proper ∧
    ReadsProgress json.eventStreamId json.lastProcessedEventNumber
      json.lastCheckpointedEventPosition ∧
    ReadsProgress json.eventStreamId json.lastKnownEventNumber json.lastKnownEventPosition)

theorem deserialize_config {json : InfoJson F64} {config : ConfigJson}
    (configured : json.config = some config) {info : PersistentSubscriptionInfoHttpJson F64}
    (read : json.deserialize = some info) :
    ∃ c, config.deserialize = some c ∧ info = { json with
      config := some c
      connections := json.connections.map ConnectionJson.deserialize } := by
  unfold InfoJson.deserialize at read
  rw [configured] at read
  obtain ⟨c, parsed, same⟩ := Option.map_eq_some_iff.mp read
  exact ⟨c, parsed, same.symm⟩

theorem concludeInfo_agrees {json : InfoJson F64} {config : ConfigJson} {wire : SubscriptionInfo}
    (same : SameInfo asF64 json config wire) {c : PersistentSubscriptionConfig}
    (read : config.deserialize = some c) (position : StreamPosition RevisionOrPosition)
    {info : PersistentSubscriptionInfoHttpJson F64}
    (whole : info = { json with
      config := some c
      connections := json.connections.map ConnectionJson.deserialize }) :
    concludeInfo info (some (c.settings position)) = .ok (wireInfo asF64 wire position) ↔
      config.namedConsumerStrategy.Proper ∧
      ReadsProgress json.eventStreamId json.lastProcessedEventNumber
        json.lastCheckpointedEventPosition ∧
      ReadsProgress json.eventStreamId json.lastKnownEventNumber json.lastKnownEventPosition := by
  have settings := settings_agree same.settings read position
  have checkpointed := halfProgress_agrees same.lastCheckpointed
  have known := halfProgress_agrees same.lastKnown
  have connections := connections_agree same.connections
  rw [← settings, ← checkpointed, ← known, concludeInfo, fromProgress_halves]
  subst whole
  dsimp only
  rw [connections]
  cases first : halfProgress json.eventStreamId json.lastProcessedEventNumber
      json.lastCheckpointedEventPosition with
  | error error => simp [Except.bind, Except.map]
  | ok checkpointedAt =>
      cases second : halfProgress json.eventStreamId json.lastKnownEventNumber
          json.lastKnownEventPosition with
      | error error => simp [Except.bind, Except.map]
      | ok knownAt =>
          simp only [Except.bind, Except.map, Except.ok.injEq, wireInfo,
            PersistentSubscriptionInfo.mk.injEq, PersistentSubscriptionInfoHttpJson.stats,
            SubscriptionInfo.stats, PersistentSubscriptionStats.mk.injEq, same.eventSource,
            same.groupName, same.status, same.average, same.totalItems.eq,
            same.countSinceLastMeasurement.eq, same.readBufferCount.eq, same.liveBufferCount.eq,
            same.retryBufferCount.eq, same.totalInFlightMessages.eq,
            same.outstandingMessagesCount.eq, same.parkedMessageCount.eq, true_and, and_true,
            Option.some.injEq, Prod.ext_iff]
          constructor
          · intro ⟨settled, processed, last, position, lastPosition⟩
            exact ⟨settled, ⟨processed, position⟩, ⟨last, lastPosition⟩⟩
          · intro ⟨settled, ⟨processed, position⟩, ⟨last, lastPosition⟩⟩
            exact ⟨settled, processed, last, position, lastPosition⟩

/-- A record and a message that carry the same values are read alike exactly when the record is
faithful. -/
theorem infos_agree_iff {json : InfoJson F64} {config : ConfigJson} {wire : SubscriptionInfo}
    (same : SameInfo asF64 json config wire) {info : PersistentSubscriptionInfoHttpJson F64}
    (accepted : json.deserialize = some info) :
    Agree (fromHttpInfo bothTypeOfStream info) (wire.tryInto asF64) ↔ Faithful json config := by
  obtain ⟨c, read, whole⟩ := deserialize_config same.configured accepted
  obtain ⟨settings, fails⟩ := fromConfig_agrees same.settings read
  have http : fromHttpInfo bothTypeOfStream info =
      some ((parseStreamPosition wire.startFrom).bind fun position =>
        concludeInfo info (some (c.settings position))) := by
    unfold fromHttpInfo
    rw [whole]
    dsimp only
    rw [settings]
    cases parseStreamPosition wire.startFrom <;> rfl
  have grpc : wire.tryInto asF64 =
      (parseStreamPosition wire.startFrom).map (wireInfo asF64 wire) := rfl
  rw [http, grpc]
  cases parsed : parseStreamPosition wire.startFrom with
  | error error =>
      have both := fails.mp ⟨error, parsed⟩
      constructor
      · exact fun _ => Or.inl both
      · exact fun _ => ⟨_, rfl, Or.inl ⟨error, error, rfl, rfl⟩⟩
  | ok position =>
      have concluded := concludeInfo_agrees same read position whole
      have reads : ¬ (json.eventStreamId = "$all" ∧
          ∃ error, parseStreamPosition config.startPosition = .error error) := by
        intro failing
        obtain ⟨error, impossible⟩ := fails.mpr failing
        rw [parsed] at impossible
        cases impossible
      unfold Faithful
      rw [← concluded, or_iff_right reads]
      constructor
      · rintro ⟨result, taken, ⟨_, _, _, impossible⟩ | ⟨shared, left, right⟩⟩
        · cases impossible
        · cases right
          cases taken
          exact left
      · intro equal
        exact ⟨_, rfl, Or.inr ⟨_, equal, rfl⟩⟩

def ordersConfig : ConfigJson where
  resolveLinktos := false
  startFrom := .number 0
  startPosition := ""
  messageTimeoutMilliseconds := 30000
  extraStatistics := false
  maxRetryCount := 10
  liveBufferSize := 500
  bufferSize := 500
  readBatchSize := 20
  checkpointAfterMilliseconds := 2000
  minCheckpointCount := 10
  maxCheckpointCount := 1000
  maxSubscriberCount := 0
  namedConsumerStrategy := .variant "RoundRobin"

def ordersJson (lastProcessed : Int64) : InfoJson Float where
  eventStreamId := "orders"
  groupName := "billing"
  status := "Live"
  averageItemsPerSecond := Float.ofInt 0
  totalItemsProcessed := 0
  lastProcessedEventNumber := lastProcessed
  lastCheckpointedEventPosition := none
  lastKnownEventPosition := none
  lastKnownEventNumber := 7
  totalInFlightMessages := 0
  config := some ordersConfig
  readBufferCount := 0
  liveBufferCount := 0
  retryBufferCount := 0
  outstandingMessagesCount := 0
  parkedMessageCount := 0
  countSinceLastMeasurement := 0
  connections := []

def ordersWire (lastProcessed : String) : SubscriptionInfo where
  eventSource := "orders"
  groupName := "billing"
  status := "Live"
  connections := []
  averagePerSecond := 0
  totalItems := 0
  countSinceLastMeasurement := 0
  lastCheckpointedEventPosition := lastProcessed
  lastKnownEventPosition := "7"
  resolveLinkTos := false
  startFrom := "0"
  messageTimeoutMilliseconds := 30000
  extraStatistics := false
  maxRetryCount := 10
  liveBufferSize := 500
  bufferSize := 500
  readBatchSize := 20
  checkPointAfterMilliseconds := 2000
  minCheckPointCount := 10
  maxCheckPointCount := 1000
  readBufferCount := 0
  liveBufferCount := 0
  retryBufferCount := 0
  totalInFlightMessages := 0
  outstandingMessagesCount := 0
  namedConsumerStrategy := "RoundRobin"
  maxSubscriberCount := 0
  parkedMessageCount := 0

def floatOfI32 (value : Int32) : Float := Float.ofInt value.toInt

theorem seven_same : SameProgress "orders" 7 none "7" := by
  have seven : -1 ≤ (7 : Int64).toInt ∧ "7" = toString (7 : Int64).toInt := by decide
  exact seven

theorem orders_same {lastProcessed : Int64} (low : -1 ≤ lastProcessed.toInt) :
    SameInfo floatOfI32 (ordersJson lastProcessed) ordersConfig
      (ordersWire (toString lastProcessed.toInt)) where
  configured := rfl
  settings := ⟨rfl, .number 0 (by decide), rfl, rfl, rfl, rfl, rfl, rfl, rfl, rfl, rfl, rfl, rfl⟩
  eventSource := rfl
  groupName := rfl
  status := rfl
  connections := .nil
  average := rfl
  totalItems := rfl
  countSinceLastMeasurement := rfl
  lastCheckpointed := ⟨low, rfl⟩
  lastKnown := seven_same
  readBufferCount := rfl
  liveBufferCount := rfl
  retryBufferCount := rfl
  totalInFlightMessages := rfl
  outstandingMessagesCount := rfl
  parkedMessageCount := rfl

def ordersInfo (lastProcessed : Int64) : PersistentSubscriptionInfoHttpJson Float :=
  { ordersJson lastProcessed with
    config := some { ordersConfig with startFrom := .start, namedConsumerStrategy := .roundRobin }
    connections := [] }

theorem orders_infos_agree :
    Agree (fromHttpInfo bothTypeOfStream (ordersInfo 5))
        ((ordersWire (toString (5 : Int64).toInt)).tryInto floatOfI32) ↔
      Faithful (ordersJson 5) ordersConfig :=
  infos_agree_iff (orders_same (by decide)) rfl

/-- Nothing processed yet: the HTTP side reports the greatest revision there is. -/
theorem unprocessed_infos_differ :
    SameInfo floatOfI32 (ordersJson (-1)) ordersConfig (ordersWire "-1") ∧
    (ordersJson (-1)).deserialize = some (ordersInfo (-1)) ∧
    ((fromHttpInfo bothTypeOfStream (ordersInfo (-1))).map fun read => read.toOption.map fun info =>
      info.stats.lastCheckpointedEventRevision) = some (some (some 18446744073709551615)) ∧
    (((ordersWire "-1").tryInto floatOfI32).toOption.map fun info =>
      info.stats.lastCheckpointedEventRevision) = some none ∧
    ¬ Agree (fromHttpInfo bothTypeOfStream (ordersInfo (-1)))
      ((ordersWire "-1").tryInto floatOfI32) := by
  have http : ((fromHttpInfo bothTypeOfStream (ordersInfo (-1))).map fun read =>
      read.toOption.map fun info => info.stats.lastCheckpointedEventRevision) =
        some (some (some 18446744073709551615)) := by decide
  have grpc : (((ordersWire "-1").tryInto floatOfI32).toOption.map fun info =>
      info.stats.lastCheckpointedEventRevision) = some none := by decide
  refine ⟨orders_same (by decide), rfl, http, grpc, ?_⟩
  rintro ⟨result, taken, ⟨_, _, rfl, _⟩ | ⟨info, rfl, same⟩⟩
  · rw [taken] at http
    cases http
  · rw [taken] at http
    rw [same] at grpc
    simp only [Option.map_some, Except.toOption, Option.some.injEq] at http grpc
    rw [grpc] at http
    cases http

end TrogonEventStore

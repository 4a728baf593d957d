import TrogonEventStore.Positions

/-! Persistent subscription infos as they come over gRPC and over HTTP. A `usize` has 64 bits, and
`F64` stands for the floating-point numbers. -/

namespace TrogonEventStore

inductive SystemConsumerStrategy where
  | dispatchToSingle
  | roundRobin
  | pinned
  | pinnedByCorrelation
  | custom (name : String)
  deriving DecidableEq, Repr

def SystemConsumerStrategy.fromString (str : String) : SystemConsumerStrategy :=
  match str with
  | "DispatchToSingle" => .dispatchToSingle
  | "RoundRobin" => .roundRobin
  | "Pinned" => .pinned
  | "PinnedByCorrelation" => .pinnedByCorrelation
  | _ => .custom str

def SystemConsumerStrategy.text : SystemConsumerStrategy → String
  | .dispatchToSingle => "DispatchToSingle"
  | .roundRobin => "RoundRobin"
  | .pinned => "Pinned"
  | .pinnedByCorrelation => "PinnedByCorrelation"
  | .custom value => value

/-- The JSON values a derived `Deserialize` takes for the strategy: the name of a variant, or an
object with the custom name. -/
inductive StrategyJson where
  | variant (name : String)
  | custom (name : String)
  deriving DecidableEq, Repr

def StrategyJson.deserialize : StrategyJson → Option SystemConsumerStrategy
  | .variant "DispatchToSingle" => some .dispatchToSingle
  | .variant "RoundRobin" => some .roundRobin
  | .variant "Pinned" => some .pinned
  | .variant "PinnedByCorrelation" => some .pinnedByCorrelation
  | .variant _ => none
  | .custom name => some (.custom name)

/-- A `HashMap` filled in the order of the entries. -/
def collectMeasurements (entries : List (String × Int64)) : String → Option Int64 :=
  entries.foldl (fun map entry key => if key = entry.1 then some entry.2 else map key)
    fun _ => none

def asUsize (value : Int32) : UInt64 := value.toInt64.toUInt64

def durationFromMillis (millis : Int64) : Duration := Duration.fromMillis millis.toUInt64.toNat

structure PersistentSubscriptionConnectionInfo (F64 : Type) where
  fromAddress : String
  username : String
  averageItemsPerSecond : F64
  totalItems : UInt64
  countSinceLastMeasurement : UInt64
  availableSlots : UInt64
  inFlightMessages : UInt64
  connectionName : String
  extraStatistics : String → Option Int64

structure PersistentSubscriptionSettings (Value : Type) where
  resolveLinkTos : Bool
  startFrom : StreamPosition Value
  extraStatistics : Bool
  messageTimeout : Duration
  maxRetryCount : Int32
  liveBufferSize : Int32
  readBatchSize : Int32
  historyBufferSize : Int32
  checkpointAfter : Duration
  checkpointLowerBound : Int32
  checkpointUpperBound : Int32
  maxSubscriberCount : Int32
  consumerStrategyName : SystemConsumerStrategy

structure PersistentSubscriptionStats (F64 : Type) where
  averagePerSecond : F64
  totalItems : UInt64
  countSinceLastMeasurement : UInt64
  lastCheckpointedEventRevision : Option Nat
  lastKnownEventRevision : Option Nat
  lastCheckpointedPosition : Option Position
  lastKnownPosition : Option Position
  readBufferCount : UInt64
  liveBufferCount : UInt64
  retryBufferCount : UInt64
  totalInFlightMessages : UInt64
  outstandingMessagesCount : UInt64
  parkedMessageCount : UInt64

structure PersistentSubscriptionInfo (F64 Value : Type) where
  eventSource : String
  groupName : String
  status : String
  connections : List (PersistentSubscriptionConnectionInfo F64)
  settings : Option (PersistentSubscriptionSettings Value)
  stats : PersistentSubscriptionStats F64

namespace Grpc

structure ConnectionInfo where
  fromAddress : String
  username : String
  averageItemsPerSecond : Int32
  totalItems : Int64
  countSinceLastMeasurement : Int64
  observedMeasurements : List (String × Int64)
  availableSlots : Int32
  inFlightMessages : Int32
  connectionName : String

structure SubscriptionInfo where
  eventSource : String
  groupName : String
  status : String
  connections : List ConnectionInfo
  averagePerSecond : Int32
  totalItems : Int64
  countSinceLastMeasurement : Int64
  lastCheckpointedEventPosition : String
  lastKnownEventPosition : String
  resolveLinkTos : Bool
  startFrom : String
  messageTimeoutMilliseconds : Int32
  extraStatistics : Bool
  maxRetryCount : Int32
  liveBufferSize : Int32
  bufferSize : Int32
  readBatchSize : Int32
  checkPointAfterMilliseconds : Int32
  minCheckPointCount : Int32
  maxCheckPointCount : Int32
  readBufferCount : Int32
  liveBufferCount : Int64
  retryBufferCount : Int32
  totalInFlightMessages : Int32
  outstandingMessagesCount : Int32
  namedConsumerStrategy : String
  maxSubscriberCount : Int32
  parkedMessageCount : Int64

variable {F64 : Type} (asF64 : Int32 → F64)

def ConnectionInfo.into (value : ConnectionInfo) : PersistentSubscriptionConnectionInfo F64 where
  fromAddress := value.fromAddress
  username := value.username
  averageItemsPerSecond := asF64 value.averageItemsPerSecond
  totalItems := value.totalItems.toUInt64
  countSinceLastMeasurement := value.countSinceLastMeasurement.toUInt64
  availableSlots := asUsize value.availableSlots
  inFlightMessages := asUsize value.inFlightMessages
  connectionName := value.connectionName
  extraStatistics := collectMeasurements value.observedMeasurements

/-- What a text says a subscription has come to: a revision, a position, or nothing. -/
def progress (text : String) : Option Nat × Option Position :=
  match parseRevisionOrPosition text with
  | .ok (.position p) => (none, some p)
  | .ok (.revision r) => (some r, none)
  | .error _ => (none, none)

def SubscriptionInfo.stats (value : SubscriptionInfo) : PersistentSubscriptionStats F64 :=
  let lastKnown := progress value.lastKnownEventPosition
  let lastProcessed := progress value.lastCheckpointedEventPosition
  { averagePerSecond := asF64 value.averagePerSecond
    totalItems := value.totalItems.toUInt64
    countSinceLastMeasurement := value.countSinceLastMeasurement.toUInt64
    lastCheckpointedEventRevision := lastProcessed.1
    lastKnownEventRevision := lastKnown.1
    lastCheckpointedPosition := lastProcessed.2
    lastKnownPosition := lastKnown.2
    readBufferCount := asUsize value.readBufferCount
    liveBufferCount := value.liveBufferCount.toUInt64
    retryBufferCount := asUsize value.retryBufferCount
    totalInFlightMessages := asUsize value.totalInFlightMessages
    outstandingMessagesCount := asUsize value.outstandingMessagesCount
    parkedMessageCount := value.parkedMessageCount.toUInt64 }

def SubscriptionInfo.settings (value : SubscriptionInfo)
    (startFrom : StreamPosition RevisionOrPosition) :
    PersistentSubscriptionSettings RevisionOrPosition where
  resolveLinkTos := value.resolveLinkTos
  startFrom := startFrom
  extraStatistics := value.extraStatistics
  messageTimeout := durationFromMillis value.messageTimeoutMilliseconds.toInt64
  maxRetryCount := value.maxRetryCount
  liveBufferSize := value.liveBufferSize
  readBatchSize := value.readBatchSize
  historyBufferSize := value.bufferSize
  checkpointAfter := durationFromMillis value.checkPointAfterMilliseconds.toInt64
  checkpointLowerBound := value.minCheckPointCount
  checkpointUpperBound := value.maxCheckPointCount
  maxSubscriberCount := value.maxSubscriberCount
  consumerStrategyName := .fromString value.namedConsumerStrategy

def SubscriptionInfo.tryInto (value : SubscriptionInfo) :
    Except Error (PersistentSubscriptionInfo F64 RevisionOrPosition) :=
  (parseStreamPosition value.startFrom).map fun startFrom =>
    { eventSource := value.eventSource
      groupName := value.groupName
      status := value.status
      connections := value.connections.map (ConnectionInfo.into asF64)
      settings := some (value.settings startFrom)
      stats := value.stats asF64 }

end Grpc

namespace Http

structure ConnectionJson (F64 : Type) where
  fromAddress : String
  username : String
  averageItemsPerSecond : F64
  totalItemsProcessed : UInt64
  countSinceLastMeasurement : UInt64
  availableSlots : UInt64
  inFlightMessages : UInt64
  connectionName : String
  extraStatistics : List (String × Int64)

def ConnectionJson.deserialize {F64 : Type} (json : ConnectionJson F64) :
    PersistentSubscriptionConnectionInfo F64 where
  fromAddress := json.fromAddress
  username := json.username
  averageItemsPerSecond := json.averageItemsPerSecond
  totalItems := json.totalItemsProcessed
  countSinceLastMeasurement := json.countSinceLastMeasurement
  availableSlots := json.availableSlots
  inFlightMessages := json.inFlightMessages
  connectionName := json.connectionName
  extraStatistics := collectMeasurements json.extraStatistics

/-- The `config` of a record, up to the values in it that are read as `Start` and `Strategy`. -/
structure Config (Start Strategy : Type) where
  resolveLinktos : Bool
  startFrom : Start
  startPosition : String
  messageTimeoutMilliseconds : Int64
  extraStatistics : Bool
  maxRetryCount : Int64
  liveBufferSize : Int64
  bufferSize : Int64
  readBatchSize : Int64
  checkpointAfterMilliseconds : Int64
  minCheckpointCount : Int64
  maxCheckpointCount : Int64
  maxSubscriberCount : Int64
  namedConsumerStrategy : Strategy

abbrev ConfigJson := Config StreamPositionJson StrategyJson

abbrev PersistentSubscriptionConfig :=
  Config (StreamPosition RevisionOrPosition) SystemConsumerStrategy

def ConfigJson.deserialize (json : ConfigJson) : Option PersistentSubscriptionConfig := do
  let startFrom ← StreamRevOrPosVisitor.deserialize json.startFrom
  let namedConsumerStrategy ← json.namedConsumerStrategy.deserialize
  some { json with startFrom := startFrom, namedConsumerStrategy := namedConsumerStrategy }

structure Record (F64 Connection Settings : Type) where
  eventStreamId : String
  groupName : String
  status : String
  averageItemsPerSecond : F64
  totalItemsProcessed : UInt64
  lastProcessedEventNumber : Int64
  lastCheckpointedEventPosition : Option String
  lastKnownEventPosition : Option String
  lastKnownEventNumber : Int64
  totalInFlightMessages : UInt64
  config : Option Settings
  readBufferCount : UInt64
  liveBufferCount : UInt64
  retryBufferCount : UInt64
  outstandingMessagesCount : UInt64
  parkedMessageCount : UInt64
  countSinceLastMeasurement : UInt64
  connections : List Connection

variable {F64 : Type}

abbrev InfoJson (F64 : Type) := Record F64 (ConnectionJson F64) ConfigJson

abbrev PersistentSubscriptionInfoHttpJson (F64 : Type) :=
  Record F64 (PersistentSubscriptionConnectionInfo F64) PersistentSubscriptionConfig

def InfoJson.deserialize (json : InfoJson F64) : Option (PersistentSubscriptionInfoHttpJson F64) :=
  match json.config with
  | none => some { json with
      config := none
      connections := json.connections.map ConnectionJson.deserialize }
  | some config =>
      config.deserialize.map fun config => { json with
        config := some config
        connections := json.connections.map ConnectionJson.deserialize }

variable {Value : Type}

/-- `StreamPosition::map` with a selector, whose `none` is an `unreachable!`. -/
def selectStart (select : RevisionOrPosition → Option Value) :
    StreamPosition RevisionOrPosition → Option (StreamPosition Value)
  | .start => some .start
  | .atEnd => some .atEnd
  | .position value => (select value).map StreamPosition.position

def PersistentSubscriptionConfig.settings (c : PersistentSubscriptionConfig)
    (startFrom : StreamPosition Value) : PersistentSubscriptionSettings Value where
  resolveLinkTos := c.resolveLinktos
  startFrom := startFrom
  extraStatistics := c.extraStatistics
  messageTimeout := durationFromMillis c.messageTimeoutMilliseconds
  maxRetryCount := c.maxRetryCount.toInt32
  liveBufferSize := c.liveBufferSize.toInt32
  readBatchSize := c.readBatchSize.toInt32
  historyBufferSize := c.bufferSize.toInt32
  checkpointAfter := durationFromMillis c.checkpointAfterMilliseconds
  checkpointLowerBound := c.minCheckpointCount.toInt32
  checkpointUpperBound := c.maxCheckpointCount.toInt32
  maxSubscriberCount := c.maxSubscriberCount.toInt32
  consumerStrategyName := c.namedConsumerStrategy

/-- The settings a config stands for; `none` is a panic of the selector. -/
def fromConfig (select : RevisionOrPosition → Option Value) (eventStreamId : String)
    (c : PersistentSubscriptionConfig) :
    Option (Except Error (PersistentSubscriptionSettings Value)) :=
  if eventStreamId = "$all" then
    match parseStreamPosition c.startPosition with
    | .error error => some (.error error)
    | .ok position => (selectStart select position).map fun startFrom => .ok (c.settings startFrom)
  else (selectStart select c.startFrom).map fun startFrom => .ok (c.settings startFrom)

def parsePositionOpt : Option String → Except Error (Option Position)
  | none => .ok none
  | some pos => (parsePosition pos).map some

structure Progress where
  lastCheckpointedEventRevision : Option Nat
  lastKnownEventRevision : Option Nat
  lastCheckpointedPosition : Option Position
  lastKnownPosition : Option Position

def fromProgress (info : PersistentSubscriptionInfoHttpJson F64) : Except Error Progress :=
  if info.eventStreamId = "$all" then do
    let lastCheckpointed ← parsePositionOpt info.lastCheckpointedEventPosition
    let lastKnown ← parsePositionOpt info.lastKnownEventPosition
    .ok ⟨none, none, lastCheckpointed, lastKnown⟩
  else .ok ⟨some info.lastProcessedEventNumber.toUInt64.toNat,
    some info.lastKnownEventNumber.toUInt64.toNat, none, none⟩

def PersistentSubscriptionInfoHttpJson.stats (info : PersistentSubscriptionInfoHttpJson F64)
    (progress : Progress) : PersistentSubscriptionStats F64 where
  averagePerSecond := info.averageItemsPerSecond
  totalItems := info.totalItemsProcessed
  countSinceLastMeasurement := info.countSinceLastMeasurement
  lastCheckpointedEventRevision := progress.lastCheckpointedEventRevision
  lastKnownEventRevision := progress.lastKnownEventRevision
  lastCheckpointedPosition := progress.lastCheckpointedPosition
  lastKnownPosition := progress.lastKnownPosition
  readBufferCount := info.readBufferCount
  liveBufferCount := info.liveBufferCount
  retryBufferCount := info.retryBufferCount
  totalInFlightMessages := info.totalInFlightMessages
  outstandingMessagesCount := info.outstandingMessagesCount
  parkedMessageCount := info.parkedMessageCount

def concludeInfo (info : PersistentSubscriptionInfoHttpJson F64)
    (settings : Option (PersistentSubscriptionSettings Value)) :
    Except Error (PersistentSubscriptionInfo F64 Value) :=
  (fromProgress info).map fun progress =>
    { eventSource := info.eventStreamId
      groupName := info.groupName
      status := info.status
      connections := info.connections
      settings := settings
      stats := info.stats progress }

/-- `from_http_info`; `none` is a panic of the selector. -/
def fromHttpInfo (select : RevisionOrPosition → Option Value)
    (info : PersistentSubscriptionInfoHttpJson F64) :
    Option (Except Error (PersistentSubscriptionInfo F64 Value)) :=
  match info.config with
  | none => some (concludeInfo info none)
  | some c =>
      (fromConfig select info.eventStreamId c).map fun settings => do
        let settings ← settings
        concludeInfo info (some settings)

def bothTypeOfStream (value : RevisionOrPosition) : Option RevisionOrPosition := some value

end Http

end TrogonEventStore

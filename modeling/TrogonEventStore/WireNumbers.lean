import TrogonEventStore.Library.Narrowing
import TrogonEventStore.PersistentInfo

namespace TrogonEventStore

open Narrowing

def Duration.asMillis (duration : Duration) : Nat := duration / 1000000

def asI32 (value : Nat) : Int32 := Int32.ofNat value

def asI64 (value : UInt64) : Int64 := Int64.ofNat value.toNat

namespace PersistentSubscriptionSettings

variable {Value : Type}

def namedConsumerStrategyAsI32 (settings : PersistentSubscriptionSettings Value) :
    Except Error Int32 :=
  match settings.consumerStrategyName with
  | .dispatchToSingle => .ok 0
  | .roundRobin => .ok 1
  | .pinned => .ok 2
  | .custom _ | .pinnedByCorrelation => .error .unsupportedFeature

/-- The strategies no released server supports. -/
def Unsupported (settings : PersistentSubscriptionSettings Value) : Prop :=
  settings.consumerStrategyName = .pinnedByCorrelation ∨
    ∃ name, settings.consumerStrategyName = .custom name

theorem namedConsumerStrategyAsI32_cases (settings : PersistentSubscriptionSettings Value) :
    (settings.Unsupported ∧ settings.namedConsumerStrategyAsI32 = .error .unsupportedFeature) ∨
      (¬ settings.Unsupported ∧ ∃ strategy, settings.namedConsumerStrategyAsI32 = .ok strategy) := by
  unfold Unsupported namedConsumerStrategyAsI32
  cases settings.consumerStrategyName <;> simp

end PersistentSubscriptionSettings

namespace Persistent

inductive WireTimeout where
  | ticks (value : Int64)
  | ms (value : Int32)
  deriving DecidableEq, Repr

structure UpdateSettings where
  resolveLinks : Bool
  revision : UInt64
  extraStatistics : Bool
  messageTimeout : Option WireTimeout
  maxRetryCount : Int32
  checkpointAfter : Option WireTimeout
  minCheckpointCount : Int32
  maxCheckpointCount : Int32
  maxSubscriberCount : Int32
  liveBufferSize : Int32
  readBatchSize : Int32
  historyBufferSize : Int32
  namedConsumerStrategy : Int32
  deriving DecidableEq, Repr

structure CreateSettings extends UpdateSettings where
  consumerStrategy : String
  deriving DecidableEq, Repr

inductive StreamOption where
  | streamIdentifier (streamName : Bytes)
  | all
  deriving DecidableEq, Repr

inductive UuidContent where
  | structured
  | string
  deriving DecidableEq, Repr

/-- `read_req::Options`; the option of the uuid is always set. -/
structure ReadOptions where
  streamOption : Option StreamOption
  groupName : String
  bufferSize : Int32
  uuidOption : Option UuidContent
  deriving DecidableEq, Repr

inductive StopAtOption where
  | stopAt (value : Int64)
  | noLimit
  deriving DecidableEq, Repr

structure ReplayParkedOptions where
  groupName : String
  streamOption : Option StreamOption
  stopAtOption : Option StopAtOption
  deriving DecidableEq, Repr

structure HttpPost where
  url : String
  headers : List (String × String)
  query : List (String × String)
  deriving DecidableEq, Repr

variable {Value : Type}

def UpdateSettings.tryFrom (value : PersistentSubscriptionSettings Value) :
    Except Error UpdateSettings :=
  value.namedConsumerStrategyAsI32.map fun namedConsumerStrategy =>
    { resolveLinks := value.resolveLinkTos
      revision := 0
      extraStatistics := value.extraStatistics
      messageTimeout := some (.ms (asI32 value.messageTimeout.asMillis))
      maxRetryCount := value.maxRetryCount
      checkpointAfter := some (.ms (asI32 value.checkpointAfter.asMillis))
      minCheckpointCount := value.checkpointLowerBound
      maxCheckpointCount := value.checkpointUpperBound
      maxSubscriberCount := value.maxSubscriberCount
      liveBufferSize := value.liveBufferSize
      readBatchSize := value.readBatchSize
      historyBufferSize := value.historyBufferSize
      namedConsumerStrategy := namedConsumerStrategy }

/-- The settings of a creation name the strategy as well. -/
def CreateSettings.tryFrom (value : PersistentSubscriptionSettings Value) :
    Except Error CreateSettings :=
  (UpdateSettings.tryFrom value).map fun settings =>
    { settings with consumerStrategy := value.consumerStrategyName.text }

/-- The options `subscribe_to_persistent_subscription` sends first. -/
def readOptions (toAll : Bool) (streamName : Bytes) (groupName : String) (bufferSize : UInt64) :
    ReadOptions where
  streamOption := some (if toAll then .all else .streamIdentifier streamName)
  groupName := groupName
  bufferSize := asI32 bufferSize.toNat
  uuidOption := some .string

def replayParkedOptions (isAll : Bool) (streamName groupName : String) (stopAt : Option UInt64) :
    ReplayParkedOptions where
  groupName := groupName
  streamOption := some (if isAll then .all else .streamIdentifier (utf8 streamName))
  stopAtOption := some (match stopAt with
    | some value => .stopAt (asI64 value)
    | none => .noLimit)

/-- What `replay_parked_messages` sends over HTTP; `encode` is the urlencoding crate's. -/
def replayParkedPost (encode : String → String) (url streamName groupName : String)
    (stopAt : Option UInt64) : HttpPost where
  url := url ++ "/subscriptions/" ++ encode streamName ++ "/" ++ encode groupName ++
    "/replayParked"
  headers := [("content-type", "application/json"), ("content-length", "0")]
  query := match stopAt with
    | some stopAt => [("stopAt", toString stopAt.toNat)]
    | none => []

end Persistent

namespace Operations

structure ScavengeOptions where
  threadCount : Int32
  startFromChunk : Int32
  deriving DecidableEq, Repr

structure SetNodePriorityReq where
  priority : Int32
  deriving DecidableEq, Repr

def startScavengeReq (threadCount startFromChunk : UInt64) : ScavengeOptions :=
  ⟨asI32 threadCount.toNat, asI32 startFromChunk.toNat⟩

def setNodePriorityReq (priority : UInt64) : SetNodePriorityReq := ⟨asI32 priority.toNat⟩

end Operations

namespace Persistent

variable {Value : Type}

def WireTimeout.Carries (wire : WireTimeout) (duration : Duration) : Prop :=
  ∃ value, wire = .ms value ∧ Carries32 value duration.asMillis

/-- The settings on the wire carry both durations, in whole milliseconds. -/
structure UpdateSettings.Carries (wire : UpdateSettings)
    (value : PersistentSubscriptionSettings Value) : Prop where
  messageTimeout : ∃ timeout, wire.messageTimeout = some timeout ∧
    timeout.Carries value.messageTimeout
  checkpointAfter : ∃ timeout, wire.checkpointAfter = some timeout ∧
    timeout.Carries value.checkpointAfter

structure CarriesLimit (sent : ReplayParkedOptions) (post : HttpPost) (stopAt : Option UInt64) :
    Prop where
  limit : ∀ number, stopAt = some number → ∃ value, sent.stopAtOption = some (.stopAt value) ∧
    Carries64 value number.toNat ∧ post.query = [("stopAt", toString value.toInt)]
  unlimited : stopAt = none → sent.stopAtOption = some .noLimit ∧ post.query = []

theorem WireTimeout.carries_iff (duration : Duration) :
    (WireTimeout.ms (asI32 duration.asMillis)).Carries duration ↔ duration.asMillis < 2 ^ 31 := by
  rw [← carries32_iff]
  constructor
  · intro ⟨value, same, carries⟩
    cases same
    exact carries
  · intro carries
    exact ⟨_, rfl, carries⟩

def SettingsFit (value : PersistentSubscriptionSettings Value) : Prop :=
  value.Unsupported ∨ (value.messageTimeout.asMillis < 2 ^ 31 ∧
    value.checkpointAfter.asMillis < 2 ^ 31)

theorem updateSettings_carries_iff (value : PersistentSubscriptionSettings Value) :
    (∀ wire, UpdateSettings.tryFrom value = .ok wire → wire.Carries value) ↔ SettingsFit value := by
  unfold UpdateSettings.tryFrom SettingsFit
  rcases value.namedConsumerStrategyAsI32_cases with ⟨unsupported, fails⟩ | ⟨supported, strategy, sent⟩
  · rw [fails]
    refine iff_of_true ?_ (Or.inl unsupported)
    intro wire impossible
    cases impossible
  · rw [sent, or_iff_right supported, ← WireTimeout.carries_iff, ← WireTimeout.carries_iff]
    constructor
    · intro carried
      obtain ⟨⟨_, present, timeout⟩, _, also, checkpoint⟩ := carried _ rfl
      cases present
      cases also
      exact ⟨timeout, checkpoint⟩
    · intro ⟨timeout, checkpoint⟩ wire made
      cases made
      exact ⟨⟨_, rfl, timeout⟩, _, rfl, checkpoint⟩

theorem createSettings_carries_iff (value : PersistentSubscriptionSettings Value) :
    (∀ wire, CreateSettings.tryFrom value = .ok wire → wire.toUpdateSettings.Carries value) ↔
      SettingsFit value := by
  rw [← updateSettings_carries_iff]
  unfold CreateSettings.tryFrom
  cases UpdateSettings.tryFrom value with
  | error error =>
      refine iff_of_true ?_ ?_
      · intro wire impossible
        cases impossible
      · intro wire impossible
        cases impossible
  | ok settings =>
      constructor
      · intro carried wire made
        cases made
        exact carried _ rfl
      · intro carried wire made
        cases made
        exact carried settings rfl

theorem carriesLimit_iff (encode : String → String) (isAll : Bool)
    (url streamName groupName : String) (stopAt : Option UInt64) :
    CarriesLimit (replayParkedOptions isAll streamName groupName stopAt)
        (replayParkedPost encode url streamName groupName stopAt) stopAt ↔
      ∀ number, stopAt = some number → number.toNat < 2 ^ 63 := by
  cases stopAt with
  | none =>
      refine iff_of_true ⟨?_, fun _ => ⟨rfl, rfl⟩⟩ ?_
      · intro number impossible
        cases impossible
      · intro number impossible
        cases impossible
  | some limit =>
      constructor
      · intro carried number same
        cases same
        obtain ⟨value, sent, carries, _⟩ := carried.limit _ rfl
        cases sent
        exact (carries64_iff _).mp carries
      · intro fits
        refine ⟨?_, ?_⟩
        · intro number same
          cases same
          have carries : Carries64 (asI64 limit) limit.toNat :=
            (carries64_iff limit.toNat).mpr (fits limit rfl)
          refine ⟨_, rfl, carries, ?_⟩
          have spelled : (asI64 limit).toInt = limit.toNat := carries.same
          rw [spelled]
          rfl
        · intro impossible
          cases impossible

end Persistent

structure RequestNumbers (Value : Type) where
  settings : PersistentSubscriptionSettings Value
  bufferSize : UInt64
  stopAt : Option UInt64
  threadCount : UInt64
  startFromChunk : UInt64
  priority : UInt64

namespace RequestNumbers

variable {Value : Type}

structure Carried (numbers : RequestNumbers Value) : Prop where
  create : ∀ wire, Persistent.CreateSettings.tryFrom numbers.settings = .ok wire →
    wire.toUpdateSettings.Carries numbers.settings
  update : ∀ wire, Persistent.UpdateSettings.tryFrom numbers.settings = .ok wire →
    wire.Carries numbers.settings
  subscribe : ∀ toAll streamName groupName,
    Carries32 (Persistent.readOptions toAll streamName groupName numbers.bufferSize).bufferSize
      numbers.bufferSize.toNat
  replayParked : ∀ encode isAll url streamName groupName,
    Persistent.CarriesLimit
      (Persistent.replayParkedOptions isAll streamName groupName numbers.stopAt)
      (Persistent.replayParkedPost encode url streamName groupName numbers.stopAt) numbers.stopAt
  threadCount : Carries32
    (Operations.startScavengeReq numbers.threadCount numbers.startFromChunk).threadCount
    numbers.threadCount.toNat
  startFromChunk : Carries32
    (Operations.startScavengeReq numbers.threadCount numbers.startFromChunk).startFromChunk
    numbers.startFromChunk.toNat
  priority : Carries32 (Operations.setNodePriorityReq numbers.priority).priority
    numbers.priority.toNat

structure Fit (numbers : RequestNumbers Value) : Prop where
  settings : Persistent.SettingsFit numbers.settings
  bufferSize : numbers.bufferSize.toNat < 2 ^ 31
  stopAt : ∀ number, numbers.stopAt = some number → number.toNat < 2 ^ 63
  threadCount : numbers.threadCount.toNat < 2 ^ 31
  startFromChunk : numbers.startFromChunk.toNat < 2 ^ 31
  priority : numbers.priority.toNat < 2 ^ 31

/-- The requests carry their numbers exactly when these are in range. -/
theorem numbers_carried_iff (numbers : RequestNumbers Value) : numbers.Carried ↔ numbers.Fit := by
  constructor
  · intro carried
    exact {
      settings := (Persistent.createSettings_carries_iff _).mp carried.create
      bufferSize := (carries32_iff _).mp (carried.subscribe true [] "")
      stopAt := (Persistent.carriesLimit_iff id true "" "" "" _).mp
        (carried.replayParked id true "" "" "")
      threadCount := (carries32_iff _).mp carried.threadCount
      startFromChunk := (carries32_iff _).mp carried.startFromChunk
      priority := (carries32_iff _).mp carried.priority }
  · intro fit
    exact {
      create := (Persistent.createSettings_carries_iff _).mpr fit.settings
      update := (Persistent.updateSettings_carries_iff _).mpr fit.settings
      subscribe := fun _ _ _ => (carries32_iff _).mpr fit.bufferSize
      replayParked := fun _ _ _ _ _ => (Persistent.carriesLimit_iff _ _ _ _ _ _).mpr fit.stopAt
      threadCount := (carries32_iff _).mpr fit.threadCount
      startFromChunk := (carries32_iff _).mpr fit.startFromChunk
      priority := (carries32_iff _).mpr fit.priority }

def timedSettings (messageTimeout : Duration) : PersistentSubscriptionSettings Nat where
  resolveLinkTos := false
  startFrom := .atEnd
  extraStatistics := false
  messageTimeout := messageTimeout
  maxRetryCount := 10
  liveBufferSize := 500
  readBatchSize := 20
  historyBufferSize := 500
  checkpointAfter := Duration.fromSecs 2
  checkpointLowerBound := 10
  checkpointUpperBound := 1000
  maxSubscriberCount := 0
  consumerStrategyName := .roundRobin

/-- A timeout of 2^32 + 1 milliseconds is sent as one of 1, and a limit of 2^63 as its negative. -/
theorem numbers_wrapped :
    (∃ wire, Persistent.UpdateSettings.tryFrom
        (timedSettings (Duration.fromMillis 4294967297)) = .ok wire ∧
      wire.messageTimeout = some (.ms 1)) ∧
    (Persistent.replayParkedOptions false "orders" "billing" (some 9223372036854775808)).stopAtOption =
      some (.stopAt (-9223372036854775808)) ∧
    (Persistent.replayParkedPost id "https://localhost:2113" "orders" "billing"
      (some 9223372036854775808)).query = [("stopAt", "9223372036854775808")] ∧
    ¬ Carried ⟨timedSettings (Duration.fromMillis 4294967297), 10, none, 1, 0, 0⟩ := by
  refine ⟨⟨_, rfl, by decide⟩, by decide, by decide, ?_⟩
  intro carried
  obtain ⟨⟨timeout, present, value, same, carries⟩, _⟩ := carried.update _ rfl
  cases present
  cases same
  have kept := carries.same
  exact absurd kept (by decide)

end RequestNumbers

end TrogonEventStore

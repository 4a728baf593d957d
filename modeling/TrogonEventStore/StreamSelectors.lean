import TrogonEventStore.Commands
import TrogonEventStore.PersistentInfo

namespace TrogonEventStore

inductive StreamSelector where
  | regularStream (name : String)
  | allStream
  | bothTypeOfStream
  deriving DecidableEq, Repr

namespace StreamSelector

def Value : StreamSelector → Type
  | .regularStream _ => Nat
  | .allStream => Position
  | .bothTypeOfStream => RevisionOrPosition

/-- `StreamPositionTypeSelector::select`; `none` is its `unreachable!`. -/
def select : (selector : StreamSelector) → RevisionOrPosition → Option selector.Value
  | .regularStream _, .revision r => some r
  | .regularStream _, .position _ => none
  | .allStream, .position p => some p
  | .allStream, .revision _ => none
  | .bothTypeOfStream, value => some value

/-- `StreamKind::is_all`; `BothTypeOfStream` is no stream, and nothing is refused for it. -/
def isAll : StreamSelector → Bool
  | .allStream => true
  | .regularStream _ | .bothTypeOfStream => false

def Expects : StreamSelector → RevisionOrPosition → Prop
  | .regularStream _, value => ∃ r, value = .revision r
  | .allStream, value => ∃ p, value = .position p
  | .bothTypeOfStream, _ => True

/-- What is read as a start position suits the selector: it is the start, the end, or a position of
the kind the selector expects. A start that is not read suits it as well. -/
def Suits (selector : StreamSelector) (start : Except Error (StreamPosition RevisionOrPosition)) :
    Prop :=
  ∀ value, start = .ok (.position value) → selector.Expects value

theorem select_eq_none_iff (selector : StreamSelector) (value : RevisionOrPosition) :
    selector.select value = none ↔ ¬ selector.Expects value := by
  cases selector <;> cases value <;> simp [select, Expects]

theorem selectStart_none_iff (selector : StreamSelector)
    (place : StreamPosition RevisionOrPosition) :
    Http.selectStart selector.select place = none ↔ ¬ selector.Suits (.ok place) := by
  cases place with
  | start => simp [Http.selectStart, Suits]
  | atEnd => simp [Http.selectStart, Suits]
  | position value => simp [Http.selectStart, Suits, select_eq_none_iff]

def selectRead (selector : StreamSelector) :
    Except Error (StreamPosition RevisionOrPosition) →
      Option (Except Error (StreamPosition selector.Value))
  | .error error => some (.error error)
  | .ok place => (Http.selectStart selector.select place).map .ok

theorem suits_error (selector : StreamSelector) (error : Error) :
    selector.Suits (.error error) := by
  intro value impossible
  cases impossible

theorem selectRead_none_iff (selector : StreamSelector)
    (read : Except Error (StreamPosition RevisionOrPosition)) :
    selector.selectRead read = none ↔ ¬ selector.Suits read := by
  cases read with
  | error error =>
      refine iff_of_false ?_ (fun unsuited => unsuited (selector.suits_error error))
      intro impossible
      cases impossible
  | ok place => rw [selectRead, Option.map_eq_none_iff, selector.selectStart_none_iff]

theorem selectRead_ok_iff {selector : StreamSelector}
    {read : Except Error (StreamPosition RevisionOrPosition)} (suits : selector.Suits read) :
    (∃ place, selector.selectRead read = some (.ok place)) ↔ ∃ place, read = .ok place := by
  cases read with
  | error error =>
      refine iff_of_false ?_ ?_
      · intro ⟨place, impossible⟩
        cases impossible
      · intro ⟨place, impossible⟩
        cases impossible
  | ok place =>
      refine iff_of_true ?_ ⟨place, rfl⟩
      cases taken : Http.selectStart selector.select place with
      | none => exact absurd suits ((selector.selectStart_none_iff place).mp taken)
      | some selected => exact ⟨selected, by rw [selectRead, taken]; rfl⟩

end StreamSelector

section Reading

variable {F64 Value : Type}

def PersistentSubscriptionInfo.select (select : RevisionOrPosition → Option Value)
    (info : PersistentSubscriptionInfo F64 RevisionOrPosition) :
    Option (PersistentSubscriptionInfo F64 Value) :=
  match info.settings with
  | none => some { info with settings := none }
  | some settings => (Http.selectStart select settings.startFrom).map fun startFrom =>
      { info with settings := some { settings with startFrom := startFrom } }

def fromGrpcInfo (asF64 : Int32 → F64) (select : RevisionOrPosition → Option Value)
    (info : Grpc.SubscriptionInfo) : Option (Except Error (PersistentSubscriptionInfo F64 Value)) :=
  match info.tryInto asF64 with
  | .error error => some (.error error)
  | .ok sub => (sub.select select).map .ok

/-- The loops over the infos of a reply: the first error is returned, the first panic ends them. -/
def collectInfos {Info Sub : Type} (read : Info → Option (Except Error Sub)) :
    List Info → Option (Except Error (List Sub))
  | [] => some (.ok [])
  | info :: infos =>
      match read info with
      | none => none
      | some (.error error) => some (.error error)
      | some (.ok sub) => (collectInfos read infos).map fun subs => subs.map (sub :: ·)

/-- Every info the loop comes to suits, where infos that are not read end it. -/
def SuitsUntil {Info : Type} (Suits Reads : Info → Prop) (infos : List Info) : Prop :=
  ∀ before info after, infos = before ++ info :: after → (∀ earlier ∈ before, Reads earlier) →
    Suits info

theorem suitsUntil_cons {Info : Type} {Suits Reads : Info → Prop} {info : Info}
    {infos : List Info} :
    SuitsUntil Suits Reads (info :: infos) ↔
      Suits info ∧ (Reads info → SuitsUntil Suits Reads infos) := by
  constructor
  · intro suits
    refine ⟨suits [] info infos rfl fun _ impossible => absurd impossible List.not_mem_nil, ?_⟩
    intro reads before other after split earlier
    refine suits (info :: before) other after (congrArg _ split) ?_
    intro one member
    rcases List.mem_cons.mp member with rfl | later
    · exact reads
    · exact earlier one later
  · intro ⟨suits, rest⟩ before other after split earlier
    cases before with
    | nil =>
        cases split
        exact suits
    | cons first before =>
        cases split
        refine rest (earlier info List.mem_cons_self) before other after rfl ?_
        intro one member
        exact earlier one (List.mem_cons_of_mem _ member)

theorem collectInfos_iff {Info Sub : Type} {read : Info → Option (Except Error Sub)}
    {Suits Reads : Info → Prop} (panics : ∀ info, read info = none ↔ ¬ Suits info)
    (reads : ∀ info, Suits info → ((∃ sub, read info = some (.ok sub)) ↔ Reads info))
    (infos : List Info) :
    collectInfos read infos ≠ none ↔ SuitsUntil Suits Reads infos := by
  induction infos with
  | nil =>
      refine iff_of_true ?_ ?_
      · intro impossible
        cases impossible
      · intro before info after split
        exact absurd split.symm (List.append_ne_nil_of_right_ne_nil before (List.cons_ne_nil _ _))
  | cons info infos ih =>
      rw [suitsUntil_cons, ← ih, collectInfos]
      cases called : read info with
      | none =>
          refine iff_of_false (fun holds => holds rfl) ?_
          intro ⟨suits, _⟩
          exact (panics info).mp called suits
      | some result =>
          have suits : Suits info := by
            by_contra unsuited
            rw [(panics info).mpr unsuited] at called
            cases called
          rw [and_iff_right suits, ← reads info suits, called]
          cases result with
          | error error => simp
          | ok sub => simp

end Reading

section Infos

variable {F64 : Type} (asF64 : Int32 → F64) (selector : StreamSelector)

/-- The records of an HTTP reply keep the start of `$all` in a field of its own. -/
def recordStart (info : Http.PersistentSubscriptionInfoHttpJson F64)
    (config : Http.PersistentSubscriptionConfig) :
    Except Error (StreamPosition RevisionOrPosition) :=
  if info.eventStreamId = "$all" then parseStreamPosition config.startPosition
  else .ok config.startFrom

def SuitsGrpc (info : Grpc.SubscriptionInfo) : Prop :=
  selector.Suits (parseStreamPosition info.startFrom)

def SuitsHttp (info : Http.PersistentSubscriptionInfoHttpJson F64) : Prop :=
  ∀ config, info.config = some config → selector.Suits (recordStart info config)

def ReadsGrpc (info : Grpc.SubscriptionInfo) : Prop :=
  ∃ place, parseStreamPosition info.startFrom = .ok place

def ReadsHttp (info : Http.PersistentSubscriptionInfoHttpJson F64) : Prop :=
  (∀ config, info.config = some config → ∃ place, recordStart info config = .ok place) ∧
    ∃ progress, Http.fromProgress info = .ok progress

theorem fromGrpcInfo_eq (info : Grpc.SubscriptionInfo) :
    ∃ made : StreamPosition selector.Value → PersistentSubscriptionInfo F64 selector.Value,
      fromGrpcInfo asF64 selector.select info =
        (selector.selectRead (parseStreamPosition info.startFrom)).map (Except.map made) := by
  unfold fromGrpcInfo Grpc.SubscriptionInfo.tryInto
  refine ⟨fun startFrom => ⟨info.eventSource, info.groupName, info.status,
    info.connections.map (Grpc.ConnectionInfo.into asF64), some ⟨info.resolveLinkTos, startFrom,
      info.extraStatistics, durationFromMillis info.messageTimeoutMilliseconds.toInt64,
      info.maxRetryCount, info.liveBufferSize, info.readBatchSize, info.bufferSize,
      durationFromMillis info.checkPointAfterMilliseconds.toInt64, info.minCheckPointCount,
      info.maxCheckPointCount, info.maxSubscriberCount,
      .fromString info.namedConsumerStrategy⟩, info.stats asF64⟩, ?_⟩
  cases parseStreamPosition info.startFrom with
  | error error => rfl
  | ok place =>
      change Option.map _ (Option.map _ (Http.selectStart selector.select place)) =
        Option.map _ (Option.map _ (Http.selectStart selector.select place))
      cases Http.selectStart selector.select place with
      | none => rfl
      | some selected => rfl

theorem fromGrpcInfo_none_iff (info : Grpc.SubscriptionInfo) :
    fromGrpcInfo asF64 selector.select info = none ↔ ¬ SuitsGrpc selector info := by
  obtain ⟨made, same⟩ := fromGrpcInfo_eq asF64 selector info
  rw [same, Option.map_eq_none_iff, selector.selectRead_none_iff, SuitsGrpc]

theorem map_ok_iff {First Second : Type} {made : First → Second}
    {read : Option (Except Error First)} :
    (∃ sub, read.map (Except.map made) = some (.ok sub)) ↔ ∃ place, read = some (.ok place) := by
  rcases read with _ | error | place
  · simp
  · simp [Except.map]
  · simp [Except.map]

theorem fromGrpcInfo_ok_iff {info : Grpc.SubscriptionInfo} (suits : SuitsGrpc selector info) :
    (∃ sub, fromGrpcInfo asF64 selector.select info = some (.ok sub)) ↔ ReadsGrpc info := by
  obtain ⟨made, same⟩ := fromGrpcInfo_eq asF64 selector info
  rw [same, map_ok_iff, StreamSelector.selectRead_ok_iff suits, ReadsGrpc]

theorem fromConfig_eq (info : Http.PersistentSubscriptionInfoHttpJson F64)
    (config : Http.PersistentSubscriptionConfig) :
    Http.fromConfig selector.select info.eventStreamId config =
      (selector.selectRead (recordStart info config)).map
        (Except.map (Http.PersistentSubscriptionConfig.settings config)) := by
  unfold Http.fromConfig recordStart
  by_cases all : info.eventStreamId = "$all"
  · rw [if_pos all, if_pos all]
    cases parseStreamPosition config.startPosition with
    | error error => rfl
    | ok place => rw [StreamSelector.selectRead, Option.map_map]; rfl
  · rw [if_neg all, if_neg all, StreamSelector.selectRead, Option.map_map]
    rfl

theorem fromHttpInfo_none_iff (info : Http.PersistentSubscriptionInfoHttpJson F64) :
    Http.fromHttpInfo selector.select info = none ↔ ¬ SuitsHttp selector info := by
  unfold Http.fromHttpInfo SuitsHttp
  cases info.config with
  | none =>
      refine iff_of_false ?_ ?_
      · intro impossible
        cases impossible
      · intro unsuited
        exact unsuited fun config impossible => by cases impossible
  | some config =>
      rw [Option.map_eq_none_iff, fromConfig_eq, Option.map_eq_none_iff,
        selector.selectRead_none_iff]
      simp only [Option.some.injEq, forall_eq']

theorem fromHttpInfo_ok_iff {info : Http.PersistentSubscriptionInfoHttpJson F64}
    (suits : SuitsHttp selector info) :
    (∃ sub, Http.fromHttpInfo selector.select info = some (.ok sub)) ↔ ReadsHttp info := by
  have concluded : ∀ settings : Option (PersistentSubscriptionSettings selector.Value),
      (∃ sub, Http.concludeInfo info settings = .ok sub) ↔
        ∃ progress, Http.fromProgress info = .ok progress := by
    intro settings
    unfold Http.concludeInfo
    cases Http.fromProgress info with
    | error error => simp [Except.map]
    | ok progress => simp [Except.map]
  unfold Http.fromHttpInfo ReadsHttp
  cases given : info.config with
  | none => simp [concluded]
  | some config =>
      have read := StreamSelector.selectRead_ok_iff (suits config given)
      simp only [Option.some.injEq, forall_eq']
      rw [fromConfig_eq, ← read, ← concluded none]
      cases selector.selectRead (recordStart info config) with
      | none => simp
      | some result =>
          cases result with
          | error error => simp [Except.map, bind, Except.bind]
          | ok place =>
              simp [Except.map, bind, Except.bind, concluded]

namespace StreamSelector

/-- A node without subscription management is asked over HTTP, unless it is refused. -/
def AsksHttp (handle : Handle) : Prop :=
  ¬ handle.supportsFeature .persistentSubscriptionManagement ∧
    ¬ (selector.isAll ∧ ¬ handle.supportsFeature .persistentSubscriptionToAll)

def managed {Result : Type} (handle : Handle) (grpc http : Option (Except Error Result)) :
    Option (Except Error Result) :=
  if handle.supportsFeature .persistentSubscriptionManagement then grpc
  else if selector.isAll ∧ ¬ handle.supportsFeature .persistentSubscriptionToAll then
    some (.error .unsupportedFeature)
  else http

theorem managed_returns_iff {Result : Type} (handle : Handle)
    (grpc http : Option (Except Error Result)) :
    selector.managed handle grpc http ≠ none ↔
      (handle.supportsFeature .persistentSubscriptionManagement → grpc ≠ none) ∧
        (selector.AsksHttp handle → http ≠ none) := by
  unfold managed AsksHttp
  by_cases management : handle.supportsFeature .persistentSubscriptionManagement = true
  · rw [if_pos management]
    exact ⟨fun returns => ⟨fun _ => returns, fun asks => absurd management asks.1⟩,
      fun both => both.1 management⟩
  · rw [if_neg management]
    by_cases refused : selector.isAll ∧ ¬ handle.supportsFeature .persistentSubscriptionToAll
    · rw [if_pos refused]
      refine iff_of_true ?_ ⟨fun supports => absurd supports management,
        fun asks => absurd refused asks.2⟩
      intro impossible
      cases impossible
    · rw [if_neg refused]
      exact ⟨fun returns => ⟨fun supports => absurd supports management, fun _ => returns⟩,
        fun both => both.2 ⟨management, refused⟩⟩

/-- `list_persistent_subscriptions_for_stream`, and for `BothTypeOfStream` the listing of all
subscriptions, from the replies on; `none` is a panic. -/
def listPersistentSubscriptionsForStream (handle : Handle)
    (grpc : Except Status (List Grpc.SubscriptionInfo))
    (http : Except Error (List (Http.PersistentSubscriptionInfoHttpJson F64))) :
    Option (Except Error (List (PersistentSubscriptionInfo F64 selector.Value))) :=
  selector.managed handle
    (match grpc with
      | .error status => some (.error (.fromGrpc status))
      | .ok infos => collectInfos (fromGrpcInfo asF64 selector.select) infos)
    (match http with
      | .error error => some (.error error)
      | .ok infos => collectInfos (Http.fromHttpInfo selector.select) infos)

def getPersistentSubscriptionInfo (handle : Handle)
    (grpc : Except Status (Option Grpc.SubscriptionInfo))
    (http : Except Error (Http.PersistentSubscriptionInfoHttpJson F64)) :
    Option (Except Error (PersistentSubscriptionInfo F64 selector.Value)) :=
  selector.managed handle
    (match grpc with
      | .error status => some (.error (.fromGrpc status))
      | .ok (some info) => fromGrpcInfo asF64 selector.select info
      | .ok none => some (.error .resourceNotFound))
    (match http with
      | .error error => some (.error error)
      | .ok info => Http.fromHttpInfo selector.select info)

def SuitsList (handle : Handle) (grpc : Except Status (List Grpc.SubscriptionInfo))
    (http : Except Error (List (Http.PersistentSubscriptionInfoHttpJson F64))) : Prop :=
  (handle.supportsFeature .persistentSubscriptionManagement → ∀ infos, grpc = .ok infos →
    SuitsUntil (SuitsGrpc selector) ReadsGrpc infos) ∧
  (selector.AsksHttp handle → ∀ infos, http = .ok infos →
    SuitsUntil (SuitsHttp selector) ReadsHttp infos)

def SuitsInfo (handle : Handle) (grpc : Except Status (Option Grpc.SubscriptionInfo))
    (http : Except Error (Http.PersistentSubscriptionInfoHttpJson F64)) : Prop :=
  (handle.supportsFeature .persistentSubscriptionManagement → ∀ info, grpc = .ok (some info) →
    SuitsGrpc selector info) ∧
  (selector.AsksHttp handle → ∀ info, http = .ok info → SuitsHttp selector info)

theorem list_returns_iff (handle : Handle) (grpc : Except Status (List Grpc.SubscriptionInfo))
    (http : Except Error (List (Http.PersistentSubscriptionInfoHttpJson F64))) :
    selector.listPersistentSubscriptionsForStream asF64 handle grpc http ≠ none ↔
      selector.SuitsList handle grpc http := by
  unfold listPersistentSubscriptionsForStream SuitsList
  rw [managed_returns_iff]
  refine and_congr (imp_congr_right fun _ => ?_) (imp_congr_right fun _ => ?_)
  · cases grpc with
    | error status => simp
    | ok infos =>
        have suits := collectInfos_iff (fromGrpcInfo_none_iff asF64 selector)
          (fun _ suits => fromGrpcInfo_ok_iff asF64 selector suits) infos
        simpa using suits
  · cases http with
    | error error => simp
    | ok infos =>
        have suits := collectInfos_iff (fromHttpInfo_none_iff selector)
          (fun _ suits => fromHttpInfo_ok_iff selector suits) infos
        simpa using suits

theorem info_returns_iff (handle : Handle) (grpc : Except Status (Option Grpc.SubscriptionInfo))
    (http : Except Error (Http.PersistentSubscriptionInfoHttpJson F64)) :
    selector.getPersistentSubscriptionInfo asF64 handle grpc http ≠ none ↔
      selector.SuitsInfo handle grpc http := by
  unfold getPersistentSubscriptionInfo SuitsInfo
  rw [managed_returns_iff]
  refine and_congr (imp_congr_right fun _ => ?_) (imp_congr_right fun _ => ?_)
  · rcases grpc with status | _ | info
    · simp
    · simp
    · simp [fromGrpcInfo_none_iff]
  · cases http with
    | error error => simp
    | ok info => simp [fromHttpInfo_none_iff]

/-- The calls on subscription infos return exactly when the start positions they come to are of the
kind the selector expects. -/
theorem infos_returned_iff (handle : Handle)
    (listed : Except Status (List Grpc.SubscriptionInfo))
    (records : Except Error (List (Http.PersistentSubscriptionInfoHttpJson F64)))
    (found : Except Status (Option Grpc.SubscriptionInfo))
    (record : Except Error (Http.PersistentSubscriptionInfoHttpJson F64))
    (info : Http.PersistentSubscriptionInfoHttpJson F64) :
    (selector.listPersistentSubscriptionsForStream asF64 handle listed records ≠ none ∧
        selector.getPersistentSubscriptionInfo asF64 handle found record ≠ none ∧
        Http.fromHttpInfo selector.select info ≠ none) ↔
      selector.SuitsList handle listed records ∧ selector.SuitsInfo handle found record ∧
        SuitsHttp selector info := by
  rw [list_returns_iff, info_returns_iff, Ne, fromHttpInfo_none_iff, not_not]

def allSubscription : Grpc.SubscriptionInfo where
  eventSource := "$all"
  groupName := "billing"
  status := "Live"
  connections := []
  averagePerSecond := 0
  totalItems := 0
  countSinceLastMeasurement := 0
  lastCheckpointedEventPosition := ""
  lastKnownEventPosition := ""
  resolveLinkTos := false
  startFrom := "C:10/P:5"
  messageTimeoutMilliseconds := 30000
  extraStatistics := false
  maxRetryCount := 10
  liveBufferSize := 500
  bufferSize := 500
  readBatchSize := 20
  checkPointAfterMilliseconds := 2000
  minCheckPointCount := 10
  maxCheckPointCount := 1000
  readBufferCount := 0
  liveBufferCount := 0
  retryBufferCount := 0
  totalInFlightMessages := 0
  outstandingMessagesCount := 0
  namedConsumerStrategy := "RoundRobin"
  maxSubscriberCount := 0
  parkedMessageCount := 0

def capableHandle : Handle :=
  ⟨1, "http://localhost:2113", ⟨"localhost", 2113⟩, false, ⟨⟨1, 0, 0⟩, ⟨63⟩⟩⟩

theorem all_by_name_panics :
    parseStreamPosition allSubscription.startFrom = .ok (.position (.position ⟨10, 5⟩)) ∧
      ∀ http : Except Error (Http.PersistentSubscriptionInfoHttpJson Unit),
        (StreamSelector.regularStream "$all").getPersistentSubscriptionInfo (fun _ => ())
          capableHandle (.ok (some allSubscription)) http = none := by
  constructor
  · decide
  · intro http
    rfl

end StreamSelector

end Infos

end TrogonEventStore

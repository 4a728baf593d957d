import TrogonEventStore.Commands
import TrogonEventStore.ReadTolerance
import TrogonEventStore.SubscriptionProgress

namespace TrogonEventStore

/-- Every place where a call or a stream of the three clients can fail with a gRPC status.
`toAll` tells apart the variants of a command for one stream and for `$all`; `passed` is what
the failing call on a stream went past before. -/
inductive FailurePoint where
  | appendToStream
  | setStreamMetadata
  | batchAppend (call : Batch.Call)
  | batchAppendStream (call : Batch.Call)
  | readStream
  | readAll
  | readStreamReadEvents (decoders : Decoders) (passed : List ReadResp)
  | readStreamEvents (decoders : Decoders) (passed : List ReadResp)
  | getStreamMetadata
  | getStreamMetadataEvents (decoders : Decoders) (passed : List ReadResp)
  | deleteStream
  | tombstoneStream
  | subscription (subscription : Subscription Responses)
  | subscriptionEvents (subscription : Subscription Responses)
  | createPersistentSubscription (toAll : Bool)
  | updatePersistentSubscription (toAll : Bool)
  | deletePersistentSubscription (toAll : Bool)
  | subscribeToPersistentSubscription (toAll : Bool)
  | persistentSubscriptionNext (decoders : Decoders)
  | persistentSubscriptionEvents (decoders : Decoders) (passed : List Persistent.ReadResp)
  | replayParkedMessages (toAll : Bool)
  | listAllPersistentSubscriptions
  | listPersistentSubscriptionsForStream (toAll : Bool)
  | getPersistentSubscriptionInfo (toAll : Bool)
  | restartPersistentSubscriptionSubsystem
  | projectionCreate (emit : Bool)
  | projectionCreateEmit
  | projectionUpdate
  | projectionDelete
  | projectionGetStatus
  | projectionGetStatusItem
  | projectionList
  | projectionListItems
  | projectionEnable
  | projectionReset
  | projectionDisable
  | projectionAbort
  | projectionGetState
  | projectionGetResult
  | projectionRestartSubsystem
  | readGossip
  | stats
  | statsItems
  | startScavenge
  | stopScavenge
  | shutdown
  | mergeIndexes
  | resignNode
  | setNodePriority
  | restartPersistentSubscriptions
  | createUser
  | updateUser
  | deleteUser
  | enableUser
  | disableUser
  | userDetails
  | userDetailsItems
  | changeUserPassword
  | resetUserPassword

namespace FailurePoint

def batchReports (handle : Handle) (pump : Batch.Pump) (label : Batch.CallLabel)
    (call : Batch.Call) : List CreateChannel :=
  let call := { call with handleId := handle.id, pump := pump, reports := [] }
  ((Batch.callMachine fun _ => none).step call label).elim [] Batch.Call.reports

/-- The reports of a command that fails with the status at this point: the handle is the one the
failing call used, or the failing stream was opened with, and every other call went well. -/
def reports (handle : Handle) (status : Status) : FailurePoint → List CreateChannel
  | appendToStream => (Client.appendToStream node unit .ok).reports
  | setStreamMetadata => (Client.setStreamMetadata (.ok ()) node (fun _ => unit) .ok).reports
  | batchAppend call => batchReports handle .opening (.opened (.error status)) call
  | batchAppendStream call => batchReports handle .streaming (.fail status) call
  | readStream => (Client.readStream node fun _ => .error status).reports
  | readAll => (Client.readAll node fun _ => .error status).reports
  | readStreamReadEvents decoders passed =>
      (ReadStream.nextReadEvent decoders ⟨handle.id, ⟨passed, some status⟩⟩).reports
  | readStreamEvents decoders passed =>
      (ReadStream.next decoders ⟨handle.id, ⟨passed, some status⟩⟩).reports
  | getStreamMetadata => (Client.getStreamMetadata .blank unread node fun _ => .error status).reports
  | getStreamMetadataEvents decoders passed =>
      (Client.getStreamMetadata decoders unread node fun _ => .ok ⟨passed, some status⟩).reports
  | deleteStream => (Client.deleteStream node unit).reports
  | tombstoneStream => (Client.tombstoneStream node unit).reports
  | subscription catchUp => ({ catchUp with stream := none }.turn .blank refused).reports
  | subscriptionEvents catchUp =>
      ({ catchUp with channelId := handle.id, stream := some failing }.turn .blank
        refused).reports
  | createPersistentSubscription toAll =>
      (Client.createPersistentSubscription toAll (.ok ()) node unit).reports
  | updatePersistentSubscription toAll =>
      (Client.updatePersistentSubscription toAll (.ok ()) node unit).reports
  | deletePersistentSubscription toAll =>
      (Client.deletePersistentSubscription toAll node unit).reports
  | subscribeToPersistentSubscription toAll =>
      (Client.subscribeToPersistentSubscription toAll node fun _ => .error status).reports
  | persistentSubscriptionNext decoders =>
      (PersistentSubscription.nextSubscriptionEvent decoders ⟨handle.id, ⟨[], some status⟩⟩).reports
  | persistentSubscriptionEvents decoders passed =>
      (PersistentSubscription.next decoders ⟨handle.id, ⟨passed, some status⟩⟩).reports
  | replayParkedMessages toAll => (Client.replayParkedMessages toAll node http unit).reports
  | listAllPersistentSubscriptions =>
      (Client.listAllPersistentSubscriptions node http unit .ok).reports
  | listPersistentSubscriptionsForStream toAll =>
      (Client.listPersistentSubscriptionsForStream toAll node http unit .ok).reports
  | getPersistentSubscriptionInfo toAll =>
      (Client.getPersistentSubscriptionInfo toAll node http unit .ok).reports
  | restartPersistentSubscriptionSubsystem =>
      (Client.restartPersistentSubscriptionSubsystem node http unit).reports
  | projectionCreate emit => (ProjectionClient.create emit node unit none unit).reports
  | projectionCreateEmit =>
      (ProjectionClient.create true node (fun _ => .ok ()) node unit).reports
  | projectionUpdate => (ProjectionClient.update node unit).reports
  | projectionDelete => (ProjectionClient.delete node unit).reports
  | projectionGetStatus => (ProjectionClient.getStatus details node stream).reports
  | projectionGetStatusItem =>
      (ProjectionClient.getStatus details node fun _ => .ok broken).reports
  | projectionList => (ProjectionClient.list node stream).reports
  | projectionListItems => (ProjectionClient.nextStatistics details (handle, broken)).reports
  | projectionEnable => (ProjectionClient.enable node unit).reports
  | projectionReset => (ProjectionClient.reset node unit).reports
  | projectionDisable => (ProjectionClient.disable node unit).reports
  | projectionAbort => (ProjectionClient.abort node unit).reports
  | projectionGetState => (ProjectionClient.getState node unit).reports
  | projectionGetResult => (ProjectionClient.getResult node unit).reports
  | projectionRestartSubsystem => (ProjectionClient.restartSubsystem node unit).reports
  | readGossip => (Operations.readGossip .plain .default [] (fun _ => none) node fun _ =>
      .error status).reports
  | stats => (Operations.stats node stream).reports
  | statsItems => (Operations.nextStats broken).reports
  | startScavenge => (Operations.startScavenge node unit).reports
  | stopScavenge => (Operations.stopScavenge node unit).reports
  | shutdown => (Operations.shutdown node unit).reports
  | mergeIndexes => (Operations.mergeIndexes node unit).reports
  | resignNode => (Operations.resignNode node unit).reports
  | setNodePriority => (Operations.setNodePriority node unit).reports
  | restartPersistentSubscriptions => (Operations.restartPersistentSubscriptions node unit).reports
  | createUser => (Operations.createUser node unit).reports
  | updateUser => (Operations.updateUser node unit).reports
  | deleteUser => (Operations.deleteUser node unit).reports
  | enableUser => (Operations.enableUser node unit).reports
  | disableUser => (Operations.disableUser node unit).reports
  | userDetails => (Operations.userDetails node stream).reports
  | userDetailsItems => (Operations.nextUserDetails details broken).reports
  | changeUserPassword => (Operations.changeUserPassword node unit).reports
  | resetUserPassword => (Operations.resetUserPassword node unit).reports
where
  node : NodeReply := some (.ok handle)
  unit : Handle → Except Status Unit := fun _ => .error status
  stream : Handle → Except Status (Feed Unit Status) := fun _ => .error status
  broken : Feed Unit Status := ⟨[], some status⟩
  details : Unit → Option Unit := some
  http : Handle → Except Error Unit := fun _ => .ok ()
  failing : Responses := ⟨[], some status⟩
  unread : Bytes → Except String Unit := fun _ => .ok ()
  refused : Subscription.Awaits Responses :=
    ⟨fun _ => some (.error status), some node, fun _ _ => some (.error status), some ()⟩

/-- The failing call is made at all: the node knows what it takes, and the stream is read as far
as its end. -/
def Made (handle : Handle) : FailurePoint → Prop
  | batchAppend _ => handle.supportsFeature .batchAppend
  | batchAppendStream _ => handle.supportsFeature .batchAppend
  | readStreamReadEvents _ passed => ∀ resp ∈ passed, resp.Skipped
  | readStreamEvents _ passed => ∀ resp ∈ passed, resp.PassedOver
  | getStreamMetadataEvents _ passed => ∀ resp ∈ passed, resp.PassedOver
  | persistentSubscriptionEvents _ passed => ∀ resp ∈ passed, resp.Confirmation
  | createPersistentSubscription toAll => requireToAll handle toAll = pure ()
  | updatePersistentSubscription toAll => requireToAll handle toAll = pure ()
  | deletePersistentSubscription toAll => requireToAll handle toAll = pure ()
  | subscribeToPersistentSubscription toAll => requireToAll handle toAll = pure ()
  | replayParkedMessages _ => handle.supportsFeature .persistentSubscriptionManagement
  | listAllPersistentSubscriptions => handle.supportsFeature .persistentSubscriptionManagement
  | listPersistentSubscriptionsForStream _ =>
      handle.supportsFeature .persistentSubscriptionManagement
  | getPersistentSubscriptionInfo _ => handle.supportsFeature .persistentSubscriptionManagement
  | restartPersistentSubscriptionSubsystem =>
      handle.supportsFeature .persistentSubscriptionManagement
  | _ => True

inductive Arm where
  | handled
  | unheard
  | reconnect
  deriving DecidableEq, Repr

/-- The error arm at each point. The commands of `operations::Client` and the opening of a
batch-append call tell nobody; the statistics of projections ask for a new connection always. -/
def arm : FailurePoint → Arm
  | batchAppend _ | readGossip | stats | statsItems | startScavenge | stopScavenge | shutdown
  | mergeIndexes | resignNode | setNodePriority | restartPersistentSubscriptions | createUser
  | updateUser | deleteUser | enableUser | disableUser | userDetails | userDetailsItems
  | changeUserPassword | resetUserPassword => .unheard
  | projectionGetStatusItem | projectionListItems => .reconnect
  | _ => .handled

end FailurePoint

/-- One report for a server that went away, one that names the leader when the node is not it,
and none for any other error. -/
structure Uniform (handle : Handle) (error : Error) (reports : List CreateChannel) : Prop where
  server : ∀ rendered, error = .serverError rendered → reports = [⟨handle.id, none⟩]
  leader : ∀ leader, error = .notLeaderException leader → reports = [⟨handle.id, some leader⟩]
  other : (∀ rendered, error ≠ .serverError rendered) →
    (∀ leader, error ≠ .notLeaderException leader) → reports = []

/-- The errors for which an arm does what all should do. -/
def FailurePoint.Arm.Suits (arm : FailurePoint.Arm) (error : Error) : Prop :=
  match arm with
  | .handled => True
  | .unheard => (∀ rendered, error ≠ .serverError rendered) ∧
      ∀ leader, error ≠ .notLeaderException leader
  | .reconnect => ∃ rendered, error = .serverError rendered

def FailurePoint.Arm.reports (arm : FailurePoint.Arm) (handle : Handle) (error : Error) :
    List CreateChannel :=
  match arm with
  | .handled => handleError handle.id error
  | .unheard => []
  | .reconnect => [handle.reportError error]

theorem handleError_uniform (handle : Handle) (error : Error) :
    Uniform handle error (handleError handle.id error) := by
  constructor
  · intro rendered same
    rw [same]
    rfl
  · intro leader same
    rw [same]
    rfl
  · intro noServer noLeader
    cases error with
    | serverError rendered => exact absurd rfl (noServer rendered)
    | notLeaderException leader => exact absurd rfl (noLeader leader)
    | _ => rfl

theorem arm_uniform_iff (arm : FailurePoint.Arm) (handle : Handle) (error : Error) :
    Uniform handle error (arm.reports handle error) ↔ arm.Suits error := by
  cases arm with
  | handled => exact iff_of_true (handleError_uniform handle error) trivial
  | unheard =>
      constructor
      · intro uniform
        constructor
        · intro rendered same
          cases uniform.server rendered same
        · intro leader same
          cases uniform.leader leader same
      · intro silent
        exact ⟨fun rendered same => absurd same (silent.1 rendered),
          fun leader same => absurd same (silent.2 leader), fun _ _ => rfl⟩
  | reconnect =>
      constructor
      · intro uniform
        by_contra none
        simp only [FailurePoint.Arm.Suits, not_exists] at none
        by_cases named : ∃ leader, error = .notLeaderException leader
        · obtain ⟨leader, same⟩ := named
          cases uniform.leader leader same
        · simp only [not_exists] at named
          cases uniform.other none named
      · intro server
        obtain ⟨rendered, rfl⟩ := server
        refine ⟨fun _ _ => rfl, ?_, ?_⟩
        · intro leader same
          cases same
        · intro noServer
          exact absurd rfl (noServer rendered)

theorem nextReadEvent_reports (decoders : Decoders) (channelId : Uuid) (status : Status)
    {passed : List ReadResp} (past : ∀ resp ∈ passed, resp.Skipped) :
    (ReadStream.nextReadEvent decoders ⟨channelId, ⟨passed, some status⟩⟩).reports =
      handleError channelId (.fromGrpc status) := by
  induction passed with
  | nil => rfl
  | cons resp rest ih =>
      have passes := (ReadStream.reader_passes_iff decoders resp).mpr
        (past resp List.mem_cons_self)
      rw [ReadStream.nextReadEvent_continues decoders channelId passes]
      exact ih fun other member => past other (List.mem_cons_of_mem _ member)

theorem next_reports (decoders : Decoders) (channelId : Uuid) (status : Status)
    {passed : List ReadResp} (past : ∀ resp ∈ passed, resp.PassedOver) :
    (ReadStream.next decoders ⟨channelId, ⟨passed, some status⟩⟩).reports =
      handleError channelId (.fromGrpc status) := by
  induction passed with
  | nil => rfl
  | cons resp rest ih =>
      have passes := (ReadStream.eventReader_passes_iff decoders resp).mpr
        (past resp List.mem_cons_self)
      rw [ReadStream.next_continues decoders channelId passes]
      exact ih fun other member => past other (List.mem_cons_of_mem _ member)

theorem nextSubscriptionEvent_failed (decoders : Decoders) (channelId : Uuid) {status : Status}
    (present : status.header "exception" ≠ some "persistent-subscription-dropped") :
    PersistentSubscription.nextSubscriptionEvent decoders ⟨channelId, ⟨[], some status⟩⟩ =
      ⟨.returned (.error (.fromGrpc status)), ⟨[], none⟩,
        handleError channelId (.fromGrpc status)⟩ := by
  simp [PersistentSubscription.nextSubscriptionEvent, present]

theorem persistent_next_reports (decoders : Decoders) (channelId : Uuid) {status : Status}
    (present : status.header "exception" ≠ some "persistent-subscription-dropped")
    {passed : List Persistent.ReadResp} (past : ∀ resp ∈ passed, resp.Confirmation) :
    (PersistentSubscription.next decoders ⟨channelId, ⟨passed, some status⟩⟩).reports =
      handleError channelId (.fromGrpc status) := by
  induction passed with
  | nil =>
      have turn := PersistentSubscription.eventTurn_answer decoders channelId
        (nextSubscriptionEvent_failed decoders channelId present)
      have same := (PersistentSubscription.resolving decoders channelId).run_finished turn
      exact congrArg Answer.reports same
  | cons resp rest ih =>
      have passes := (PersistentSubscription.eventReader_passes_iff decoders resp).mpr
        (past resp List.mem_cons_self)
      rw [PersistentSubscription.next_continues decoders channelId passes]
      exact ih fun other member => past other (List.mem_cons_of_mem _ member)

/-- A subscription goes by the id of the node that opened its stream for as long as it holds it,
so that its reports name that node. -/
theorem turn_channel (decoders : Decoders) (subscription : Subscription Responses)
    (awaits : Subscription.Awaits Responses)
    (holds : (subscription.turn decoders awaits).subscription.stream ≠ none) :
    (subscription.stream = none ∧ ∃ handle, awaits.Finds handle ∧
      (subscription.turn decoders awaits).subscription.channelId = handle.id) ∨
    (subscription.stream ≠ none ∧
      (subscription.turn decoders awaits).subscription.channelId = subscription.channelId) := by
  have met := Subscription.turn_met decoders subscription awaits
  generalize subscription.turn decoders awaits = turned at met holds
  cases met with
  | abandoned stream held => exact absurd rfl holds
  | dropped stream status held failed => exact absurd rfl holds
  | received stream next resp content turned held arrived carried result =>
      refine Or.inr ⟨by simp [held], ?_⟩
      cases result with
      | appeared wire event options carried decoded tracked => rfl
      | noted event other control => rfl
      | panicked => rfl
  | ignored stream next resp held arrived carried => exact Or.inr ⟨by simp [held], rfl⟩
  | unanswered missing pending => exact absurd missing holds
  | unread handle missing found pending => exact absurd missing holds
  | lookupFailed error missing failed => exact absurd missing holds
  | established handle stream missing found accepted =>
      exact Or.inl ⟨missing, handle, found, rfl⟩
  | retried handle status outcome missing found refused retries goes =>
      exact absurd missing holds
  | exhausted handle status missing found refused ends => exact absurd missing holds

theorem batch_send_error (session : Batch.Session) (error : Error) :
    ∃ next, session.send (.error error) = some next := by
  cases alive : session.reg with
  | none => simp [Batch.Session.send, Batch.BatchMsg.ticket, alive]
  | some reg => simp [Batch.Session.send, Batch.BatchMsg.ticket, alive]

theorem manage_reports {toAll : Bool} {handle : Handle} {status : Status}
    (supported : handle.supportsFeature .persistentSubscriptionManagement)
    (http : Handle → Except Error Unit) :
    (Client.manage toAll (some (.ok handle)) http (fun _ => .error status)
      (fun _ : Unit => .ok ())).reports = handleError handle.id (.fromGrpc status) := by
  change (Outcome.bind (currentSelectedNode (some (.ok handle))) _).reports = _
  simp only [currentSelectedNode, Connection.currentSelectedNode, Outcome.ofResult, Outcome.bind,
    List.nil_append, supported, if_true]
  rfl

theorem admitted_reports {toAll : Bool} {handle : Handle} {status : Status}
    (admitted : requireToAll handle toAll = pure ()) :
    (Outcome.bind (requireToAll handle toAll) fun _ =>
      (Outcome.handled handle.id (.error status) : Outcome Unit)).reports =
      handleError handle.id (.fromGrpc status) := by
  rw [admitted]
  rfl

theorem reports_eq (point : FailurePoint) {handle : Handle} {status : Status}
    (made : point.Made handle)
    (present : status.header "exception" ≠ some "persistent-subscription-dropped") :
    point.reports handle status = point.arm.reports handle (.fromGrpc status) := by
  cases point with
  | batchAppend call =>
      obtain ⟨next, sent⟩ := batch_send_error call.session (.fromGrpc status)
      simp [FailurePoint.reports, FailurePoint.batchReports, Batch.callMachine, Batch.Call.step,
        Batch.Call.tell, sent, FailurePoint.arm, FailurePoint.Arm.reports]
  | batchAppendStream call =>
      obtain ⟨next, sent⟩ := batch_send_error call.session (.fromGrpc status)
      simp [FailurePoint.reports, FailurePoint.batchReports, Batch.callMachine, Batch.Call.step,
        Batch.Call.tell, sent, FailurePoint.arm, FailurePoint.Arm.reports]
  | readStreamReadEvents decoders passed =>
      exact nextReadEvent_reports decoders handle.id status made
  | readStreamEvents decoders passed => exact next_reports decoders handle.id status made
  | getStreamMetadataEvents decoders passed => exact next_reports decoders handle.id status made
  | persistentSubscriptionNext decoders =>
      exact congrArg Answer.reports (nextSubscriptionEvent_failed decoders handle.id present)
  | persistentSubscriptionEvents decoders passed =>
      exact persistent_next_reports decoders handle.id present made
  | subscription catchUp =>
      simp only [FailurePoint.reports, FailurePoint.reports.refused, FailurePoint.reports.node,
        Subscription.turn, Connection.currentSelectedNode]
      split <;> rfl
  | createPersistentSubscription toAll => exact admitted_reports made
  | updatePersistentSubscription toAll => exact admitted_reports made
  | deletePersistentSubscription toAll => exact admitted_reports made
  | subscribeToPersistentSubscription toAll =>
      change (Outcome.bind (requireToAll handle toAll) _).reports = _
      rw [show requireToAll handle toAll = pure () from made]
      rfl
  | replayParkedMessages toAll => exact manage_reports made _
  | listAllPersistentSubscriptions => exact manage_reports made _
  | listPersistentSubscriptionsForStream toAll => exact manage_reports made _
  | getPersistentSubscriptionInfo toAll => exact manage_reports made _
  | restartPersistentSubscriptionSubsystem => exact manage_reports made _
  | _ => rfl

/-- Wherever a call or a stream fails, exactly the reports due are sent when the error arm there
suits the error. -/
theorem failures_reported_iff (point : FailurePoint) (handle : Handle) (status : Status)
    (made : point.Made handle)
    (present : status.header "exception" ≠ some "persistent-subscription-dropped") :
    Uniform handle (.fromGrpc status) (point.reports handle status) ↔
      point.arm.Suits (.fromGrpc status) := by
  rw [reports_eq point made present]
  exact arm_uniform_iff point.arm handle (.fromGrpc status)

def Handle.capable : Handle :=
  ⟨1, "http://localhost:2113", ⟨"localhost", 2113⟩, false, ⟨⟨21, 6, 0⟩, ⟨BitVec.allOnes 32⟩⟩⟩

theorem failures_reported_by_read :
    ReadResp.PassedOver ⟨some (.firstStreamPosition 0)⟩ ∧
    Uniform .capable (.fromGrpc (.new .unavailable "down"))
      ((FailurePoint.readStreamEvents .blank [⟨some (.firstStreamPosition 0)⟩]).reports .capable
        (.new .unavailable "down")) := by
  have past : ReadResp.PassedOver ⟨some (.firstStreamPosition 0)⟩ := Or.inr (Or.inl ⟨0, rfl⟩)
  refine ⟨past, ?_⟩
  apply (failures_reported_iff _ _ _ _ _).mpr
  · trivial
  · intro resp member
    rw [List.mem_singleton.mp member]
    exact past
  · decide

/-- Nobody hears of a node that fails to shut down, nor of one that refuses to open a batch-append
call, and the statistics of projections ask for a new connection whatever the error. -/
theorem failures_unreported :
    ¬ Uniform .capable (.fromGrpc (.new .unavailable "down"))
        (FailurePoint.shutdown.reports .capable (.new .unavailable "down")) ∧
    ((FailurePoint.batchAppend (.start 1)).Made .capable ∧
      ¬ Uniform .capable (.fromGrpc (.new .unavailable "down"))
        ((FailurePoint.batchAppend (.start 1)).reports .capable (.new .unavailable "down"))) ∧
    ¬ Uniform .capable (.fromGrpc (.new .notFound "no projection"))
        (FailurePoint.projectionListItems.reports .capable (.new .notFound "no projection")) := by
  refine ⟨?_, ⟨rfl, ?_⟩, ?_⟩
  · intro uniform
    cases uniform.server _ rfl
  · intro uniform
    cases uniform.server _ rfl
  · intro uniform
    have same : Error.fromGrpc (.new .notFound "no projection") = .resourceNotFound := rfl
    rw [same] at uniform
    have reports := uniform.other (by simp) (by simp)
    cases reports

end TrogonEventStore

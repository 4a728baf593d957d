import TrogonEventStore.BatchSession
import TrogonEventStore.Reads

/-! The commands of the three clients: which node they ask, what stands in their way, and what they
report to the connection actor when a call fails.

A node is looked up with `node`; the remaining arguments are what the calls made on it answer. -/

namespace TrogonEventStore

structure Outcome (Value : Type) where
  called : Called Value
  reports : List CreateChannel

namespace Outcome

variable {Value Other : Type}

def ofResult (result : Except Error Value) : Outcome Value := ⟨.returned result, []⟩

def ofAnswer {Inner : Type} (answer : Answer Inner Value) : Outcome Value :=
  ⟨answer.called, answer.reports⟩

/-- `?` and what follows it. -/
def bind (first : Outcome Value) (rest : Value → Outcome Other) : Outcome Other :=
  match first.called with
  | .returned (.ok value) => ⟨(rest value).called, first.reports ++ (rest value).reports⟩
  | .returned (.error error) => ⟨.returned (.error error), first.reports⟩
  | .panicked => ⟨.panicked, first.reports⟩

instance : Monad Outcome where
  pure value := ofResult (.ok value)
  bind := bind

def fail (error : Error) : Outcome Value := ofResult (.error error)

/-- `.map_err(crate::Error::from_grpc)`. -/
def mapErr : Except Status Value → Outcome Value
  | .ok value => ofResult (.ok value)
  | .error status => fail (.fromGrpc status)

/-- The error arm that goes through `handle_error`. -/
def handled (id : Uuid) : Except Status Value → Outcome Value
  | .ok value => ofResult (.ok value)
  | .error status => ⟨.returned (.error (.fromGrpc status)), handleError id (.fromGrpc status)⟩

def reported (handle : Handle) : Except Status Value → Outcome Value
  | .ok value => ofResult (.ok value)
  | .error status =>
      ⟨.returned (.error (.fromGrpc status)), [handle.reportError (.fromGrpc status)]⟩

end Outcome

abbrev NodeReply := Option (Except GrpcConnectionError Handle)

def currentSelectedNode (node : NodeReply) : Outcome Handle :=
  .ofResult (Connection.currentSelectedNode node)

def Handle.supportsFeature (handle : Handle) (features : Features) : Bool :=
  handle.serverInfo.features.contains features

def Features.persistentSubscriptionManagement : Features :=
  persistentSubscriptionList.union (persistentSubscriptionReplay.union
    (persistentSubscriptionRestartSubsystem.union persistentSubscriptionGetInfo))

/-- Persistent subscriptions to `$all` are refused by nodes that do not know them. -/
def requireToAll (handle : Handle) (toAll : Bool) : Outcome Unit :=
  if toAll ∧ ¬ handle.supportsFeature .persistentSubscriptionToAll then
    .fail .unsupportedFeature
  else pure ()

variable {Resp Value : Type}

def execute (node : NodeReply) (action : Handle → Except Status Resp) : Outcome Resp := do
  let handle ← currentSelectedNode node
  .handled handle.id (action handle)

def callNode (node : NodeReply) (call : Handle → Except Status Resp) : Outcome Resp := do
  let handle ← currentSelectedNode node
  .handled handle.id (call handle)

namespace Client

def appendToStream (node : NodeReply) (append : Handle → Except Status Resp)
    (conclude : Resp → Except Error Value) : Outcome Value := do
  let resp ← callNode node append
  .ofResult (conclude resp)

/-- The metadata are turned into an event before anything is asked of a node. -/
def setStreamMetadata {Event : Type} (event : Except Error Event) (node : NodeReply)
    (append : Event → Handle → Except Status Resp) (conclude : Resp → Except Error Value) :
    Outcome Value := do
  let event ← Outcome.ofResult event
  appendToStream node (append event) conclude

def readStream (node : NodeReply) (read : Handle → Except Status Responses) :
    Outcome ReadStream := do
  let handle ← currentSelectedNode node
  let inner ← Outcome.handled handle.id (read handle)
  pure ⟨handle.id, inner⟩

def readAll (node : NodeReply) (read : Handle → Except Status Responses) : Outcome ReadStream :=
  readStream node read

def getStreamMetadata {Metadata : Type} (decoders : Decoders)
    (asJson : Bytes → Except String Metadata) (node : NodeReply)
    (read : Handle → Except Status Responses) : Outcome (StreamMetadataResult Metadata) := do
  let stream ← readStream node read
  .ofAnswer (readStreamMetadata decoders asJson stream)

def deleteStream (node : NodeReply) (delete : Handle → Except Status Resp) : Outcome Resp :=
  execute node delete

def tombstoneStream (node : NodeReply) (tombstone : Handle → Except Status Resp) : Outcome Resp :=
  execute node tombstone

/-- `create_persistent_subscription` and `create_persistent_subscription_to_all`. -/
def createPersistentSubscription (toAll : Bool) (settings : Except Error Unit) (node : NodeReply)
    (create : Handle → Except Status Resp) : Outcome Resp := do
  let handle ← currentSelectedNode node
  Outcome.ofResult settings
  requireToAll handle toAll
  .handled handle.id (create handle)

def updatePersistentSubscription (toAll : Bool) (settings : Except Error Unit) (node : NodeReply)
    (update : Handle → Except Status Resp) : Outcome Resp := do
  let handle ← currentSelectedNode node
  Outcome.ofResult settings
  requireToAll handle toAll
  .handled handle.id (update handle)

def deletePersistentSubscription (toAll : Bool) (node : NodeReply)
    (delete : Handle → Except Status Resp) : Outcome Resp := do
  let handle ← currentSelectedNode node
  requireToAll handle toAll
  .handled handle.id (delete handle)

def subscribeToPersistentSubscription (toAll : Bool) (node : NodeReply)
    (read : Handle → Except Status Persistent.Responses) : Outcome PersistentSubscription := do
  let handle ← currentSelectedNode node
  requireToAll handle toAll
  let inner ← Outcome.handled handle.id (read handle)
  pure ⟨handle.id, inner⟩

def manage (toAll : Bool) (node : NodeReply) (http : Handle → Except Error Value)
    (call : Handle → Except Status Resp) (conclude : Resp → Except Error Value) :
    Outcome Value := do
  let handle ← currentSelectedNode node
  if handle.supportsFeature .persistentSubscriptionManagement then
    let resp ← Outcome.handled handle.id (call handle)
    .ofResult (conclude resp)
  else
    requireToAll handle toAll
    .ofResult (http handle)

def replayParkedMessages (toAll : Bool) (node : NodeReply) (http : Handle → Except Error Unit)
    (replayParked : Handle → Except Status Resp) : Outcome Unit :=
  manage toAll node http replayParked fun _ => .ok ()

def listAllPersistentSubscriptions (node : NodeReply) (http : Handle → Except Error Value)
    (list : Handle → Except Status Resp) (conclude : Resp → Except Error Value) : Outcome Value :=
  manage false node http list conclude

def listPersistentSubscriptionsForStream (toAll : Bool) (node : NodeReply)
    (http : Handle → Except Error Value) (list : Handle → Except Status Resp)
    (conclude : Resp → Except Error Value) : Outcome Value :=
  manage toAll node http list conclude

def getPersistentSubscriptionInfo (toAll : Bool) (node : NodeReply)
    (http : Handle → Except Error Value) (getInfo : Handle → Except Status Resp)
    (conclude : Resp → Except Error Value) : Outcome Value :=
  manage toAll node http getInfo conclude

def restartPersistentSubscriptionSubsystem (node : NodeReply) (http : Handle → Except Error Unit)
    (restartSubsystem : Handle → Except Status Resp) : Outcome Unit :=
  manage false node http restartSubsystem fun _ => .ok ()

/-- The session is handed out before its call is made. -/
def batchAppend (node : NodeReply) : Outcome Batch.Call := do
  let handle ← currentSelectedNode node
  if handle.supportsFeature .batchAppend then pure (.start handle.id)
  else .fail .unsupportedFeature

end Client

namespace ProjectionClient

def update (node : NodeReply) (update : Handle → Except Status Resp) : Outcome Resp :=
  execute node update

/-- With `emit` a second command follows, on a node of its own. -/
def create (emit : Bool) (node : NodeReply) (create : Handle → Except Status Unit)
    (nodeOfUpdate : NodeReply) (update : Handle → Except Status Unit) : Outcome Unit := do
  execute node create
  if emit then ProjectionClient.update nodeOfUpdate update

def delete (node : NodeReply) (delete : Handle → Except Status Resp) : Outcome Resp :=
  execute node delete

def statistics {Item : Type} (node : NodeReply)
    (statistics : Handle → Except Status (Feed Item Status)) :
    Outcome (Handle × Feed Item Status) :=
  execute node fun handle => (statistics handle).map fun inner => (handle, inner)

/-- The next item of a stream of statistics; one without details is a panic. -/
def nextStatistics {Item : Type} (details : Item → Option Value)
    (stream : Handle × Feed Item Status) : Outcome (Option Value) := do
  match ← Outcome.reported stream.1 stream.2.tryNext.1 with
  | none => pure none
  | some resp =>
      match details resp with
      | none => ⟨.panicked, []⟩
      | some details => pure (some details)

def getStatus {Item : Type} (details : Item → Option Value) (node : NodeReply)
    (call : Handle → Except Status (Feed Item Status)) : Outcome (Option Value) := do
  let stream ← statistics node call
  nextStatistics details stream

def list {Item : Type} (node : NodeReply) (call : Handle → Except Status (Feed Item Status)) :
    Outcome (Handle × Feed Item Status) :=
  statistics node call

def enable (node : NodeReply) (enable : Handle → Except Status Resp) : Outcome Resp :=
  execute node enable

def reset (node : NodeReply) (reset : Handle → Except Status Resp) : Outcome Resp :=
  execute node reset

def disable (node : NodeReply) (disable : Handle → Except Status Resp) : Outcome Resp :=
  execute node disable

def abort (node : NodeReply) (disable : Handle → Except Status Resp) : Outcome Resp :=
  execute node disable

def getState (node : NodeReply) (state : Handle → Except Status Resp) : Outcome Resp :=
  execute node state

def getResult (node : NodeReply) (result : Handle → Except Status Resp) : Outcome Resp :=
  execute node result

def restartSubsystem (node : NodeReply) (restart : Handle → Except Status Resp) : Outcome Resp :=
  execute node restart

end ProjectionClient

namespace Operations

/-- The call every command of `operations::Client` makes: nothing is told about its failure. -/
def ask (node : NodeReply) (call : Handle → Except Status Resp) : Outcome Resp := do
  let handle ← currentSelectedNode node
  .mapErr (call handle)

/-- `none` where `gossip::read` panics. -/
def readGossip (tonic : Tonic) (settings : ClientSettings) (propagated : List (String × String))
    (parseUuid : String → Option Uuid) (node : NodeReply)
    (read : Handle → Except Status (List WireMemberInfo)) : Outcome (List MemberInfo) := do
  let handle ← currentSelectedNode node
  match gossipRead tonic settings propagated parseUuid (.replied (read handle)) with
  | some (.ok (some members)) => pure members
  | some (.ok none) => ⟨.panicked, []⟩
  | some (.error status) => .mapErr (.error status)
  | none => ⟨.panicked, []⟩

def stats {Item : Type} (node : NodeReply) (stats : Handle → Except Status (Feed Item Status)) :
    Outcome (Feed Item Status) :=
  ask node stats

/-- `Stats::next`: the end of the stream is an error. -/
def nextStats {Item : Type} (inner : Feed Item Status) : Outcome Item := do
  match ← Outcome.mapErr inner.tryNext.1 with
  | some resp => pure resp
  | none => .fail .resourceNotFound

def startScavenge (node : NodeReply) (start : Handle → Except Status Resp) : Outcome Resp :=
  ask node start

def stopScavenge (node : NodeReply) (stop : Handle → Except Status Resp) : Outcome Resp :=
  ask node stop

def shutdown (node : NodeReply) (shutdown : Handle → Except Status Resp) : Outcome Resp :=
  ask node shutdown

def mergeIndexes (node : NodeReply) (merge : Handle → Except Status Resp) : Outcome Resp :=
  ask node merge

def resignNode (node : NodeReply) (resign : Handle → Except Status Resp) : Outcome Resp :=
  ask node resign

def setNodePriority (node : NodeReply) (set : Handle → Except Status Resp) : Outcome Resp :=
  ask node set

def restartPersistentSubscriptions (node : NodeReply) (restart : Handle → Except Status Resp) :
    Outcome Resp :=
  ask node restart

def createUser (node : NodeReply) (create : Handle → Except Status Resp) : Outcome Resp :=
  ask node create

def updateUser (node : NodeReply) (update : Handle → Except Status Resp) : Outcome Resp :=
  ask node update

def deleteUser (node : NodeReply) (delete : Handle → Except Status Resp) : Outcome Resp :=
  ask node delete

def enableUser (node : NodeReply) (enable : Handle → Except Status Resp) : Outcome Resp :=
  ask node enable

def disableUser (node : NodeReply) (disable : Handle → Except Status Resp) : Outcome Resp :=
  ask node disable

def userDetails {Item : Type} (node : NodeReply)
    (details : Handle → Except Status (Feed Item Status)) : Outcome (Feed Item Status) :=
  ask node details

def nextUserDetails {Item : Type} (details : Item → Option Value) (inner : Feed Item Status) :
    Outcome (Option Value) := do
  let result ← Outcome.mapErr inner.tryNext.1
  pure (result.bind details)

def changeUserPassword (node : NodeReply) (change : Handle → Except Status Resp) : Outcome Resp :=
  ask node change

def resetUserPassword (node : NodeReply) (reset : Handle → Except Status Resp) : Outcome Resp :=
  ask node reset

end Operations

end TrogonEventStore

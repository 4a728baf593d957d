import TrogonEventStore.EventWire
import TrogonEventStore.WireNumbers
import TrogonEventStore.Library.Channel
import TrogonEventStore.Library.Machine

/-! A consumer of a persistent subscription: the events it is given, those it settles, and the
requests that reach the server. -/

namespace TrogonEventStore

inductive NakAction where
  | unknown
  | park
  | retry
  | skip
  | stop
  deriving DecidableEq, Repr

namespace Persistent

structure Ack where
  id : Bytes
  ids : List WireUuid
  deriving DecidableEq, Repr

structure Nack where
  id : Bytes
  ids : List WireUuid
  action : Int32
  reason : String
  deriving DecidableEq, Repr

inductive ReadReq.Content where
  | options (options : ReadOptions)
  | ack (ack : Ack)
  | nack (nack : Nack)
  deriving DecidableEq, Repr

structure ReadReq where
  content : Option ReadReq.Content
  deriving DecidableEq, Repr

end Persistent

def NakAction.wire : NakAction → Int32
  | .unknown => 0
  | .park => 1
  | .retry => 2
  | .skip => 3
  | .stop => 4

namespace PersistentSubscription

def ackIds (eventIds : List Uuid) : Persistent.ReadReq := ⟨some (.ack ⟨[], eventIds.map .ofUuid⟩)⟩

def nackIds (eventIds : List Uuid) (action : NakAction) (reason : String) : Persistent.ReadReq :=
  ⟨some (.nack ⟨[], eventIds.map .ofUuid, action.wire, reason⟩)⟩

inductive Decision where
  | ack (event : ResolvedEvent)
  | ackIds (eventIds : List Uuid)
  | nack (event : ResolvedEvent) (action : NakAction) (reason : String)
  | nackIds (eventIds : List Uuid) (action : NakAction) (reason : String)
  deriving DecidableEq, Repr

/-- The ids that a call is about; `none` is the panic of `get_original_event`. -/
def Decision.eventIds : Decision → Option (List Uuid)
  | .ack event => event.getOriginalEvent.map fun event => [event.id]
  | .ackIds eventIds => some eventIds
  | .nack event _ _ => event.getOriginalEvent.map fun event => [event.id]
  | .nackIds eventIds _ _ => some eventIds

def Decision.request (decision : Decision) : Option Persistent.ReadReq :=
  decision.eventIds.map fun eventIds =>
    match decision with
    | .ack _ | .ackIds _ => PersistentSubscription.ackIds eventIds
    | .nack _ action reason | .nackIds _ action reason =>
        PersistentSubscription.nackIds eventIds action reason

structure Call where
  decision : Decision
  result : Called Unit

def capacity : Nat := 500

/-- A subscription with its history: what it has given to the consumer, and the calls that have come
back. A call that waits for room is `sending`. -/
structure Session where
  channel : Channel Persistent.ReadReq capacity
  inner : Persistent.Responses
  given : List ResolvedEvent
  sending : Option (Decision × Persistent.ReadReq)
  calls : List Call

/-- What `subscribe_to_persistent_subscription` leaves: the options are the first request. -/
def subscribed (options : Persistent.ReadOptions) (inner : Persistent.Responses) : Session :=
  ⟨.opened ⟨some (.options options)⟩ (by decide), inner, [], none, []⟩

/-- The consumer asks for the next event or settles some, its call is sent, refused or dropped; the
server takes a request or goes away. -/
inductive Label where
  | next
  | settle (decision : Decision)
  | sent
  | refused
  | dropped
  | taken
  | closed

def ignored : Error :=
  .illegalStateError "Ack was ignored as the transaction no longer exists"

def shown : Called PersistentSubscriptionEvent → Option ResolvedEvent
  | .returned (.ok (.eventAppeared _ event)) => some event
  | _ => none

namespace Session

variable (session : Session)

def finish (decision : Decision) (result : Called Unit) : Session :=
  { session with sending := none, calls := session.calls ++ [⟨decision, result⟩] }

def next (decoders : Decoders) (channelId : Uuid) : Session :=
  let answer := nextSubscriptionEvent decoders ⟨channelId, session.inner⟩
  { session with inner := answer.inner, given := session.given ++ (shown answer.called).toList }

/-- `ack`, `ack_ids`, `nack` and `nack_ids`, up to their send. -/
def settle (decision : Decision) : Session :=
  match decision.request with
  | none => session.finish decision .panicked
  | some request => { session with sending := some (decision, request) }

end Session

/-- One call at a time: all of them borrow the subscription. -/
def machine (decoders : Decoders) (channelId : Uuid) : Machine Session Label where
  step session label :=
    match label, session.sending with
    | .next, none => some (session.next decoders channelId)
    | .settle decision, none => some (session.settle decision)
    | .sent, some (decision, request) =>
        (session.channel.send request).map fun channel =>
          { session.finish decision (.returned (.ok ())) with channel := channel }
    | .refused, some (decision, _) =>
        if session.channel.isOpen then none
        else some (session.finish decision (.returned (.error ignored)))
    | .dropped, some _ => some { session with sending := none }
    | .taken, _ => session.channel.take.map fun channel => { session with channel := channel }
    | .closed, _ => some { session with channel := session.channel.close }
    | _, _ => none

end PersistentSubscription

end TrogonEventStore

import TrogonEventStore.Events
import TrogonEventStore.Library.Chronicle
import TrogonEventStore.Library.Ledger
import TrogonEventStore.Library.Machine

/-! `BatchAppendClient`: the session actor that pairs responses with the callers they are for. -/

namespace TrogonEventStore.Batch

/-- The oneshot on which one `append_to_stream` is answered. -/
abbrev Ticket := Nat

structure Req where
  id : Uuid
  streamName : String
  events : List EventData
  expectedRevision : StreamState
  deriving DecidableEq, Repr

structure In where
  req : Req
  sender : Ticket
  deriving DecidableEq, Repr

structure BatchWriteResult where
  streamName : String
  currentRevision : Option Nat
  currentPosition : Option Position
  streamState : Option StreamState
  deriving DecidableEq, Repr

structure Out where
  correlationId : Uuid
  result : Except Error BatchWriteResult

inductive BatchMsg where
  | request (msg : In)
  | response (resp : Out)
  | error (error : Error)

abbrev Registry := List (Uuid × Ticket)

def Registry.remove (reg : Registry) (id : Uuid) : Registry := reg.filter fun entry => entry.1 ≠ id

def Registry.insert (reg : Registry) (id : Uuid) (ticket : Ticket) : Registry :=
  (id, ticket) :: reg.remove id

def Registry.tickets (reg : Registry) : List Ticket := reg.map Prod.snd

/-- The senders an insertion under the same id pushes out. -/
def Registry.displaced (reg : Registry) (id : Uuid) : List Ticket :=
  (reg.filter fun entry => entry.1 = id).map Prod.snd

inductive Reply where
  | response (id : Uuid) (result : Except Error BatchWriteResult)
  | session (error : Error)

/-- `closed`: the sending end of a oneshot is dropped without a reply. -/
inductive Effect where
  | forwarded (req : Req)
  | replied (ticket : Ticket) (reply : Reply)
  | closed (ticket : Ticket)

/-- The registry after a message, unless the loop was left, and what the message did. -/
structure Handled where
  reg : Option Registry
  effects : List Effect

/-- The body of the actor's loop. `forwardOpen` tells whether `forward.send` succeeds. -/
def handle (reg : Registry) (msg : BatchMsg) (forwardOpen : Bool) : Handled :=
  match msg with
  | .request msg =>
      if forwardOpen then
        ⟨some (reg.insert msg.req.id msg.sender),
          .forwarded msg.req :: (reg.displaced msg.req.id).map .closed⟩
      else ⟨none, .closed msg.sender :: reg.tickets.map .closed⟩
  | .response resp =>
      match reg.lookup resp.correlationId with
      | some ticket =>
          let rest := reg.remove resp.correlationId
          let reply := .replied ticket (.response resp.correlationId resp.result)
          match resp.result with
          | .error _ => ⟨none, reply :: rest.tickets.map .closed⟩
          | .ok _ => ⟨some rest, [reply]⟩
      | none => ⟨some reg, []⟩
  | .error error => ⟨none, reg.tickets.map fun ticket => .replied ticket (.session error)⟩

def closedError : Error :=
  .serverError (.new .cancelled "Batch-append stream has been closed")

/-- The result `append_to_stream` gives for a reply; `none` when the sender was dropped. -/
def appendResult : Option Reply → Except Error BatchWriteResult
  | some (.response _ result) => result
  | some (.session error) => .error error
  | none => .error closedError

/-- `bounced`: a message sent after the receiver was dropped. -/
inductive Cause where
  | sent (msg : BatchMsg)
  | bounced (msg : BatchMsg)
  | cancelled (ticket : Ticket)
  | processed (msg : BatchMsg) (forwardOpen : Bool)
  | hungUp

structure Entry where
  cause : Cause
  effects : List Effect

structure Session where
  mailbox : List BatchMsg
  reg : Option Registry
  history : List Entry

def Session.start : Session := ⟨[], some [], []⟩

inductive Label where
  | send (msg : BatchMsg)
  | cancel (ticket : Ticket)
  | receive (forwardOpen : Bool)
  | hangUp

def BatchMsg.ticket : BatchMsg → Option Ticket
  | .request msg => some msg.sender
  | _ => none

/-- A message that is dropped with the channel, or comes back to its sender. -/
def BatchMsg.lost (msg : BatchMsg) : List Effect := msg.ticket.toList.map .closed

def Cause.accepted : Cause → Option Ticket
  | .sent msg => msg.ticket
  | .bounced msg => msg.ticket
  | _ => none

def Effect.resolved : Effect → Option Ticket
  | .forwarded _ => none
  | .replied ticket _ => some ticket
  | .closed ticket => some ticket

def Entry.resolved (entry : Entry) : List Ticket := entry.effects.filterMap Effect.resolved

def accepted (history : List Entry) : List Ticket :=
  history.filterMap fun entry => entry.cause.accepted

def resolved (history : List Entry) : List Ticket := history.flatMap Entry.resolved

namespace Session

def send (session : Session) (msg : BatchMsg) : Option Session :=
  if msg.ticket.any (· ∈ accepted session.history) then none
  else match session.reg with
    | some _ => some { session with
        mailbox := session.mailbox ++ [msg]
        history := session.history ++ [⟨.sent msg, []⟩] }
    | none => some { session with history := session.history ++ [⟨.bounced msg, msg.lost⟩] }

/-- Leaving the loop drops the receiver with the messages still in it. -/
def after (session : Session) (cause : Cause) (rest : List BatchMsg) (handled : Handled) :
    Session :=
  match handled.reg with
  | some reg => ⟨rest, some reg, session.history ++ [⟨cause, handled.effects⟩]⟩
  | none => ⟨[], none,
      session.history ++ [⟨cause, handled.effects ++ rest.flatMap BatchMsg.lost⟩]⟩

def receive (session : Session) (forwardOpen : Bool) : Option Session :=
  match session.reg, session.mailbox with
  | some reg, msg :: rest =>
      some (session.after (.processed msg forwardOpen) rest (handle reg msg forwardOpen))
  | _, _ => none

/-- The channel yields nothing more once it is empty and all its senders are gone. -/
def hangUp (session : Session) : Option Session :=
  match session.reg, session.mailbox with
  | some reg, [] => some (session.after .hungUp [] ⟨none, reg.tickets.map .closed⟩)
  | _, _ => none

end Session

def machine : Machine Session Label where
  step session label :=
    match label with
    | .send msg => session.send msg
    | .cancel ticket =>
        some { session with history := session.history ++ [⟨.cancelled ticket, []⟩] }
    | .receive forwardOpen => session.receive forwardOpen
    | .hangUp => session.hangUp

end TrogonEventStore.Batch

import TrogonEventStore.Library.Machine
import TrogonEventStore.Subscription

namespace TrogonEventStore.Subscription

inductive Phase where
  | idle
  | calling
  | panicked
  deriving DecidableEq, Repr

structure System (Stream : Type) where
  subscription : Subscription Stream
  phase : Phase
  history : List Event

def System.start {Stream : Type} (subscription : Subscription Stream) : System Stream :=
  ⟨subscription, .idle, []⟩

inductive Label (Stream : Type) where
  | call
  | turn (awaits : Awaits Stream)

variable {Stream : Type}

def Outcome.phase : Outcome → Phase
  | .again => .calling
  | .returned _ => .idle
  | .cancelled => .idle
  | .panicked => .panicked

def Outcome.events : Outcome → List Event
  | .again => []
  | .returned result => [.returned result]
  | .cancelled => [.cancelled]
  | .panicked => [.panicked]

def System.after (system : System Stream) (turned : Turned Stream) : System Stream :=
  ⟨turned.subscription, turned.outcome.phase,
    system.history ++ (turned.trace ++ turned.outcome.events)⟩

/-- A call takes the subscription for itself until it returns or is dropped. -/
def machine (decoders : Decoders) : Machine (System Stream) (Label Stream) where
  step system label :=
    match label, system.phase with
    | .call, .idle => some { system with phase := .calling, history := system.history ++ [.called] }
    | .turn awaits, .calling => some (system.after (system.subscription.turn decoders awaits))
    | _, _ => none

theorem call_cases {decoders : Decoders} {system next : System Stream}
    (stepped : (machine decoders).step system .call = some next) :
    system.phase = .idle ∧
      next = { system with phase := .calling, history := system.history ++ [.called] } := by
  obtain ⟨subscription, phase, history⟩ := system
  cases phase with
  | idle =>
      cases stepped
      exact ⟨rfl, rfl⟩
  | calling => cases stepped
  | panicked => cases stepped

theorem turn_cases {decoders : Decoders} {system next : System Stream} {awaits : Awaits Stream}
    (stepped : (machine decoders).step system (.turn awaits) = some next) :
    system.phase = .calling ∧
      next = system.after (system.subscription.turn decoders awaits) := by
  obtain ⟨subscription, phase, history⟩ := system
  cases phase with
  | idle => cases stepped
  | calling =>
      cases stepped
      exact ⟨rfl, rfl⟩
  | panicked => cases stepped

theorem turn_enabled (decoders : Decoders) {system : System Stream} (calling : system.phase = .calling)
    (awaits : Awaits Stream) :
    (machine decoders).step system (.turn awaits) =
      some (system.after (system.subscription.turn decoders awaits)) := by
  simp only [machine, calling]

def Awaits.LookupFails (awaits : Awaits Stream) (error : Error) : Prop :=
  ∃ reply, awaits.selectedNode = some reply ∧ Connection.currentSelectedNode reply = .error error

def Awaits.Finds (awaits : Awaits Stream) (handle : Handle) : Prop :=
  ∃ reply, awaits.selectedNode = some reply ∧ Connection.currentSelectedNode reply = .ok handle

def Awaits.Refuses (awaits : Awaits Stream) (subscription : Subscription Stream) (status : Status) :
    Prop :=
  awaits.read ⟨some subscription.options⟩ subscription.metadata = some (.error status)

def Retries (subscription : Subscription Stream) (error : Error) : Prop :=
  ¬ error.isAccessDenied ∧ subscription.attempts < subscription.limit

/-- A dropped stream ends the call when there is no point in another one, or no wish for it. -/
def outcomeOfDrop (subscription : Subscription Stream) (error : Error) : Outcome :=
  if error.isAccessDenied ∨ ¬ subscription.retryEnabled then .returned (.error error) else .again

inductive Received (decoders : Decoders) (subscription : Subscription Stream) (content : Content) :
    Turned Stream → Prop where
  | appeared (wire : WireReadEvent) (event : ResolvedEvent) (options : ReadReq.Options)
      (carried : content = .event wire) (decoded : wire.decode decoders = some event)
      (tracked : track subscription.options event = some options) :
      Received decoders subscription content
        ⟨{ subscription with options := options }, .returned (.ok (.eventAppeared event)), [], []⟩
  | noted (event : SubscriptionEvent) (other : ∀ resolved, event ≠ .eventAppeared resolved)
      (control : ∀ wire, content ≠ .event wire) :
      Received decoders subscription content ⟨subscription, .returned (.ok event), [], []⟩
  | panicked : Received decoders subscription content ⟨subscription, .panicked, [], []⟩

theorem receive_cases (decoders : Decoders) (subscription : Subscription Stream)
    (content : Content) :
    Received decoders subscription content (subscription.receive decoders content) := by
  cases content with
  | event wire =>
      simp only [receive]
      split
      · exact .panicked
      · next event decoded =>
          split
          · exact .panicked
          · next options tracked => exact .appeared wire event options rfl decoded tracked
  | confirmation _ => exact .noted _ (by simp) (by simp)
  | checkpoint _ => exact .noted _ (by simp) (by simp)
  | firstStreamPosition _ => exact .noted _ (by simp) (by simp)
  | lastStreamPosition _ => exact .noted _ (by simp) (by simp)
  | lastAllStreamPosition _ => exact .noted _ (by simp) (by simp)
  | caughtUp progress =>
      simp only [receive]
      split
      · exact .panicked
      · exact .noted _ (by simp) (by simp)
  | fellBehind progress =>
      simp only [receive]
      split
      · exact .panicked
      · exact .noted _ (by simp) (by simp)
  | streamNotFound _ => exact .panicked

inductive Met (decoders : Decoders) (subscription : Subscription Stream) (awaits : Awaits Stream) :
    Turned Stream → Prop where
  | abandoned (stream : Stream) (held : subscription.stream = some stream) :
      Met decoders subscription awaits ⟨{ subscription with stream := none }, .cancelled, [], []⟩
  | dropped (stream : Stream) (status : Status) (held : subscription.stream = some stream)
      (failed : awaits.tryNext stream = some (.error status)) :
      Met decoders subscription awaits
        ⟨{ subscription with stream := none, attempts := 1 },
          outcomeOfDrop subscription (Error.fromGrpc status),
          [.dropped (Error.fromGrpc status)],
          handleError subscription.channelId (Error.fromGrpc status)⟩
  | received (stream next : Stream) (resp : Option ReadResp) (content : Content)
      (turned : Turned Stream) (held : subscription.stream = some stream)
      (arrived : awaits.tryNext stream = some (.ok (resp, next)))
      (carried : resp.bind ReadResp.content = some content)
      (result : Received decoders { subscription with stream := some next } content turned) :
      Met decoders subscription awaits turned
  | ignored (stream next : Stream) (resp : Option ReadResp) (held : subscription.stream = some stream)
      (arrived : awaits.tryNext stream = some (.ok (resp, next)))
      (carried : resp.bind ReadResp.content = none) :
      Met decoders subscription awaits ⟨{ subscription with stream := some next }, .again, [], []⟩
  | unanswered (missing : subscription.stream = none) (pending : awaits.selectedNode = none) :
      Met decoders subscription awaits ⟨subscription, .cancelled, [], []⟩
  | unread (handle : Handle) (missing : subscription.stream = none) (found : awaits.Finds handle)
      (pending : awaits.read ⟨some subscription.options⟩ subscription.metadata = none) :
      Met decoders subscription awaits
        ⟨{ subscription with channelId := handle.id }, .cancelled, [], []⟩
  | lookupFailed (error : Error) (missing : subscription.stream = none)
      (failed : awaits.LookupFails error) :
      Met decoders subscription awaits
        ⟨subscription, .returned (.error error), [.lookupFailed error], []⟩
  | established (handle : Handle) (stream : Stream) (missing : subscription.stream = none)
      (found : awaits.Finds handle)
      (accepted : awaits.read ⟨some subscription.options⟩ subscription.metadata =
        some (.ok stream)) :
      Met decoders subscription awaits
        ⟨{ subscription with channelId := handle.id, stream := some stream }, .again,
          [.established], []⟩
  | retried (handle : Handle) (status : Status) (outcome : Outcome)
      (missing : subscription.stream = none) (found : awaits.Finds handle)
      (refused : awaits.Refuses subscription status)
      (retries : subscription.Retries (Error.fromGrpc status))
      (goes : outcome = .again ∨ outcome = .cancelled) :
      Met decoders subscription awaits
        ⟨{ subscription with channelId := handle.id, attempts := subscription.attempts + 1 },
          outcome, [.readFailed (Error.fromGrpc status)],
          handleError handle.id (Error.fromGrpc status)⟩
  | exhausted (handle : Handle) (status : Status) (missing : subscription.stream = none)
      (found : awaits.Finds handle) (refused : awaits.Refuses subscription status)
      (ends : ¬ subscription.Retries (Error.fromGrpc status)) :
      Met decoders subscription awaits
        ⟨{ subscription with channelId := handle.id }, .returned (.error (Error.fromGrpc status)),
          [.readFailed (Error.fromGrpc status)], handleError handle.id (Error.fromGrpc status)⟩

theorem continues_cases (awaits : Awaits Stream) :
    awaits.continues = .again ∨ awaits.continues = .cancelled := by
  unfold Awaits.continues
  split
  · exact Or.inl rfl
  · exact Or.inr rfl

theorem turn_met (decoders : Decoders) (subscription : Subscription Stream)
    (awaits : Awaits Stream) :
    Met decoders subscription awaits (subscription.turn decoders awaits) := by
  unfold turn
  split
  · next stream held =>
      split
      · exact .abandoned stream held
      · next status failed => exact .dropped stream status held failed
      · next resp next arrived =>
          split
          · next content carried =>
              exact .received stream next resp content _ held arrived carried
                (receive_cases decoders _ content)
          · next carried => exact .ignored stream next resp held arrived carried
  · next missing =>
      split
      · next pending => exact .unanswered missing pending
      · next reply replied =>
          split
          · next error failed => exact .lookupFailed error missing ⟨reply, replied, failed⟩
          · next handle found =>
              dsimp only
              split
              · next pending => exact .unread handle missing ⟨reply, replied, found⟩ pending
              · next stream accepted =>
                  exact .established handle stream missing ⟨reply, replied, found⟩ accepted
              · next status refused =>
                  split
                  · next retries =>
                      exact .retried handle status _ missing ⟨reply, replied, found⟩ refused retries
                        (continues_cases awaits)
                  · next ends =>
                      exact .exhausted handle status missing ⟨reply, replied, found⟩ refused ends

end TrogonEventStore.Subscription

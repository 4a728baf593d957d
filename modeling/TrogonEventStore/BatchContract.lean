import TrogonEventStore.BatchRuns

namespace TrogonEventStore.Batch

/-- A response that matches no pending request is taken off the mailbox and changes nothing. -/
def Session.IgnoresUnknown (session : Session) : Prop :=
  ∀ reg resp rest forwardOpen, session.reg = some reg →
    session.mailbox = .response resp :: rest →
    (∀ ticket, Registered session.history resp.correlationId ticket →
      ticket ∈ resolved session.history) →
    machine.step session (.receive forwardOpen) = some ⟨rest, some reg,
      session.history ++ [⟨.processed (.response resp) forwardOpen, []⟩]⟩

theorem ignores_unknown {session : Session} (invariant : Invariant session) :
    session.IgnoresUnknown := by
  intro reg resp rest forwardOpen alive taken answered
  have missing : reg.lookup resp.correlationId = none := by
    cases found : reg.lookup resp.correlationId with
    | none => rfl
    | some ticket =>
        have member := mem_of_lookup found
        have known := invariant.registered reg alive _ ticket member
        exact absurd (answered ticket known)
          (registry_unresolved invariant alive (mem_tickets.mpr ⟨_, member⟩))
  change session.receive forwardOpen = _
  simp only [Session.receive, alive, taken, handle, missing, Session.after]

theorem stopped_resolves {session : Session} (invariant : Invariant session)
    (gone : session.reg = none) {ticket : Ticket} (member : ticket ∈ accepted session.history) :
    ticket ∈ resolved session.history := by
  rcases (invariant.ledger.mem_issued ticket).mp member with waits | done
  · rw [Session.waiting, invariant.stopped gone, gone] at waits
    cases waits
  · exact done

/-- The contract of the session actor, over every run and every order of its messages. -/
theorem session_contract {labels : List Label} {session : Session}
    (ran : machine.run .start labels = some session) :
    (∀ ticket, (resolved session.history).count ticket ≤ 1) ∧
    Chronicle Justified session.history ∧
    Chronicle ReachesPending session.history ∧
    session.IgnoresUnknown ∧
    (session.reg = none → ∀ ticket ∈ accepted session.history,
      ticket ∈ resolved session.history) := by
  have invariant := run_keeps_invariant ran
  refine ⟨?_, invariant.justified, invariant.reaches, ignores_unknown invariant, ?_⟩
  · intro ticket
    exact invariant.ledger.count_settled_le_one ticket
  · intro gone ticket member
    exact stopped_resolves invariant gone member

def request (id : Uuid) (ticket : Ticket) : BatchMsg :=
  .request ⟨⟨id, "orders", [], .any⟩, ticket⟩

def written : BatchWriteResult := ⟨"orders", some 0, none, some .any⟩

def wrongVersion : Error := .grpc .failedPrecondition "WrongExpectedVersion"

/-- Two callers are registered, one of them gives up, and the responses come in reverse order. -/
def reversedLabels : List Label :=
  [.send (request 1 0), .send (request 2 1), .receive true, .receive true, .cancel 0,
    .send (.response ⟨2, .ok written⟩), .send (.response ⟨1, .ok written⟩), .receive true,
    .receive true]

theorem session_contract_reversed :
    ∃ session, machine.run .start reversedLabels = some session ∧
      (∀ ticket, (resolved session.history).count ticket ≤ 1) ∧
      Chronicle Justified session.history ∧ resolved session.history = [1, 0] := by
  obtain ⟨session, ran, answered⟩ : ∃ session, machine.run .start reversedLabels = some session ∧
      resolved session.history = [1, 0] := ⟨_, rfl, rfl⟩
  have contract := session_contract ran
  exact ⟨session, ran, contract.1, contract.2.1, answered⟩

end TrogonEventStore.Batch

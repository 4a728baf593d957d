import TrogonEventStore.Batch

namespace TrogonEventStore.Batch

theorem lookup_other {reg : Registry} {id key : Uuid} (value : Ticket) (different : id ≠ key) :
    List.lookup id ((key, value) :: reg) = reg.lookup id := by
  rw [List.lookup_cons, beq_false_of_ne different]

theorem mem_remove {reg : Registry} {id : Uuid} {entry : Uuid × Ticket} :
    entry ∈ reg.remove id ↔ entry ∈ reg ∧ entry.1 ≠ id := by
  simp [Registry.remove]

theorem remove_unknown {reg : Registry} {id : Uuid} (unknown : id ∉ reg.map Prod.fst) :
    reg.remove id = reg := by
  apply List.filter_eq_self.mpr
  intro entry member
  apply decide_eq_true
  intro same
  exact unknown (List.mem_map.mpr ⟨entry, member, same⟩)

theorem remove_keys {reg : Registry} (distinct : (reg.map Prod.fst).Nodup) (id : Uuid) :
    ((reg.remove id).map Prod.fst).Nodup ∧ id ∉ (reg.remove id).map Prod.fst := by
  refine ⟨distinct.sublist (List.Sublist.map _ List.filter_sublist), ?_⟩
  intro member
  obtain ⟨entry, present, same⟩ := List.mem_map.mp member
  exact (mem_remove.mp present).2 same

theorem lookup_tickets {reg : Registry} {id : Uuid} {ticket : Ticket}
    (distinct : (reg.map Prod.fst).Nodup) (found : reg.lookup id = some ticket) :
    reg.tickets.Perm (ticket :: (reg.remove id).tickets) := by
  induction reg with
  | nil => cases found
  | cons entry reg ih =>
      obtain ⟨key, value⟩ := entry
      rw [List.map_cons, List.nodup_cons] at distinct
      by_cases same : id = key
      · subst same
        rw [List.lookup_cons_self] at found
        cases found
        have gone : Registry.remove ((id, ticket) :: reg) id = Registry.remove reg id := by
          simp [Registry.remove]
        rw [gone, remove_unknown distinct.1]
        exact List.Perm.refl _
      · rw [lookup_other value same] at found
        have kept : Registry.remove ((key, value) :: reg) id =
            (key, value) :: Registry.remove reg id := by
          have different : key ≠ id := fun equal => same equal.symm
          simp [Registry.remove, different]
        rw [kept]
        exact ((ih distinct.2 found).cons value).trans (List.Perm.swap ticket value _)

theorem displaced_tickets (reg : Registry) (id : Uuid) :
    reg.tickets.Perm (reg.displaced id ++ (reg.remove id).tickets) := by
  have parts := (List.filter_append_perm (fun entry => decide (entry.1 = id)) reg).symm
  have mapped := parts.map Prod.snd
  rw [List.map_append] at mapped
  simpa [Registry.tickets, Registry.displaced, Registry.remove] using mapped

theorem lookup_of_mem {reg : Registry} {id : Uuid} {ticket : Ticket}
    (distinct : (reg.map Prod.fst).Nodup) (member : (id, ticket) ∈ reg) :
    reg.lookup id = some ticket := by
  induction reg with
  | nil => cases member
  | cons entry reg ih =>
      obtain ⟨key, value⟩ := entry
      rw [List.map_cons, List.nodup_cons] at distinct
      rcases List.mem_cons.mp member with same | further
      · cases same
        exact List.lookup_cons_self
      · have different : id ≠ key := by
          rintro rfl
          exact distinct.1 (List.mem_map.mpr ⟨(id, ticket), further, rfl⟩)
        rw [lookup_other value different]
        exact ih distinct.2 further

theorem mem_of_lookup {reg : Registry} {id : Uuid} {ticket : Ticket}
    (found : reg.lookup id = some ticket) : (id, ticket) ∈ reg := by
  induction reg with
  | nil => cases found
  | cons entry reg ih =>
      obtain ⟨key, value⟩ := entry
      by_cases same : id = key
      · subst same
        rw [List.lookup_cons_self] at found
        cases found
        exact List.mem_cons_self
      · rw [lookup_other value same] at found
        exact List.mem_cons_of_mem _ (ih found)

inductive Outcome (reg : Registry) : BatchMsg → Bool → Handled → Prop where
  | registered (msg : In) : Outcome reg (.request msg) true
      ⟨some (reg.insert msg.req.id msg.sender),
        .forwarded msg.req :: (reg.displaced msg.req.id).map .closed⟩
  | refused (msg : In) : Outcome reg (.request msg) false
      ⟨none, .closed msg.sender :: reg.tickets.map .closed⟩
  | completed (id : Uuid) (ticket : Ticket) (result : BatchWriteResult) (forwardOpen : Bool)
      (found : reg.lookup id = some ticket) :
      Outcome reg (.response ⟨id, .ok result⟩) forwardOpen
        ⟨some (reg.remove id), [.replied ticket (.response id (.ok result))]⟩
  | failed (id : Uuid) (ticket : Ticket) (error : Error) (forwardOpen : Bool)
      (found : reg.lookup id = some ticket) :
      Outcome reg (.response ⟨id, .error error⟩) forwardOpen
        ⟨none, .replied ticket (.response id (.error error)) ::
          (reg.remove id).tickets.map .closed⟩
  | unknown (resp : Out) (forwardOpen : Bool) (missing : reg.lookup resp.correlationId = none) :
      Outcome reg (.response resp) forwardOpen ⟨some reg, []⟩
  | session (error : Error) (forwardOpen : Bool) : Outcome reg (.error error) forwardOpen
      ⟨none, reg.tickets.map fun ticket => .replied ticket (.session error)⟩

theorem handle_outcome (reg : Registry) (msg : BatchMsg) (forwardOpen : Bool) :
    Outcome reg msg forwardOpen (handle reg msg forwardOpen) := by
  cases msg with
  | request msg =>
      cases forwardOpen with
      | true => exact .registered msg
      | false => exact .refused msg
  | response resp =>
      obtain ⟨id, result⟩ := resp
      cases found : reg.lookup id with
      | none =>
          simp only [handle, found]
          exact .unknown ⟨id, result⟩ forwardOpen found
      | some ticket =>
          cases result with
          | ok result =>
              simp only [handle, found]
              exact .completed id ticket result forwardOpen found
          | error error =>
              simp only [handle, found]
              exact .failed id ticket error forwardOpen found
  | error error => exact .session error forwardOpen

def Registered (history : List Entry) (id : Uuid) (ticket : Ticket) : Prop :=
  ∃ req effects, req.id = id ∧ .forwarded req ∈ effects ∧
    ⟨.processed (.request ⟨req, ticket⟩) true, effects⟩ ∈ history

/-- Every reply goes back to a message: a response to the caller whose forwarded request has its
id, a session error to callers whose requests were forwarded. -/
def Justified (before : List Entry) (entry : Entry) : Prop :=
  ∀ ticket reply, .replied ticket reply ∈ entry.effects →
    match reply with
    | .response id result => (∃ forwardOpen,
        entry.cause = .processed (.response ⟨id, result⟩) forwardOpen) ∧ Registered before id ticket
    | .session error => (∃ forwardOpen, entry.cause = .processed (.error error) forwardOpen) ∧
        ∃ id, Registered before id ticket

/-- A session error reaches the callers that are registered and unanswered, and nobody else. -/
def ReachesPending (before : List Entry) (entry : Entry) : Prop :=
  ∀ error forwardOpen, entry.cause = .processed (.error error) forwardOpen →
    ∀ ticket, .replied ticket (.session error) ∈ entry.effects ↔
      (∃ id, Registered before id ticket) ∧ ticket ∉ resolved before

def Session.waiting (session : Session) : List Ticket :=
  session.mailbox.filterMap BatchMsg.ticket ++ (session.reg.getD []).tickets

structure Invariant (session : Session) : Prop where
  stopped : session.reg = none → session.mailbox = []
  distinct : ∀ reg, session.reg = some reg → (reg.map Prod.fst).Nodup
  registered : ∀ reg, session.reg = some reg → ∀ id ticket, (id, ticket) ∈ reg →
    Registered session.history id ticket
  pending : ∀ reg, session.reg = some reg → ∀ id ticket, Registered session.history id ticket →
    (id, ticket) ∈ reg ∨ ticket ∈ resolved session.history
  ledger : Ledger (accepted session.history) session.waiting (resolved session.history)
  justified : Chronicle Justified session.history
  reaches : Chronicle ReachesPending session.history

theorem accepted_append (history : List Entry) (entry : Entry) :
    accepted (history ++ [entry]) = accepted history ++ entry.cause.accepted.toList := by
  rw [accepted, List.filterMap_append]
  cases taken : entry.cause.accepted <;> simp [taken, accepted]

theorem resolved_append (history : List Entry) (entry : Entry) :
    resolved (history ++ [entry]) = resolved history ++ entry.resolved := by
  rw [resolved, List.flatMap_append, List.flatMap_singleton, resolved]

theorem resolved_closed (tickets : List Ticket) :
    (tickets.map Effect.closed).filterMap Effect.resolved = tickets := by
  induction tickets with
  | nil => rfl
  | cons ticket tickets ih => simp [Effect.resolved, ih]

theorem resolved_session (tickets : List Ticket) (error : Error) :
    (tickets.map fun ticket => Effect.replied ticket (.session error)).filterMap Effect.resolved =
      tickets := by
  induction tickets with
  | nil => rfl
  | cons ticket tickets ih => simp [Effect.resolved, ih]

theorem resolved_lost (msgs : List BatchMsg) :
    (msgs.flatMap BatchMsg.lost).filterMap Effect.resolved = msgs.filterMap BatchMsg.ticket := by
  induction msgs with
  | nil => rfl
  | cons msg msgs ih =>
      rw [List.flatMap_cons, List.filterMap_append, ih, BatchMsg.lost, resolved_closed,
        List.filterMap_cons]
      cases msg.ticket <;> rfl

theorem pending_cons (msg : BatchMsg) (rest : List BatchMsg) :
    (msg :: rest).filterMap BatchMsg.ticket =
      msg.ticket.toList ++ rest.filterMap BatchMsg.ticket := by
  cases msg <;> rfl

theorem registered_append {history : List Entry} {id : Uuid} {ticket : Ticket}
    (known : Registered history id ticket) (entry : Entry) :
    Registered (history ++ [entry]) id ticket := by
  obtain ⟨req, effects, same, forwarded, member⟩ := known
  exact ⟨req, effects, same, forwarded, List.mem_append_left _ member⟩

theorem registered_of_append {history : List Entry} {entry : Entry} {id : Uuid} {ticket : Ticket}
    (known : Registered (history ++ [entry]) id ticket) :
    Registered history id ticket ∨
      ∃ req, req.id = id ∧ entry.cause = .processed (.request ⟨req, ticket⟩) true := by
  obtain ⟨req, effects, same, forwarded, member⟩ := known
  rcases List.mem_append.mp member with earlier | now
  · exact Or.inl ⟨req, effects, same, forwarded, earlier⟩
  · rw [← List.mem_singleton.mp now]
    exact Or.inr ⟨req, same, rfl⟩

/-- A message neither loses nor doubles a promise. -/
theorem outcome_balanced {reg : Registry} {msg : BatchMsg} {forwardOpen : Bool} {handled : Handled}
    (distinct : (reg.map Prod.fst).Nodup) (outcome : Outcome reg msg forwardOpen handled) :
    (msg.ticket.toList ++ reg.tickets).Perm
      (handled.effects.filterMap Effect.resolved ++ (handled.reg.getD []).tickets) := by
  cases outcome with
  | registered msg =>
      have parts := (displaced_tickets reg msg.req.id).cons msg.sender
      simp only [List.filterMap_cons, Effect.resolved, resolved_closed, Option.getD_some]
      exact parts.trans List.perm_middle.symm
  | refused msg =>
      simp only [List.filterMap_cons, Effect.resolved, resolved_closed, Option.getD_none]
      exact (List.append_nil _).symm ▸ List.Perm.refl _
  | completed id ticket result forwardOpen found =>
      exact lookup_tickets distinct found
  | failed id ticket error forwardOpen found =>
      simp only [List.filterMap_cons, Effect.resolved, resolved_closed, Option.getD_none]
      exact (List.append_nil _).symm ▸ lookup_tickets distinct found
  | unknown resp forwardOpen missing => exact List.Perm.refl _
  | session error forwardOpen =>
      rw [resolved_session]
      exact (List.append_nil _).symm ▸ List.Perm.refl _

theorem after_ledger {session : Session} {reg : Registry} {cause : Cause} {rest : List BatchMsg}
    {handled : Handled} {taken : List Ticket} (invariant : Invariant session)
    (alive : session.reg = some reg) (quiet : cause.accepted = none)
    (waits : session.mailbox.filterMap BatchMsg.ticket = taken ++ rest.filterMap BatchMsg.ticket)
    (balanced : (taken ++ reg.tickets).Perm
      (handled.effects.filterMap Effect.resolved ++ (handled.reg.getD []).tickets)) :
    Ledger (accepted (session.after cause rest handled).history)
      (session.after cause rest handled).waiting
      (resolved (session.after cause rest handled).history) := by
  have ledger := invariant.ledger
  simp only [Session.waiting, alive, Option.getD_some, waits] at ledger
  have rotated : (taken ++ rest.filterMap BatchMsg.ticket ++ reg.tickets).Perm
      (taken ++ reg.tickets ++ rest.filterMap BatchMsg.ticket) := by
    rw [List.append_assoc, List.append_assoc]
    exact List.Perm.append_left taken List.perm_append_comm
  have moved := rotated.trans (balanced.append_right (rest.filterMap BatchMsg.ticket))
  unfold Session.after
  split
  · next next same =>
      rw [same, Option.getD_some] at moved
      simp only [accepted_append, resolved_append, quiet, Option.toList_none, List.append_nil,
        Session.waiting, Option.getD_some, Entry.resolved]
      apply ledger.settle
      refine moved.trans ?_
      rw [List.append_assoc]
      exact List.Perm.append_left _ List.perm_append_comm
  · next same =>
      rw [same, Option.getD_none] at moved
      simp only [accepted_append, resolved_append, quiet, Option.toList_none, List.append_nil,
        Session.waiting, Option.getD_none, Entry.resolved, List.filterMap_append, resolved_lost,
        List.filterMap_nil, Registry.tickets, List.map_nil] at moved ⊢
      apply ledger.settle
      rw [List.append_nil]
      exact moved

theorem outcome_distinct {reg next : Registry} {msg : BatchMsg} {forwardOpen : Bool}
    {effects : List Effect} (distinct : (reg.map Prod.fst).Nodup)
    (outcome : Outcome reg msg forwardOpen ⟨some next, effects⟩) : (next.map Prod.fst).Nodup := by
  cases outcome with
  | registered msg =>
      have rest := remove_keys distinct msg.req.id
      exact List.nodup_cons.mpr ⟨rest.2, rest.1⟩
  | completed id ticket result forwardOpen found => exact (remove_keys distinct id).1
  | unknown resp forwardOpen missing => exact distinct

theorem outcome_registered {reg next : Registry} {msg : BatchMsg} {forwardOpen : Bool}
    {effects : List Effect} {id : Uuid} {ticket : Ticket}
    (outcome : Outcome reg msg forwardOpen ⟨some next, effects⟩) (member : (id, ticket) ∈ next) :
    (id, ticket) ∈ reg ∨ ∃ req, req.id = id ∧ .forwarded req ∈ effects ∧
      msg = .request ⟨req, ticket⟩ ∧ forwardOpen = true := by
  cases outcome with
  | registered msg =>
      rcases List.mem_cons.mp member with now | earlier
      · cases now
        exact Or.inr ⟨msg.req, rfl, List.mem_cons_self, rfl, rfl⟩
      · exact Or.inl (mem_remove.mp earlier).1
  | completed other found result forwardOpen present => exact Or.inl (mem_remove.mp member).1
  | unknown resp forwardOpen missing => exact Or.inl member

theorem outcome_pending {reg next : Registry} {msg : BatchMsg} {forwardOpen : Bool}
    {effects : List Effect} {id : Uuid} {ticket : Ticket} (distinct : (reg.map Prod.fst).Nodup)
    (outcome : Outcome reg msg forwardOpen ⟨some next, effects⟩) (member : (id, ticket) ∈ reg) :
    (id, ticket) ∈ next ∨ ticket ∈ effects.filterMap Effect.resolved := by
  cases outcome with
  | registered msg =>
      by_cases same : id = msg.req.id
      · refine Or.inr (List.mem_filterMap.mpr ⟨.closed ticket, ?_, rfl⟩)
        refine List.mem_cons_of_mem _ (List.mem_map.mpr ⟨ticket, ?_, rfl⟩)
        refine List.mem_map.mpr ⟨(id, ticket), List.mem_filter.mpr ⟨member, ?_⟩, rfl⟩
        exact decide_eq_true same
      · exact Or.inl (List.mem_cons_of_mem _ (mem_remove.mpr ⟨member, same⟩))
  | completed other found result forwardOpen present =>
      by_cases same : id = other
      · subst same
        rw [lookup_of_mem distinct member] at present
        cases present
        exact Or.inr (List.mem_filterMap.mpr ⟨_, List.mem_cons_self, rfl⟩)
      · exact Or.inl (mem_remove.mpr ⟨member, same⟩)
  | unknown resp forwardOpen missing => exact Or.inl member

theorem replied_not_lost {msgs : List BatchMsg} {ticket : Ticket} {reply : Reply}
    (member : Effect.replied ticket reply ∈ msgs.flatMap BatchMsg.lost) : False := by
  obtain ⟨msg, _, lost⟩ := List.mem_flatMap.mp member
  obtain ⟨other, _, impossible⟩ := List.mem_map.mp lost
  cases impossible

theorem replied_not_closed {tickets : List Ticket} {ticket : Ticket} {reply : Reply}
    (member : Effect.replied ticket reply ∈ tickets.map Effect.closed) : False := by
  obtain ⟨other, _, impossible⟩ := List.mem_map.mp member
  cases impossible

theorem outcome_replied {reg : Registry} {msg : BatchMsg} {forwardOpen : Bool} {handled : Handled}
    {ticket : Ticket} {reply : Reply} (outcome : Outcome reg msg forwardOpen handled)
    (member : .replied ticket reply ∈ handled.effects) :
    (∃ id result, reply = .response id result ∧ msg = .response ⟨id, result⟩ ∧
        reg.lookup id = some ticket) ∨
      (∃ error, reply = .session error ∧ msg = .error error ∧ ticket ∈ reg.tickets) := by
  cases outcome with
  | registered msg =>
      rcases List.mem_cons.mp member with impossible | closed
      · cases impossible
      · exact absurd closed replied_not_closed
  | refused msg =>
      rcases List.mem_cons.mp member with impossible | closed
      · cases impossible
      · exact absurd closed replied_not_closed
  | completed id other result forwardOpen found =>
      cases List.mem_singleton.mp member
      exact Or.inl ⟨id, .ok result, rfl, rfl, found⟩
  | failed id other error forwardOpen found =>
      rcases List.mem_cons.mp member with same | closed
      · cases same
        exact Or.inl ⟨id, .error error, rfl, rfl, found⟩
      · exact absurd closed replied_not_closed
  | unknown resp forwardOpen missing => cases member
  | session error forwardOpen =>
      obtain ⟨other, present, same⟩ := List.mem_map.mp member
      cases same
      exact Or.inr ⟨error, rfl, rfl, present⟩

theorem after_history (session : Session) (cause : Cause) (rest : List BatchMsg)
    (handled : Handled) :
    ∃ lost, (session.after cause rest handled).history =
        session.history ++ [⟨cause, handled.effects ++ lost⟩] ∧
      ∀ ticket reply, Effect.replied ticket reply ∉ lost := by
  unfold Session.after
  split
  · exact ⟨[], by rw [List.append_nil], fun ticket reply member => by cases member⟩
  · exact ⟨rest.flatMap BatchMsg.lost, rfl, fun ticket reply => replied_not_lost⟩

theorem after_reg {session : Session} {cause : Cause} {rest : List BatchMsg} {handled : Handled} :
    (session.after cause rest handled).reg = handled.reg := by
  unfold Session.after
  split <;> next same => rw [same]

theorem mem_tickets {reg : Registry} {ticket : Ticket} :
    ticket ∈ reg.tickets ↔ ∃ id, (id, ticket) ∈ reg := by
  simp [Registry.tickets]

theorem registry_unresolved {session : Session} {reg : Registry} {ticket : Ticket}
    (invariant : Invariant session) (alive : session.reg = some reg)
    (member : ticket ∈ reg.tickets) : ticket ∉ resolved session.history := by
  apply invariant.ledger.not_settled
  rw [Session.waiting, alive, Option.getD_some]
  exact List.mem_append_right _ member

theorem receive_cases {session next : Session} {forwardOpen : Bool}
    (stepped : session.receive forwardOpen = some next) :
    ∃ reg msg rest, session.reg = some reg ∧ session.mailbox = msg :: rest ∧
      next = session.after (.processed msg forwardOpen) rest (handle reg msg forwardOpen) := by
  unfold Session.receive at stepped
  split at stepped
  · next reg msg rest alive taken =>
      cases stepped
      exact ⟨reg, msg, rest, alive, taken, rfl⟩
  · cases stepped

theorem receive_invariant {session next : Session} {forwardOpen : Bool}
    (invariant : Invariant session) (stepped : session.receive forwardOpen = some next) :
    Invariant next := by
  obtain ⟨reg, msg, rest, alive, taken, rfl⟩ := receive_cases stepped
  have distinct := invariant.distinct reg alive
  have outcome := handle_outcome reg msg forwardOpen
  generalize handle reg msg forwardOpen = handled at outcome ⊢
  have quiet : (Cause.processed msg forwardOpen).accepted = none := rfl
  have waits : session.mailbox.filterMap BatchMsg.ticket =
      msg.ticket.toList ++ rest.filterMap BatchMsg.ticket := by rw [taken, pending_cons]
  have ledger := after_ledger invariant alive quiet waits (outcome_balanced distinct outcome)
  obtain ⟨lost, grown, silent⟩ := after_history session (.processed msg forwardOpen) rest handled
  refine ⟨?_, ?_, ?_, ?_, ledger, ?_, ?_⟩
  · intro gone
    rw [after_reg] at gone
    simp only [Session.after, gone]
  · intro after current
    rw [after_reg] at current
    obtain ⟨_, effects⟩ := handled
    cases current
    exact outcome_distinct distinct outcome
  · intro after current id ticket member
    rw [after_reg] at current
    obtain ⟨_, effects⟩ := handled
    cases current
    rcases outcome_registered outcome member with earlier | ⟨req, same, forwarded, rfl, rfl⟩
    · rw [grown]
      exact registered_append (invariant.registered reg alive id ticket earlier) _
    · rw [grown]
      exact ⟨req, _, same, List.mem_append_left _ forwarded, List.mem_append_right _
        (List.mem_singleton_self _)⟩
  · intro after current id ticket known
    rw [after_reg] at current
    obtain ⟨_, effects⟩ := handled
    cases current
    rw [grown] at known
    have held : (id, ticket) ∈ after ∨ ticket ∈ effects.filterMap Effect.resolved ∨
        ticket ∈ resolved session.history := by
      rcases registered_of_append known with earlier | ⟨req, same, now⟩
      · rcases invariant.pending reg alive id ticket earlier with member | done
        · rcases outcome_pending distinct outcome member with kept | settled
          · exact Or.inl kept
          · exact Or.inr (Or.inl settled)
        · exact Or.inr (Or.inr done)
      · cases now
        cases outcome with
        | registered _ => exact Or.inl (same ▸ List.mem_cons_self)
    rcases held with kept | settled | done
    · exact Or.inl kept
    · refine Or.inr ?_
      rw [grown, resolved_append, Entry.resolved, List.filterMap_append]
      exact List.mem_append_right _ (List.mem_append_left _ settled)
    · refine Or.inr ?_
      rw [grown, resolved_append]
      exact List.mem_append_left _ done
  · rw [grown]
    apply invariant.justified.extend
    intro ticket reply member
    rcases List.mem_append.mp member with done | impossible
    · rcases outcome_replied outcome done with ⟨id, result, rfl, rfl, found⟩ | ⟨error, rfl, rfl, held⟩
      · exact ⟨⟨forwardOpen, rfl⟩, invariant.registered reg alive id ticket (mem_of_lookup found)⟩
      · obtain ⟨id, present⟩ := mem_tickets.mp held
        exact ⟨⟨forwardOpen, rfl⟩, id, invariant.registered reg alive id ticket present⟩
    · exact absurd impossible (silent ticket reply)
  · rw [grown]
    apply invariant.reaches.extend
    intro error open' same ticket
    cases same
    cases outcome with
    | session _ _ =>
        constructor
        · intro member
          rcases List.mem_append.mp member with done | impossible
          · obtain ⟨other, held, given⟩ := List.mem_map.mp done
            cases given
            obtain ⟨id, present⟩ := mem_tickets.mp held
            exact ⟨⟨id, invariant.registered reg alive id ticket present⟩,
              registry_unresolved invariant alive held⟩
          · exact absurd impossible (silent ticket _)
        · intro ⟨⟨id, known⟩, unanswered⟩
          rcases invariant.pending reg alive id ticket known with present | done
          · exact List.mem_append_left _
              (List.mem_map.mpr ⟨ticket, mem_tickets.mpr ⟨id, present⟩, rfl⟩)
          · exact absurd done unanswered

theorem send_cases {session next : Session} {msg : BatchMsg}
    (stepped : session.send msg = some next) :
    (∀ ticket, msg.ticket = some ticket → ticket ∉ accepted session.history) ∧
      ((∃ reg, session.reg = some reg ∧ next = { session with
          mailbox := session.mailbox ++ [msg]
          history := session.history ++ [⟨.sent msg, []⟩] }) ∨
        (session.reg = none ∧
          next = { session with history := session.history ++ [⟨.bounced msg, msg.lost⟩] })) := by
  unfold Session.send at stepped
  split at stepped
  · cases stepped
  · next known =>
      constructor
      · intro ticket waits again
        simp [waits, again] at known
      · split at stepped
        · next reg alive =>
            cases stepped
            exact Or.inl ⟨reg, alive, rfl⟩
        · next gone =>
            cases stepped
            exact Or.inr ⟨gone, rfl⟩

theorem ledger_send {issued waiting settled : List Ticket}
    (ledger : Ledger issued waiting settled) (msg : BatchMsg)
    (fresh : ∀ ticket, msg.ticket = some ticket → ticket ∉ issued) :
    Ledger (issued ++ msg.ticket.toList) (waiting ++ msg.ticket.toList) settled := by
  cases waits : msg.ticket with
  | none => simpa only [Option.toList_none, List.append_nil] using ledger
  | some ticket => exact ledger.issue (fresh ticket waits)

theorem silent_invariant {session : Session} {mailbox : List BatchMsg} {entry : Entry}
    (invariant : Invariant session)
    (stopped : session.reg = none → mailbox = [])
    (silent : ∀ ticket reply, Effect.replied ticket reply ∉ entry.effects)
    (outside : ∀ msg forwardOpen, entry.cause ≠ .processed msg forwardOpen)
    (ledger : Ledger (accepted (session.history ++ [entry]))
      (mailbox.filterMap BatchMsg.ticket ++ (session.reg.getD []).tickets)
      (resolved (session.history ++ [entry]))) :
    Invariant ⟨mailbox, session.reg, session.history ++ [entry]⟩ where
  stopped := stopped
  distinct := invariant.distinct
  registered := by
    intro reg alive id ticket member
    exact registered_append (invariant.registered reg alive id ticket member) entry
  pending := by
    intro reg alive id ticket known
    rcases registered_of_append known with earlier | ⟨req, _, impossible⟩
    · rcases invariant.pending reg alive id ticket earlier with member | done
      · exact Or.inl member
      · refine Or.inr ?_
        rw [resolved_append]
        exact List.mem_append_left _ done
    · exact absurd impossible (outside _ _)
  ledger := ledger
  justified := by
    apply invariant.justified.extend
    intro ticket reply member
    exact absurd member (silent ticket reply)
  reaches := by
    apply invariant.reaches.extend
    intro error forwardOpen impossible
    exact absurd impossible (outside _ _)

theorem send_invariant {session next : Session} {msg : BatchMsg} (invariant : Invariant session)
    (stepped : session.send msg = some next) : Invariant next := by
  obtain ⟨fresh, ⟨reg, alive, rfl⟩ | ⟨gone, rfl⟩⟩ := send_cases stepped
  · apply silent_invariant invariant
    · intro gone
      rw [alive] at gone
      cases gone
    · intro ticket reply member
      cases member
    · intro other forwardOpen impossible
      cases impossible
    · have ledger := ledger_send invariant.ledger msg fresh
      simp only [accepted_append, resolved_append, Entry.resolved, List.filterMap_nil,
        List.append_nil, List.filterMap_append, pending_cons, Cause.accepted]
      apply ledger.move
      apply List.Perm.append_right
      rw [Session.waiting, List.append_assoc, List.append_assoc]
      exact List.Perm.append_left _ List.perm_append_comm
  · apply silent_invariant invariant invariant.stopped
    · intro ticket reply member
      obtain ⟨other, _, impossible⟩ := List.mem_map.mp member
      cases impossible
    · intro other forwardOpen impossible
      cases impossible
    · have ledger := ledger_send invariant.ledger msg fresh
      simp only [accepted_append, resolved_append, Entry.resolved, BatchMsg.lost, resolved_closed,
        Cause.accepted]
      exact ledger.settle List.perm_append_comm

theorem hangUp_cases {session next : Session} (stepped : session.hangUp = some next) :
    ∃ reg, session.reg = some reg ∧ session.mailbox = [] ∧
      next = session.after .hungUp [] ⟨none, reg.tickets.map .closed⟩ := by
  unfold Session.hangUp at stepped
  split at stepped
  · next reg alive empty =>
      cases stepped
      exact ⟨reg, alive, empty, rfl⟩
  · cases stepped

theorem hangUp_invariant {session next : Session} (invariant : Invariant session)
    (stepped : session.hangUp = some next) : Invariant next := by
  obtain ⟨reg, alive, empty, rfl⟩ := hangUp_cases stepped
  have quiet : Cause.hungUp.accepted = none := rfl
  have waits : session.mailbox.filterMap BatchMsg.ticket =
      [] ++ ([] : List BatchMsg).filterMap BatchMsg.ticket := by
    rw [empty]
    rfl
  have balanced : ([] ++ reg.tickets).Perm ((reg.tickets.map Effect.closed).filterMap
      Effect.resolved ++ ((none : Option Registry).getD []).tickets) := by
    rw [resolved_closed]
    exact (List.append_nil _).symm ▸ List.Perm.refl _
  refine ⟨fun _ => rfl, ?_, ?_, ?_, after_ledger invariant alive quiet waits balanced, ?_, ?_⟩
  · intro after impossible
    cases impossible
  · intro after impossible
    cases impossible
  · intro after impossible
    cases impossible
  · apply invariant.justified.extend
    intro ticket reply member
    exact absurd (List.append_nil _ ▸ member) replied_not_closed
  · apply invariant.reaches.extend
    intro error forwardOpen impossible
    cases impossible

theorem cancel_invariant {session : Session} (invariant : Invariant session) (ticket : Ticket) :
    Invariant { session with history := session.history ++ [⟨.cancelled ticket, []⟩] } := by
  apply silent_invariant invariant invariant.stopped
  · intro other reply member
    cases member
  · intro msg forwardOpen impossible
    cases impossible
  · simp only [accepted_append, resolved_append, Entry.resolved, Cause.accepted,
      List.filterMap_nil, Option.toList_none, List.append_nil]
    exact invariant.ledger

theorem start_invariant : Invariant .start where
  stopped := by
    intro gone
    cases gone
  distinct := by
    intro reg alive
    cases alive
    exact List.nodup_nil
  registered := by
    intro reg alive id ticket member
    cases alive
    cases member
  pending := by
    intro reg alive id ticket ⟨req, effects, _, _, member⟩
    cases member
  ledger := Ledger.empty
  justified := Chronicle.empty
  reaches := Chronicle.empty

theorem step_invariant {session next : Session} {label : Label} (invariant : Invariant session)
    (stepped : machine.step session label = some next) : Invariant next := by
  cases label with
  | send msg => exact send_invariant invariant stepped
  | cancel ticket =>
      cases stepped
      exact cancel_invariant invariant ticket
  | receive forwardOpen => exact receive_invariant invariant stepped
  | hangUp => exact hangUp_invariant invariant stepped

theorem run_keeps_invariant {labels : List Label} {session : Session}
    (ran : machine.run .start labels = some session) : Invariant session :=
  machine.run_invariant Invariant (fun _ _ _ => step_invariant) start_invariant ran

end TrogonEventStore.Batch

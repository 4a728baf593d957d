import TrogonEventStore.BatchContract

namespace TrogonEventStore.Batch

def BatchMsg.id : BatchMsg → Option Uuid
  | .request msg => some msg.req.id
  | _ => none

def Cause.id : Cause → Option Uuid
  | .sent msg => msg.id
  | .bounced msg => msg.id
  | _ => none

def requestIds (history : List Entry) : List Uuid := history.filterMap fun entry => entry.cause.id

/-- No session-level error arrives, every request has an id of its own and meets an open stream. -/
def Ordinary (session : Session) : Label → Prop
  | .send (.error _) => False
  | .send (.request msg) => msg.req.id ∉ requestIds session.history
  | .receive forwardOpen => forwardOpen = true
  | _ => True

instance (session : Session) (label : Label) : Decidable (Ordinary session label) :=
  match label with
  | .send (.error _) => .isFalse id
  | .send (.request msg) => inferInstanceAs (Decidable (msg.req.id ∉ requestIds session.history))
  | .send (.response _) => .isTrue trivial
  | .receive forwardOpen => inferInstanceAs (Decidable (forwardOpen = true))
  | .cancel _ => .isTrue trivial
  | .hangUp => .isTrue trivial

def Replied (history : List Entry) (ticket : Ticket) (reply : Reply) : Prop :=
  ∃ entry ∈ history, .replied ticket reply ∈ entry.effects

def Closed (history : List Entry) (ticket : Ticket) : Prop :=
  ∃ entry ∈ history, .closed ticket ∈ entry.effects

def Sent (history : List Entry) (msg : BatchMsg) : Prop :=
  ∃ entry ∈ history, entry.cause = .sent msg

def Answered (history : List Entry) (id : Uuid) (ticket : Ticket)
    (result : Except Error BatchWriteResult) : Prop :=
  ∃ before entry after, history = before ++ entry :: after ∧
    entry.cause = .sent (.response ⟨id, result⟩) ∧ Registered before id ticket

def Failed (history : List Entry) : Prop :=
  ∃ ticket id error, Replied history ticket (.response id (.error error))

/-- Every request whose one response was delivered has completed with exactly that response once
the channel is empty. -/
def Independent (session : Session) : Prop :=
  session.mailbox = [] → ∀ id ticket result, Answered session.history id ticket result →
    (∀ other, Sent session.history (.response ⟨id, other⟩) → other = result) →
    Replied session.history ticket (.response id result)

/-- A response that is processed while its request is pending completes it with its own result. -/
def CompletesPending (before : List Entry) (entry : Entry) : Prop :=
  ∀ id result forwardOpen, entry.cause = .processed (.response ⟨id, result⟩) forwardOpen →
    ∀ ticket, Registered before id ticket → (∀ reply, ¬ Replied before ticket reply) →
      .replied ticket (.response id result) ∈ entry.effects

/-- Beside a failed request, everyone has a successful result or is closed. -/
def FailureLeaves (history : List Entry) : Prop :=
  ∀ ticket id error, Replied history ticket (.response id (.error error)) →
    ∀ other ∈ accepted history, other ≠ ticket →
      (∃ own result, Replied history other (.response own (.ok result))) ∨ Closed history other

/-- Nobody is answered together with a failed request, and nobody after it. -/
def EndsWithFailure (before : List Entry) (entry : Entry) : Prop :=
  (Failed before → ∀ ticket reply, .replied ticket reply ∉ entry.effects) ∧
    ∀ ticket id error, .replied ticket (.response id (.error error)) ∈ entry.effects →
      ∀ other reply, .replied other reply ∈ entry.effects → other = ticket

def Satisfied (history : List Entry) (ticket : Ticket) : Prop :=
  ∃ id result, Registered history id ticket ∧ Replied history ticket (.response id (.ok result))

/-- The first failed response ends the session: nobody else is answered with it or after it, and
everyone else was served before or is closed. -/
def FailureCloses (history : List Entry) : Prop :=
  ∀ before entry after, history = before ++ entry :: after → ∀ ticket id error,
    .replied ticket (.response id (.error error)) ∈ entry.effects →
      (∀ other reply, .replied other reply ∈ entry.effects → other = ticket) ∧
        (∀ later ∈ after, ∀ other reply, .replied other reply ∉ later.effects) ∧
          ∀ other ∈ accepted history, other ≠ ticket → Satisfied before other ∨ Closed history other

theorem replied_append {history : List Entry} {entry : Entry} {ticket : Ticket} {reply : Reply} :
    Replied (history ++ [entry]) ticket reply ↔
      Replied history ticket reply ∨ .replied ticket reply ∈ entry.effects := by
  simp [Replied, or_and_right, exists_or]

theorem closed_append {history : List Entry} {entry : Entry} {ticket : Ticket} :
    Closed (history ++ [entry]) ticket ↔
      Closed history ticket ∨ .closed ticket ∈ entry.effects := by
  simp [Closed, or_and_right, exists_or]

theorem sent_append {history : List Entry} {entry : Entry} {msg : BatchMsg} :
    Sent (history ++ [entry]) msg ↔ Sent history msg ∨ entry.cause = .sent msg := by
  simp [Sent, or_and_right, exists_or]

theorem answered_append {history : List Entry} {entry : Entry} {id : Uuid} {ticket : Ticket}
    {result : Except Error BatchWriteResult} :
    Answered (history ++ [entry]) id ticket result ↔ Answered history id ticket result ∨
      (entry.cause = .sent (.response ⟨id, result⟩) ∧ Registered history id ticket) := by
  constructor
  · intro ⟨before, middle, after, split, cause, known⟩
    rcases Chronicle.split_append split with ⟨rfl, rfl, rfl⟩ | ⟨rest, _, earlier⟩
    · exact Or.inr ⟨cause, known⟩
    · exact Or.inl ⟨before, middle, rest, earlier, cause, known⟩
  · rintro (⟨before, middle, after, rfl, cause, known⟩ | ⟨cause, known⟩)
    · refine ⟨before, middle, after ++ [entry], ?_, cause, known⟩
      rw [List.append_assoc, List.cons_append]
    · exact ⟨history, entry, [], rfl, cause, known⟩

theorem mem_resolved {history : List Entry} {ticket : Ticket} :
    ticket ∈ resolved history ↔ (∃ reply, Replied history ticket reply) ∨ Closed history ticket := by
  simp only [resolved, List.mem_flatMap, Entry.resolved, List.mem_filterMap]
  constructor
  · rintro ⟨entry, member, effect, present, same⟩
    cases effect with
    | forwarded req => cases same
    | replied other reply =>
        cases same
        exact Or.inl ⟨reply, entry, member, present⟩
    | closed other =>
        cases same
        exact Or.inr ⟨entry, member, present⟩
  · rintro (⟨reply, entry, member, present⟩ | ⟨entry, member, present⟩)
    · exact ⟨entry, member, _, present, rfl⟩
    · exact ⟨entry, member, _, present, rfl⟩

def Session.openIds (session : Session) : List Uuid :=
  session.mailbox.filterMap BatchMsg.id ++ (session.reg.getD []).map Prod.fst

structure Orderly (session : Session) : Prop where
  distinct : session.openIds.Nodup
  named : ∀ id ∈ session.openIds, id ∈ requestIds session.history
  calm : ∀ error, .error error ∉ session.mailbox
  plain : ∀ ticket error, ¬ Replied session.history ticket (.session error)
  sent : ∀ msg ∈ session.mailbox, Sent session.history msg
  given : ∀ ticket id result, Replied session.history ticket (.response id result) →
    Sent session.history (.response ⟨id, result⟩)
  intact : ∀ reg, session.reg = some reg →
    (∀ ticket, ¬ Closed session.history ticket) ∧ ¬ Failed session.history
  completed : ∀ reg, session.reg = some reg → ∀ id ticket, Registered session.history id ticket →
    (id, ticket) ∈ reg ∨ ∃ result, Replied session.history ticket (.response id result)
  owed : ¬ Failed session.history → ∀ id ticket result, Answered session.history id ticket result →
    .response ⟨id, result⟩ ∈ session.mailbox ∨
      ∃ other, Replied session.history ticket (.response id other)
  failure : FailureLeaves session.history
  ends : Chronicle EndsWithFailure session.history
  completes : Chronicle CompletesPending session.history

theorem requestIds_append (history : List Entry) (entry : Entry) :
    requestIds (history ++ [entry]) = requestIds history ++ entry.cause.id.toList := by
  rw [requestIds, List.filterMap_append]
  cases named : entry.cause.id <;> simp [named, requestIds]

theorem failed_append {history : List Entry} {entry : Entry} (failed : Failed (history ++ [entry])) :
    Failed history ∨
      ∃ ticket id error, .replied ticket (.response id (.error error)) ∈ entry.effects := by
  obtain ⟨ticket, id, error, replied⟩ := failed
  rcases replied_append.mp replied with earlier | now
  · exact Or.inl ⟨ticket, id, error, earlier⟩
  · exact Or.inr ⟨ticket, id, error, now⟩

theorem failureLeaves_of_intact {history : List Entry} (intact : ¬ Failed history) :
    FailureLeaves history := by
  intro ticket id error replied
  exact absurd ⟨ticket, id, error, replied⟩ intact

theorem displaced_unknown {reg : Registry} {id : Uuid} (unknown : id ∉ reg.map Prod.fst) :
    reg.displaced id = [] := by
  apply List.map_eq_nil_iff.mpr
  apply List.filter_eq_nil_iff.mpr
  intro entry member same
  exact unknown (List.mem_map.mpr ⟨entry, member, of_decide_eq_true same⟩)

theorem outcome_alive {reg next : Registry} {msg : BatchMsg} {forwardOpen : Bool}
    {effects : List Effect} (fresh : ∀ id, msg.id = some id → id ∉ reg.map Prod.fst)
    (outcome : Outcome reg msg forwardOpen ⟨some next, effects⟩) :
    (∀ ticket, .closed ticket ∉ effects) ∧
      ∀ ticket id error, .replied ticket (.response id (.error error)) ∉ effects := by
  cases outcome with
  | registered msg =>
      rw [displaced_unknown (fresh msg.req.id rfl), List.map_nil]
      constructor
      · intro ticket member
        cases List.mem_singleton.mp member
      · intro ticket id error member
        cases List.mem_singleton.mp member
  | completed id ticket result forwardOpen found =>
      constructor
      · intro other member
        cases List.mem_singleton.mp member
      · intro other same error member
        cases List.mem_singleton.mp member
  | unknown resp forwardOpen missing =>
      constructor
      · intro ticket member
        cases member
      · intro ticket id error member
        cases member

theorem outcome_openIds {reg next : Registry} {msg : BatchMsg} {forwardOpen : Bool}
    {effects : List Effect} (outcome : Outcome reg msg forwardOpen ⟨some next, effects⟩) :
    (next.map Prod.fst).Subperm (msg.id.toList ++ reg.map Prod.fst) := by
  have shrinks : ∀ id, ((reg.remove id).map Prod.fst).Sublist (reg.map Prod.fst) := by
    intro id
    exact List.Sublist.map _ List.filter_sublist
  cases outcome with
  | registered msg => exact ((shrinks msg.req.id).cons_cons msg.req.id).subperm
  | completed id ticket result forwardOpen found => exact (shrinks id).subperm
  | unknown resp forwardOpen missing => exact List.Subperm.refl _

theorem openIds_taken {session : Session} {reg : Registry} {msg : BatchMsg} {rest : List BatchMsg}
    (alive : session.reg = some reg) (taken : session.mailbox = msg :: rest) :
    session.openIds.Perm (rest.filterMap BatchMsg.id ++ (msg.id.toList ++ reg.map Prod.fst)) := by
  have head : (msg :: rest).filterMap BatchMsg.id =
      msg.id.toList ++ rest.filterMap BatchMsg.id := by
    cases msg <;> rfl
  rw [Session.openIds, alive, taken, head, Option.getD_some, ← List.append_assoc]
  exact List.perm_append_comm.append_right _

theorem replied_of_append {history : List Entry} {ticket : Ticket} {reply : Reply}
    (replied : Replied history ticket reply) (entry : Entry) :
    Replied (history ++ [entry]) ticket reply :=
  replied_append.mpr (Or.inl replied)

theorem failed_of_append {history : List Entry} (failed : Failed history) (entry : Entry) :
    Failed (history ++ [entry]) := by
  obtain ⟨ticket, id, error, replied⟩ := failed
  exact ⟨ticket, id, error, replied_of_append replied entry⟩

theorem outcome_held {reg next : Registry} {msg : BatchMsg} {forwardOpen : Bool}
    {effects : List Effect} {id : Uuid} {ticket : Ticket}
    (distinct : (reg.map Prod.fst).Nodup) (fresh : ∀ id, msg.id = some id → id ∉ reg.map Prod.fst)
    (outcome : Outcome reg msg forwardOpen ⟨some next, effects⟩) (member : (id, ticket) ∈ reg) :
    ((id, ticket) ∈ next ∧ ∀ result, msg ≠ .response ⟨id, result⟩) ∨
      ∃ result, .replied ticket (.response id result) ∈ effects := by
  cases outcome with
  | registered msg =>
      refine Or.inl ⟨List.mem_cons_of_mem _ (mem_remove.mpr ⟨member, ?_⟩), ?_⟩
      · intro same
        exact fresh msg.req.id rfl (List.mem_map.mpr ⟨_, member, same⟩)
      · intro result impossible
        cases impossible
  | completed other found result forwardOpen present =>
      by_cases same : id = other
      · subst same
        rw [lookup_of_mem distinct member] at present
        cases present
        exact Or.inr ⟨.ok result, List.mem_cons_self⟩
      · refine Or.inl ⟨mem_remove.mpr ⟨member, same⟩, ?_⟩
        intro other equal
        cases equal
        exact same rfl
  | unknown resp forwardOpen missing =>
      refine Or.inl ⟨member, ?_⟩
      intro result same
      cases same
      rw [lookup_of_mem distinct member] at missing
      cases missing

theorem answered_registered {history : List Entry} {id : Uuid} {ticket : Ticket}
    {result : Except Error BatchWriteResult} (answered : Answered history id ticket result) :
    Registered history id ticket := by
  obtain ⟨before, entry, after, split, _, req, effects, same, forwarded, member⟩ := answered
  rw [split]
  exact ⟨req, effects, same, forwarded, List.mem_append_left _ member⟩

/-- Whoever was forwarded still waits, for another message than this one, or has his response. -/
theorem Orderly.served {session : Session} {reg next : Registry} {msg : BatchMsg}
    {effects : List Effect} {id : Uuid} {ticket : Ticket} (orderly : Orderly session)
    (invariant : Invariant session) (alive : session.reg = some reg)
    (fresh : ∀ id, msg.id = some id → id ∉ reg.map Prod.fst)
    (outcome : Outcome reg msg true ⟨some next, effects⟩)
    (known : Registered session.history id ticket) :
    ((id, ticket) ∈ next ∧ ∀ result, msg ≠ .response ⟨id, result⟩) ∨
      (∃ result, .replied ticket (.response id result) ∈ effects) ∨
      ∃ result, Replied session.history ticket (.response id result) := by
  rcases orderly.completed reg alive id ticket known with member | replied
  · rcases outcome_held (invariant.distinct reg alive) fresh outcome member with held | now
    · exact Or.inl held
    · exact Or.inr (Or.inl now)
  · exact Or.inr (Or.inr replied)

section Alive

variable {session : Session} {reg next : Registry} {msg : BatchMsg} {rest : List BatchMsg}
variable {effects : List Effect} {id : Uuid} {ticket : Ticket}

theorem Orderly.completed_alive (orderly : Orderly session) (invariant : Invariant session)
    (alive : session.reg = some reg) (fresh : ∀ id, msg.id = some id → id ∉ reg.map Prod.fst)
    (outcome : Outcome reg msg true ⟨some next, effects⟩)
    (known : Registered (session.history ++ [⟨.processed msg true, effects⟩]) id ticket) :
    (id, ticket) ∈ next ∨ ∃ result,
      Replied (session.history ++ [⟨.processed msg true, effects⟩]) ticket (.response id result) := by
  rcases registered_of_append known with earlier | ⟨req, same, now⟩
  · rcases orderly.served invariant alive fresh outcome earlier with
      ⟨kept, _⟩ | ⟨result, now⟩ | ⟨result, replied⟩
    · exact Or.inl kept
    · exact Or.inr ⟨result, replied_append.mpr (Or.inr now)⟩
    · exact Or.inr ⟨result, replied_of_append replied _⟩
  · cases now
    cases outcome with
    | registered _ => exact Or.inl (same ▸ List.mem_cons_self)

theorem Orderly.completes_alive (orderly : Orderly session) (invariant : Invariant session)
    (alive : session.reg = some reg) (fresh : ∀ id, msg.id = some id → id ∉ reg.map Prod.fst)
    (outcome : Outcome reg msg true ⟨some next, effects⟩) :
    CompletesPending session.history ⟨.processed msg true, effects⟩ := by
  intro id result forwardOpen same ticket known unanswered
  cases same
  rcases orderly.served invariant alive fresh outcome known with
    ⟨_, other⟩ | ⟨other, now⟩ | ⟨other, replied⟩
  · exact absurd rfl (other result)
  · rcases outcome_replied outcome now with ⟨_, _, equal, same, _⟩ | ⟨_, impossible, _⟩
    · cases equal
      cases same
      exact now
    · cases impossible
  · exact absurd replied (unanswered _)

/-- A response that waited for its turn was this message, or waits on. -/
theorem Orderly.owed_alive {result : Except Error BatchWriteResult} (orderly : Orderly session)
    (invariant : Invariant session) (alive : session.reg = some reg)
    (taken : session.mailbox = msg :: rest)
    (fresh : ∀ id, msg.id = some id → id ∉ reg.map Prod.fst)
    (outcome : Outcome reg msg true ⟨some next, effects⟩)
    (answered : Answered session.history id ticket result) :
    .response ⟨id, result⟩ ∈ rest ∨ ∃ other,
      Replied (session.history ++ [⟨.processed msg true, effects⟩]) ticket (.response id other) := by
  rcases orderly.owed (orderly.intact reg alive).2 id ticket result answered with
    waits | ⟨other, replied⟩
  · rw [taken] at waits
    rcases List.mem_cons.mp waits with same | further
    · rcases orderly.served invariant alive fresh outcome (answered_registered answered) with
        ⟨_, other⟩ | ⟨other, now⟩ | ⟨other, replied⟩
      · exact absurd same.symm (other result)
      · exact Or.inr ⟨other, replied_append.mpr (Or.inr now)⟩
      · exact Or.inr ⟨other, replied_of_append replied _⟩
    · exact Or.inl further
  · exact Or.inr ⟨other, replied_of_append replied _⟩

theorem orderly_alive (invariant : Invariant session) (orderly : Orderly session)
    (alive : session.reg = some reg) (taken : session.mailbox = msg :: rest)
    (outcome : Outcome reg msg true ⟨some next, effects⟩) :
    Orderly ⟨rest, some next, session.history ++ [⟨.processed msg true, effects⟩]⟩ := by
  have order := openIds_taken alive taken
  have allDistinct := order.nodup_iff.mp orderly.distinct
  have shrinks : (rest.filterMap BatchMsg.id ++ next.map Prod.fst).Subperm session.openIds :=
    ((List.subperm_append_left _).mpr (outcome_openIds outcome)).trans order.symm.subperm
  have fresh : ∀ id, msg.id = some id → id ∉ reg.map Prod.fst := by
    intro id same member
    rw [same, List.nodup_append] at allDistinct
    exact (List.nodup_cons.mp allDistinct.2.1).1 member
  have quiet := outcome_alive fresh outcome
  have intact := orderly.intact reg alive
  have stays : ¬ Failed (session.history ++ [⟨.processed msg true, effects⟩]) := by
    intro failed
    rcases failed_append failed with earlier | ⟨ticket, id, error, now⟩
    · exact intact.2 earlier
    · exact quiet.2 ticket id error now
  have ends : EndsWithFailure session.history ⟨.processed msg true, effects⟩ :=
    ⟨fun failed => absurd failed intact.2,
      fun ticket id error now => absurd now (quiet.2 ticket id error)⟩
  refine ⟨?_, ?_, ?_, ?_, ?_, ?_, ?_, ?_, ?_, failureLeaves_of_intact stays,
    orderly.ends.extend ends,
    orderly.completes.extend (orderly.completes_alive invariant alive fresh outcome)⟩
  · obtain ⟨kept, same, part⟩ := shrinks
    exact same.nodup_iff.mp (orderly.distinct.sublist part)
  · intro id member
    rw [requestIds_append]
    exact List.mem_append_left _ (orderly.named id (shrinks.subset member))
  · intro error member
    exact orderly.calm error (taken ▸ List.mem_cons_of_mem _ member)
  · intro ticket error replied
    rcases replied_append.mp replied with earlier | now
    · exact orderly.plain ticket error earlier
    · rcases outcome_replied outcome now with ⟨_, _, impossible, _⟩ | ⟨other, _, rfl, _⟩
      · cases impossible
      · exact orderly.calm other (taken ▸ List.mem_cons_self)
  · intro other member
    exact sent_append.mpr (Or.inl (orderly.sent other (taken ▸ List.mem_cons_of_mem _ member)))
  · intro ticket id result replied
    rcases replied_append.mp replied with earlier | now
    · exact sent_append.mpr (Or.inl (orderly.given ticket id result earlier))
    · rcases outcome_replied outcome now with ⟨other, found, same, rfl, _⟩ | ⟨error, impossible, _⟩
      · cases same
        exact sent_append.mpr (Or.inl (orderly.sent _ (taken ▸ List.mem_cons_self)))
      · cases impossible
  · intro after same
    refine ⟨?_, stays⟩
    intro ticket closed
    rcases closed_append.mp closed with earlier | now
    · exact intact.1 ticket earlier
    · exact quiet.1 ticket now
  · intro after same id ticket known
    cases same
    exact orderly.completed_alive invariant alive fresh outcome known
  · intro _ id ticket result answered
    rcases answered_append.mp answered with earlier | ⟨impossible, _⟩
    · exact orderly.owed_alive invariant alive taken fresh outcome earlier
    · cases impossible

end Alive

section Failing

variable {session : Session} {reg : Registry} {rest : List BatchMsg} {id : Uuid} {ticket : Ticket}
variable {error : Error} {other : Ticket}

/-- As long as the actor lives, whoever was resolved has a successful response of his own. -/
theorem Orderly.settled (orderly : Orderly session) (alive : session.reg = some reg)
    (done : other ∈ resolved session.history) :
    ∃ own result, Replied session.history other (.response own (.ok result)) := by
  have intact := orderly.intact reg alive
  rcases mem_resolved.mp done with ⟨reply, replied⟩ | closed
  · cases reply with
    | session cause => exact absurd replied (orderly.plain other cause)
    | response own result =>
        cases result with
        | ok result => exact ⟨own, result, replied⟩
        | error cause => exact absurd ⟨other, own, cause, replied⟩ intact.2
  · exact absurd closed (intact.1 other)

theorem failure_closes_waiting (distinct : (reg.map Prod.fst).Nodup)
    (alive : session.reg = some reg)
    (taken : session.mailbox = .response ⟨id, .error error⟩ :: rest)
    (found : reg.lookup id = some ticket) (waits : other ∈ session.waiting)
    (different : other ≠ ticket) :
    .closed other ∈ (.replied ticket (.response id (.error error)) ::
      (reg.remove id).tickets.map .closed) ++ rest.flatMap BatchMsg.lost := by
  rw [Session.waiting, alive, taken, Option.getD_some, List.mem_append] at waits
  rcases waits with queued | registered
  · obtain ⟨msg, present, named⟩ := List.mem_filterMap.mp queued
    rcases List.mem_cons.mp present with impossible | further
    · subst impossible
      cases named
    · refine List.mem_append_right _ (List.mem_flatMap.mpr ⟨msg, further, ?_⟩)
      rw [BatchMsg.lost, named]
      exact List.mem_singleton_self _
  · rcases List.mem_cons.mp ((lookup_tickets distinct found).mem_iff.mp registered) with
      own | further
    · exact absurd own different
    · exact List.mem_append_left _
        (List.mem_cons_of_mem _ (List.mem_map.mpr ⟨other, further, rfl⟩))

theorem orderly_failed (invariant : Invariant session) (orderly : Orderly session)
    (alive : session.reg = some reg) (taken : session.mailbox = .response ⟨id, .error error⟩ :: rest)
    (found : reg.lookup id = some ticket) :
    Orderly ⟨[], none, session.history ++ [⟨.processed (.response ⟨id, .error error⟩) true,
      (.replied ticket (.response id (.error error)) :: (reg.remove id).tickets.map .closed) ++
        rest.flatMap BatchMsg.lost⟩]⟩ := by
  have intact := orderly.intact reg alive
  have distinct := invariant.distinct reg alive
  generalize grown : Entry.mk (.processed (.response ⟨id, .error error⟩) true)
    ((.replied ticket (.response id (.error error)) :: (reg.remove id).tickets.map .closed) ++
      rest.flatMap BatchMsg.lost) = entry
  have only : ∀ other reply, .replied other reply ∈ entry.effects →
      other = ticket ∧ reply = .response id (.error error) := by
    intro other reply member
    rw [← grown] at member
    rcases List.mem_append.mp member with done | impossible
    · rcases List.mem_cons.mp done with same | closed
      · cases same
        exact ⟨rfl, rfl⟩
      · exact absurd closed replied_not_closed
    · exact absurd impossible replied_not_lost
  have failed : Failed (session.history ++ [entry]) := by
    refine ⟨ticket, id, error, replied_append.mpr (Or.inr ?_)⟩
    rw [← grown]
    exact List.mem_cons_self
  have completes : CompletesPending session.history entry := by
    intro own result forwardOpen same other known unanswered
    rw [← grown] at same ⊢
    cases same
    rcases orderly.completed reg alive id other known with member | ⟨given, replied⟩
    · rw [lookup_of_mem distinct member] at found
      cases found
      exact List.mem_cons_self
    · exact absurd replied (unanswered _)
  have ends : EndsWithFailure session.history entry := by
    refine ⟨fun earlier => absurd earlier intact.2, ?_⟩
    intro culprit own cause now other reply also
    exact (only other reply also).1.trans (only culprit _ now).1.symm
  refine ⟨List.nodup_nil, ?_, ?_, ?_, ?_, ?_, ?_, ?_, fun intact => absurd failed intact, ?_,
    orderly.ends.extend ends, orderly.completes.extend completes⟩
  · intro other member
    cases member
  · intro other member
    cases member
  · intro other cause replied
    rcases replied_append.mp replied with earlier | now
    · exact orderly.plain other cause earlier
    · cases (only other _ now).2
  · intro other member
    cases member
  · intro other own result replied
    rcases replied_append.mp replied with earlier | now
    · exact sent_append.mpr (Or.inl (orderly.given other own result earlier))
    · cases (only other _ now).2
      exact sent_append.mpr (Or.inl (orderly.sent _ (taken ▸ List.mem_cons_self)))
  · intro after impossible
    cases impossible
  · intro after impossible
    cases impossible
  · intro culprit own cause replied other member different
    have same : culprit = ticket := by
      rcases replied_append.mp replied with earlier | now
      · exact absurd ⟨culprit, own, cause, earlier⟩ intact.2
      · exact (only culprit _ now).1
    have known : other ∈ accepted session.history := by
      rw [accepted_append, ← grown] at member
      simpa [Cause.accepted] using member
    rcases (invariant.ledger.mem_issued other).mp known with waits | done
    · refine Or.inr (closed_append.mpr (Or.inr ?_))
      rw [← grown]
      exact failure_closes_waiting distinct alive taken found waits (same ▸ different)
    · obtain ⟨own, result, replied⟩ := orderly.settled alive done
      exact Or.inl ⟨own, result, replied_of_append replied _⟩

end Failing

structure Aside (session : Session) (mailbox : List BatchMsg) (reg : Option Registry)
    (entry : Entry) : Prop where
  silent : ∀ ticket reply, Effect.replied ticket reply ∉ entry.effects
  outside : ∀ msg forwardOpen, entry.cause ≠ .processed msg forwardOpen
  calm : ∀ error, entry.cause ≠ .sent (.error error)
  keeps : ∀ msg ∈ session.mailbox, msg ∈ mailbox
  queued : ∀ msg ∈ mailbox, msg ∈ session.mailbox ∨ entry.cause = .sent msg
  delivers : ∀ msg, entry.cause = .sent msg → msg ∈ mailbox
  same : ∀ current, reg = some current → session.reg = some current
  spares : ∀ current, reg = some current → ∀ ticket, .closed ticket ∉ entry.effects
  closed : session.reg = none → ∀ ticket, entry.cause.accepted = some ticket →
    .closed ticket ∈ entry.effects

theorem orderly_aside {session : Session} {mailbox : List BatchMsg} {reg : Option Registry}
    {entry : Entry} (orderly : Orderly session) (aside : Aside session mailbox reg entry)
    (distinct : (mailbox.filterMap BatchMsg.id ++ (reg.getD []).map Prod.fst).Nodup)
    (named : ∀ id ∈ mailbox.filterMap BatchMsg.id ++ (reg.getD []).map Prod.fst,
      id ∈ session.openIds ∨ entry.cause.id = some id) :
    Orderly ⟨mailbox, reg, session.history ++ [entry]⟩ := by
  have before : ∀ {ticket reply}, Replied (session.history ++ [entry]) ticket reply →
      Replied session.history ticket reply := by
    intro ticket reply replied
    rcases replied_append.mp replied with earlier | now
    · exact earlier
    · exact absurd now (aside.silent ticket reply)
  have failed : Failed (session.history ++ [entry]) → Failed session.history := by
    intro ⟨ticket, id, error, replied⟩
    exact ⟨ticket, id, error, before replied⟩
  have completes : CompletesPending session.history entry := by
    intro id result forwardOpen impossible
    exact absurd impossible (aside.outside _ _)
  have ends : EndsWithFailure session.history entry :=
    ⟨fun _ => aside.silent, fun ticket id error now => absurd now (aside.silent ticket _)⟩
  refine ⟨distinct, ?_, ?_, ?_, ?_, ?_, ?_, ?_, ?_, ?_, orderly.ends.extend ends,
    orderly.completes.extend completes⟩
  · intro id member
    rw [requestIds_append]
    rcases named id member with earlier | now
    · exact List.mem_append_left _ (orderly.named id earlier)
    · rw [now]
      exact List.mem_append_right _ (List.mem_singleton_self id)
  · intro error member
    rcases aside.queued _ member with earlier | now
    · exact orderly.calm error earlier
    · exact aside.calm error now
  · intro ticket error replied
    exact orderly.plain ticket error (before replied)
  · intro msg member
    rcases aside.queued msg member with earlier | now
    · exact sent_append.mpr (Or.inl (orderly.sent msg earlier))
    · exact sent_append.mpr (Or.inr now)
  · intro ticket id result replied
    exact sent_append.mpr (Or.inl (orderly.given ticket id result (before replied)))
  · intro current alive
    have intact := orderly.intact current (aside.same current alive)
    refine ⟨?_, fun again => intact.2 (failed again)⟩
    intro ticket closed
    rcases closed_append.mp closed with earlier | now
    · exact intact.1 ticket earlier
    · exact aside.spares current alive ticket now
  · intro current alive id ticket known
    rcases registered_of_append known with earlier | ⟨req, _, impossible⟩
    · rcases orderly.completed current (aside.same current alive) id ticket earlier with
        member | ⟨result, replied⟩
      · exact Or.inl member
      · exact Or.inr ⟨result, replied_of_append replied _⟩
    · exact absurd impossible (aside.outside _ _)
  · intro intact id ticket result answered
    rcases answered_append.mp answered with earlier | ⟨now, _⟩
    · have still : ¬ Failed session.history := fun again => intact (failed_of_append again entry)
      rcases orderly.owed still id ticket result earlier with waits | ⟨other, replied⟩
      · exact Or.inl (aside.keeps _ waits)
      · exact Or.inr ⟨other, replied_of_append replied _⟩
    · exact Or.inl (aside.delivers _ now)
  · intro ticket id error replied other member different
    have earlier := before replied
    rw [accepted_append] at member
    rcases List.mem_append.mp member with known | now
    · rcases orderly.failure ticket id error earlier other known different with
        ⟨own, result, given⟩ | closed
      · exact Or.inl ⟨own, result, replied_of_append given _⟩
      · exact Or.inr (closed_append.mpr (Or.inl closed))
    · cases gone : session.reg with
      | some current => exact absurd ⟨ticket, id, error, earlier⟩ (orderly.intact current gone).2
      | none =>
          exact Or.inr (closed_append.mpr
            (Or.inr (aside.closed gone other (Option.mem_toList.mp now))))

theorem send_orderly {session next : Session} {msg : BatchMsg} (orderly : Orderly session)
    (ordinary : Ordinary session (.send msg)) (stepped : session.send msg = some next) :
    Orderly next := by
  have calm : ∀ error, Cause.sent msg ≠ .sent (.error error) := by
    intro error same
    cases same
    exact ordinary
  have fresh : ∀ id, msg.id = some id → id ∉ session.openIds := by
    intro id same member
    cases msg with
    | request msg =>
        cases same
        exact ordinary (orderly.named _ member)
    | response resp => cases same
    | error error => cases same
  obtain ⟨_, ⟨reg, alive, rfl⟩ | ⟨gone, rfl⟩⟩ := send_cases stepped
  · have order : ((session.mailbox ++ [msg]).filterMap BatchMsg.id ++
        (session.reg.getD []).map Prod.fst).Perm (msg.id.toList ++ session.openIds) := by
      have last : [msg].filterMap BatchMsg.id = msg.id.toList := by cases msg <;> rfl
      rw [List.filterMap_append, last, Session.openIds, ← List.append_assoc]
      exact List.perm_append_comm.append_right _
    apply orderly_aside orderly
    · refine ⟨?_, ?_, calm, ?_, ?_, ?_, fun _ same => same, ?_, ?_⟩
      · intro ticket reply member
        cases member
      · intro other forwardOpen impossible
        cases impossible
      · intro other member
        exact List.mem_append_left _ member
      · intro other member
        rcases List.mem_append.mp member with earlier | now
        · exact Or.inl earlier
        · rw [List.mem_singleton.mp now]
          exact Or.inr rfl
      · intro other same
        cases same
        exact List.mem_append_right _ (List.mem_singleton_self _)
      · intro current _ ticket member
        cases member
      · intro gone
        rw [alive] at gone
        cases gone
    · apply order.nodup_iff.mpr
      cases named : msg.id with
      | none => exact orderly.distinct
      | some id => exact List.nodup_cons.mpr ⟨fresh id named, orderly.distinct⟩
    · intro id member
      rcases List.mem_append.mp (order.mem_iff.mp member) with now | earlier
      · exact Or.inr (Option.mem_toList.mp now)
      · exact Or.inl earlier
  · apply orderly_aside orderly
    · refine ⟨?_, ?_, ?_, fun _ member => member, fun _ => Or.inl, ?_, fun _ same => same, ?_, ?_⟩
      · intro ticket reply member
        obtain ⟨other, _, impossible⟩ := List.mem_map.mp member
        cases impossible
      · intro other forwardOpen impossible
        cases impossible
      · intro error impossible
        cases impossible
      · intro other impossible
        cases impossible
      · intro current alive
        rw [gone] at alive
        cases alive
      · intro _ ticket accepts
        exact List.mem_map.mpr ⟨ticket, Option.mem_toList.mpr accepts, rfl⟩
    · exact orderly.distinct
    · exact fun id member => Or.inl member

theorem cancel_orderly {session : Session} (orderly : Orderly session) (ticket : Ticket) :
    Orderly { session with history := session.history ++ [⟨.cancelled ticket, []⟩] } := by
  apply orderly_aside orderly
  · refine ⟨?_, ?_, ?_, fun _ member => member, fun _ => Or.inl, ?_, fun _ same => same, ?_, ?_⟩
    · intro other reply member
      cases member
    · intro msg forwardOpen impossible
      cases impossible
    · intro error impossible
      cases impossible
    · intro msg impossible
      cases impossible
    · intro current _ other member
      cases member
    · intro _ other impossible
      cases impossible
  · exact orderly.distinct
  · exact fun id member => Or.inl member

theorem hangUp_orderly {session next : Session} (orderly : Orderly session)
    (stepped : session.hangUp = some next) : Orderly next := by
  obtain ⟨reg, alive, empty, rfl⟩ := hangUp_cases stepped
  apply orderly_aside orderly
  · refine ⟨?_, ?_, ?_, ?_, ?_, ?_, ?_, ?_, ?_⟩
    · intro ticket reply member
      exact absurd (List.append_nil _ ▸ member) replied_not_closed
    · intro msg forwardOpen impossible
      cases impossible
    · intro error impossible
      cases impossible
    · intro msg member
      rw [empty] at member
      exact member
    · intro msg member
      cases member
    · intro msg impossible
      cases impossible
    · intro current impossible
      cases impossible
    · intro current impossible
      cases impossible
    · intro gone
      rw [alive] at gone
      cases gone
  · exact List.nodup_nil
  · intro id member
    cases member

theorem receive_orderly {session next : Session} (invariant : Invariant session)
    (orderly : Orderly session) (stepped : session.receive true = some next) : Orderly next := by
  obtain ⟨reg, msg, rest, alive, taken, rfl⟩ := receive_cases stepped
  have outcome := handle_outcome reg msg true
  generalize handle reg msg true = handled at outcome ⊢
  cases outcome with
  | registered msg => exact orderly_alive invariant orderly alive taken (.registered msg)
  | completed id ticket result _ found =>
      exact orderly_alive invariant orderly alive taken (.completed id ticket result true found)
  | failed id ticket error _ found => exact orderly_failed invariant orderly alive taken found
  | unknown resp _ missing =>
      exact orderly_alive invariant orderly alive taken (.unknown resp true missing)
  | session error _ => exact absurd (taken ▸ List.mem_cons_self) (orderly.calm error)

theorem start_orderly : Orderly .start := by
  have nothing : ∀ {ticket reply}, ¬ Replied Session.start.history ticket reply := by
    intro ticket reply ⟨entry, member, _⟩
    cases member
  have intact : ¬ Failed Session.start.history := by
    intro ⟨ticket, id, error, replied⟩
    exact nothing replied
  refine ⟨List.nodup_nil, ?_, ?_, ?_, ?_, ?_, ?_, ?_, ?_, failureLeaves_of_intact intact,
    Chronicle.empty, Chronicle.empty⟩
  · intro id member
    cases member
  · intro error member
    cases member
  · exact fun ticket error => nothing
  · intro msg member
    cases member
  · exact fun ticket id result replied => absurd replied nothing
  · intro reg alive
    refine ⟨?_, intact⟩
    intro ticket ⟨entry, member, _⟩
    cases member
  · intro reg alive id ticket ⟨req, effects, _, _, member⟩
    cases member
  · intro _ id ticket result ⟨before, entry, after, split, _⟩
    exact absurd split (List.append_ne_nil_of_right_ne_nil before (List.cons_ne_nil _ _)).symm

theorem run_keeps_orderly {labels : List Label} {session : Session}
    (ordinary : machine.Guarded Ordinary .start labels)
    (ran : machine.run .start labels = some session) : Orderly session := by
  have both := machine.guarded_invariant Ordinary (fun state => Invariant state ∧ Orderly state) ?_
    ⟨start_invariant, start_orderly⟩ ordinary ran
  · exact both.2
  · intro state label next holds guard stepped
    refine ⟨step_invariant holds.1 stepped, ?_⟩
    cases label with
    | send msg => exact send_orderly holds.2 guard stepped
    | cancel ticket =>
        cases stepped
        exact cancel_orderly holds.2 ticket
    | receive forwardOpen =>
        cases guard
        exact receive_orderly holds.1 holds.2 stepped
    | hangUp => exact hangUp_orderly holds.2 stepped

theorem registered_of_prefix {before after : List Entry} {id : Uuid} {ticket : Ticket}
    (known : Registered before id ticket) : Registered (before ++ after) id ticket := by
  obtain ⟨req, effects, same, forwarded, member⟩ := known
  exact ⟨req, effects, same, forwarded, List.mem_append_left _ member⟩

theorem replied_before {before after : List Entry} {entry : Entry} {ticket : Ticket} {reply : Reply}
    (replied : Replied (before ++ entry :: after) ticket reply)
    (now : .replied ticket reply ∉ entry.effects)
    (later : ∀ next ∈ after, .replied ticket reply ∉ next.effects) :
    Replied before ticket reply := by
  obtain ⟨given, member, present⟩ := replied
  rcases List.mem_append.mp member with earlier | rest
  · exact ⟨given, earlier, present⟩
  · rcases List.mem_cons.mp rest with same | further
    · exact absurd (same ▸ present) now
    · exact absurd present (later given further)

theorem satisfied_of_replied {before after : List Entry} {ticket : Ticket} {id : Uuid}
    {result : BatchWriteResult} (justified : Chronicle Justified (before ++ after))
    (replied : Replied before ticket (.response id (.ok result))) : Satisfied before ticket := by
  obtain ⟨entry, member, present⟩ := replied
  obtain ⟨front, back, rfl⟩ := List.append_of_mem member
  have whole : (front ++ entry :: back) ++ after = front ++ entry :: (back ++ after) := by
    rw [List.append_assoc, List.cons_append]
  obtain ⟨_, known⟩ := justified front entry _ whole ticket _ present
  exact ⟨id, result, registered_of_prefix known, entry, member, present⟩

theorem failure_closes {history : List Entry} (justified : Chronicle Justified history)
    (ends : Chronicle EndsWithFailure history) (leaves : FailureLeaves history) :
    FailureCloses history := by
  intro before entry after split ticket id error failed
  have alone := (ends before entry after split).2 ticket id error failed
  have silent : ∀ later ∈ after, ∀ other reply, .replied other reply ∉ later.effects := by
    intro later member
    obtain ⟨front, back, rfl⟩ := List.append_of_mem member
    have whole : history = (before ++ entry :: front) ++ later :: back := by
      rw [split, List.append_assoc, List.cons_append]
    refine (ends _ later back whole).1 ⟨ticket, id, error, entry, ?_, failed⟩
    exact List.mem_append_right before List.mem_cons_self
  refine ⟨alone, silent, ?_⟩
  intro other accepts different
  subst split
  have culprit : Replied (before ++ entry :: after) ticket (.response id (.error error)) :=
    ⟨entry, List.mem_append_right before List.mem_cons_self, failed⟩
  rcases leaves ticket id error culprit other accepts different with ⟨own, result, replied⟩ | closed
  · have earlier := replied_before replied (fun now => different (alone other _ now))
      fun later member => silent later member other _
    exact Or.inl (satisfied_of_replied justified earlier)
  · exact Or.inr closed

/-- Every reply is the response to the caller's own request, and whoever is pending gets it,
whatever the others are answered, until a request fails; that ends the session, and whoever was not
served before it is closed. -/
theorem requests_independent_until_failure {labels : List Label} {session : Session}
    (ran : machine.run .start labels = some session)
    (ordinary : machine.Guarded Ordinary .start labels) :
    (¬ Failed session.history → Independent session) ∧
      Chronicle CompletesPending session.history ∧
      Chronicle Justified session.history ∧
      (∀ ticket, (resolved session.history).count ticket ≤ 1) ∧
      (Failed session.history → session.reg = none) ∧
      FailureCloses session.history := by
  have invariant := run_keeps_invariant ran
  have orderly := run_keeps_orderly ordinary ran
  refine ⟨?_, orderly.completes, invariant.justified, invariant.ledger.count_settled_le_one, ?_,
    failure_closes invariant.justified orderly.ends orderly.failure⟩
  · intro intact empty id ticket result answered single
    rcases orderly.owed intact id ticket result answered with waits | ⟨other, replied⟩
    · rw [empty] at waits
      cases waits
    · rw [← single other (orderly.given ticket id other replied)]
      exact replied
  · intro failed
    cases alive : session.reg with
    | none => rfl
    | some reg => exact absurd failed (orderly.intact reg alive).2

theorem reversed_responses_independent : ∃ session, machine.run .start reversedLabels = some session ∧
    Independent session ∧ Chronicle Justified session.history ∧ FailureCloses session.history := by
  obtain ⟨session, ran, alive⟩ : ∃ session, machine.run .start reversedLabels = some session ∧
      session.reg = some [] := ⟨_, rfl, rfl⟩
  obtain ⟨independent, _, justified, _, ends, closes⟩ :=
    requests_independent_until_failure ran (by decide)
  have intact : ¬ Failed session.history := by
    intro failed
    cases alive.symm.trans (ends failed)
  exact ⟨session, ran, independent intact, justified, closes⟩

def failedLabels : List Label :=
  [.send (request 1 0), .send (request 2 1), .receive true, .receive true,
    .send (.response ⟨1, .error wrongVersion⟩), .send (.response ⟨2, .ok written⟩), .receive true]

def Effect.answers : Effect → Option Ticket
  | .replied ticket _ => some ticket
  | _ => none

def answeredTickets (history : List Entry) : List Ticket :=
  history.flatMap fun entry => entry.effects.filterMap Effect.answers

theorem mem_answeredTickets {history : List Entry} {ticket : Ticket} {reply : Reply}
    (replied : Replied history ticket reply) : ticket ∈ answeredTickets history := by
  obtain ⟨entry, member, present⟩ := replied
  exact List.mem_flatMap.mpr ⟨entry, member, List.mem_filterMap.mpr ⟨_, present, rfl⟩⟩

def Cause.delivered : Cause → Option Out
  | .sent (.response resp) => some resp
  | _ => none

theorem mem_delivered {history : List Entry} {resp : Out} (sent : Sent history (.response resp)) :
    resp ∈ history.filterMap fun entry => entry.cause.delivered := by
  obtain ⟨entry, member, same⟩ := sent
  exact List.mem_filterMap.mpr ⟨entry, member, by rw [same]; rfl⟩

theorem failed_response_closes_other :
    machine.Guarded Ordinary .start failedLabels ∧
      ∃ session, machine.run .start failedLabels = some session ∧
        Closed session.history 1 ∧ ¬ Independent session := by
  obtain ⟨session, ran, empty, last, registered, answered, delivered, tickets⟩ :
      ∃ session, machine.run .start failedLabels = some session ∧ session.mailbox = [] ∧
        session.history[6]? = some ⟨.processed (.response ⟨1, .error wrongVersion⟩) true,
          [.replied 0 (.response 1 (.error wrongVersion)), .closed 1]⟩ ∧
        session.history[3]? = some ⟨.processed (request 2 1) true,
          [.forwarded ⟨2, "orders", [], .any⟩]⟩ ∧
        session.history = session.history.take 5 ++
          ⟨.sent (.response ⟨2, .ok written⟩), []⟩ :: session.history.drop 6 ∧
        (session.history.filterMap fun entry => entry.cause.delivered) =
          [⟨1, .error wrongVersion⟩, ⟨2, .ok written⟩] ∧
        answeredTickets session.history = [0] := ⟨_, rfl, rfl, rfl, rfl, rfl, rfl, rfl⟩
  have known : Registered (session.history.take 5) 2 1 := by
    refine ⟨⟨2, "orders", [], .any⟩, _, rfl, List.mem_singleton_self _, ?_⟩
    exact List.mem_of_getElem? ((List.getElem?_take_of_lt (by decide)).trans registered)
  have single : ∀ other, Sent session.history (.response ⟨2, other⟩) → other = .ok written := by
    intro other sent
    have member := mem_delivered sent
    rw [delivered] at member
    rcases List.mem_cons.mp member with same | same
    · cases same
    · cases List.mem_singleton.mp same
      rfl
  refine ⟨by decide, session, ran, ?_, ?_⟩
  · exact ⟨_, List.mem_of_getElem? last, List.mem_cons_of_mem _ (List.mem_singleton_self _)⟩
  · intro independent
    have replied := independent empty 2 1 (.ok written) ⟨_, _, _, answered, rfl, known⟩ single
    have impossible := mem_answeredTickets replied
    rw [tickets] at impossible
    cases List.mem_singleton.mp impossible

end TrogonEventStore.Batch

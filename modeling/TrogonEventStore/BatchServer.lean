import TrogonEventStore.AppendPaths
import TrogonEventStore.BatchIndependence

/-! A batch-append session and the server behind it, beside single appends one after another. -/

namespace TrogonEventStore.Batch

abbrev Server (World : Type) := World → Appending → WireBatchResult × World

structure Served where
  req : Req
  moment : Moment
  id : Uuid
  appending : Appending
  result : WireBatchResult

def Served.resp (served : Served) : BatchAppendResp :=
  ⟨some (.ofUuid served.id), some served.appending.streamName, some served.result,
    some served.appending.expected⟩

structure Service (World : Type) where
  call : Call
  world : World
  log : List Served

/-- The server takes requests in their order, and answers when it likes. -/
inductive ServiceLabel where
  | client (label : CallLabel)
  | serve (moment : Moment)
  | answer (place : Nat)

def CallLabel.ofServer : CallLabel → Bool
  | .generate | .respond _ => true
  | _ => false

variable {World : Type}

section Definitions

variable (json : SerdeJson) (deadline : Option Duration) (parseUuid : String → Option Uuid)
variable (server : Server World)

def Service.serve (service : Service World) (moment : Moment) : Option (Service World) :=
  match service.call.generator with
  | some (req :: waiting) => do
      let wire ← generate json deadline (req, moment)
      let (id, appending) ← wire.read parseUuid
      let (result, world) := server service.world appending
      some ⟨{ service.call with generator := some waiting }, world,
        service.log ++ [⟨req, moment, id, appending, result⟩]⟩
  | _ => none

def services : Machine (Service World) ServiceLabel where
  step service label :=
    match label with
    | .client label =>
        if label.ofServer then none
        else ((callMachine parseUuid).step service.call label).map fun call =>
          { service with call := call }
    | .serve moment => service.serve json deadline parseUuid server moment
    | .answer place => do
        let served ← service.log[place]?
        let call ← (callMachine parseUuid).step service.call (.respond served.resp)
        some { service with call := call }

def singly : World → List (Req × Moment) → Option (List WireBatchResult × World)
  | world, [] => some ([], world)
  | world, (req, moment) :: rest => do
      let appending ← req.asks json moment
      let (result, world) := server world appending
      let (results, world) ← singly world rest
      some (result :: results, world)

end Definitions

def Fresh (service : Service World) : ServiceLabel → Prop
  | .client (.append msg) => msg.req.id ∉ requestIds service.call.session.history
  | _ => True

instance (service : Service World) (label : ServiceLabel) : Decidable (Fresh service label) :=
  match label with
  | .client (.append msg) =>
      inferInstanceAs (Decidable (msg.req.id ∉ requestIds service.call.session.history))
  | .client (.cancel _) | .client .dropClient | .client .process | .client .generate
  | .client .dropRequests | .client (.opened _) | .client (.respond _) | .client (.fail _)
  | .client .finish | .client .hangUp | .serve _ | .answer _ => .isTrue trivial

section Forwarding

def forwarded (history : List Entry) : List Req := history.flatMap fun entry =>
  forwardedBy entry.effects

def Session.names (session : Session) : List Uuid :=
  (forwarded session.history).map Req.id ++ session.mailbox.filterMap BatchMsg.id

variable {session next : Session} {msg : BatchMsg}

theorem forwarded_append (history : List Entry) (entry : Entry) :
    forwarded (history ++ [entry]) = forwarded history ++ forwardedBy entry.effects := by
  rw [forwarded, List.flatMap_append, List.flatMap_singleton, forwarded]

theorem forwardedBy_closed (tickets : List Ticket) : forwardedBy (tickets.map .closed) = [] := by
  induction tickets with
  | nil => rfl
  | cons ticket tickets ih => exact ih

theorem forwardedBy_lost (msgs : List BatchMsg) :
    forwardedBy (msgs.flatMap BatchMsg.lost) = [] := by
  induction msgs with
  | nil => rfl
  | cons msg msgs ih =>
      rw [List.flatMap_cons, forwardedBy, List.filterMap_append]
      exact List.append_eq_nil_iff.mpr ⟨forwardedBy_closed msg.ticket.toList, ih⟩

theorem forwardedBy_session (tickets : List Ticket) (error : Error) :
    forwardedBy (tickets.map fun ticket => .replied ticket (.session error)) = [] := by
  induction tickets with
  | nil => rfl
  | cons ticket tickets ih => exact ih

theorem Outcome.forwarded {reg : Registry} {forwardOpen : Bool} {handled : Handled}
    (outcome : Outcome reg msg forwardOpen handled) :
    ((forwardedBy handled.effects).map Req.id).Sublist msg.id.toList := by
  cases outcome with
  | registered msg =>
      have rest := forwardedBy_closed (reg.displaced msg.req.id)
      have effects : forwardedBy (.forwarded msg.req ::
          (reg.displaced msg.req.id).map .closed) = [msg.req] := congrArg (msg.req :: ·) rest
      rw [effects]
      exact List.Sublist.refl _
  | refused msg =>
      have rest : forwardedBy (.closed msg.sender :: reg.tickets.map .closed) = [] :=
        forwardedBy_closed reg.tickets
      rw [rest]
      exact List.nil_sublist _
  | completed id ticket result forwardOpen found => exact List.nil_sublist _
  | failed id ticket error forwardOpen found =>
      have rest : forwardedBy (.replied ticket (.response id (.error error)) ::
          (reg.remove id).tickets.map .closed) = [] := forwardedBy_closed _
      rw [rest]
      exact List.nil_sublist _
  | unknown resp forwardOpen missing => exact List.nil_sublist _
  | session error forwardOpen =>
      rw [forwardedBy_session]
      exact List.nil_sublist _

def Session.forwards (session : Session) : Label → List Req
  | .receive forwardOpen =>
      match session.reg, session.mailbox with
      | some reg, msg :: _ => forwardedBy (handle reg msg forwardOpen).effects
      | _, _ => []
  | _ => []

def Label.names : Label → List Uuid
  | .send msg => msg.id.toList
  | _ => []

theorem names_nodup (label : Label) : label.names.Nodup := by
  cases label with
  | send msg => cases msg <;> simp [Label.names, BatchMsg.id]
  | _ => exact List.nodup_nil

theorem names_request {label : Label} {id : Uuid} (brought : id ∈ label.names) :
    ∃ msg : In, label = .send (.request msg) ∧ msg.req.id = id := by
  cases label with
  | send msg =>
      cases msg with
      | request msg =>
          cases List.mem_singleton.mp brought
          exact ⟨msg, rfl, rfl⟩
      | _ => cases brought
  | _ => cases brought

structure Adds (session next : Session) (label : Label) (entry : Entry) : Prop where
  history : next.history = session.history ++ [entry]
  forwards : forwardedBy entry.effects = session.forwards label
  named : entry.cause.id.toList = label.names
  mailbox : ∀ msg ∈ next.mailbox, msg ∈ session.mailbox ∨ label = .send msg
  processed : ∀ out forwardOpen, entry.cause = .processed (.response out) forwardOpen →
    .response out ∈ session.mailbox
  names : next.names.Sublist (session.names ++ label.names)

theorem forwardedBy_append (first second : List Effect) :
    forwardedBy (first ++ second) = forwardedBy first ++ forwardedBy second :=
  List.filterMap_append

theorem after_entry (session : Session) (cause : Cause) (rest : List BatchMsg) (handled : Handled) :
    ∃ effects, (session.after cause rest handled).history = session.history ++ [⟨cause, effects⟩] ∧
      forwardedBy effects = forwardedBy handled.effects ∧
      ∀ msg ∈ (session.after cause rest handled).mailbox, msg ∈ rest := by
  unfold Session.after
  split
  · exact ⟨handled.effects, rfl, rfl, fun msg member => member⟩
  · refine ⟨_, rfl, ?_, fun msg member => (nomatch member)⟩
    rw [forwardedBy_append, forwardedBy_lost, List.append_nil]

theorem names_after {reg : Registry} {rest : List BatchMsg} {cause : Cause} {forwardOpen : Bool}
    (waits : session.mailbox = msg :: rest) :
    (session.after cause rest (handle reg msg forwardOpen)).names.Sublist session.names := by
  have known := (handle_outcome reg msg forwardOpen).forwarded
  have before : session.names = (forwarded session.history).map Req.id ++
      (msg.id.toList ++ rest.filterMap BatchMsg.id) := by
    rw [Session.names, waits, List.filterMap_cons]
    cases msg.id <;> rfl
  rw [before]
  unfold Session.after
  split
  · rw [Session.names, forwarded_append, List.map_append, List.append_assoc]
    exact (List.Sublist.refl _).append (known.append (List.Sublist.refl _))
  · rw [Session.names, forwarded_append, forwardedBy_append, forwardedBy_lost, List.append_nil,
      List.map_append, List.append_assoc]
    exact (List.Sublist.refl _).append (known.append (List.nil_sublist _))

/-- What a step of the actor does with the ids and the responses. -/
theorem step_adds {label : Label} (stepped : machine.step session label = some next) :
    ∃ entry, Adds session next label entry := by
  cases label with
  | send msg =>
      change session.send msg = some next at stepped
      unfold Session.send at stepped
      split at stepped
      · cases stepped
      · split at stepped
        · cases stepped
          refine ⟨⟨.sent msg, []⟩, rfl, rfl, rfl, ?_, nofun, ?_⟩
          · intro other member
            rcases List.mem_append.mp member with earlier | last
            · exact Or.inl earlier
            · exact Or.inr (congrArg Label.send (List.mem_singleton.mp last).symm)
          · simp only [Session.names, forwarded_append, List.filterMap_append, List.append_assoc]
            cases named : msg.id <;> simp [forwardedBy, Label.names, named]
        · cases stepped
          have lost : forwardedBy msg.lost = [] := forwardedBy_closed msg.ticket.toList
          refine ⟨⟨.bounced msg, msg.lost⟩, rfl, lost, rfl, fun other member => Or.inl member, nofun, ?_⟩
          simp only [Session.names, forwarded_append, lost, List.append_nil]
          exact List.sublist_append_left _ _
  | cancel ticket =>
      cases stepped
      refine ⟨⟨.cancelled ticket, []⟩, rfl, rfl, rfl, fun msg member => Or.inl member, nofun, ?_⟩
      simp only [Session.names, forwarded_append, forwardedBy, List.filterMap_nil, List.append_nil,
        Label.names]
      exact List.Sublist.refl _
  | receive forwardOpen =>
      change session.receive forwardOpen = some next at stepped
      unfold Session.receive at stepped
      split at stepped
      · next reg msg rest alive waits =>
          cases stepped
          obtain ⟨effects, history, forwards, left⟩ := after_entry session
            (.processed msg forwardOpen) rest (handle reg msg forwardOpen)
          refine ⟨⟨.processed msg forwardOpen, effects⟩, history, ?_, rfl, ?_, ?_, ?_⟩
          · rw [Session.forwards, alive, waits]
            exact forwards
          · intro other member
            rw [waits]
            exact Or.inl (List.mem_cons_of_mem _ (left other member))
          · intro out opened same
            cases same
            rw [waits]
            exact List.mem_cons_self
          · exact (names_after waits).trans (List.sublist_append_left _ _)
      · cases stepped
  | hangUp =>
      change session.hangUp = some next at stepped
      unfold Session.hangUp at stepped
      split at stepped
      · next reg alive empty =>
          cases stepped
          obtain ⟨effects, history, forwards, left⟩ := after_entry session .hungUp []
            ⟨none, reg.tickets.map .closed⟩
          refine ⟨⟨.hungUp, effects⟩, history, forwards.trans (forwardedBy_closed _), rfl, ?_,
            nofun, ?_⟩
          · intro other member
            cases left other member
          · refine List.Sublist.trans ?_ (List.sublist_append_left _ _)
            rw [Session.names, history, forwarded_append, forwards, forwardedBy_closed,
              List.append_nil, Session.names]
            exact (List.Sublist.refl _).append (List.nil_sublist _)
      · cases stepped

/-- What a step of the call does to its session and to the requests that wait: nothing, or what a
step of the actor does. -/
inductive CallAdds (parseUuid : String → Option Uuid) (call next : Call) : CallLabel → Prop where
  | quiet (label : CallLabel) (session : next.session = call.session)
      (generator : next.generator = call.generator ∨ next.generator = none) :
      CallAdds parseUuid call next label
  | generated (req : Req) (session : next.session = call.session)
      (generator : call.generator = some (req :: next.generator.getD []))
      (waits : next.generator ≠ none) : CallAdds parseUuid call next .generate
  | moved (label : CallLabel) (command : Label)
      (stepped : machine.step call.session command = some next.session)
      (generator : next.generator = call.generator.map (· ++ call.session.forwards command))
      (told : ∀ msg, command = .send msg → (∃ request, label = .append request ∧
        msg = .request request) ∨ (∃ error, msg = .error error) ∨
        ∃ resp out, label = .respond resp ∧ resp.out parseUuid = some out ∧ msg = .response out) :
      CallAdds parseUuid call next label

theorem unforwarded {Value : Type} (generator : Option (List Value)) :
    generator = generator.map (· ++ []) := by
  cases generator <;> simp

theorem call_adds {parseUuid : String → Option Uuid} {call next : Call} {label : CallLabel}
    (stepped : (callMachine parseUuid).step call label = some next) :
    CallAdds parseUuid call next label := by
  change call.step parseUuid label = some next at stepped
  cases label with
  | append msg =>
      simp only [Call.step] at stepped
      split at stepped
      · obtain ⟨session, sent, rfl⟩ := tell_cases stepped
        refine .moved _ (.send (.request msg)) sent (unforwarded _) ?_
        rintro other same
        cases same
        exact Or.inl ⟨msg, rfl, rfl⟩
      · cases stepped
  | cancel ticket =>
      simp only [Call.step] at stepped
      obtain ⟨session, sent, rfl⟩ := Option.map_eq_some_iff.mp stepped
      refine .moved _ (.cancel ticket) sent (unforwarded _) ?_
      rintro other ⟨⟩
  | dropClient =>
      simp only [Call.step] at stepped
      split at stepped
      · cases stepped
        exact .quiet _ rfl (Or.inl rfl)
      · cases stepped
  | process =>
      change call.process = some next at stepped
      unfold Call.process at stepped
      split at stepped
      · next reg msg rest alive waits =>
          obtain ⟨session, received, rfl⟩ := Option.map_eq_some_iff.mp stepped
          refine .moved _ (.receive call.generator.isSome) received ?_ ?_
          · rw [Session.forwards, alive, waits]
          · rintro other ⟨⟩
      · cases stepped
  | generate =>
      simp only [Call.step] at stepped
      split at stepped
      · next req waiting generator =>
          cases stepped
          exact .generated req rfl generator (by simp)
      · cases stepped
  | dropRequests =>
      cases stepped
      exact .quiet _ rfl (Or.inr rfl)
  | opened outcome =>
      simp only [Call.step] at stepped
      split at stepped
      · cases outcome with
        | error status =>
            obtain ⟨session, sent, rfl⟩ := tell_cases stepped
            refine .moved _ (.send (.error (.fromGrpc status))) sent (unforwarded _) ?_
            rintro other same
            cases same
            exact Or.inr (Or.inl ⟨_, rfl⟩)
        | ok done =>
            cases stepped
            exact .quiet _ rfl (Or.inl rfl)
      · cases stepped
  | respond resp =>
      simp only [Call.step] at stepped
      split at stepped
      · split at stepped
        · cases stepped
          exact .quiet _ rfl (Or.inl rfl)
        · next out made =>
            obtain ⟨session, sent, rfl⟩ := tell_cases stepped
            refine .moved _ (.send (.response out)) sent (unforwarded _) ?_
            rintro other same
            cases same
            exact Or.inr (Or.inr ⟨resp, out, rfl, made, rfl⟩)
      · cases stepped
  | fail status =>
      simp only [Call.step] at stepped
      split at stepped
      · obtain ⟨session, sent, rfl⟩ := tell_cases stepped
        refine .moved _ (.send (.error (.fromGrpc status))) sent (unforwarded _) ?_
        rintro other same
        cases same
        exact Or.inr (Or.inl ⟨_, rfl⟩)
      · cases stepped
  | finish =>
      simp only [Call.step] at stepped
      split at stepped
      · cases stepped
        exact .quiet _ rfl (Or.inl rfl)
      · cases stepped
  | hangUp =>
      simp only [Call.step] at stepped
      split at stepped
      · obtain ⟨session, hung, rfl⟩ := Option.map_eq_some_iff.mp stepped
        refine .moved _ .hangUp hung (unforwarded _) ?_
        rintro other ⟨⟩
      · cases stepped

end Forwarding

section Serving

variable {json : SerdeJson} {deadline : Option Duration} {parseUuid : String → Option Uuid}
variable {server : Server World} {origin : World} {service next : Service World}

/-- A message says what the server answered to a request that it has served. -/
def Answers (parseUuid : String → Option Uuid) (log : List Served) (out : Out) : Prop :=
  ∃ served ∈ log, served.resp.out parseUuid = some out

theorem Answers.more {log : List Served} {out : Out} (answers : Answers parseUuid log out)
    (served : Served) : Answers parseUuid (log ++ [served]) out := by
  obtain ⟨earlier, member, said⟩ := answers
  exact ⟨earlier, List.mem_append_left _ member, said⟩

theorem singly_append {appends : List (Req × Moment)} {results : List WireBatchResult}
    {world : World} (before : singly json server origin appends = some (results, world)) {req : Req}
    {moment : Moment} {appending : Appending} (asks : req.asks json moment = some appending) :
    singly json server origin (appends ++ [(req, moment)]) =
      some (results ++ [(server world appending).1], (server world appending).2) := by
  induction appends generalizing origin results with
  | nil =>
      cases before
      simp only [List.nil_append, singly, asks, Option.bind_eq_bind, Option.bind_some]
  | cons first appends ih =>
      obtain ⟨other, instant⟩ := first
      simp only [singly, Option.bind_eq_bind, Option.bind_eq_some_iff, Prod.exists,
        Option.some.injEq, Prod.mk.injEq] at before
      obtain ⟨appended, asked, rest, last, went, rfl, rfl⟩ := before
      simp only [List.cons_append, singly, asked, Option.bind_eq_bind, Option.bind_some, ih went]

structure Linear (json : SerdeJson) (parseUuid : String → Option Uuid) (server : Server World)
    (origin : World) (service : Service World) : Prop where
  actor : Invariant service.call.session
  order : ∃ rest, forwarded service.call.session.history = service.log.map Served.req ++ rest ∧
    ∀ waiting, service.call.generator = some waiting → rest = waiting
  distinct : service.call.session.names.Nodup
  named : ∀ id ∈ service.call.session.names, id ∈ requestIds service.call.session.history
  asked : ∀ served ∈ service.log, served.id = served.req.id
  mailed : ∀ out, .response out ∈ service.call.session.mailbox →
    Answers parseUuid service.log out
  processed : ∀ entry ∈ service.call.session.history, ∀ out forwardOpen,
    entry.cause = .processed (.response out) forwardOpen → Answers parseUuid service.log out
  singly : Batch.singly json server origin
    (service.log.map fun served => (served.req, served.moment)) =
      some (service.log.map Served.result, service.world)

theorem Linear.start (handleId : Uuid) (world : World) :
    Linear json parseUuid server world ⟨.start handleId, world, []⟩ where
  actor := start_invariant
  order := ⟨[], rfl, fun _ same => Option.some.inj same⟩
  distinct := List.nodup_nil
  named _ absent := nomatch absent
  asked _ absent := nomatch absent
  mailed _ absent := nomatch absent
  processed _ absent := nomatch absent
  singly := rfl

theorem Linear.call (linear : Linear json parseUuid server origin service) {label : CallLabel}
    {call : Call} (fresh : ∀ msg, label = .append msg →
      msg.req.id ∉ requestIds service.call.session.history)
    (answers : ∀ resp out, label = .respond resp → resp.out parseUuid = some out →
      Answers parseUuid service.log out) (other : label ≠ .generate)
    (stepped : (callMachine parseUuid).step service.call label = some call) :
    Linear json parseUuid server origin { service with call := call } := by
  cases call_adds stepped with
  | quiet label session generator =>
      obtain ⟨rest, served, waits⟩ := linear.order
      refine ⟨session ▸ linear.actor, ⟨rest, session ▸ served, ?_⟩, session ▸ linear.distinct,
        session ▸ linear.named, linear.asked, session ▸ linear.mailed, session ▸ linear.processed,
        linear.singly⟩
      intro waiting same
      rcases generator with kept | gone
      · exact waits waiting (kept.symm.trans same)
      · cases gone.symm.trans same
  | generated req session generator waits => exact absurd rfl other
  | moved label command moved generator told =>
      obtain ⟨entry, adds⟩ := step_adds moved
      obtain ⟨rest, served, waits⟩ := linear.order
      have ids : requestIds call.session.history =
          requestIds service.call.session.history ++ command.names := by
        rw [adds.history, requestIds_append, adds.named]
      refine ⟨step_invariant linear.actor moved, ⟨rest ++ service.call.session.forwards command,
        ?_, ?_⟩, ?_, ?_, linear.asked, ?_, ?_, linear.singly⟩
      · change forwarded call.session.history = _
        rw [adds.history, forwarded_append, adds.forwards, served, List.append_assoc]
      · intro waiting same
        change call.generator = some waiting at same
        rw [generator, Option.map_eq_some_iff] at same
        obtain ⟨earlier, before, rfl⟩ := same
        rw [waits earlier before]
      · refine List.Nodup.sublist adds.names (List.nodup_append.mpr ⟨linear.distinct, ?_, ?_⟩)
        · exact names_nodup command
        · rintro id known other brought rfl
          obtain ⟨msg, sent, same⟩ := names_request brought
          rcases told _ sent with ⟨request, asked, same'⟩ | ⟨error, impossible⟩ |
            ⟨resp, out, _, _, impossible⟩
          · cases same'
            exact fresh msg asked (same ▸ linear.named id known)
          · cases impossible
          · cases impossible
      · intro id member
        rcases List.mem_append.mp (adds.names.subset member) with old | new
        · exact ids ▸ List.mem_append_left _ (linear.named id old)
        · exact ids ▸ List.mem_append_right _ new
      · intro out member
        rcases adds.mailbox _ member with old | sent
        · exact linear.mailed out old
        · rcases told _ sent with ⟨request, _, same⟩ | ⟨error, same⟩ | ⟨resp, other, asked, made, same⟩
          · cases same
          · cases same
          · cases same
            exact answers resp out asked made
      · intro one member out forwardOpen cause
        change one ∈ call.session.history at member
        rw [adds.history] at member
        rcases List.mem_append.mp member with old | last
        · exact linear.processed one old out forwardOpen cause
        · cases List.mem_singleton.mp last
          exact linear.mailed out (adds.processed out forwardOpen cause)

theorem Linear.serve (linear : Linear json parseUuid server origin service) {moment : Moment}
    (done : service.serve json deadline parseUuid server moment = some next) :
    Linear json parseUuid server origin next := by
  unfold Service.serve at done
  split at done
  · next req waiting generator =>
      simp only [Option.bind_eq_bind, Option.bind_eq_some_iff, Option.some.injEq] at done
      obtain ⟨wire, generated, ⟨id, appending⟩, read, rfl⟩ := done
      have asks := generate_asks generated parseUuid
      rw [read, Option.map_some, Option.some.injEq, Prod.mk.injEq] at asks
      obtain ⟨rest, served, waits⟩ := linear.order
      have queue := waits _ generator
      refine ⟨linear.actor, ⟨waiting, ?_, ?_⟩, linear.distinct, linear.named, ?_, ?_, ?_, ?_⟩
      · rw [served, queue, List.map_append, List.append_assoc]
        rfl
      · intro other same
        exact Option.some.inj same
      · intro one member
        rcases List.mem_append.mp member with old | last
        · exact linear.asked one old
        · cases List.mem_singleton.mp last
          exact asks.1
      · intro out member
        exact (linear.mailed out member).more _
      · intro one member out forwardOpen cause
        exact (linear.processed one member out forwardOpen cause).more _
      · rw [List.map_append, List.map_append]
        exact singly_append linear.singly asks.2.symm
  · cases done

theorem Linear.step (linear : Linear json parseUuid server origin service) {label : ServiceLabel}
    (fresh : Fresh service label)
    (stepped : (services json deadline parseUuid server).step service label = some next) :
    Linear json parseUuid server origin next := by
  cases label with
  | client label =>
      simp only [services] at stepped
      split at stepped
      · cases stepped
      · next own =>
          obtain ⟨call, moved, rfl⟩ := Option.map_eq_some_iff.mp stepped
          apply linear.call _ _ _ moved
          · rintro msg rfl
            exact fresh
          · rintro resp out rfl
            exact absurd rfl own
          · rintro rfl
            exact own rfl
  | serve moment => exact linear.serve stepped
  | answer place =>
      simp only [services, Option.bind_eq_bind, Option.bind_eq_some_iff, Option.some.injEq]
        at stepped
      obtain ⟨served, present, call, moved, rfl⟩ := stepped
      apply linear.call _ _ _ moved
      · intro msg impossible
        cases impossible
      · intro resp out same made
        cases same
        exact ⟨served, List.mem_of_getElem? present, made⟩
      · intro impossible
        cases impossible

theorem Linear.run {handleId : Uuid} {labels : List ServiceLabel}
    (fresh : (services json deadline parseUuid server).Guarded Fresh
      ⟨.start handleId, origin, []⟩ labels)
    (ran : (services json deadline parseUuid server).run ⟨.start handleId, origin, []⟩ labels =
      some service) : Linear json parseUuid server origin service :=
  (services json deadline parseUuid server).guarded_invariant Fresh
    (Linear json parseUuid server origin) (fun _ _ _ linear fresh stepped => linear.step fresh stepped)
    (.start handleId origin) fresh ran

/-- The caller of a single append is told the same, with the zero and the start for what is absent. -/
def Alike (result : Except Error BatchWriteResult) (write : WriteResult) : Prop :=
  ∃ batch, result = .ok batch ∧ batch.currentRevision.getD 0 = write.nextExpectedVersion ∧
    batch.currentPosition.getD .start = write.position

/-- What a caller is told of a result of the server: a success like that of a single append, and a
refusal by its status, which is not how a single append reports another version. -/
def Told (told : Except Error BatchWriteResult) : WireBatchResult → Prop
  | .success current position => (∃ batch, told = .ok batch) ∧
      ∀ write, AppendResp.conclude (some (.success ⟨current, position⟩)) = .returned (.ok write) →
        Alike told write
  | .error code message => ∃ error, told = .error error ∧ error = .grpc (Code.ofInt code) message ∧
      ∀ wrong, AppendResp.conclude (some (.wrongExpectedVersion wrong)) ≠ .returned (.error error)

theorem conclude_wrong {wrong : WrongExpectedVersion} {code : Code} {message : String} :
    AppendResp.conclude (some (.wrongExpectedVersion wrong)) ≠
      .returned (.error (.grpc code message)) := by
  intro concluded
  obtain ⟨current, expected⟩ := wrong
  cases current <;> cases expected <;> cases concluded

theorem served_told {served : Served} {id : Uuid} {result : Except Error BatchWriteResult}
    (said : served.resp.out parseUuid = some ⟨id, result⟩) : Told result served.result := by
  obtain ⟨req, moment, name, appending, answer⟩ := served
  cases answer with
  | error code message =>
      simp only [Served.resp, BatchAppendResp.out, ofUuid_tryInto, Option.bind_eq_bind,
        Option.bind_some] at said
      cases said
      exact ⟨_, rfl, rfl, fun wrong => conclude_wrong⟩
  | success current position =>
      simp only [Served.resp, BatchAppendResp.out, ofUuid_tryInto, Option.bind_eq_bind,
        Option.bind_some] at said
      cases said
      refine ⟨⟨_, rfl⟩, fun write returned => ?_⟩
      cases current with
      | none => cases returned
      | some current =>
          cases position with
          | none => cases returned
          | some position =>
              cases returned
              cases current <;> exact ⟨_, rfl, rfl, rfl⟩

theorem mem_forwarded {history : List Entry} {cause : Cause} {effects : List Effect} {req : Req}
    (member : ⟨cause, effects⟩ ∈ history) (present : .forwarded req ∈ effects) :
    req ∈ forwarded history :=
  List.mem_flatMap.mpr ⟨_, member, List.mem_filterMap.mpr ⟨_, present, rfl⟩⟩

theorem served_id {served : Served} {out : Out} (said : served.resp.out parseUuid = some out) :
    out.correlationId = served.id := by
  simp only [Served.resp, BatchAppendResp.out, ofUuid_tryInto, Option.bind_eq_bind,
    Option.bind_some] at said
  split at said <;> cases said <;> rfl

/-- The requests of a session are served as single appends one after another would be, each of them
once, and a caller that is answered is told what the server answered to its own request. -/
theorem batch_serves_singly {handleId : Uuid} {labels : List ServiceLabel}
    (fresh : (services json deadline parseUuid server).Guarded Fresh
      ⟨.start handleId, origin, []⟩ labels)
    (ran : (services json deadline parseUuid server).run ⟨.start handleId, origin, []⟩ labels =
      some service) :
    singly json server origin (service.log.map fun served => (served.req, served.moment)) =
        some (service.log.map Served.result, service.world) ∧
      (service.log.map Served.id).Nodup ∧
      ∀ ticket id result, Replied service.call.session.history ticket (.response id result) →
        ∃ served ∈ service.log, served.resp.out parseUuid = some ⟨id, result⟩ ∧
          (∃ effects, ⟨.processed (.request ⟨served.req, ticket⟩) true, effects⟩ ∈
            service.call.session.history) ∧ Told result served.result := by
  have linear := Linear.run fresh ran
  obtain ⟨rest, order, _⟩ := linear.order
  have once : ((forwarded service.call.session.history).map Req.id).Nodup :=
    linear.distinct.sublist (List.sublist_append_left _ _)
  have ids : service.log.map Served.id = (service.log.map Served.req).map Req.id := by
    rw [List.map_map]
    exact List.map_congr_left linear.asked
  refine ⟨linear.singly, ?_, ?_⟩
  · rw [order, List.map_append] at once
    rw [ids]
    exact once.sublist (List.sublist_append_left _ _)
  · intro ticket id result replied
    obtain ⟨entry, member, told⟩ := replied
    obtain ⟨before, after, split⟩ := List.append_of_mem member
    obtain ⟨⟨opened, cause⟩, req, effects, named, present, known⟩ :=
      linear.actor.justified before entry after split ticket _ told
    obtain ⟨served, logged, said⟩ := linear.processed entry member _ _ cause
    have earlier : ⟨.processed (.request ⟨req, ticket⟩) true, effects⟩ ∈
        service.call.session.history := split ▸ List.mem_append_left _ known
    have own : served.req ∈ forwarded service.call.session.history :=
      order ▸ List.mem_append_left _ (List.mem_map.mpr ⟨served, logged, rfl⟩)
    have same : served.req.id = req.id := by
      rw [named, ← linear.asked served logged, ← served_id said]
    have request := List.inj_on_of_nodup_map once own (mem_forwarded earlier present) same
    exact ⟨served, logged, said, ⟨effects, request ▸ earlier⟩, served_told said⟩

end Serving

/-- A server that counts the events it was sent, and takes the expectation of no stream only at
first. -/
def counting : Server Nat := fun count appending =>
  if appending.expected = .noStream ∧ count ≠ 0 then (.error 9 "wrong expected version", count)
  else
    let count := count + appending.messages.length
    (.success (some (.current (count - 1))) (some (some ⟨count, count⟩)), count)

def idle : Moment := ⟨⟨false, []⟩, fun _ => 0, ⟨0, by decide, by decide⟩⟩

def servedLabels : List ServiceLabel :=
  [.client (.append ⟨⟨1, "orders", [.binary "placed" [1]], .noStream⟩, 0⟩),
    .client (.append ⟨⟨2, "orders", [.binary "paid" [2], .binary "sent" [3]], .any⟩, 1⟩),
    .client (.append ⟨⟨3, "orders", [.binary "placed" [1]], .noStream⟩, 2⟩),
    .client .process, .client .process, .client .process, .client (.opened (.ok ())),
    .serve idle, .serve idle, .serve idle, .answer 1, .answer 0, .answer 2,
    .client .process, .client .process, .client .process]

theorem counting_serves_singly : ∃ service : Service Nat,
    (services plainJson none (fun _ => none) counting).run ⟨.start 0, 0, []⟩ servedLabels =
        some service ∧
      service.log.map Served.id = [1, 2, 3] ∧
      Replied service.call.session.history 2
        (.response 3 (.error (.grpc (Code.ofInt 9) "wrong expected version"))) ∧
      singly plainJson counting 0 (service.log.map fun served => (served.req, served.moment)) =
        some (service.log.map Served.result, service.world) ∧
      (service.log.map Served.id).Nodup ∧
      ∀ ticket id result, Replied service.call.session.history ticket (.response id result) →
        ∃ served ∈ service.log, served.resp.out (fun _ => none) = some ⟨id, result⟩ ∧
          (∃ effects, ⟨.processed (.request ⟨served.req, ticket⟩) true, effects⟩ ∈
            service.call.session.history) ∧ Told result served.result := by
  obtain ⟨service, ran, ids, told⟩ : ∃ service,
      (services plainJson none (fun _ => none) counting).run ⟨.start 0, 0, []⟩ servedLabels =
        some service ∧ service.log.map Served.id = [1, 2, 3] ∧
        (service.call.session.history[11]?).map Entry.effects = some [.replied 2
          (.response 3 (.error (.grpc (Code.ofInt 9) "wrong expected version")))] :=
    ⟨_, rfl, rfl, rfl⟩
  obtain ⟨entry, answered, effects⟩ := Option.map_eq_some_iff.mp told
  have fresh : (services plainJson none (fun _ => none) counting).Guarded Fresh
      ⟨.start 0, 0, []⟩ servedLabels := by decide
  have refused : Replied service.call.session.history 2
      (.response 3 (.error (.grpc (Code.ofInt 9) "wrong expected version"))) :=
    ⟨entry, List.mem_of_getElem? answered, effects ▸ List.mem_singleton_self _⟩
  exact ⟨service, ran, ids, refused, batch_serves_singly fresh ran⟩

end TrogonEventStore.Batch

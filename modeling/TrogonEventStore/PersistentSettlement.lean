import TrogonEventStore.PersistentSession

namespace TrogonEventStore

namespace Persistent

variable (decoders : Decoders)

/-- The id of what a delivery is acknowledged by: the link, where there is one. -/
def WireReadEvent.originalId (wire : WireReadEvent) : Option Uuid :=
  (wire.link.or wire.event).bind fun recorded =>
    recorded.id.bind fun id => id.tryInto decoders.parseUuid

def ReadResp.delivers (resp : ReadResp) : Option Uuid :=
  match resp.content with
  | some (.event wire) => wire.originalId decoders
  | _ => none

def ReadReq.settles (request : ReadReq) : List Uuid :=
  match request.content with
  | some (.ack ack) => ack.ids.filterMap fun id => id.tryInto decoders.parseUuid
  | some (.nack nack) => nack.ids.filterMap fun id => id.tryInto decoders.parseUuid
  | _ => []

variable {decoders}

theorem decode_id {wire : WireRecordedEvent} {recorded : RecordedEvent}
    (decoded : wire.decode decoders = some recorded) :
    (wire.id.bind fun id => id.tryInto decoders.parseUuid) = some recorded.id := by
  simp only [WireRecordedEvent.decode, WireRecordedEvent.intoStreams,
    TrogonEventStore.WireRecordedEvent.decode, Option.bind_eq_bind,
    Option.bind_eq_some_iff] at decoded
  obtain ⟨wireId, present, id, read, stream, _, made⟩ := decoded
  cases made
  rw [present, Option.bind_some, read]

theorem decodeOption_some {wire : Option WireRecordedEvent} {recorded : Option RecordedEvent}
    (decoded : decodeOption decoders wire = some recorded) :
    (wire.bind fun wire => wire.id.bind fun id => id.tryInto decoders.parseUuid) =
      recorded.map RecordedEvent.id := by
  cases wire with
  | none =>
      cases decoded
      rfl
  | some wire =>
      simp only [decodeOption, Option.map_eq_some_iff] at decoded
      obtain ⟨event, read, rfl⟩ := decoded
      exact decode_id read

theorem decode_original {wire : WireReadEvent} {retryCount : Nat} {event : ResolvedEvent}
    (decoded : wire.decode decoders = some (.eventAppeared retryCount event)) :
    wire.originalId decoders = event.getOriginalEvent.map RecordedEvent.id := by
  simp only [WireReadEvent.decode, Option.bind_eq_bind, Option.bind_eq_some_iff,
    Option.some.injEq, PersistentSubscriptionEvent.eventAppeared.injEq] at decoded
  obtain ⟨inner, readEvent, link, readLink, _, rfl⟩ := decoded
  have inside := decodeOption_some readEvent
  have around := decodeOption_some readLink
  rw [WireReadEvent.originalId, ResolvedEvent.getOriginalEvent]
  cases linked : wire.link with
  | none =>
      rw [linked] at readLink
      cases readLink
      exact inside
  | some outer =>
      rw [linked] at around readLink
      simp only [decodeOption, Option.map_eq_some_iff] at readLink
      obtain ⟨recorded, _, rfl⟩ := readLink
      exact around

theorem filterMap_ofUuid (ids : List Uuid) :
    (ids.map WireUuid.ofUuid).filterMap (fun id => id.tryInto decoders.parseUuid) = ids := by
  induction ids with
  | nil => rfl
  | cons id ids ih =>
      rw [List.map_cons, List.filterMap_cons_some (ofUuid_tryInto decoders.parseUuid id), ih]

end Persistent

namespace PersistentSubscription

variable {decoders : Decoders} {channelId : Uuid} {options : Persistent.ReadOptions}
variable {session next : Session} {label : Label} {labels : List Label}

theorem request_settles {decision : Decision} {request : Persistent.ReadReq}
    (made : decision.request = some request) :
    decision.eventIds = some (request.settles decoders) := by
  rw [Decision.request, Option.map_eq_some_iff] at made
  obtain ⟨ids, about, rfl⟩ := made
  rw [about]
  cases decision <;> exact congrArg some (Persistent.filterMap_ofUuid ids).symm

def Call.accepted (call : Call) : Option Persistent.ReadReq :=
  match call.result with
  | .returned (.ok _) => call.decision.request
  | _ => none

def Call.Refused (call : Call) : Prop := call.result = .returned (.error ignored)

def Session.requests (session : Session) (options : Persistent.ReadOptions) :
    List Persistent.ReadReq :=
  ⟨some (.options options)⟩ :: session.calls.filterMap Call.accepted

inductive Stepped (decoders : Decoders) (channelId : Uuid) (session : Session) :
    Label → Session → Prop where
  | next (idle : session.sending = none) : Stepped decoders channelId session .next
      (session.next decoders channelId)
  | settle (decision : Decision) (idle : session.sending = none) :
      Stepped decoders channelId session (.settle decision) (session.settle decision)
  | sent {decision : Decision} {request : Persistent.ReadReq}
      {channel : Channel Persistent.ReadReq capacity}
      (waits : session.sending = some (decision, request))
      (done : session.channel.send request = some channel) :
      Stepped decoders channelId session .sent
        { session.finish decision (.returned (.ok ())) with channel := channel }
  | refused {decision : Decision} {request : Persistent.ReadReq}
      (waits : session.sending = some (decision, request))
      (gone : session.channel.isOpen = false) :
      Stepped decoders channelId session .refused
        (session.finish decision (.returned (.error ignored)))
  | dropped : Stepped decoders channelId session .dropped { session with sending := none }
  | taken {channel : Channel Persistent.ReadReq capacity}
      (done : session.channel.take = some channel) :
      Stepped decoders channelId session .taken { session with channel := channel }
  | closed : Stepped decoders channelId session .closed
      { session with channel := session.channel.close }

theorem step_cases (stepped : (machine decoders channelId).step session label = some next) :
    Stepped decoders channelId session label next := by
  cases label with
  | next =>
      cases waits : session.sending with
      | none =>
          simp only [machine, waits, Option.some.injEq] at stepped
          exact stepped ▸ .next waits
      | some call => simp [machine, waits] at stepped
  | settle decision =>
      cases waits : session.sending with
      | none =>
          simp only [machine, waits, Option.some.injEq] at stepped
          exact stepped ▸ .settle decision waits
      | some call => simp [machine, waits] at stepped
  | sent =>
      cases waits : session.sending with
      | none => simp [machine, waits] at stepped
      | some call =>
          simp only [machine, waits, Option.map_eq_some_iff] at stepped
          obtain ⟨channel, done, rfl⟩ := stepped
          exact .sent waits done
  | refused =>
      cases waits : session.sending with
      | none => simp [machine, waits] at stepped
      | some call =>
          cases gone : session.channel.isOpen with
          | true => simp [machine, waits, gone] at stepped
          | false =>
              simp only [machine, waits, gone, Bool.false_eq_true, if_false,
                Option.some.injEq] at stepped
              exact stepped ▸ .refused waits gone
  | dropped =>
      cases waits : session.sending with
      | none => simp [machine, waits] at stepped
      | some call =>
          simp only [machine, waits, Option.some.injEq] at stepped
          exact stepped ▸ .dropped
  | taken =>
      simp only [machine, Option.map_eq_some_iff] at stepped
      obtain ⟨channel, done, rfl⟩ := stepped
      exact .taken done
  | closed =>
      simp only [machine, Option.some.injEq] at stepped
      exact stepped ▸ .closed

theorem requests_finish (decision : Decision) (result : Called Unit) :
    (session.finish decision result).requests options =
      session.requests options ++ (Call.accepted ⟨decision, result⟩).toList := by
  simp only [Session.requests, Session.finish, List.filterMap_append, List.cons_append,
    List.filterMap_cons, List.filterMap_nil]
  cases Call.accepted ⟨decision, result⟩ <;> rfl

/-- The channel holds what the calls have sent; it is closed when a call was refused. -/
structure Orderly (options : Persistent.ReadOptions) (session : Session) : Prop where
  sent : session.channel.sent = session.requests options
  sending : ∀ decision request, session.sending = some (decision, request) →
    decision.request = some request
  refused : (∃ call ∈ session.calls, call.Refused) → session.channel.isOpen = false

theorem Orderly.subscribed (inner : Persistent.Responses) :
    Orderly options (subscribed options inner) where
  sent := rfl
  sending decision request absent := by cases absent
  refused absent := by
    obtain ⟨call, member, _⟩ := absent
    cases member

theorem Orderly.finish (orderly : Orderly options session) (decision : Decision)
    {result : Called Unit} (silent : Call.accepted ⟨decision, result⟩ = none)
    (refused : result = .returned (.error ignored) → session.channel.isOpen = false) :
    Orderly options (session.finish decision result) where
  sent := by
    rw [requests_finish, silent, Option.toList_none, List.append_nil]
    exact orderly.sent
  sending decision request absent := by cases absent
  refused present := by
    obtain ⟨call, member, other⟩ := present
    rcases List.mem_append.mp member with earlier | last
    · exact orderly.refused ⟨call, earlier, other⟩
    · cases List.mem_singleton.mp last
      exact refused other

theorem Orderly.step (orderly : Orderly options session)
    (stepped : (machine decoders channelId).step session label = some next) :
    Orderly options next := by
  cases step_cases stepped with
  | next idle =>
      exact ⟨orderly.sent, orderly.sending, orderly.refused⟩
  | settle decision idle =>
      unfold Session.settle
      split
      · apply orderly.finish decision rfl
        intro other
        cases other
      · next request made =>
          refine ⟨orderly.sent, ?_, orderly.refused⟩
          rintro other also same
          cases same
          exact made
  | sent waits done =>
      rename_i decision request channel
      obtain ⟨free, isOpen, _, sent⟩ := Channel.send_cases done
      have made := orderly.sending _ _ waits
      have accepted : Call.accepted ⟨decision, .returned (.ok ())⟩ = some request := made
      have unrefused : ∀ call ∈ session.calls, ¬ call.Refused := by
        intro call member refused
        have gone := orderly.refused ⟨call, member, refused⟩
        rw [free.1] at gone
        cases gone
      refine ⟨?_, ?_, ?_⟩
      · change channel.sent = (session.finish decision _).requests options
        rw [requests_finish, accepted, sent, orderly.sent]
        rfl
      · intro other also absent
        cases absent
      · rintro ⟨call, member, refused⟩
        rcases List.mem_append.mp member with earlier | last
        · exact absurd refused (unrefused call earlier)
        · cases List.mem_singleton.mp last
          cases refused
  | refused waits gone => exact orderly.finish _ rfl fun _ => gone
  | dropped =>
      refine ⟨orderly.sent, ?_, orderly.refused⟩
      intro other also absent
      cases absent
  | taken done =>
      obtain ⟨isOpen, sent, _⟩ := Channel.take_cases done
      exact ⟨sent.trans orderly.sent, orderly.sending,
        fun refused => isOpen.trans (orderly.refused refused)⟩
  | closed =>
      exact ⟨Channel.sent_close.trans orderly.sent, orderly.sending, fun _ => rfl⟩

theorem Orderly.run {inner : Persistent.Responses}
    (ran : (machine decoders channelId).run (PersistentSubscription.subscribed options inner) labels =
      some session) : Orderly options session :=
  (machine decoders channelId).run_invariant (Orderly options)
    (fun _ _ _ orderly stepped => orderly.step stepped) (.subscribed inner) ran

def Call.settled (call : Call) : List Uuid :=
  match call.result with
  | .returned (.ok _) => call.decision.eventIds.getD []
  | _ => []

def Session.settled (session : Session) : List Uuid := session.calls.flatMap Call.settled

def Session.asked (session : Session) : List Uuid :=
  match session.sending with
  | some (decision, _) => decision.eventIds.getD []
  | none => []

def Session.givenIds (session : Session) : List Uuid :=
  session.given.filterMap fun event => event.getOriginalEvent.map RecordedEvent.id

/-- The consumer settles no event more often than it was given it. -/
def Deserves (session : Session) : Label → Prop
  | .settle decision => ∀ id, session.settled.count id + (decision.eventIds.getD []).count id ≤
      session.givenIds.count id
  | _ => True

theorem accepted_settles (call : Call) :
    call.accepted.toList.flatMap (Persistent.ReadReq.settles decoders) = call.settled := by
  unfold Call.accepted Call.settled
  split
  · cases made : call.decision.request with
    | none =>
        rw [Decision.request, Option.map_eq_none_iff] at made
        rw [made]
        rfl
    | some request =>
        rw [request_settles made]
        exact List.append_nil _
  · rfl

theorem requests_settle :
    (session.requests options).flatMap (Persistent.ReadReq.settles decoders) = session.settled := by
  have each (calls : List Call) : (calls.filterMap Call.accepted).flatMap
      (Persistent.ReadReq.settles decoders) = calls.flatMap Call.settled := by
    induction calls with
    | nil => rfl
    | cons call calls ih =>
        have first : call.accepted.toList.flatMap (Persistent.ReadReq.settles decoders) = _ :=
          accepted_settles call
        rw [List.flatMap_cons, ← first, ← ih, List.filterMap_cons]
        cases call.accepted <;> simp
  exact each session.calls

theorem shown_delivers {resp : Persistent.ReadResp} {rest : List Persistent.ReadResp}
    {ending : Option Status} {answer : Answer Persistent.Responses PersistentSubscriptionEvent}
    (answered : nextSubscriptionEvent decoders ⟨channelId, ⟨resp :: rest, ending⟩⟩ = answer) :
    answer.inner.pending = rest ∧ ∀ event, shown answer.called = some event →
      event.getOriginalEvent.map RecordedEvent.id = resp.delivers decoders := by
  obtain ⟨content⟩ := resp
  simp only [nextSubscriptionEvent, Feed.tryNext_cons, Option.bind_some] at answered
  cases content with
  | none =>
      cases answered
      refine ⟨rfl, ?_⟩
      rintro event ⟨⟩
  | some content =>
      cases decoded : content.decode decoders with
      | none =>
          simp only [decoded] at answered
          cases answered
          refine ⟨rfl, ?_⟩
          rintro event ⟨⟩
      | some appeared =>
          simp only [decoded] at answered
          cases answered
          refine ⟨rfl, ?_⟩
          intro event seen
          cases appeared with
          | confirmed subscriptionId => cases seen
          | eventAppeared retryCount inner =>
              cases seen
              cases content with
              | subscriptionConfirmation subscriptionId => cases decoded
              | event wire => exact (Persistent.decode_original decoded).symm

/-- A call of `next_subscription_event` gives what one response delivers, or nothing. -/
theorem next_delivers (session : Session) :
    ∃ heard, heard ++ (session.next decoders channelId).inner.pending = session.inner.pending ∧
      (session.next decoders channelId).givenIds.Sublist
        (session.givenIds ++ heard.filterMap (Persistent.ReadResp.delivers decoders)) := by
  obtain ⟨channel, ⟨pending, ending⟩, given, sending, calls⟩ := session
  cases pending with
  | nil =>
      refine ⟨[], ?_, ?_⟩
      · cases ending with
        | none => rfl
        | some status =>
            simp only [Session.next, nextSubscriptionEvent, Feed.tryNext_failed]
            split <;> rfl
      · cases ending with
        | none => simp [Session.next, Session.givenIds, nextSubscriptionEvent, shown]
        | some status =>
            simp only [Session.next, Session.givenIds, nextSubscriptionEvent, Feed.tryNext_failed]
            split <;> simp [shown]
  | cons resp rest =>
      generalize answered : nextSubscriptionEvent decoders
        ⟨channelId, ⟨resp :: rest, ending⟩⟩ = answer
      obtain ⟨left, seen⟩ := shown_delivers answered
      refine ⟨[resp], ?_, ?_⟩
      · simp only [Session.next, answered, left, List.singleton_append]
      · simp only [Session.next, Session.givenIds, answered, List.filterMap_append]
        apply List.Sublist.append (List.Sublist.refl _)
        cases appeared : shown answer.called with
        | none => exact List.nil_sublist _
        | some event =>
            rw [Option.toList_some, List.filterMap_cons, List.filterMap_cons,
              seen event appeared]
            exact List.Sublist.refl _

structure Earned (decoders : Decoders) (feed : Persistent.Responses) (session : Session) : Prop where
  within : ∀ id, session.settled.count id + session.asked.count id ≤ session.givenIds.count id
  heard : ∃ heard, heard ++ session.inner.pending = feed.pending ∧
    session.givenIds.Sublist (heard.filterMap (Persistent.ReadResp.delivers decoders))

theorem settled_finish (decision : Decision) (result : Called Unit) :
    (session.finish decision result).settled =
      session.settled ++ Call.settled ⟨decision, result⟩ := by
  simp only [Session.settled, Session.finish, List.flatMap_append, List.flatMap_cons,
    List.flatMap_nil, List.append_nil]

variable {feed : Persistent.Responses}

theorem Earned.subscribed (options : Persistent.ReadOptions) (feed : Persistent.Responses) :
    Earned decoders feed (subscribed options feed) where
  within _ := Nat.le_refl 0
  heard := ⟨[], rfl, List.Sublist.refl _⟩

theorem Earned.finish (earned : Earned decoders feed session) {decision : Decision}
    {result : Called Unit} (about : ∀ id, (Call.settled ⟨decision, result⟩).count id ≤
      session.asked.count id) : Earned decoders feed (session.finish decision result) where
  within id := by
    have fewer := about id
    have within := earned.within id
    rw [settled_finish, List.count_append]
    change _ + ([] : List Uuid).count id ≤ session.givenIds.count id
    rw [List.count_nil]
    omega
  heard := earned.heard

theorem Earned.step (earned : Earned decoders feed session) (deserves : Deserves session label)
    (stepped : (machine decoders channelId).step session label = some next) :
    Earned decoders feed next := by
  cases step_cases stepped with
  | next idle =>
      obtain ⟨heard, whole, known⟩ := earned.heard
      obtain ⟨more, rest, delivered⟩ := next_delivers session
      refine ⟨?_, heard ++ more, ?_, ?_⟩
      · intro id
        have within := earned.within id
        have longer : session.givenIds.count id ≤
            (session.next decoders channelId).givenIds.count id := by
          simp only [Session.next, Session.givenIds, List.filterMap_append, List.count_append]
          exact Nat.le_add_right _ _
        exact Nat.le_trans within longer
      · rw [List.append_assoc, rest, whole]
      · rw [List.filterMap_append]
        exact delivered.trans (known.append (List.Sublist.refl _))
  | settle decision idle =>
      unfold Session.settle
      split
      · apply earned.finish
        intro id
        exact Nat.zero_le _
      · exact ⟨deserves, earned.heard⟩
  | sent waits done =>
      rename_i decision request channel
      have asked : session.asked = decision.eventIds.getD [] := by rw [Session.asked, waits]
      have finished : Earned decoders feed (session.finish decision (.returned (.ok ()))) := by
        apply earned.finish
        intro id
        rw [asked]
        exact Nat.le_refl _
      exact ⟨finished.within, finished.heard⟩
  | refused waits gone =>
      apply earned.finish
      intro id
      exact Nat.zero_le _
  | dropped =>
      refine ⟨?_, earned.heard⟩
      intro id
      exact Nat.le_trans (Nat.le_add_right _ _) (earned.within id)
  | taken done => exact ⟨earned.within, earned.heard⟩
  | closed => exact ⟨earned.within, earned.heard⟩

theorem Orderly.order (orderly : Orderly options session) :
    session.channel.taken <+: session.requests options :=
  orderly.sent ▸ session.channel.taken_prefix

/-- What a session that nobody listens to any more can still become. -/
structure Silenced (options : Persistent.ReadOptions) (base session : Session) : Prop where
  closed : session.channel.isOpen = false
  taken : session.channel.taken = base.channel.taken
  requests : session.requests options = base.requests options

theorem Silenced.finish {base : Session} (silenced : Silenced options base session)
    {decision : Decision} {result : Called Unit} (silent : Call.accepted ⟨decision, result⟩ = none) :
    Silenced options base (session.finish decision result) where
  closed := silenced.closed
  taken := silenced.taken
  requests := by
    rw [requests_finish, silent, Option.toList_none, List.append_nil]
    exact silenced.requests

theorem Silenced.step {base : Session} (silenced : Silenced options base session)
    (stepped : (machine decoders channelId).step session label = some next) :
    Silenced options base next := by
  cases step_cases stepped with
  | next idle => exact ⟨silenced.closed, silenced.taken, silenced.requests⟩
  | settle decision idle =>
      unfold Session.settle
      split
      · exact silenced.finish rfl
      · exact ⟨silenced.closed, silenced.taken, silenced.requests⟩
  | sent waits done =>
      have free := (Channel.send_cases done).1.1
      rw [silenced.closed] at free
      cases free
  | refused waits gone => exact silenced.finish rfl
  | dropped => exact ⟨silenced.closed, silenced.taken, silenced.requests⟩
  | taken done =>
      rw [Channel.take_closed silenced.closed] at done
      cases done
  | closed => exact ⟨rfl, silenced.taken, silenced.requests⟩

def deliveredEvent : Persistent.WireRecordedEvent where
  id := some (.ofUuid 7)
  streamIdentifier := some []
  streamRevision := 0
  preparePosition := 4
  commitPosition := 5
  metadata := []
  customMetadata := []
  data := []

def deliveredFeed : Persistent.Responses :=
  ⟨[⟨some (.event ⟨some deliveredEvent, none, none, none⟩)⟩], none⟩

def groupOptions : Persistent.ReadOptions := Persistent.readOptions false [] "group" 10

def settling : List Label := [.taken, .next, .settle (.ackIds [7]), .sent, .taken]

/-- The server gets the options and then the settlements, in the order of the calls that report
success and without gaps; at most so many wait, and none is lost while it listens. -/
theorem requests_arrive_in_order
    (ran : (machine decoders channelId).run (subscribed options feed) labels = some session) :
    session.channel.taken <+: session.requests options ∧
      (session.channel.isOpen = true →
        session.channel.taken ++ session.channel.queue = session.requests options) ∧
      session.channel.queue.length ≤ capacity := by
  have orderly := Orderly.run ran
  refine ⟨orderly.order, ?_, session.channel.room⟩
  intro isOpen
  rw [Channel.taken_queue isOpen, orderly.sent]

theorem settling_in_order : ∃ session : Session,
    (machine .blank 0).run (subscribed groupOptions deliveredFeed) settling = some session ∧
      session.channel.taken = [⟨some (.options groupOptions)⟩, ackIds [7]] ∧
      session.channel.taken <+: session.requests groupOptions ∧
      (session.channel.isOpen = true →
        session.channel.taken ++ session.channel.queue = session.requests groupOptions) ∧
      session.channel.queue.length ≤ capacity := by
  obtain ⟨session, ran, taken⟩ : ∃ session,
      (machine .blank 0).run (subscribed groupOptions deliveredFeed) settling = some session ∧
        session.channel.taken = [⟨some (.options groupOptions)⟩, ackIds [7]] := ⟨_, rfl, rfl⟩
  exact ⟨session, ran, taken, requests_arrive_in_order ran⟩

/-- Once a call was refused, no later call reports success and the server gets nothing any more. -/
theorem refusals_final {further : List Label} {last : Session}
    (ran : (machine decoders channelId).run (subscribed options feed) labels = some session)
    (refused : ∃ call ∈ session.calls, call.Refused)
    (went : (machine decoders channelId).run session further = some last) :
    last.channel.taken = session.channel.taken ∧ last.requests options = session.requests options := by
  have base : Silenced options session session := ⟨(Orderly.run ran).refused refused, rfl, rfl⟩
  have silenced : Silenced options session last :=
    (machine decoders channelId).run_invariant (Silenced options session)
      (fun _ _ _ silenced stepped => silenced.step stepped) base went
  exact ⟨silenced.taken, silenced.requests⟩

def ignoring : List Label := settling ++ [.closed, .settle (.ackIds [7]), .refused]

theorem closed_refuses : ∃ session last : Session,
    (machine .blank 0).run (subscribed groupOptions deliveredFeed) ignoring = some session ∧
      (machine .blank 0).run session [.settle (.ackIds [7]), .refused] = some last ∧
      session.channel.taken = [⟨some (.options groupOptions)⟩, ackIds [7]] ∧
      last.channel.taken = session.channel.taken ∧
      last.requests groupOptions = session.requests groupOptions := by
  obtain ⟨session, last, ran, went, taken, calls⟩ : ∃ session last,
      (machine .blank 0).run (subscribed groupOptions deliveredFeed) ignoring = some session ∧
        (machine .blank 0).run session [.settle (.ackIds [7]), .refused] = some last ∧
        session.channel.taken = [⟨some (.options groupOptions)⟩, ackIds [7]] ∧
        session.calls = [⟨.ackIds [7], .returned (.ok ())⟩,
          ⟨.ackIds [7], .returned (.error ignored)⟩] := ⟨_, _, rfl, rfl, rfl, rfl⟩
  have refused : ∃ call ∈ session.calls, call.Refused := by
    rw [calls]
    exact ⟨_, List.mem_cons_of_mem _ (List.mem_singleton_self _), rfl⟩
  exact ⟨session, last, ran, went, taken, refusals_final ran refused went⟩

/-- If the consumer settles no event more often than it was given it, the server reads no id in its
settlements more often than it has delivered an event under that id by then. -/
theorem settlements_deserved
    (ran : (machine decoders channelId).run (subscribed options feed) labels = some session)
    (guarded : (machine decoders channelId).Guarded Deserves (subscribed options feed) labels) :
    ∃ heard, heard ++ session.inner.pending = feed.pending ∧ ∀ id,
      (session.channel.taken.flatMap (Persistent.ReadReq.settles decoders)).count id ≤
        (heard.filterMap (Persistent.ReadResp.delivers decoders)).count id := by
  have earned : Earned decoders feed session :=
    (machine decoders channelId).guarded_invariant Deserves (Earned decoders feed)
      (fun _ _ _ earned deserves stepped => earned.step deserves stepped)
      (.subscribed options feed) guarded ran
  obtain ⟨heard, whole, known⟩ := earned.heard
  refine ⟨heard, whole, ?_⟩
  intro id
  obtain ⟨rest, order⟩ := (Orderly.run ran).order
  calc (session.channel.taken.flatMap (Persistent.ReadReq.settles decoders)).count id
      ≤ ((session.requests options).flatMap (Persistent.ReadReq.settles decoders)).count id := by
        rw [← order, List.flatMap_append, List.count_append]
        exact Nat.le_add_right _ _
    _ = session.settled.count id := by rw [requests_settle]
    _ ≤ session.givenIds.count id := Nat.le_trans (Nat.le_add_right _ _) (earned.within id)
    _ ≤ (heard.filterMap (Persistent.ReadResp.delivers decoders)).count id := known.count_le id

theorem settling_deserved : ∃ session : Session, ∃ heard,
    (machine .blank 0).run (subscribed groupOptions deliveredFeed) settling = some session ∧
      session.channel.taken.flatMap (Persistent.ReadReq.settles .blank) = [7] ∧
      heard ++ session.inner.pending = deliveredFeed.pending ∧ ∀ id,
        (session.channel.taken.flatMap (Persistent.ReadReq.settles .blank)).count id ≤
          (heard.filterMap (Persistent.ReadResp.delivers .blank)).count id := by
  obtain ⟨session, ran, settled⟩ : ∃ session,
      (machine .blank 0).run (subscribed groupOptions deliveredFeed) settling = some session ∧
        session.channel.taken.flatMap (Persistent.ReadReq.settles .blank) = [7] := ⟨_, rfl, rfl⟩
  have guarded : (machine .blank 0).Guarded Deserves (subscribed groupOptions deliveredFeed)
      settling := by
    refine ⟨trivial, fun _ taken => ?_⟩
    cases taken
    refine ⟨trivial, fun _ given => ?_⟩
    cases given
    refine ⟨fun id => Nat.le_of_eq (Nat.zero_add _), fun _ asked => ?_⟩
    cases asked
    refine ⟨trivial, fun _ sent => ?_⟩
    cases sent
    exact ⟨trivial, fun _ _ => trivial⟩
  obtain ⟨heard, whole, deserved⟩ := settlements_deserved ran guarded
  exact ⟨session, heard, ran, settled, whole, deserved⟩

end PersistentSubscription

end TrogonEventStore

import Mathlib.Data.Prod.Lex
import TrogonEventStore.Library.SortedLog
import TrogonEventStore.SubscriptionRetry

/-! A subscription against the server's log: what one step delivers and where a read resumes. -/

namespace TrogonEventStore.Subscription

abbrev Key := ℕ ×ₗ ℕ

inductive Source where
  | stream
  | all
  deriving DecidableEq, Repr

/-- An event as the server sends it, with the link or the event that places it in the log. -/
structure LogEntry where
  wire : WireReadEvent
  original : WireRecordedEvent
  placed : wire.link.or wire.event = some original

def LogEntry.plain (revision : Nat) : LogEntry where
  wire := ⟨some ⟨some ⟨none⟩, some [], revision, 0, 0, [], [], []⟩, none, none⟩
  original := ⟨some ⟨none⟩, some [], revision, 0, 0, [], [], []⟩
  placed := rfl

def Source.key : Source → LogEntry → Key
  | .stream, entry => toLex (entry.original.streamRevision, 0)
  | .all, entry => toLex (entry.original.commitPosition, entry.original.preparePosition)

abbrev Log (source : Source) := SortedLog source.key

/-- The position after which the server starts to send; the end is that of the present log. -/
def cursorFor {source : Source} (log : Log source) : StreamPosition Key → WithBot Key
  | .start => ⊥
  | .position key => key
  | .atEnd => log.latest

def requested (source : Source) (options : ReadReq.Options) : Option (StreamPosition Key) :=
  match source, options.streamOption with
  | .stream, some (.stream stream) => stream.revisionOption.map fun
      | .start => .start
      | .revision revision => .position (toLex (revision, 0))
      | .atEnd => .atEnd
  | .all, some (.all all) => all.allOption.map fun
      | .start => .start
      | .position position => .position (toLex (position.commit, position.prepare))
      | .atEnd => .atEnd
  | _, _ => none

/-- What the server puts on an open stream: the next entry of the log, another message, a
failure, or nothing before the caller drops the call. -/
inductive Sending where
  | entry
  | control (resp : Option ReadResp)
      (silent : ∀ wire, resp.bind ReadResp.content ≠ some (.event wire))
  | failure (status : Status)
  | nothing

inductive Reading where
  | accepted
  | refused (status : Status)
  | unanswered

structure Occurrence where
  sending : Sending
  selectedNode : Option (Option (Except GrpcConnectionError Handle))
  reading : Reading
  sleep : Option Unit

def Occurrence.reads : Occurrence :=
  ⟨.nothing, some (some (.ok ⟨1, "http://localhost:2113", ⟨"localhost", 2113⟩, false,
    ⟨⟨1, 0, 0⟩, .nothing⟩⟩)), .accepted, none⟩

def Occurrence.sends (sending : Sending) : Occurrence := ⟨sending, none, .unanswered, none⟩

def Sending.confirmation : Sending :=
  .control (some ⟨some (.confirmation "orders")⟩) (by simp)

def Sending.unavailable : Sending := .failure (.new .unavailable "connection reset")

/-- The awaits of a turn against the server: an open stream is the position it has sent up to. -/
def Occurrence.awaits {source : Source} (log : Log source) (occurrence : Occurrence) :
    Awaits (WithBot Key) where
  tryNext cursor := match occurrence.sending with
    | .entry => (log.after cursor).head?.map fun entry =>
        .ok (some ⟨some (.event entry.wire)⟩, source.key entry)
    | .control resp _ => some (.ok (resp, cursor))
    | .failure status => some (.error status)
    | .nothing => none
  selectedNode := occurrence.selectedNode
  read req _ := match occurrence.reading with
    | .accepted => match req.options.bind (requested source) with
      | some position => some (.ok (cursorFor log position))
      | none => some (.error (.new .invalidArgument ""))
    | .refused status => some (.error status)
    | .unanswered => none
  sleep := occurrence.sleep

/-- The log, the subscription, the length of the log when the server first confirmed a read of it,
and the position up to which the subscription has read. -/
structure Feed (source : Source) where
  log : Log source
  system : System (WithBot Key)
  confirmed : Option Nat
  resume : WithBot Key

def Event.delivers : Event → Option ResolvedEvent
  | .returned (.ok (.eventAppeared event)) => some event
  | _ => none

/-- A read may be with the server, whether or not the client learnt what became of it. -/
def Event.reads : Event → Bool
  | .established | .readFailed _ | .cancelled => true
  | _ => false

def Event.confirms : Event → Bool
  | .returned (.ok (.confirmed _)) => true
  | _ => false

def orders (position : StreamPosition Nat) : Option (Subscription (WithBot Key)) :=
  subscribeToStream .plain (.solo ⟨"localhost", 2113⟩) (utf8 "orders")
    { retriedForever with position := position } []

namespace Feed

variable {source : Source}

def start (log : Log source) (subscription : Subscription (WithBot Key)) : Feed source where
  log := log
  system := .start subscription
  confirmed := none
  resume := match requested source subscription.options with
    | some (.position key) => key
    | _ => ⊥

def delivered (feed : Feed source) : List ResolvedEvent :=
  feed.system.history.filterMap Event.delivers

def asks (feed : Feed source) : Option (StreamPosition Key) :=
  requested source feed.system.subscription.options

def confirm (feed : Feed source) : Feed source :=
  { feed with confirmed := feed.confirmed.or (some feed.log.entries.length) }

def follow (feed : Feed source) (system : System (WithBot Key)) : Feed source where
  log := feed.log
  system := system
  -- the server has confirmed a read at the latest when the client is told
  confirmed := feed.confirmed.or
    (if system.history.getLast?.any Event.confirms then some feed.log.entries.length else none)
  resume := if system.phase = .panicked then feed.resume
    else system.subscription.stream.getD feed.resume

inductive Label where
  | append (entry : LogEntry)
  | confirm
  | call
  | turn (occurrence : Occurrence)

def machine (source : Source) (decoders : Decoders) : Machine (Feed source) Label where
  step feed label :=
    match label with
    | .append entry => (feed.log.append entry).map fun log => { feed with log := log }
    | .confirm => if feed.system.history.any Event.reads then some feed.confirm else none
    | .call => ((Subscription.machine decoders).step feed.system .call).map feed.follow
    | .turn occurrence =>
        ((Subscription.machine decoders).step feed.system (.turn (occurrence.awaits feed.log))).map
          feed.follow

def Opens (feed : Feed source) : Label → Prop
  | .turn occurrence => feed.system.phase = .calling ∧ feed.system.subscription.stream = none ∧
      (∃ handle, (occurrence.awaits feed.log).Finds handle) ∧ occurrence.reading = .accepted
  | _ => False

/-- The stored request, the open stream and what was read agree on where the feed stands. -/
structure Tracking (feed : Feed source) : Prop where
  stored : feed.asks = some .atEnd ∨
    ∃ position, feed.asks = some position ∧ position ≠ .atEnd ∧
      cursorFor feed.log position = feed.resume
  streaming : feed.system.phase ≠ .panicked →
    ∀ cursor, feed.system.subscription.stream = some cursor → cursor = feed.resume
  fresh : feed.asks = some .atEnd → feed.delivered = []

/-- What one step does to a feed: the log grows, the subscription moves no offset, a read opens
a stream where the stored request says, or the next entry is delivered. -/
inductive Moves (decoders : Decoders) (feed : Feed source) : Label → Feed source → Prop where
  | appended (entry : LogEntry) (log : Log source) (grown : feed.log.append entry = some log) :
      Moves decoders feed (.append entry) { feed with log := log }
  | rested (label : Label) (system : System (WithBot Key)) (confirmed : Option Nat)
      (closed : ¬ feed.Opens label)
      (asked : requested source system.subscription.options = feed.asks)
      (returned : system.history.filterMap Event.delivers = feed.delivered)
      (streaming : system.phase ≠ .panicked →
        ∀ cursor, system.subscription.stream = some cursor → cursor = feed.resume)
      (confirmation : confirmed = feed.confirmed ∨
        feed.confirmed = none ∧ confirmed = some feed.log.entries.length) :
      Moves decoders feed label { feed with system := system, confirmed := confirmed }
  | opened (label : Label) (system : System (WithBot Key)) (position : StreamPosition Key)
      (opens : feed.Opens label) (asked : feed.asks = some position)
      (kept : requested source system.subscription.options = some position)
      (returned : system.history.filterMap Event.delivers = feed.delivered)
      (stream : system.subscription.stream = some (cursorFor feed.log position)) :
      Moves decoders feed label
        { feed with system := system, resume := cursorFor feed.log position }
  | delivered (label : Label) (system : System (WithBot Key)) (entry : LogEntry)
      (rest : List LogEntry) (event : ResolvedEvent) (closed : ¬ feed.Opens label)
      (next : feed.log.after feed.resume = entry :: rest)
      (decoded : entry.wire.decode decoders = some event)
      (asked : requested source system.subscription.options = some (.position (source.key entry)))
      (returned : system.history.filterMap Event.delivers = feed.delivered ++ [event])
      (stream : system.subscription.stream = some (source.key entry : WithBot Key)) :
      Moves decoders feed label { feed with system := system, resume := source.key entry }

end Feed

theorem decodeOption_some {decoders : Decoders} {wire : WireRecordedEvent}
    {decoded : Option RecordedEvent} (result : decodeOption decoders (some wire) = some decoded) :
    ∃ recorded, wire.decode decoders = some recorded ∧ decoded = some recorded := by
  obtain ⟨recorded, decodes, same⟩ := Option.map_eq_some_iff.mp result
  exact ⟨recorded, decodes, same.symm⟩

theorem recorded_place {decoders : Decoders} {wire : WireRecordedEvent} {recorded : RecordedEvent}
    (decodes : wire.decode decoders = some recorded) :
    recorded.revision = wire.streamRevision ∧
      recorded.position = ⟨wire.commitPosition, wire.preparePosition⟩ := by
  simp only [WireRecordedEvent.decode, Option.bind_eq_bind, Option.bind_eq_some_iff] at decodes
  obtain ⟨_, _, _, _, _, _, same⟩ := decodes
  cases same
  exact ⟨rfl, rfl⟩

theorem original_place {decoders : Decoders} {entry : LogEntry} {event : ResolvedEvent}
    (decodes : entry.wire.decode decoders = some event) :
    ∃ recorded, event.getOriginalEvent = some recorded ∧
      recorded.revision = entry.original.streamRevision ∧
      recorded.position = ⟨entry.original.commitPosition, entry.original.preparePosition⟩ := by
  have placed := entry.placed
  simp only [WireReadEvent.decode, Option.bind_eq_bind, Option.bind_eq_some_iff] at decodes
  obtain ⟨original, event_decodes, link, link_decodes, same⟩ := decodes
  cases same
  cases linked : entry.wire.link with
  | some wire =>
      rw [linked, Option.some_or] at placed
      rw [linked] at link_decodes
      obtain ⟨recorded, result, rfl⟩ := decodeOption_some link_decodes
      cases placed
      exact ⟨recorded, rfl, recorded_place result⟩
  | none =>
      rw [linked, Option.none_or] at placed
      rw [linked] at link_decodes
      rw [placed] at event_decodes
      cases link_decodes
      obtain ⟨recorded, result, rfl⟩ := decodeOption_some event_decodes
      exact ⟨recorded, rfl, recorded_place result⟩

theorem track_asks {source : Source} {decoders : Decoders} {options tracked : ReadReq.Options}
    {position : StreamPosition Key} {entry : LogEntry} {event : ResolvedEvent}
    (asked : requested source options = some position)
    (decodes : entry.wire.decode decoders = some event)
    (tracks : track options event = some tracked) :
    requested source tracked = some (.position (source.key entry)) := by
  obtain ⟨recorded, original, revision, place⟩ := original_place decodes
  simp only [track, original, Option.bind_eq_bind, Option.bind_eq_some_iff] at tracks
  obtain ⟨streamOption, stored, _, same_recorded, same⟩ := tracks
  cases same_recorded
  cases same
  cases source with
  | stream =>
      cases streamOption with
      | stream stream => simp [requested, Source.key, revision]
      | all all => simp [requested, stored] at asked
  | all =>
      cases streamOption with
      | stream stream => simp [requested, stored] at asked
      | all all => simp [requested, Source.key, place]

namespace Occurrence

variable {source : Source}

theorem tryNext_event {log : Log source} {occurrence : Occurrence} {cursor next : WithBot Key}
    {resp : Option ReadResp} {wire : WireReadEvent}
    (arrived : (occurrence.awaits log).tryNext cursor = some (.ok (resp, next)))
    (carried : resp.bind ReadResp.content = some (.event wire)) :
    ∃ entry rest, log.after cursor = entry :: rest ∧ wire = entry.wire ∧
      next = source.key entry := by
  simp only [awaits] at arrived
  split at arrived
  · obtain ⟨entry, first, same⟩ := Option.map_eq_some_iff.mp arrived
    cases same
    cases carried
    obtain ⟨rest, split⟩ := List.head?_eq_some_iff.mp first
    exact ⟨entry, rest, split, rfl, rfl⟩
  · next resp' silent _ =>
      cases arrived
      exact absurd carried (silent wire)
  · cases arrived
  · cases arrived

theorem tryNext_other {log : Log source} {occurrence : Occurrence} {cursor next : WithBot Key}
    {resp : Option ReadResp}
    (arrived : (occurrence.awaits log).tryNext cursor = some (.ok (resp, next)))
    (other : ∀ wire, resp.bind ReadResp.content ≠ some (.event wire)) : next = cursor := by
  simp only [awaits] at arrived
  split at arrived
  · obtain ⟨entry, _, same⟩ := Option.map_eq_some_iff.mp arrived
    cases same
    exact absurd rfl (other entry.wire)
  · cases arrived
    rfl
  · cases arrived
  · cases arrived

theorem read_accepted {log : Log source} {occurrence : Occurrence} {options : ReadReq.Options}
    {position : StreamPosition Key} (accepted : occurrence.reading = .accepted)
    (asked : requested source options = some position) (metadata : MetadataMap) :
    (occurrence.awaits log).read ⟨some options⟩ metadata = some (.ok (cursorFor log position)) := by
  simp [awaits, accepted, asked]

theorem read_opens {log : Log source} {occurrence : Occurrence} {options : ReadReq.Options}
    {metadata : MetadataMap} {cursor : WithBot Key}
    (opened : (occurrence.awaits log).read ⟨some options⟩ metadata = some (.ok cursor)) :
    occurrence.reading = .accepted ∧
      ∃ position, requested source options = some position ∧ cursor = cursorFor log position := by
  simp only [awaits, Option.bind_some] at opened
  split at opened
  · next accepted =>
      split at opened
      · next position asked =>
          cases opened
          exact ⟨accepted, position, asked, rfl⟩
      · cases opened
  · cases opened
  · cases opened

end Occurrence

namespace Feed

variable {source : Source}

theorem confirm_confirmed (feed : Feed source) :
    feed.confirm.confirmed = feed.confirmed ∨
      feed.confirmed = none ∧ feed.confirm.confirmed = some feed.log.entries.length := by
  simp only [confirm]
  cases feed.confirmed with
  | some length => exact Or.inl rfl
  | none => exact Or.inr ⟨rfl, rfl⟩

theorem follow_confirmed (feed : Feed source) (system : System (WithBot Key)) :
    (feed.follow system).confirmed = feed.confirmed ∨
      feed.confirmed = none ∧
        (feed.follow system).confirmed = some feed.log.entries.length := by
  simp only [follow]
  cases feed.confirmed with
  | some length => exact Or.inl rfl
  | none =>
      simp only [Option.none_or, true_and]
      split
      · exact Or.inr rfl
      · exact Or.inl rfl

theorem follow_streaming {feed : Feed source} {system : System (WithBot Key)}
    {cursor : WithBot Key} (live : system.phase ≠ .panicked)
    (held : system.subscription.stream = some cursor)
    (unconfirmed : system.history.getLast?.any Event.confirms = false) :
    feed.follow system = { feed with system := system, resume := cursor } := by
  simp [follow, live, held, unconfirmed]

theorem rest_moves {decoders : Decoders} {feed : Feed source} {label : Label}
    {turned : Turned (WithBot Key)} (closed : ¬ feed.Opens label)
    (kept : turned.subscription.options = feed.system.subscription.options)
    (silent : (turned.trace ++ turned.outcome.events).filterMap Event.delivers = [])
    (streaming : turned.outcome.phase ≠ .panicked →
      ∀ cursor, turned.subscription.stream = some cursor → cursor = feed.resume) :
    Moves decoders feed label (feed.follow (feed.system.after turned)) := by
  have asked : requested source (feed.system.after turned).subscription.options = feed.asks := by
    simp only [System.after, kept, asks]
  have returned : (feed.system.after turned).history.filterMap Event.delivers =
      feed.delivered := by
    simp only [System.after, List.filterMap_append, delivered]
    rw [← List.filterMap_append, silent, List.append_nil]
  have resume : (feed.follow (feed.system.after turned)).resume = feed.resume := by
    by_cases panics : turned.outcome.phase = .panicked
    · simp only [follow, System.after, panics, if_true]
    · simp only [follow, System.after, panics, if_false]
      cases held : turned.subscription.stream with
      | none => rfl
      | some cursor => exact streaming panics cursor held
  have moves : Moves decoders feed label
      { feed with
        system := feed.system.after turned
        confirmed := (feed.follow (feed.system.after turned)).confirmed } :=
    .rested label _ _ closed asked returned streaming (feed.follow_confirmed _)
  rw [← resume] at moves
  exact moves

theorem streams_without_opening {feed : Feed source} {occurrence : Occurrence}
    {cursor : WithBot Key} (held : feed.system.subscription.stream = some cursor) :
    ¬ feed.Opens (.turn occurrence) := by
  intro opens
  have missing := opens.2.1
  rw [held] at missing
  cases missing

theorem fails_without_opening {feed : Feed source} {occurrence : Occurrence}
    (stored : ∃ position, feed.asks = some position)
    (failed : ∀ handle cursor, (occurrence.awaits feed.log).Finds handle →
      (occurrence.awaits feed.log).read ⟨some feed.system.subscription.options⟩
        feed.system.subscription.metadata ≠ some (.ok cursor)) :
    ¬ feed.Opens (.turn occurrence) := by
  intro opens
  obtain ⟨position, asked⟩ := stored
  obtain ⟨_, _, ⟨handle, found⟩, accepted⟩ := opens
  exact failed handle _ found (Occurrence.read_accepted accepted asked _)

theorem Tracking.asks_some {feed : Feed source} (tracking : feed.Tracking) :
    ∃ position, feed.asks = some position := by
  rcases tracking.stored with ending | ⟨position, asked, _⟩
  · exact ⟨.atEnd, ending⟩
  · exact ⟨position, asked⟩

theorem silent_drop (subscription : Subscription (WithBot Key)) (error : Error) :
    (.dropped error :: (outcomeOfDrop subscription error).events).filterMap Event.delivers = [] := by
  rcases drop_cases subscription error with ⟨ends, _⟩ | ⟨goes, _⟩
  · rw [ends]
    rfl
  · rw [goes]
    rfl

/-- A message of the server is the next entry of the log, or moves no offset. -/
theorem received_moves {decoders : Decoders} {feed : Feed source} {occurrence : Occurrence}
    {stream next : WithBot Key} {resp : Option ReadResp} {content : Content}
    {turned : Turned (WithBot Key)} (stored : ∃ position, feed.asks = some position)
    (held : feed.system.subscription.stream = some stream) (here : stream = feed.resume)
    (arrived : (occurrence.awaits feed.log).tryNext stream = some (.ok (resp, next)))
    (carried : resp.bind ReadResp.content = some content)
    (result : Received decoders { feed.system.subscription with stream := some next } content
      turned) :
    Moves decoders feed (.turn occurrence) (feed.follow (feed.system.after turned)) := by
  have closed : ¬ feed.Opens (.turn occurrence) := streams_without_opening held
  cases result with
  | appeared wire event options same decoded tracked =>
      rw [same] at carried
      obtain ⟨entry, rest, ahead, rfl, rfl⟩ := Occurrence.tryNext_event arrived carried
      obtain ⟨position, asked⟩ := stored
      have asks_next := track_asks asked decoded tracked
      rw [here] at ahead
      have returned : (feed.system.history ++
          [Event.returned (.ok (.eventAppeared event))]).filterMap Event.delivers =
            feed.delivered ++ [event] := by
        rw [List.filterMap_append]
        rfl
      rw [follow_streaming (by simp [System.after, Outcome.phase]) rfl
        (by simp [System.after, Outcome.events, Event.confirms])]
      exact .delivered _ _ entry rest event closed ahead decoded asks_next returned rfl
  | noted event other control =>
      have still : next = stream := by
        apply Occurrence.tryNext_other arrived
        intro wire sent
        rw [carried] at sent
        exact control wire (Option.some.inj sent)
      have silent : ([.returned (.ok event)] : List Event).filterMap Event.delivers = [] := by
        cases event with
        | eventAppeared resolved => exact absurd rfl (other resolved)
        | _ => rfl
      apply rest_moves closed rfl
      · exact silent
      · intro _ cursor same
        cases same
        rw [still, here]
  | panicked =>
      apply rest_moves closed rfl rfl
      intro running
      exact absurd rfl running

theorem turn_moves {decoders : Decoders} {feed : Feed source} (tracking : feed.Tracking)
    (calling : feed.system.phase = .calling) (occurrence : Occurrence) :
    Moves decoders feed (.turn occurrence) (feed.follow (feed.system.after
      (feed.system.subscription.turn decoders (occurrence.awaits feed.log)))) := by
  have stored := tracking.asks_some
  have live : feed.system.phase ≠ .panicked := by
    rw [calling]
    decide
  have at_resume := tracking.streaming live
  have gone : ∀ {subscription : Subscription (WithBot Key)}, subscription.stream = none →
      ∀ cursor, subscription.stream = some cursor → cursor = feed.resume := by
    intro subscription missing cursor held
    rw [missing] at held
    cases held
  have met := turn_met decoders feed.system.subscription (occurrence.awaits feed.log)
  generalize feed.system.subscription.turn decoders (occurrence.awaits feed.log) = turned at met ⊢
  cases met with
  | abandoned stream held =>
      exact rest_moves (streams_without_opening held) rfl rfl (fun _ => gone rfl)
  | dropped stream status held failed =>
      have silent := silent_drop feed.system.subscription (Error.fromGrpc status)
      exact rest_moves (streams_without_opening held) rfl silent (fun _ => gone rfl)
  | received stream next resp content turned held arrived carried result =>
      exact received_moves stored held (at_resume stream held) arrived carried result
  | ignored stream next resp held arrived carried =>
      have still : next = stream := by
        apply Occurrence.tryNext_other arrived
        intro wire sent
        rw [carried] at sent
        cases sent
      apply rest_moves (streams_without_opening held) rfl rfl
      intro _ cursor same
      cases same
      rw [still, at_resume stream held]
  | unanswered missing pending =>
      have closed : ¬ feed.Opens (.turn occurrence) := by
        apply fails_without_opening stored
        intro handle cursor found
        obtain ⟨reply, replied, _⟩ := found
        rw [pending] at replied
        cases replied
      exact rest_moves closed rfl rfl (fun _ => gone missing)
  | unread handle missing found pending =>
      have closed : ¬ feed.Opens (.turn occurrence) := by
        apply fails_without_opening stored
        intro other cursor _ opened
        rw [pending] at opened
        cases opened
      exact rest_moves closed rfl rfl (fun _ => gone missing)
  | lookupFailed error missing failed =>
      have closed : ¬ feed.Opens (.turn occurrence) := by
        apply fails_without_opening stored
        intro handle cursor found
        exact absurd found (lookup_fails_or_finds failed)
      exact rest_moves closed rfl rfl (fun _ => gone missing)
  | established handle stream missing found accepted =>
      obtain ⟨reading, position, asked, rfl⟩ := Occurrence.read_opens accepted
      have opens : feed.Opens (.turn occurrence) := ⟨calling, missing, ⟨handle, found⟩, reading⟩
      have returned : (feed.system.history ++ [Event.established]).filterMap Event.delivers =
          feed.delivered := by
        rw [List.filterMap_append]
        exact List.append_nil _
      rw [follow_streaming (by simp [System.after, Outcome.phase]) rfl
        (by simp [System.after, Outcome.events, Event.confirms])]
      exact .opened _ _ position opens asked asked returned rfl
  | retried handle status outcome missing found refused retries goes =>
      have closed : ¬ feed.Opens (.turn occurrence) := by
        apply fails_without_opening stored
        intro other cursor _ opened
        rw [refused] at opened
        cases opened
      have silent : ([Event.readFailed (Error.fromGrpc status)] ++ outcome.events).filterMap
          Event.delivers = [] := by
        rcases goes with rfl | rfl <;> rfl
      apply rest_moves closed rfl
      · exact silent
      · exact fun _ => gone missing
  | exhausted handle status missing found refused ends =>
      have closed : ¬ feed.Opens (.turn occurrence) := by
        apply fails_without_opening stored
        intro other cursor _ opened
        rw [refused] at opened
        cases opened
      exact rest_moves closed rfl rfl (fun _ => gone missing)

theorem step_moves {decoders : Decoders} {feed next : Feed source} {label : Label}
    (tracking : feed.Tracking) (stepped : (machine source decoders).step feed label = some next) :
    Moves decoders feed label next := by
  cases label with
  | append entry =>
      obtain ⟨log, grown, rfl⟩ := Option.map_eq_some_iff.mp stepped
      exact .appended entry log grown
  | confirm =>
      obtain ⟨_, confirmed⟩ := Option.ite_none_right_eq_some.mp stepped
      cases confirmed
      exact .rested .confirm feed.system _ id rfl rfl tracking.streaming feed.confirm_confirmed
  | call =>
      obtain ⟨system, called, rfl⟩ := Option.map_eq_some_iff.mp stepped
      obtain ⟨idle, rfl⟩ := call_cases called
      have live : feed.system.phase ≠ .panicked := by
        rw [idle]
        decide
      have returned : (feed.system.history ++ [Event.called]).filterMap Event.delivers =
          feed.delivered := by
        rw [List.filterMap_append]
        exact List.append_nil _
      have moves : Moves decoders feed .call
          { feed with system := { feed.system with
              phase := .calling
              history := feed.system.history ++ [.called] } } :=
        .rested _ _ feed.confirmed id rfl returned (fun _ => tracking.streaming live) (Or.inl rfl)
      have still : feed.system.subscription.stream.getD feed.resume = feed.resume := by
        cases held : feed.system.subscription.stream with
        | none => rfl
        | some cursor => exact tracking.streaming live cursor held
      simpa [follow, Event.confirms, still] using moves
  | turn occurrence =>
      obtain ⟨system, turned, rfl⟩ := Option.map_eq_some_iff.mp stepped
      obtain ⟨calling, rfl⟩ := turn_cases turned
      exact turn_moves tracking calling occurrence

theorem moves_tracking {decoders : Decoders} {feed next : Feed source} {label : Label}
    (tracking : feed.Tracking) (moves : Moves decoders feed label next) : next.Tracking := by
  cases moves with
  | appended entry log grown =>
      refine ⟨?_, tracking.streaming, tracking.fresh⟩
      rcases tracking.stored with ending | ⟨position, asked, bounded, same⟩
      · exact Or.inl ending
      · refine Or.inr ⟨position, asked, bounded, ?_⟩
        cases position with
        | start => exact same
        | position key => exact same
        | atEnd => exact absurd rfl bounded
  | rested label system confirmed closed asked returned streaming confirmation =>
      refine ⟨?_, streaming, ?_⟩
      · simpa only [asks, asked] using tracking.stored
      · intro ending
        rw [asks, asked] at ending
        exact returned.trans (tracking.fresh ending)
  | opened label system position opens asked kept returned stream =>
      refine ⟨?_, ?_, ?_⟩
      · by_cases ending : position = .atEnd
        · exact Or.inl (ending ▸ kept)
        · exact Or.inr ⟨position, kept, ending, rfl⟩
      · intro _ cursor held
        exact Option.some.inj (held.symm.trans stream)
      · intro ending
        have same := kept.symm.trans ending
        rw [same] at asked
        exact returned.trans (tracking.fresh asked)
  | delivered label system entry rest event closed ahead decoded asked returned stream =>
      refine ⟨Or.inr ⟨_, asked, by simp, rfl⟩, ?_, ?_⟩
      · intro _ cursor held
        exact Option.some.inj (held.symm.trans stream)
      · intro ending
        have same := asked.symm.trans ending
        cases same

end Feed

end TrogonEventStore.Subscription

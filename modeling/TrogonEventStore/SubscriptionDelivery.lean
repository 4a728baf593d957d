import TrogonEventStore.SubscriptionFeed

/-! What a subscription delivers of the server's log over whole runs: all of it in order from a
position, and what becomes of the events that follow a subscription from the end. -/

namespace TrogonEventStore.Subscription

inductive Created : (source : Source) → StreamPosition Key → Subscription (WithBot Key) → Prop where
  | stream {tonic : Tonic} {settings : ClientSettings} {streamId : Bytes}
      {options : SubscribeToStreamOptions} {propagated : List (String × String)}
      {subscription : Subscription (WithBot Key)}
      (created : subscribeToStream tonic settings streamId options propagated = some subscription) :
      Created .stream (options.position.map fun revision => toLex (revision, 0)) subscription
  | all {tonic : Tonic} {settings : ClientSettings} {options : SubscribeToAllOptions}
      {propagated : List (String × String)} {subscription : Subscription (WithBot Key)}
      (created : subscribeToAll tonic settings options propagated = some subscription) :
      Created .all (options.position.map fun position => toLex (position.commit, position.prepare))
        subscription

namespace Feed

variable {source : Source}

/-- The entries delivered so far are the first ones after the start, each returned once and in
order; the others are still after the position the next request asks for. -/
structure InOrder (decoders : Decoders) (start : WithBot Key) (feed : Feed source)
    (entries : List LogEntry) : Prop where
  selected : feed.log.after start = entries ++ feed.log.after feed.resume
  returned : feed.delivered.map some = entries.map fun entry => entry.wire.decode decoders
  increasing : entries.Pairwise fun first second => source.key first < source.key second
  asks : ∃ position, feed.asks = some position ∧ position ≠ .atEnd ∧
    cursorFor feed.log position = feed.resume

structure Delivery (decoders : Decoders) (start : WithBot Key) (feed : Feed source)
    (entries : List LogEntry) : Prop where
  tracking : feed.Tracking
  selected : feed.log.after start = entries ++ feed.log.after feed.resume
  returned : feed.delivered.map some = entries.map fun entry => entry.wire.decode decoders
  resumable : feed.asks ≠ some .atEnd
  reach : feed.resume = start ∨ (start < feed.resume ∧ feed.resume ≤ feed.log.latest)

/-- What was appended since the server confirmed is delivered or ahead of where the feed has read. -/
def Kept (decoders : Decoders) (feed : Feed source) : Prop :=
  ∀ mark, feed.confirmed = some mark → ∀ entry ∈ feed.log.entries.drop mark,
    (∃ event ∈ feed.delivered, entry.wire.decode decoders = some event) ∨
      feed.resume < source.key entry

/-- A stream is opened from the end only while nothing was appended since the server confirmed. -/
def NothingMissed (feed : Feed source) (label : Label) : Prop :=
  feed.Opens label → feed.asks = some .atEnd → ∀ mark, feed.confirmed = some mark →
    feed.log.entries.drop mark = []

theorem created_asks {position : StreamPosition Key} {subscription : Subscription (WithBot Key)}
    (created : Created source position subscription) :
    requested source subscription.options = some position ∧ subscription.stream = none := by
  cases created with
  | @stream tonic settings streamId options propagated subscription created =>
      simp only [subscribeToStream, Option.bind_eq_bind, Option.bind_eq_some_iff] at created
      obtain ⟨metadata, _, same⟩ := created
      cases same
      simp only [requested, Subscription.new, Option.map_some, and_true]
      cases options.position <;> rfl
  | @all tonic settings options propagated subscription created =>
      simp only [subscribeToAll, Option.bind_eq_bind, Option.bind_eq_some_iff] at created
      obtain ⟨metadata, _, same⟩ := created
      cases same
      simp only [requested, Subscription.new, Option.map_some, and_true]
      cases options.position <;> rfl

theorem start_tracking {position : StreamPosition Key} {subscription : Subscription (WithBot Key)}
    (created : Created source position subscription) (log : Log source) :
    (start log subscription).Tracking := by
  obtain ⟨asked, missing⟩ := created_asks created
  refine ⟨?_, ?_, fun _ => rfl⟩
  · cases position with
    | atEnd => exact Or.inl asked
    | start => exact Or.inr ⟨.start, asked, by simp, by simp [start, asked, cursorFor]⟩
    | position key => exact Or.inr ⟨.position key, asked, by simp, by simp [start, asked, cursorFor]⟩
  · intro _ cursor held
    exact absurd (missing.symm.trans held) (by simp)

theorem Tracking.resumes {feed : Feed source} (tracking : feed.Tracking)
    {position : StreamPosition Key} (asked : feed.asks = some position)
    (bounded : position ≠ .atEnd) : cursorFor feed.log position = feed.resume := by
  rcases tracking.stored with ending | ⟨other, same, _, resumes⟩
  · rw [asked] at ending
    exact absurd (Option.some.inj ending) bounded
  · rw [asked] at same
    rw [Option.some.inj same, resumes]

theorem start_delivery {decoders : Decoders} {position : StreamPosition Key}
    {subscription : Subscription (WithBot Key)} (created : Created source position subscription)
    (resumable : position ≠ .atEnd) (log : Log source) :
    Delivery decoders (cursorFor log position) (start log subscription) [] := by
  have tracking := start_tracking created log
  have asked : (start log subscription).asks = some position := (created_asks created).1
  have here := tracking.resumes asked resumable
  refine ⟨tracking, ?_, rfl, ?_, Or.inl here.symm⟩
  · rw [List.nil_append, ← here]
    rfl
  · rw [asked]
    simpa using resumable

theorem moves_delivery {decoders : Decoders} {first : WithBot Key} {feed next : Feed source}
    {label : Label} {entries : List LogEntry} (delivery : Delivery decoders first feed entries)
    (moves : Moves decoders feed label next) :
    ∃ entries, Delivery decoders first next entries := by
  have tracking := moves_tracking delivery.tracking moves
  cases moves with
  | appended entry log grown =>
      have above := (SortedLog.append_cases grown).2
      have latest := SortedLog.latest_append grown
      have same : (first < (source.key entry : WithBot Key)) ↔
          feed.resume < (source.key entry : WithBot Key) := by
        rcases delivery.reach with here | ⟨low, high⟩
        · rw [here]
        · have beyond := high.trans_lt above
          exact ⟨fun _ => beyond, fun _ => low.trans beyond⟩
      refine ⟨entries, tracking, ?_, delivery.returned, delivery.resumable, ?_⟩
      · simp only [SortedLog.after_append _ grown, delivery.selected, same, List.append_assoc]
      · rcases delivery.reach with here | ⟨low, high⟩
        · exact Or.inl here
        · simp only [latest]
          exact Or.inr ⟨low, high.trans above.le⟩
  | rested label system confirmed closed asked returned streaming confirmation =>
      refine ⟨entries, tracking, delivery.selected, ?_, ?_, delivery.reach⟩
      · rw [delivered, returned]
        exact delivery.returned
      · rw [Feed.asks, asked]
        exact delivery.resumable
  | opened label system position opens asked kept returned stream =>
      have bounded : position ≠ .atEnd := by
        intro ending
        rw [ending] at asked
        exact delivery.resumable asked
      have here := delivery.tracking.resumes asked bounded
      refine ⟨entries, tracking, ?_, ?_, ?_, ?_⟩
      · simpa only [here] using delivery.selected
      · rw [delivered, returned]
        exact delivery.returned
      · rw [Feed.asks, kept]
        simpa using bounded
      · simpa only [here] using delivery.reach
  | delivered label system entry rest event closed ahead decoded asked returned stream =>
      have member : entry ∈ feed.log.after feed.resume := by simp [ahead]
      obtain ⟨present, further⟩ := SortedLog.mem_after.mp member
      refine ⟨entries ++ [entry], tracking, ?_, ?_, ?_, ?_⟩
      · calc
          feed.log.after first = entries ++ feed.log.after feed.resume := delivery.selected
          _ = entries ++ [entry] ++ rest := by simp [ahead]
          _ = entries ++ [entry] ++ feed.log.after (source.key entry) := by
            rw [SortedLog.after_next ahead]
      · rw [delivered, returned]
        simp [delivery.returned, decoded]
      · simp [Feed.asks, asked]
      · refine Or.inr ⟨?_, SortedLog.le_latest present⟩
        rcases delivery.reach with here | ⟨low, _⟩
        · rw [← here]
          exact further
        · exact low.trans further

theorem Delivery.inOrder {decoders : Decoders} {first : WithBot Key} {feed : Feed source}
    {entries : List LogEntry} (delivery : Delivery decoders first feed entries) :
    InOrder decoders first feed entries := by
  refine ⟨delivery.selected, delivery.returned, ?_, ?_⟩
  · have sorted := feed.log.after_sorted first
    rw [delivery.selected] at sorted
    exact (List.pairwise_append.mp sorted).1
  · obtain ⟨position, asked⟩ := delivery.tracking.asks_some
    have bounded : position ≠ .atEnd := by
      intro ending
      rw [ending] at asked
      exact delivery.resumable asked
    exact ⟨position, asked, bounded, delivery.tracking.resumes asked bounded⟩

/-- Through deliveries, control messages, drops, failed lookups and reads, appends and cancelled
calls, a subscription from a position returns the log's events after it in order, none lost and
none twice. -/
theorem feed_delivers_in_order {decoders : Decoders} {position : StreamPosition Key}
    {subscription : Subscription (WithBot Key)} {log : Log source} {labels : List Label}
    {feed : Feed source} (created : Created source position subscription)
    (resumable : position ≠ .atEnd)
    (ran : (machine source decoders).run (start log subscription) labels = some feed) :
    ∃ entries, InOrder decoders (cursorFor log position) feed entries := by
  have delivery : ∃ entries, Delivery decoders (cursorFor log position) feed entries := by
    apply (machine source decoders).run_invariant
      (fun feed => ∃ entries, Delivery decoders (cursorFor log position) feed entries) _ _ ran
    · intro feed label next ⟨entries, delivery⟩ stepped
      exact moves_delivery delivery (step_moves delivery.tracking stepped)
    · exact ⟨[], start_delivery created resumable log⟩
  obtain ⟨entries, delivery⟩ := delivery
  exact ⟨entries, delivery.inOrder⟩

def droppedLabels : List Label :=
  [.call, .turn .reads, .append (.plain 0), .append (.plain 1), .turn (.sends .entry), .call,
    .turn (.sends .unavailable), .turn .reads, .turn (.sends .entry)]

theorem dropped_feed_delivers_in_order :
    ∃ subscription feed entries, orders .start = some subscription ∧
      (machine .stream .blank).run (start (.empty Source.stream.key) subscription) droppedLabels =
        some feed ∧
      feed.delivered.length = 2 ∧ InOrder .blank ⊥ feed entries := by
  obtain ⟨subscription, created, feed, ran, two⟩ :
      ∃ subscription, orders .start = some subscription ∧
        ∃ feed, (machine .stream .blank).run (start (.empty Source.stream.key) subscription)
          droppedLabels = some feed ∧ feed.delivered.length = 2 := ⟨_, rfl, _, rfl, rfl⟩
  obtain ⟨entries, inOrder⟩ := feed_delivers_in_order (.stream created) (by decide) ran
  exact ⟨subscription, feed, entries, created, ran, two, inOrder⟩

structure Trailing (feed : Feed source) : Prop where
  tracking : feed.Tracking
  within : feed.resume ≤ feed.log.latest

theorem start_trailing {subscription : Subscription (WithBot Key)}
    (created : Created source .atEnd subscription) (log : Log source) :
    (start log subscription).Trailing := by
  refine ⟨start_tracking created log, ?_⟩
  have asked := (created_asks created).1
  simp [start, asked]

theorem moves_trailing {decoders : Decoders} {feed next : Feed source} {label : Label}
    (trailing : feed.Trailing) (moves : Moves decoders feed label next) : next.Trailing := by
  refine ⟨moves_tracking trailing.tracking moves, ?_⟩
  cases moves with
  | appended entry log grown =>
      have above := (SortedLog.append_cases grown).2
      simp only [SortedLog.latest_append grown]
      exact trailing.within.trans above.le
  | rested label system confirmed => exact trailing.within
  | opened label system position opens asked =>
      by_cases ending : position = .atEnd
      · rw [ending]
        exact le_refl _
      · simp only [trailing.tracking.resumes asked ending]
        exact trailing.within
  | delivered label system entry rest event closed ahead =>
      have member : entry ∈ feed.log.after feed.resume := by simp [ahead]
      exact SortedLog.le_latest (SortedLog.mem_after.mp member).1

theorem opened_kept_iff {decoders : Decoders} {feed : Feed source} {system : System (WithBot Key)}
    (nothing : system.history.filterMap Event.delivers = []) :
    Kept decoders { feed with system := system, resume := cursorFor feed.log .atEnd } ↔
      ∀ mark, feed.confirmed = some mark → feed.log.entries.drop mark = [] := by
  constructor
  · intro kept mark confirmed
    apply List.eq_nil_iff_forall_not_mem.mpr
    intro entry member
    rcases kept mark confirmed entry member with ⟨event, delivered, _⟩ | ahead
    · simp [Feed.delivered, nothing] at delivered
    · exact absurd ahead (SortedLog.le_latest (List.mem_of_mem_drop member)).not_gt
  · intro passed mark confirmed entry member
    simp [passed mark confirmed] at member

theorem moves_kept_iff {decoders : Decoders} {feed next : Feed source} {label : Label}
    (trailing : feed.Trailing) (kept : Kept decoders feed)
    (moves : Moves decoders feed label next) :
    Kept decoders next ↔ feed.NothingMissed label := by
  cases moves with
  | appended entry log grown =>
      refine ⟨fun _ opens => opens.elim, ?_⟩
      intro _ mark confirmed other member
      simp only [(SortedLog.append_cases grown).1, List.drop_append, List.mem_append] at member
      rcases member with earlier | now
      · exact kept mark confirmed other earlier
      · rw [List.mem_singleton.mp (List.mem_of_mem_drop now)]
        exact Or.inr (trailing.within.trans_lt (SortedLog.append_cases grown).2)
  | rested label system confirmed closed asked returned streaming confirmation =>
      refine ⟨fun _ opens => absurd opens closed, ?_⟩
      intro _ mark marked entry member
      simp only [delivered, returned]
      rcases confirmation with same | ⟨_, now⟩
      · exact kept mark (same.symm.trans marked) entry member
      · cases now.symm.trans marked
        simp at member
  | opened label system position opens asked kept_request returned stream =>
      by_cases ending : position = .atEnd
      · subst ending
        have nothing : system.history.filterMap Event.delivers = [] := by
          rw [returned]
          exact trailing.tracking.fresh asked
        rw [opened_kept_iff nothing]
        exact ⟨fun passed _ _ => passed, fun missed => missed opens asked⟩
      · have here := trailing.tracking.resumes asked ending
        constructor
        · intro _ _ at_end
          rw [asked] at at_end
          exact absurd (Option.some.inj at_end) ending
        · intro _ mark confirmed entry member
          simp only [delivered, returned, here]
          exact kept mark confirmed entry member
  | delivered label system entry rest event closed ahead decoded asked returned stream =>
      refine ⟨fun _ opens => absurd opens closed, ?_⟩
      intro _ mark confirmed other member
      simp only [Feed.delivered, returned, List.mem_append, List.mem_singleton]
      rcases kept mark confirmed other member with ⟨earlier, present, decodes⟩ | further
      · exact Or.inl ⟨earlier, Or.inl present, decodes⟩
      · have unread : other ∈ feed.log.after feed.resume :=
          SortedLog.mem_after.mpr ⟨List.mem_of_mem_drop member, further⟩
        rw [ahead] at unread
        rcases List.mem_cons.mp unread with same | later
        · rw [same]
          exact Or.inl ⟨event, Or.inr rfl, decoded⟩
        · rw [← SortedLog.after_next ahead] at later
          exact Or.inr (SortedLog.mem_after.mp later).2

theorem opens_enabled {decoders : Decoders} {feed : Feed source} {label : Label}
    (opens : feed.Opens label) : (machine source decoders).step feed label ≠ none := by
  cases label with
  | append entry => cases opens
  | confirm => cases opens
  | call => cases opens
  | turn occurrence =>
      have enabled := turn_enabled decoders opens.1 (occurrence.awaits feed.log)
      simp [machine, enabled]

/-- A subscription from the end keeps every event appended after the server's confirmation exactly as
long as no stream is opened from the end again once such an event is in the log. -/
theorem end_feed_kept_iff {decoders : Decoders} {subscription : Subscription (WithBot Key)}
    (created : Created source .atEnd subscription) (log : Log source) (labels : List Label) :
    (machine source decoders).Always (Kept decoders) (start log subscription) labels ↔
      (machine source decoders).Guarded NothingMissed (start log subscription) labels := by
  apply (machine source decoders).always_iff_guarded NothingMissed Trailing (Kept decoders)
  · intro feed label next trailing _ stepped
    exact moves_trailing trailing (step_moves trailing.tracking stepped)
  · intro feed label next trailing kept stepped
    exact moves_kept_iff trailing kept (step_moves trailing.tracking stepped)
  · intro feed label disabled opens
    exact absurd disabled (opens_enabled opens)
  · exact start_trailing created log
  · intro mark confirmed
    cases confirmed

/-- An event is appended after the server has confirmed and before the client reads of it, and the
stream drops. -/
def gapLabels : List Label :=
  [.call, .turn .reads, .confirm, .append (.plain 0), .turn (.sends .confirmation), .call,
    .turn (.sends .unavailable), .turn .reads]

theorem gap_feed_kept_iff :
    ∃ subscription, orders .atEnd = some subscription ∧
      ((machine .stream .blank).Always (Kept .blank) (start (.empty Source.stream.key) subscription)
          gapLabels ↔
        (machine .stream .blank).Guarded NothingMissed
          (start (.empty Source.stream.key) subscription) gapLabels) := by
  obtain ⟨subscription, created⟩ : ∃ subscription, orders .atEnd = some subscription := ⟨_, rfl⟩
  exact ⟨subscription, created, end_feed_kept_iff (.stream created) _ _⟩

/-- The event of the gap is neither delivered nor ahead of the new stream. -/
theorem gap_event_lost :
    ∃ subscription, orders .atEnd = some subscription ∧
      ¬ (machine .stream .blank).Always (Kept .blank)
        (start (.empty Source.stream.key) subscription) gapLabels := by
  refine ⟨_, rfl, ?_⟩
  intro always
  have kept := (machine .stream .blank).always_last always rfl
  rcases kept 0 rfl (.plain 0) (List.mem_singleton_self _) with ⟨event, delivered, _⟩ | ahead
  · cases delivered
  · revert ahead
    decide

end Feed

end TrogonEventStore.Subscription

import TrogonEventStore.SettingsParts
import TrogonEventStore.NodeSelection

namespace TrogonEventStore

section Metadata

variable (tonic : Tonic) (settings : ClientSettings) (options : CommonOperationOptions)
  (propagated : List (String × String))

theorem buildRequestMetadata_named :
    ∃ metadata, buildRequestMetadata tonic settings options propagated =
      match settings.connectionName with
      | some name => (tonic.metadataValue name).map (MetadataMap.insert metadata "connection-name")
      | none => some metadata := ⟨_, rfl⟩

theorem buildRequestMetadata_none_iff :
    buildRequestMetadata tonic settings options propagated = none ↔
      ∃ name, settings.connectionName = some name ∧ ¬ tonic.Takes name := by
  obtain ⟨metadata, built⟩ := buildRequestMetadata_named tonic settings options propagated
  rw [built]
  cases settings.connectionName with
  | none => simp
  | some name => simp [Tonic.Takes]

theorem buildRequestMetadata_carries (documented : tonic.Documented) {metadata : MetadataMap}
    {name : String}
    (built : buildRequestMetadata tonic settings options propagated = some metadata)
    (named : settings.connectionName = some name) :
    metadata.lookup "connection-name" = some (utf8 name) := by
  obtain ⟨earlier, same⟩ := buildRequestMetadata_named tonic settings options propagated
  rw [built, named] at same
  dsimp only at same
  obtain ⟨bytes, value, rfl⟩ := Option.map_eq_some_iff.mp same.symm
  rw [documented.unchanged name bytes value]
  exact List.lookup_cons_self

end Metadata

/-- Settings whose requests can be built: the connection name travels unchanged, and a gossip
read fails on nothing but what it reads. -/
structure Requestable (tonic : Tonic) (settings : ClientSettings) : Prop where
  builds : ∀ options propagated, ∃ metadata,
    buildRequestMetadata tonic settings options propagated = some metadata ∧
      ∀ name, settings.connectionName = some name →
        metadata.lookup "connection-name" = some (utf8 name)
  gossips : ∀ propagated parseUuid call,
    gossipRead tonic settings propagated parseUuid call = none →
      ∃ wires, call = .replied (.ok wires) ∧ readMembers parseUuid wires = none

theorem requestable_iff {tonic : Tonic} (documented : tonic.Documented)
    (settings : ClientSettings) : Requestable tonic settings ↔
      ∀ name, settings.connectionName = some name → tonic.Takes name := by
  constructor
  · intro requestable name named
    by_contra odd
    obtain ⟨metadata, built, _⟩ := requestable.builds .default []
    rw [(buildRequestMetadata_none_iff tonic settings .default []).mpr ⟨name, named, odd⟩] at built
    cases built
  · intro plain
    have builds : ∀ options propagated, ∃ metadata,
        buildRequestMetadata tonic settings options propagated = some metadata := by
      intro options propagated
      rw [← Option.ne_none_iff_exists', ne_eq, buildRequestMetadata_none_iff]
      intro ⟨name, named, odd⟩
      exact odd (plain name named)
    constructor
    · intro options propagated
      obtain ⟨metadata, built⟩ := builds options propagated
      exact ⟨metadata, built, fun name =>
        buildRequestMetadata_carries tonic settings options propagated documented built⟩
    · intro propagated parseUuid call panics
      obtain ⟨metadata, built⟩ := builds .default propagated
      unfold gossipRead at panics
      rw [built] at panics
      cases call with
      | timedOut => cases panics
      | replied reply =>
          cases reply with
          | error status => cases panics
          | ok wires =>
              dsimp only at panics
              cases read : readMembers parseUuid wires with
              | none => exact ⟨wires, rfl, read⟩
              | some members =>
                  rw [read] at panics
                  cases members with
                  | error status => cases panics
                  | ok members => cases panics

section Accepted

variable {crate : UrlCrate} {s : String} {settings : ClientSettings}

theorem connectionName_accepted (accepted : ClientSettings.fromStr crate s = .ok settings) :
    settings.connectionName = lastParam "connectionname" (pairsOf crate s) := by
  have read := connectionName_setBy.fromStr (fun _ _ _ _ => rfl) accepted
  rw [Option.map_id'] at read
  exact read.trans Option.or_none

/-- The requests of an accepted connection string can be built exactly when its connection name is
text that tonic takes. -/
theorem request_metadata_built_iff {tonic : Tonic} (documented : tonic.Documented)
    (accepted : ClientSettings.fromStr crate s = .ok settings) :
    Requestable tonic settings ↔
      ∀ name, lastParam "connectionname" (pairsOf crate s) = some name → tonic.Takes name := by
  rw [requestable_iff documented, connectionName_accepted accepted]

end Accepted

theorem plain_connection_name_carried :
    Requestable .plain { ClientSettings.local with connectionName := some "orders" } ↔
      ∀ name, lastParam "connectionname" (pairsOf
        (.only "esdb://localhost:2113?connectionName=orders"
          (.local [("connectionName", "orders")]))
        "esdb://localhost:2113?connectionName=orders") = some name → Tonic.plain.Takes name :=
  request_metadata_built_iff Tonic.plain_documented (by decide)

/-- A line break comes out of the percent escapes of the query. -/
theorem broken_connection_name_panics :
    ClientSettings.fromStr
        (.only "esdb://localhost:2113?connectionName=a%0Ab"
          (.local [("connectionName", "a\nb")]))
        "esdb://localhost:2113?connectionName=a%0Ab" =
      .ok { ClientSettings.local with connectionName := some "a\nb" } ∧
    ∀ tonic : Tonic, tonic.Documented →
      (∀ options propagated, buildRequestMetadata tonic
        { ClientSettings.local with connectionName := some "a\nb" } options propagated = none) ∧
      ∀ propagated parseUuid call, gossipRead tonic
        { ClientSettings.local with connectionName := some "a\nb" } propagated parseUuid call =
          none := by
  refine ⟨by decide, ?_⟩
  intro tonic documented
  have refused : ¬ tonic.Takes "a\nb" := by
    refine fun takes => takes (documented.control _ ⟨'\n', by decide, ?_⟩)
    exact ⟨by decide, by decide⟩
  have panics : ∀ options propagated, buildRequestMetadata tonic
      { ClientSettings.local with connectionName := some "a\nb" } options propagated = none := by
    intro options propagated
    rw [buildRequestMetadata_none_iff]
    exact ⟨"a\nb", rfl, refused⟩
  refine ⟨panics, ?_⟩
  intro propagated parseUuid call
  simp only [gossipRead, panics]

section Timeout

inductive OperationKind where
  | regular
  | streaming
  deriving DecidableEq, Repr

structure Request (Message : Type) where
  message : Message
  metadata : MetadataMap
  timeout : Option Duration

/-- The timeout `new_request` sets, if any: the explicit deadline, or the default one, or ten
seconds. -/
def timeoutSet (settings : ClientSettings) (kind : OperationKind)
    (options : CommonOperationOptions) : Option Duration :=
  match options.deadline with
  | some duration => some duration
  | none =>
      match settings.defaultDeadline with
      | some duration => if kind ≠ .streaming then some duration else none
      | none => if kind = .regular then some (Duration.fromSecs 10) else none

/-- `new_request`; `none` is a panic. -/
def newRequest {Message : Type} (tonic : Tonic) (settings : ClientSettings) (kind : OperationKind)
    (options : CommonOperationOptions) (propagated : List (String × String)) (message : Message) :
    Option (Request Message) := do
  let metadata ← buildRequestMetadata tonic settings options propagated
  match timeoutSet settings kind options with
  | some duration => (tonic.setTimeout duration).map fun timeout => ⟨message, metadata, some timeout⟩
  | none => some ⟨message, metadata, none⟩

inductive DefaultDeadline where
  | unset
  | disabled
  | after (duration : Duration)
  deriving DecidableEq, Repr

def defaultDeadlineOf (crate : UrlCrate) (s : String) : DefaultDeadline :=
  match lastParam "defaultdeadline" (pairsOf crate s) with
  | none => .unset
  | some text =>
      match readI64 text with
      | .error _ => .unset
      | .ok value => if value = -1 then .disabled else .after (Duration.fromMillis value.toNat)

/-- The timeout a request is promised: a disabled default deadline sets none. -/
def timeoutPromised (kind : OperationKind) (explicit : Option Duration)
    (deadline : DefaultDeadline) : Option Duration :=
  match explicit, deadline, kind with
  | some duration, _, _ => some duration
  | none, .after duration, .regular => some duration
  | none, .unset, .regular => some (Duration.fromSecs 10)
  | none, _, _ => none

/-- The deadline that counts fits a timeout, and the default one is not disabled where it
counts. -/
def Resolvable (kind : OperationKind) (explicit : Option Duration) (deadline : DefaultDeadline) :
    Prop :=
  match explicit, deadline, kind with
  | some duration, _, _ => FitsTimeout duration
  | none, .after duration, .regular => FitsTimeout duration
  | none, .disabled, .regular => False
  | none, _, _ => True

def DefaultDeadline.setting : DefaultDeadline → Option Duration
  | .unset => none
  | .disabled => some disabledDeadline
  | .after duration => some duration

theorem defaultDeadline_accepted {crate : UrlCrate} {s : String} {settings : ClientSettings}
    (accepted : ClientSettings.fromStr crate s = .ok settings) :
    settings.defaultDeadline = (defaultDeadlineOf crate s).setting := by
  have read := defaultDeadline_setBy.fromStr (fun _ _ _ _ => rfl) accepted
  obtain ⟨seeds, url, reads, made⟩ := fromStr_ok_iff.mp accepted
  obtain ⟨_, _, params, _, _, done, _⟩ := settingsOf_ok_iff.mp made
  have pairs : pairsOf crate s = url.queryPairs := by rw [pairsOf, reads]
  unfold defaultDeadlineOf
  rw [read]
  cases last : lastParam "defaultdeadline" (pairsOf crate s) with
  | none => rfl
  | some text =>
      rw [pairs] at last
      obtain ⟨number, value⟩ := deadline_read (readParams_ok_iff.mp done).1 last
      simp only [Option.map_some, Option.some_or, deadlineOf, value]
      split
      · rfl
      · rfl

theorem newRequest_built {Message : Type} {tonic : Tonic} {settings : ClientSettings}
    {options : CommonOperationOptions} {propagated : List (String × String)}
    {metadata : MetadataMap} (kind : OperationKind) (message : Message)
    (built : buildRequestMetadata tonic settings options propagated = some metadata) :
    newRequest tonic settings kind options propagated message =
      match timeoutSet settings kind options with
      | some duration =>
          (tonic.setTimeout duration).map fun timeout => ⟨message, metadata, some timeout⟩
      | none => some ⟨message, metadata, none⟩ := by
  unfold newRequest
  rw [built]
  rfl

theorem disabledDeadline_unfit : ¬ FitsTimeout disabledDeadline := by decide

theorem tenSeconds_fit : FitsTimeout (Duration.fromSecs 10) := by decide

/-- Where the metadata can be built, a request is promised what it gets unless the timeout that is
set does not fit. -/
theorem promised_iff_resolvable {settings : ClientSettings} {kind : OperationKind}
    {options : CommonOperationOptions} {deadline : DefaultDeadline}
    (kept : settings.defaultDeadline = deadline.setting) :
    (timeoutSet settings kind options = timeoutPromised kind options.deadline deadline ∧
        ∀ duration, timeoutSet settings kind options = some duration → FitsTimeout duration) ↔
      Resolvable kind options.deadline deadline := by
  unfold timeoutSet
  rw [kept]
  cases options.deadline with
  | some duration => simp [timeoutPromised, Resolvable]
  | none =>
      cases deadline with
      | unset =>
          cases kind with
          | regular => simp [timeoutPromised, Resolvable, DefaultDeadline.setting, tenSeconds_fit]
          | streaming => simp [timeoutPromised, Resolvable, DefaultDeadline.setting]
      | disabled =>
          cases kind with
          | regular => simp [timeoutPromised, Resolvable, DefaultDeadline.setting]
          | streaming => simp [timeoutPromised, Resolvable, DefaultDeadline.setting]
      | after duration =>
          cases kind with
          | regular => simp [timeoutPromised, Resolvable, DefaultDeadline.setting]
          | streaming => simp [timeoutPromised, Resolvable, DefaultDeadline.setting]

/-- A request gets the timeout it is promised exactly when its connection name is text that tonic
takes and the deadline that counts can be set. -/
theorem deadline_resolved_iff {Message : Type} {tonic : Tonic} (documented : tonic.Documented)
    {crate : UrlCrate} {s : String} {settings : ClientSettings}
    (accepted : ClientSettings.fromStr crate s = .ok settings) (kind : OperationKind)
    (options : CommonOperationOptions) (propagated : List (String × String)) (message : Message) :
    (∃ request, newRequest tonic settings kind options propagated message = some request ∧
        request.timeout = timeoutPromised kind options.deadline (defaultDeadlineOf crate s)) ↔
      (∀ name, lastParam "connectionname" (pairsOf crate s) = some name → tonic.Takes name) ∧
        Resolvable kind options.deadline (defaultDeadlineOf crate s) := by
  have kept := defaultDeadline_accepted accepted
  have named := connectionName_accepted accepted
  have panics := buildRequestMetadata_none_iff tonic settings options propagated
  rw [← promised_iff_resolvable kept, ← named]
  cases built : buildRequestMetadata tonic settings options propagated with
  | none =>
      obtain ⟨name, given, odd⟩ := panics.mp built
      refine iff_of_false ?_ fun plain => odd (plain.1 name given)
      intro ⟨request, made, _⟩
      unfold newRequest at made
      rw [built] at made
      cases made
  | some metadata =>
      have plain : ∀ name, settings.connectionName = some name → tonic.Takes name := by
        intro name given
        by_contra odd
        rw [panics.mpr ⟨name, given, odd⟩] at built
        cases built
      rw [newRequest_built kind message built, and_iff_right plain]
      cases set : timeoutSet settings kind options with
      | none => simp
      | some duration =>
          dsimp only
          by_cases fits : FitsTimeout duration
          · rw [documented.stores duration fits]
            simp [fits]
          · rw [documented.panics duration fits]
            simp [fits]

def deadlineCrate (text value : String) : UrlCrate :=
  .only text (.local [("defaultDeadline", value)])

theorem five_seconds_resolved :
    (∃ request, newRequest .plain
        { ClientSettings.local with defaultDeadline := some (Duration.fromMillis 5000) } .regular
        .default [] () = some request ∧
      request.timeout = timeoutPromised .regular none
        (defaultDeadlineOf (deadlineCrate "esdb://localhost:2113?defaultDeadline=5000" "5000")
          "esdb://localhost:2113?defaultDeadline=5000")) ↔
    (∀ name, lastParam "connectionname"
        (pairsOf (deadlineCrate "esdb://localhost:2113?defaultDeadline=5000" "5000")
          "esdb://localhost:2113?defaultDeadline=5000") = some name → Tonic.plain.Takes name) ∧
      Resolvable .regular none
        (defaultDeadlineOf (deadlineCrate "esdb://localhost:2113?defaultDeadline=5000" "5000")
          "esdb://localhost:2113?defaultDeadline=5000") :=
  deadline_resolved_iff Tonic.plain_documented (by decide) .regular .default [] ()

theorem disabled_deadline_panics :
    ClientSettings.fromStr
        (deadlineCrate "esdb://localhost:2113?defaultDeadline=-1" "-1")
        "esdb://localhost:2113?defaultDeadline=-1" =
      .ok { ClientSettings.local with defaultDeadline := some disabledDeadline } ∧
    timeoutPromised .regular none
      (defaultDeadlineOf (deadlineCrate "esdb://localhost:2113?defaultDeadline=-1" "-1")
        "esdb://localhost:2113?defaultDeadline=-1") = none ∧
    ∀ tonic : Tonic, tonic.Documented → ∀ propagated,
      (newRequest tonic { ClientSettings.local with defaultDeadline := some disabledDeadline }
        .regular .default propagated ()).isNone := by
  refine ⟨by decide, by decide, ?_⟩
  intro tonic documented propagated
  obtain ⟨metadata, built⟩ := buildRequestMetadata_named tonic
    { ClientSettings.local with defaultDeadline := some disabledDeadline } .default propagated
  rw [newRequest_built .regular () built]
  have set : timeoutSet { ClientSettings.local with defaultDeadline := some disabledDeadline }
      .regular .default = some disabledDeadline := rfl
  rw [set]
  dsimp only
  rw [documented.panics _ disabledDeadline_unfit]
  rfl

end Timeout

end TrogonEventStore

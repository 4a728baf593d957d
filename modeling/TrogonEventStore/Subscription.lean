import TrogonEventStore.Library.Feed
import TrogonEventStore.ConnectionActor
import TrogonEventStore.Events
import TrogonEventStore.Request

namespace TrogonEventStore

inductive StreamPosition (Value : Type) where
  | start
  | atEnd
  | position (value : Value)
  deriving DecidableEq, Repr

def StreamPosition.map {Value Other : Type} (convert : Value → Other) :
    StreamPosition Value → StreamPosition Other
  | .start => .start
  | .atEnd => .atEnd
  | .position value => .position (convert value)

structure SubscriptionFilter where
  basedOnStream : Bool
  max : Option Nat
  regex : Option String
  prefixes : List String
  deriving DecidableEq, Repr

structure SubscribeToStreamOptions where
  position : StreamPosition Nat
  resolveLinkTos : Bool
  retry : Option RetryOptions
  commonOperationOptions : CommonOperationOptions
  deriving DecidableEq, Repr

def SubscribeToStreamOptions.default : SubscribeToStreamOptions :=
  ⟨.atEnd, false, none, .default⟩

structure SubscribeToAllOptions where
  position : StreamPosition Position
  resolveLinkTos : Bool
  filter : Option SubscriptionFilter
  retry : Option RetryOptions
  commonOperationOptions : CommonOperationOptions
  deriving DecidableEq, Repr

def SubscribeToAllOptions.default : SubscribeToAllOptions :=
  ⟨.start, false, none, none, .default⟩

namespace ReadReq

inductive RevisionOption where
  | revision (revision : Nat)
  | start
  | atEnd
  deriving DecidableEq, Repr

structure StreamOptions where
  streamIdentifier : Option Bytes
  revisionOption : Option RevisionOption
  deriving DecidableEq, Repr

inductive AllOption where
  | position (position : Position)
  | start
  | atEnd
  deriving DecidableEq, Repr

structure AllOptions where
  allOption : Option AllOption
  deriving DecidableEq, Repr

inductive StreamOption where
  | stream (options : StreamOptions)
  | all (options : AllOptions)
  deriving DecidableEq, Repr

inductive CountOption where
  | count (count : Nat)
  | subscription
  deriving DecidableEq, Repr

structure Expression where
  regex : String
  prefixes : List String
  deriving DecidableEq, Repr

inductive Filter where
  | streamIdentifier (expression : Expression)
  | eventType (expression : Expression)
  deriving DecidableEq, Repr

inductive Window where
  | max (max : Nat)
  | count
  deriving DecidableEq, Repr

structure FilterOptions where
  filter : Option Filter
  window : Option Window
  checkpointIntervalMultiplier : Nat
  deriving DecidableEq, Repr

inductive FilterOption where
  | filter (options : FilterOptions)
  | noFilter
  deriving DecidableEq, Repr

inductive UuidContent where
  | structured
  | string
  deriving DecidableEq, Repr

structure UuidOption where
  content : Option UuidContent
  deriving DecidableEq, Repr

structure ControlOption where
  compatibility : Nat
  deriving DecidableEq, Repr

/-- `streams::read_req::Options`. -/
structure Options where
  readDirection : Int
  resolveLinks : Bool
  uuidOption : Option UuidOption
  controlOption : Option ControlOption
  streamOption : Option StreamOption
  countOption : Option CountOption
  filterOption : Option FilterOption
  deriving DecidableEq, Repr

end ReadReq

structure ReadReq where
  options : Option ReadReq.Options
  deriving DecidableEq, Repr

def filterIntoProto (filter : SubscriptionFilter) : ReadReq.FilterOptions :=
  let window := match filter.max with
    | some max => ReadReq.Window.max max
    | none => ReadReq.Window.count
  let expression : ReadReq.Expression := ⟨filter.regex.getD "", filter.prefixes⟩
  let filter := if filter.basedOnStream then ReadReq.Filter.streamIdentifier expression
    else ReadReq.Filter.eventType expression
  ⟨some filter, some window, 1⟩

/-- `read_resp::CaughtUp` and `read_resp::FellBehind`, which have the same fields. -/
structure WireProgress where
  timestamp : Option WireTimestamp
  streamRevision : Option Int
  position : Option Position
  deriving DecidableEq, Repr

structure Progress where
  timestamp : DateTime
  streamRevision : Option Nat
  position : Option Position
  deriving DecidableEq, Repr

/-- Without a timestamp there is nothing to report; `none` is the panic of a timestamp out of
range. -/
def WireProgress.decode (decoders : Decoders) (wire : WireProgress) : Option (Option Progress) :=
  match wire.timestamp with
  | none => some none
  | some timestamp => do
      let timestamp ← timestampToDatetime decoders timestamp
      let revision := wire.streamRevision.map fun revision : Int => (revision % u64Bound).toNat
      some (some ⟨timestamp, revision, wire.position⟩)

inductive Content where
  | event (event : WireReadEvent)
  | confirmation (subscriptionId : String)
  | checkpoint (position : Position)
  | streamNotFound (streamIdentifier : Option Bytes)
  | firstStreamPosition (revision : Nat)
  | lastStreamPosition (revision : Nat)
  | lastAllStreamPosition (position : Position)
  | caughtUp (progress : WireProgress)
  | fellBehind (progress : WireProgress)
  deriving DecidableEq, Repr

structure ReadResp where
  content : Option Content
  deriving DecidableEq, Repr

/-- `Streaming<ReadResp>` once it is known to end: the responses still to come and how. -/
abbrev Responses := Feed ReadResp Status

inductive SubscriptionEvent where
  | confirmed (subscriptionId : String)
  | eventAppeared (event : ResolvedEvent)
  | checkpoint (position : Position)
  | firstStreamPosition (revision : Nat)
  | lastStreamPosition (revision : Nat)
  | lastAllPosition (position : Position)
  | caughtUp (progress : Option Progress)
  | fellBehind (progress : Option Progress)
  deriving DecidableEq, Repr

/-- The state of a subscription over response streams of type `Stream`. Its connection is what
the awaits of a turn speak for. -/
structure Subscription (Stream : Type) where
  channelId : Uuid
  stream : Option Stream
  attempts : Nat
  limit : Nat
  retryEnabled : Bool
  delay : Duration
  options : ReadReq.Options
  metadata : MetadataMap

def Subscription.new {Stream : Type} (retry : Option RetryOptions) (metadata : MetadataMap)
    (options : ReadReq.Options) : Subscription Stream :=
  let (limit, delay, retryEnabled) := match retry with
    | some retry => (retry.limit, retry.delay, true)
    | none => (1, 0, false)
  { channelId := Uuid.nil
    stream := none
    attempts := 1
    limit := limit
    retryEnabled := retryEnabled
    delay := delay
    options := options
    metadata := metadata }

/-- `none` is the panic of `build_request_metadata`. -/
def subscribeToStream {Stream : Type} (tonic : Tonic) (settings : ClientSettings) (streamId : Bytes)
    (options : SubscribeToStreamOptions) (propagated : List (String × String)) :
    Option (Subscription Stream) := do
  let revision := match options.position with
    | .start => ReadReq.RevisionOption.start
    | .atEnd => ReadReq.RevisionOption.atEnd
    | .position revision => ReadReq.RevisionOption.revision revision
  let request : ReadReq.Options := {
    streamOption := some (.stream ⟨some streamId, some revision⟩)
    resolveLinks := options.resolveLinkTos
    filterOption := some .noFilter
    countOption := some .subscription
    uuidOption := some ⟨some .string⟩
    controlOption := none
    readDirection := 0 }
  let metadata ← buildRequestMetadata tonic settings options.commonOperationOptions propagated
  some (.new options.retry metadata request)

def subscribeToAll {Stream : Type} (tonic : Tonic) (settings : ClientSettings)
    (options : SubscribeToAllOptions) (propagated : List (String × String)) :
    Option (Subscription Stream) := do
  let position := match options.position with
    | .start => ReadReq.AllOption.start
    | .position position => ReadReq.AllOption.position position
    | .atEnd => ReadReq.AllOption.atEnd
  let filter := match options.filter with
    | some filter => ReadReq.FilterOption.filter (filterIntoProto filter)
    | none => ReadReq.FilterOption.noFilter
  let request : ReadReq.Options := {
    streamOption := some (.all ⟨some position⟩)
    resolveLinks := options.resolveLinkTos
    filterOption := some filter
    countOption := some .subscription
    uuidOption := some ⟨some .string⟩
    controlOption := none
    readDirection := 0 }
  let metadata ← buildRequestMetadata tonic settings options.commonOperationOptions propagated
  some (.new options.retry metadata request)

namespace Subscription

variable {Stream : Type}

/-- What the awaits of a turn come to; `none` where the caller drops the call instead. The node
lookup comes to the reply of the connection actor. -/
structure Awaits (Stream : Type) where
  tryNext : Stream → Option (Except Status (Option ReadResp × Stream))
  selectedNode : Option (Option (Except GrpcConnectionError Handle))
  read : ReadReq → MetadataMap → Option (Except Status Stream)
  sleep : Option Unit

inductive Event where
  | called
  | established
  | dropped (error : Error)
  | lookupFailed (error : Error)
  | readFailed (error : Error)
  | returned (result : Except Error SubscriptionEvent)
  | cancelled
  | panicked

inductive Outcome where
  | again
  | returned (result : Except Error SubscriptionEvent)
  | cancelled
  | panicked

/-- The subscription after a turn, what the turn met and the reports it sent the actor. -/
structure Turned (Stream : Type) where
  subscription : Subscription Stream
  outcome : Outcome
  trace : List Event
  reports : List CreateChannel

/-- The offset the next request starts from; `none` is the `unwrap` of a missing option or
`get_original_event` without a link or an event. -/
def track (options : ReadReq.Options) (event : ResolvedEvent) :
    Option ReadReq.Options := do
  let streamOption ← options.streamOption
  let original ← event.getOriginalEvent
  let streamOption := match streamOption with
    | .stream stream =>
        ReadReq.StreamOption.stream { stream with revisionOption := some (.revision original.revision) }
    | .all all => ReadReq.StreamOption.all { all with allOption := some (.position original.position) }
  some { options with streamOption := some streamOption }

def receive (decoders : Decoders) (subscription : Subscription Stream) (content : Content) :
    Turned Stream :=
  let returns (event : SubscriptionEvent) : Turned Stream :=
    ⟨subscription, .returned (.ok event), [], []⟩
  let panics : Turned Stream := ⟨subscription, .panicked, [], []⟩
  match content with
  | .event event =>
      match event.decode decoders with
      | none => panics
      | some event =>
          match track subscription.options event with
          | none => panics
          | some options =>
              ⟨{ subscription with options := options }, .returned (.ok (.eventAppeared event)), [], []⟩
  | .confirmation subscriptionId => returns (.confirmed subscriptionId)
  | .checkpoint position => returns (.checkpoint position)
  | .firstStreamPosition revision => returns (.firstStreamPosition revision)
  | .lastStreamPosition revision => returns (.lastStreamPosition revision)
  | .lastAllStreamPosition position => returns (.lastAllPosition position)
  | .caughtUp progress =>
      match progress.decode decoders with
      | none => panics
      | some progress => returns (.caughtUp progress)
  | .fellBehind progress =>
      match progress.decode decoders with
      | none => panics
      | some progress => returns (.fellBehind progress)
  | .streamNotFound _ => panics

def Awaits.continues (awaits : Awaits Stream) : Outcome :=
  match awaits.sleep with
  | some () => .again
  | none => .cancelled

def turn (decoders : Decoders) (subscription : Subscription Stream) (awaits : Awaits Stream) :
    Turned Stream :=
  match subscription.stream with
  | some stream =>
      match awaits.tryNext stream with
      | none => ⟨{ subscription with stream := none }, .cancelled, [], []⟩
      | some (.error status) =>
          let error := Error.fromGrpc status
          let outcome := if error.isAccessDenied ∨ ¬ subscription.retryEnabled then
            Outcome.returned (.error error) else .again
          ⟨{ subscription with stream := none, attempts := 1 }, outcome, [.dropped error],
            handleError subscription.channelId error⟩
      | some (.ok (resp, stream)) =>
          let subscription := { subscription with stream := some stream }
          match resp.bind ReadResp.content with
          | some content => subscription.receive decoders content
          | none => ⟨subscription, .again, [], []⟩
  | none =>
      match awaits.selectedNode with
      | none => ⟨subscription, .cancelled, [], []⟩
      | some reply =>
          match Connection.currentSelectedNode reply with
          | .error error => ⟨subscription, .returned (.error error), [.lookupFailed error], []⟩
          | .ok handle =>
              let subscription := { subscription with channelId := handle.id }
              match awaits.read ⟨some subscription.options⟩ subscription.metadata with
              | none => ⟨subscription, .cancelled, [], []⟩
              | some (.ok stream) =>
                  ⟨{ subscription with stream := some stream }, .again, [.established], []⟩
              | some (.error status) =>
                  let error := Error.fromGrpc status
                  let reports := handleError subscription.channelId error
                  if ¬ error.isAccessDenied ∧ subscription.attempts < subscription.limit then
                    ⟨{ subscription with attempts := subscription.attempts + 1 }, awaits.continues,
                      [.readFailed error], reports⟩
                  else
                    ⟨subscription, .returned (.error error), [.readFailed error], reports⟩

end Subscription

end TrogonEventStore

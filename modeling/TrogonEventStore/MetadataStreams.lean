import TrogonEventStore.StreamMetadata
import TrogonEventStore.ReadTolerance
import TrogonEventStore.Request

/-! Where stream metadata goes and where they are read from, on a server that stores what is
appended to each stream. -/

namespace TrogonEventStore

/-- The types a stream name can be given in. -/
inductive NameType where
  | bytes
  | str
  | string
  deriving DecidableEq, Repr

inductive Name where
  | bytes (name : Bytes)
  | str (name : String)
  | string (name : String)
  deriving DecidableEq, Repr

def NameType.name (type : NameType) (text : String) : Name :=
  match type with
  | .bytes => .bytes (utf8 text)
  | .str => .str text
  | .string => .string text

def Name.intoStreamName : Name → Bytes
  | .bytes name => name
  | .str name => utf8 name
  | .string name => utf8 name

/-- `MetadataStreamName`; a `String` goes by way of its `&str`. -/
def Name.intoMetadataStreamName : Name → Bytes
  | .bytes name => name
  | .str name => utf8 ("$$" ++ name)
  | .string name => utf8 ("$$" ++ name)

inductive ReadDirection where
  | forward
  | backward
  deriving DecidableEq, Repr

structure ReadStreamOptions where
  direction : ReadDirection
  position : StreamPosition Nat
  resolveLinkTos : Bool
  maxCount : Nat
  deriving DecidableEq, Repr

instance : Inhabited ReadStreamOptions := ⟨⟨.forward, .start, false, 2 ^ 64 - 1⟩⟩

/-- A server that stores appended events per stream, and records them with the data they have in
the order they came. -/
structure Server (decoders : Decoders) where
  streams : Bytes → List ProposedMessage
  record : Bytes → Nat → ProposedMessage → WireRecordedEvent
  identified : ∀ stream revision message, ∃ wireId id,
    (record stream revision message).id = some wireId ∧ wireId.tryInto decoders.parseUuid = some id
  placed : ∀ stream revision message,
    (record stream revision message).streamIdentifier = some stream
  numbered : ∀ stream revision message,
    (record stream revision message).streamRevision = revision
  stored : ∀ stream revision message, (record stream revision message).data = message.data

namespace Server

variable {decoders : Decoders}

def append (server : Server decoders) (stream : Bytes) (message : ProposedMessage) :
    Server decoders :=
  { server with
    streams := fun other =>
      if other = stream then server.streams stream ++ [message] else server.streams other }

def ordered {Event : Type} (direction : ReadDirection) (position : StreamPosition Nat)
    (events : List Event) : List Event :=
  match direction, position with
  | .forward, .start => events
  | .forward, .position revision => events.drop revision
  | .forward, .atEnd => []
  | .backward, .start => (events.take 1).reverse
  | .backward, .position revision => (events.take (revision + 1)).reverse
  | .backward, .atEnd => events.reverse

def chosen {Event : Type} (options : ReadStreamOptions) (events : List Event) : List Event :=
  (ordered options.direction options.position events).take options.maxCount

def answer (server : Server decoders) (stream : Bytes) (options : ReadStreamOptions) : Responses :=
  match server.streams stream with
  | [] => ⟨[⟨some (.streamNotFound (some stream))⟩], none⟩
  | messages => ⟨(chosen options messages.zipIdx).map fun event =>
      ⟨some (.event ⟨some (server.record stream event.2 event.1), none, none⟩)⟩, none⟩

def appendToStream (server : Server decoders) (json : SerdeJson) (name : Name) (newV4 : Uuid)
    (context : TraceContext) (event : EventData) : Server decoders :=
  server.append name.intoStreamName (appendMessage json newV4 context event)

/-- `set_stream_metadata` passes the name it makes on as bytes. -/
def setStreamMetadata (server : Server decoders) (json : SerdeJson) (name : Name) (newV4 : Uuid)
    (context : TraceContext) (metadata : StreamMetadata) : Server decoders :=
  server.appendToStream json (.bytes name.intoMetadataStreamName) newV4 context
    (.json "$metadata" (json.toVec metadata.serialize))

end Server

def asStreamMetadata (json : SerdeJson) (data : Bytes) : Except String StreamMetadata :=
  match (json.document data).bind StreamMetadata.deserialize with
  | some metadata => .ok metadata
  | none => .error (json.complaint data)

def Server.getStreamMetadata {decoders : Decoders} (server : Server decoders) (json : SerdeJson)
    (name : Name) (options : ReadStreamOptions) (channelId : Uuid) :
    Called (StreamMetadataResult StreamMetadata) :=
  (readStreamMetadata decoders (asStreamMetadata json)
    ⟨channelId, server.answer name.intoMetadataStreamName options⟩).called

def SerdeJson.ReadsBack (json : SerdeJson) (value : Json) : Prop :=
  json.document (json.toVec value) = some value

/-- Metadata set under a name are returned under it, and the data stream of the name is left as
it is. -/
structure Server.AddressesMetadata {decoders : Decoders} (server : Server decoders)
    (json : SerdeJson) (text : String) (setAs getAs : NameType) (options : ReadStreamOptions)
    (channelId : Uuid) : Prop where
  returned : ∀ (metadata : StreamMetadata) newV4 context, metadata.WholeMillis →
    metadata.KeysApart → json.ReadsBack metadata.serialize → ∃ stream version,
      (server.setStreamMetadata json (setAs.name text) newV4 context metadata).getStreamMetadata
          json (getAs.name text) options channelId =
        .returned (.ok (.success ⟨stream, version, metadata⟩))
  apart : ∀ (metadata : StreamMetadata) newV4 context (type : NameType),
    (server.setStreamMetadata json (setAs.name text) newV4 context metadata).streams
      (type.name text).intoStreamName = server.streams (type.name text).intoStreamName

/-- The read of a stream that had `count` events starts at the event appended since. -/
def StartsAt (direction : ReadDirection) (position : StreamPosition Nat) (count : Nat) : Prop :=
  match direction, position with
  | .forward, .start => count = 0
  | .forward, .position revision => revision = count
  | .forward, .atEnd => False
  | .backward, .start => count = 0
  | .backward, .position revision => count ≤ revision
  | .backward, .atEnd => True

theorem ordered_starts {Event : Type} {direction : ReadDirection} {position : StreamPosition Nat}
    {earlier : List Event} (last : Event) (starts : StartsAt direction position earlier.length) :
    (Server.ordered direction position (earlier ++ [last])).head? = some last := by
  cases direction with
  | forward =>
      cases position with
      | start =>
          obtain rfl := List.eq_nil_of_length_eq_zero starts
          rfl
      | position revision =>
          obtain rfl : revision = earlier.length := starts
          rw [Server.ordered, List.head?_drop, List.getElem?_concat_length]
      | atEnd => cases starts
  | backward =>
      cases position with
      | start =>
          obtain rfl := List.eq_nil_of_length_eq_zero starts
          rfl
      | position revision =>
          have whole : (earlier ++ [last]).length ≤ revision + 1 := by
            rw [List.length_append, List.length_singleton]
            exact Nat.succ_le_succ starts
          rw [Server.ordered, List.take_of_length_le whole, List.head?_reverse, List.getLast?_concat]
      | atEnd => rw [Server.ordered, List.head?_reverse, List.getLast?_concat]

theorem ordered_earlier {Event : Type} {direction : ReadDirection} {position : StreamPosition Nat}
    {earlier : List Event} (starts : ¬ StartsAt direction position earlier.length) :
    ∃ first, ∀ last, (Server.ordered direction position (earlier ++ [last])).head? = first := by
  have nonempty : earlier.length ≠ 0 → ∃ first, ∀ last, (earlier ++ [last]).head? = first := by
    intro long
    cases earlier with
    | nil => exact absurd rfl long
    | cons first rest => exact ⟨some first, fun _ => rfl⟩
  cases direction with
  | forward =>
      cases position with
      | start => exact nonempty starts
      | position revision =>
          refine ⟨earlier[revision]?, fun last => ?_⟩
          have elsewhere : revision ≠ earlier.length := starts
          rw [Server.ordered, List.head?_drop, List.getElem?_append]
          split
          · rfl
          · next beyond =>
              rw [List.getElem?_eq_none (by rw [List.length_singleton]; omega),
                List.getElem?_eq_none (by omega)]
      | atEnd => exact ⟨none, fun _ => rfl⟩
  | backward =>
      cases position with
      | start =>
          obtain ⟨first, same⟩ := nonempty starts
          refine ⟨first, fun last => ?_⟩
          rw [← same last, Server.ordered]
          cases earlier with
          | nil => rfl
          | cons first rest => rfl
      | position revision =>
          have before : revision + 1 ≤ earlier.length := Nat.lt_of_not_le starts
          refine ⟨(earlier.take (revision + 1)).reverse.head?, fun last => ?_⟩
          rw [Server.ordered, List.take_append_of_le_length before]
      | atEnd => exact absurd trivial starts

namespace Server

variable {decoders : Decoders}

def metadataOf (json : SerdeJson) (stream : Bytes) :
    Option (ProposedMessage × Nat) → Called (StreamMetadataResult StreamMetadata)
  | none => .panicked
  | some event =>
      match asStreamMetadata json event.1.data with
      | .error text => .returned (.error (.internalParsingError text))
      | .ok metadata => .returned (.ok (.success ⟨stream, event.2, metadata⟩))

theorem record_decode (server : Server decoders) (stream : Bytes) (revision : Nat)
    (message : ProposedMessage) :
    ∃ recorded, (server.record stream revision message).decode decoders = some recorded ∧
      recorded.streamIdRaw = stream ∧ recorded.revision = revision ∧
      recorded.data = message.data := by
  obtain ⟨wireId, id, given, read⟩ := server.identified stream revision message
  simp only [WireRecordedEvent.decode, given, read, server.placed stream revision message,
    server.numbered stream revision message, server.stored stream revision message,
    Option.bind_eq_bind, Option.bind_some, Option.some.injEq, exists_eq_left', and_self]

theorem take_recorded (server : Server decoders) (json : SerdeJson) (stream : Bytes)
    (event : ProposedMessage × Nat) :
    (metadataReader decoders (asStreamMetadata json)).take
        ⟨some (.event ⟨some (server.record stream event.2 event.1), none, none⟩)⟩ =
      some (metadataOf json stream (some event)) := by
  obtain ⟨recorded, decoded, placed, numbered, stored⟩ :=
    server.record_decode stream event.2 event.1
  simp only [metadataReader, Reader.map, ReadStream.eventReader, ReadStream.reader,
    ReadStream.receive, WireReadEvent.decode, decodeOption, decoded, Option.map_some,
    Option.bind_eq_bind, Option.bind_some, ReadStream.passOn, concludeMetadata,
    ResolvedEvent.getOriginalEvent, Option.none_or, metadataOf, placed, numbered, stored]
  cases asStreamMetadata json event.1.data with
  | error text => rfl
  | ok metadata => rfl

theorem getStreamMetadata_first {server : Server decoders} {json : SerdeJson} {name : Name}
    {options : ReadStreamOptions} {channelId : Uuid}
    (present : server.streams name.intoMetadataStreamName ≠ []) :
    server.getStreamMetadata json name options channelId =
      metadataOf json name.intoMetadataStreamName
        (chosen options (server.streams name.intoMetadataStreamName).zipIdx).head? := by
  rw [getStreamMetadata, readStreamMetadata_reads, answer]
  split
  · next empty => exact absurd empty present
  · cases chosen options (server.streams name.intoMetadataStreamName).zipIdx with
    | nil => rfl
    | cons event rest =>
        rw [List.map_cons, List.head?_cons]
        exact Reader.read_taken _ (server.take_recorded json _ event) _ _

/-- What `set_stream_metadata` appends has the written metadata as its data. -/
theorem setStreamMetadata_streams (server : Server decoders) (json : SerdeJson) (name : Name)
    (newV4 : Uuid) (context : TraceContext) (metadata : StreamMetadata) :
    ∃ message, message.data = json.toVec metadata.serialize ∧
      ∀ stream, (server.setStreamMetadata json name newV4 context metadata).streams stream =
        if stream = name.intoMetadataStreamName then
          server.streams name.intoMetadataStreamName ++ [message]
        else server.streams stream := by
  refine ⟨_, ?_, fun stream => rfl⟩
  rw [appendMessage, EventData.intoAppendReq, (inject_keeps json _ context).2.2]
  rfl

end Server

theorem utf8_append (first second : String) : utf8 (first ++ second) = utf8 first ++ utf8 second := by
  simp only [utf8, String.toUTF8_eq_toByteArray, String.toByteArray_append, ByteArray.data_append,
    Array.toList_append]

theorem metadata_name_differs (text : String) : utf8 ("$$" ++ text) ≠ utf8 text := by
  intro same
  have lengths := congrArg List.length same
  rw [utf8_append, List.length_append] at lengths
  have marked : (utf8 "$$").length = 2 := by decide
  omega

theorem intoStreamName_name (type : NameType) (text : String) :
    (type.name text).intoStreamName = utf8 text := by
  cases type <;> rfl

theorem intoMetadataStreamName_name (type : NameType) (text : String) :
    (type.name text).intoMetadataStreamName =
      if type = .bytes then utf8 text else utf8 ("$$" ++ text) := by
  cases type <;> rfl

/-- Metadata that can be told from those with nothing in them. -/
def StreamMetadata.counted : StreamMetadata := { StreamMetadata.new with maxCount := some 1 }

theorem plain_whole {metadata : StreamMetadata} (age : metadata.maxAge = none)
    (cache : metadata.cacheControl = none) : metadata.WholeMillis := by
  intro duration given
  rcases given with given | given
  · rw [age] at given
    cases given
  · rw [cache] at given
    cases given

theorem plain_apart {metadata : StreamMetadata} (custom : metadata.customProperties = .empty) :
    metadata.KeysApart := by
  intro entry member
  rw [custom] at member
  cases member

section Addressing

variable {decoders : Decoders} {json : SerdeJson} {server : Server decoders} {text : String}
  {setAs getAs : NameType} {options : ReadStreamOptions} {channelId : Uuid}

/-- A `get_stream_metadata` whose result is the same whatever was set before. -/
theorem not_returned (result : Called (StreamMetadataResult StreamMetadata))
    (plain : json.ReadsBack StreamMetadata.new.serialize)
    (counted : json.ReadsBack StreamMetadata.counted.serialize)
    (fixed : ∀ metadata, (server.setStreamMetadata json (setAs.name text) 0 ⟨false, []⟩
      metadata).getStreamMetadata json (getAs.name text) options channelId = result) :
    ¬ server.AddressesMetadata json text setAs getAs options channelId := by
  intro addresses
  obtain ⟨stream, version, first⟩ := addresses.returned .new 0 ⟨false, []⟩ (plain_whole rfl rfl)
    (plain_apart rfl) plain
  obtain ⟨other, later, second⟩ := addresses.returned .counted 0 ⟨false, []⟩ (plain_whole rfl rfl)
    (plain_apart rfl) counted
  rw [fixed] at first second
  rw [first] at second
  cases second

theorem metadata_name {type : NameType} (marked : type ≠ .bytes) :
    (type.name text).intoMetadataStreamName = utf8 ("$$" ++ text) := by
  rw [intoMetadataStreamName_name, if_neg marked]

theorem get_after_set (marked : setAs ≠ .bytes) (getMarked : getAs ≠ .bytes) (newV4 : Uuid)
    (context : TraceContext) (metadata : StreamMetadata) :
    ∃ message : ProposedMessage, message.data = json.toVec metadata.serialize ∧
      (server.setStreamMetadata json (setAs.name text) newV4 context metadata).getStreamMetadata
          json (getAs.name text) options channelId =
        Server.metadataOf json (utf8 ("$$" ++ text))
          (if options.maxCount = 0 then none
          else (Server.ordered options.direction options.position
            ((server.streams (utf8 ("$$" ++ text))).zipIdx ++
              [(message, (server.streams (utf8 ("$$" ++ text))).length)])).head?) := by
  obtain ⟨message, written, streams⟩ :=
    server.setStreamMetadata_streams json (setAs.name text) newV4 context metadata
  have appended := streams (utf8 ("$$" ++ text))
  rw [metadata_name marked, if_pos rfl] at appended
  refine ⟨message, written, ?_⟩
  rw [Server.getStreamMetadata_first]
  · rw [metadata_name getMarked, appended, Server.chosen, List.head?_take, List.zipIdx_append,
      Nat.zero_add]
    rfl
  · rw [metadata_name getMarked, appended]
    exact List.append_ne_nil_of_right_ne_nil _ (List.cons_ne_nil _ _)

theorem set_not_bytes (addresses : server.AddressesMetadata json text setAs getAs options channelId) :
    setAs ≠ .bytes := by
  rintro rfl
  obtain ⟨message, _, streams⟩ :=
    server.setStreamMetadata_streams json (NameType.bytes.name text) 0 ⟨false, []⟩ .new
  have appended := streams (utf8 text)
  rw [intoMetadataStreamName_name, if_pos rfl, if_pos rfl] at appended
  have kept := addresses.apart .new 0 ⟨false, []⟩ .bytes
  rw [intoStreamName_name, appended] at kept
  have lengths := congrArg List.length kept
  rw [List.length_append, List.length_singleton] at lengths
  omega

theorem get_not_bytes (plain : json.ReadsBack StreamMetadata.new.serialize)
    (counted : json.ReadsBack StreamMetadata.counted.serialize)
    (addresses : server.AddressesMetadata json text setAs getAs options channelId) :
    getAs ≠ .bytes := by
  have marked := set_not_bytes addresses
  rintro rfl
  refine not_returned (server.getStreamMetadata json (NameType.bytes.name text) options channelId)
    plain counted ?_ addresses
  intro metadata
  obtain ⟨message, _, streams⟩ :=
    server.setStreamMetadata_streams json (setAs.name text) 0 ⟨false, []⟩ metadata
  have kept := streams (utf8 text)
  rw [metadata_name marked, if_neg (metadata_name_differs text).symm] at kept
  have same : (server.setStreamMetadata json (setAs.name text) 0 ⟨false, []⟩ metadata).answer
      (utf8 text) options = server.answer (utf8 text) options := by
    rw [Server.answer, kept]
    rfl
  rw [Server.getStreamMetadata, Server.getStreamMetadata, intoMetadataStreamName_name, if_pos rfl,
    same]

theorem get_starts (plain : json.ReadsBack StreamMetadata.new.serialize)
    (counted : json.ReadsBack StreamMetadata.counted.serialize)
    (addresses : server.AddressesMetadata json text setAs getAs options channelId) :
    0 < options.maxCount ∧ StartsAt options.direction options.position
      (server.streams (utf8 ("$$" ++ text))).length := by
  have marked := set_not_bytes addresses
  have getMarked := get_not_bytes plain counted addresses
  by_contra elsewhere
  rw [not_and_or] at elsewhere
  have fixed : ∃ result, ∀ metadata, (server.setStreamMetadata json (setAs.name text) 0 ⟨false, []⟩
      metadata).getStreamMetadata json (getAs.name text) options channelId = result := by
    rcases elsewhere with uncounted | starts
    · refine ⟨.panicked, fun metadata => ?_⟩
      obtain ⟨message, _, read⟩ := get_after_set marked getMarked 0 ⟨false, []⟩ metadata
      rw [read, if_pos (Nat.eq_zero_of_not_pos uncounted)]
      rfl
    · rw [← List.length_zipIdx] at starts
      obtain ⟨first, same⟩ := ordered_earlier starts
      refine ⟨Server.metadataOf json (utf8 ("$$" ++ text))
        (if options.maxCount = 0 then none else first), fun metadata => ?_⟩
      obtain ⟨message, _, read⟩ := get_after_set marked getMarked 0 ⟨false, []⟩ metadata
      rw [read, same]
  obtain ⟨result, fixed⟩ := fixed
  exact not_returned result plain counted fixed addresses

/-- Metadata are addressed consistently iff neither name is given as bytes, which are taken for
the metadata stream as they are, and the read starts at the event that has been appended. -/
theorem metadata_addressed_iff (plain : json.ReadsBack StreamMetadata.new.serialize)
    (counted : json.ReadsBack StreamMetadata.counted.serialize) :
    server.AddressesMetadata json text setAs getAs options channelId ↔
      setAs ≠ .bytes ∧ getAs ≠ .bytes ∧ 0 < options.maxCount ∧
        StartsAt options.direction options.position
          (server.streams (utf8 ("$$" ++ text))).length := by
  constructor
  · intro addresses
    exact ⟨set_not_bytes addresses, get_not_bytes plain counted addresses,
      get_starts plain counted addresses⟩
  · intro ⟨marked, getMarked, counts, starts⟩
    constructor
    · intro metadata newV4 context whole apart reads
      obtain ⟨message, written, read⟩ := get_after_set marked getMarked newV4 context metadata
      rw [← List.length_zipIdx] at starts
      have restored : asStreamMetadata json message.data = .ok metadata := by
        rw [asStreamMetadata, written, reads, Option.bind_some,
          StreamMetadata.deserialize_serialize whole apart]
      rw [read, if_neg (Nat.ne_of_gt counts), ordered_starts _ starts]
      refine ⟨utf8 ("$$" ++ text), (server.streams (utf8 ("$$" ++ text))).length, ?_⟩
      simp only [Server.metadataOf, restored]
    · intro metadata newV4 context type
      obtain ⟨message, _, streams⟩ :=
        server.setStreamMetadata_streams json (setAs.name text) newV4 context metadata
      rw [intoStreamName_name, streams, metadata_name marked,
        if_neg (metadata_name_differs text).symm]

end Addressing

def emptyServer : Server .blank where
  streams _ := []
  record stream revision message :=
    { id := some ⟨none⟩
      streamIdentifier := some stream
      streamRevision := revision
      preparePosition := 0
      commitPosition := 0
      metadata := message.metadata
      customMetadata := message.customMetadata
      data := message.data }
  identified _ _ _ := ⟨⟨none⟩, .nil, rfl, rfl⟩
  placed _ _ _ := rfl
  numbered _ _ _ := rfl
  stored _ _ _ := rfl

def countJson : SerdeJson where
  fromSlice _ := none
  document text :=
    if text = [123, 125] then some (.object [])
    else if text = [123, 34, 36, 109, 97, 120, 67, 111, 117, 110, 116, 34, 58, 49, 125] then
      some (.object [("$maxCount", .number 1)])
    else none
  toVec
    | .object [] => [123, 125]
    | .object [("$maxCount", .number 1)] =>
        [123, 34, 36, 109, 97, 120, 67, 111, 117, 110, 116, 34, 58, 49, 125]
    | _ => []
  complaint _ := ""

theorem texts_address_metadata :
    emptyServer.AddressesMetadata countJson "orders" .str .string default 0 := by
  have plain : countJson.ReadsBack StreamMetadata.new.serialize := rfl
  have counted : countJson.ReadsBack StreamMetadata.counted.serialize := rfl
  exact (metadata_addressed_iff plain counted).mpr
    ⟨by decide, by decide, by decide, rfl⟩

/-- Metadata set under a name given as bytes are an event of the data stream. -/
theorem bytes_address_data :
    ¬ emptyServer.AddressesMetadata countJson "orders" .bytes .bytes default 0 :=
  fun addresses => set_not_bytes addresses rfl

end TrogonEventStore

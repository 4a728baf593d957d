import TrogonEventStore.Library.UrlPath
import TrogonEventStore.UserInfo

namespace TrogonEventStore

open PercentEncoding UrlPath

/-- The node of a handle: its host ends where the authority of a URL does. -/
structure HttpNode where
  secure : Bool
  host : String
  port : Nat
  ends : ∀ char ∈ host.toList, endsAuthority char = false

def HttpNode.url (node : HttpNode) : String :=
  (if node.secure then "https" else "http") ++ "://" ++ node.host ++ ":" ++ toString node.port

def urlencodingKeeps (char : Char) : Bool := char.isAlphanum || "-._~".toList.contains char

def urlencode (text : String) : String := String.ofList (encode urlencodingKeeps text.toList)

/-- What the urlencoding crate makes of a name, and the path the url crate reads in a text. -/
structure PathCrates where
  encode : String → String
  segments : String → List (List Char)

/-- The URLs of the node parse, and the dots in a path of encoded segments are resolved. -/
structure PathCrates.Documented (crates : PathCrates) (node : HttpNode) : Prop where
  encodes : ∀ text, crates.encode text = urlencode text
  settles : ∀ parts, parts ≠ [] →
    (∀ part ∈ parts, ∀ char ∈ part, urlencodingKeeps char = true ∨ char = '%' ∨ char ∈ hexDigits) →
      crates.segments (node.url ++ String.ofList (UrlPath.joined parts)) = settle [] parts

/-- The calls that name a subscription in a path. A stop position is part of the query. -/
inductive HttpCall where
  | replayParkedMessages (streamName groupName : String)
  | listPersistentSubscriptionsForStream (streamName : String)
  | getPersistentSubscriptionInfo (streamName groupName : String)
  deriving DecidableEq, Repr

namespace HttpCall

def url (crates : PathCrates) (node : HttpNode) : HttpCall → String
  | replayParkedMessages streamName groupName => node.url ++ "/subscriptions/" ++
      crates.encode streamName ++ "/" ++ crates.encode groupName ++ "/replayParked"
  | listPersistentSubscriptionsForStream streamName =>
      node.url ++ "/subscriptions/" ++ crates.encode streamName
  | getPersistentSubscriptionInfo streamName groupName => node.url ++ "/subscriptions/" ++
      crates.encode streamName ++ "/" ++ crates.encode groupName ++ "/info"

def sentPath (crates : PathCrates) (node : HttpNode) (call : HttpCall) : List (List Char) :=
  crates.segments (call.url crates node)

def segments : HttpCall → List String
  | replayParkedMessages streamName groupName =>
      ["subscriptions", streamName, groupName, "replayParked"]
  | listPersistentSubscriptionsForStream streamName => ["subscriptions", streamName]
  | getPersistentSubscriptionInfo streamName groupName =>
      ["subscriptions", streamName, groupName, "info"]

/-- The server decodes the path that is sent, segment by segment, into the path that is meant. -/
def Addressed (crates : PathCrates) (node : HttpNode) (call : HttpCall) : Prop :=
  (call.sentPath crates node).map decode = call.segments.map utf8

def Ordinary (name : String) : Prop := name ≠ "." ∧ name ≠ ".."

def Named : HttpCall → Prop
  | replayParkedMessages streamName groupName => Ordinary streamName ∧ Ordinary groupName
  | listPersistentSubscriptionsForStream streamName => Ordinary streamName
  | getPersistentSubscriptionInfo streamName groupName => Ordinary streamName ∧ Ordinary groupName

section Names

theorem encoded_chars (text : String) : ∀ char ∈ (urlencode text).toList,
    urlencodingKeeps char = true ∨ char = '%' ∨ char ∈ hexDigits := by
  intro char present
  rw [urlencode, String.toList_ofList] at present
  exact encode_chars text.toList present

theorem encoded_inside {char : Char}
    (encoded : urlencodingKeeps char = true ∨ char = '%' ∨ char ∈ hexDigits) :
    endsAuthority char = false := by
  rcases encoded with kept | rfl | digit
  · rw [← Bool.not_eq_true]
    intro stops
    simp only [endsAuthority, isSlash, endsPath, Bool.or_eq_true, decide_eq_true_eq] at stops
    rcases stops with (rfl | rfl) | rfl | rfl
    · exact absurd kept (by decide)
    · exact absurd kept (by decide)
    · exact absurd kept (by decide)
    · exact absurd kept (by decide)
  · rfl
  · have digits : hexDigits.all (fun char => !endsAuthority char) = true := by decide
    have stays := List.all_eq_true.mp digits char digit
    rwa [Bool.not_eq_true'] at stays

theorem decode_urlencode (text : String) : decode (urlencode text).toList = utf8 text := by
  rw [urlencode, String.toList_ofList, decode_encode (by decide), ← utf8_ofList,
    String.ofList_toList]

theorem urlencode_kept {text : String} (kept : ∀ char ∈ text.toList, urlencodingKeeps char = true) :
    (urlencode text).toList = text.toList := by
  rw [urlencode, String.toList_ofList]
  exact (encode_eq_self_iff text.toList).mpr kept

/-- Every spelling of the dots stands for the dots, and these are not escaped. -/
theorem urlencode_plain_iff (text : String) :
    UrlPath.Plain (urlencode text).toList ↔ Ordinary text := by
  have one : ∀ segment ∈ singleDots, decode segment = utf8 "." := by decide
  have two : ∀ segment ∈ doubleDots, decode segment = utf8 ".." := by decide
  constructor
  · intro plain
    constructor
    · rintro rfl
      refine plain.1 ?_
      rw [urlencode_kept (List.all_eq_true.mp (by decide))]
      decide
    · rintro rfl
      refine plain.2 ?_
      rw [urlencode_kept (List.all_eq_true.mp (by decide))]
      decide
  · intro ⟨noSingle, noDouble⟩
    constructor
    · intro single
      exact noSingle (utf8_injective ((decode_urlencode text).symm.trans (one _ single)))
    · intro double
      exact noDouble (utf8_injective ((decode_urlencode text).symm.trans (two _ double)))

end Names

def parts (call : HttpCall) : List (List Char) :=
  match call with
  | replayParkedMessages streamName groupName => ["subscriptions".toList,
      (urlencode streamName).toList, (urlencode groupName).toList, "replayParked".toList]
  | listPersistentSubscriptionsForStream streamName =>
      ["subscriptions".toList, (urlencode streamName).toList]
  | getPersistentSubscriptionInfo streamName groupName => ["subscriptions".toList,
      (urlencode streamName).toList, (urlencode groupName).toList, "info".toList]

theorem parts_encoded (call : HttpCall) : ∀ part ∈ call.parts, ∀ char ∈ part,
    urlencodingKeeps char = true ∨ char = '%' ∨ char ∈ hexDigits := by
  have fixed : ∀ text ∈ ["subscriptions", "replayParked", "info"],
      text.toList.all urlencodingKeeps = true := by decide
  have literal : ∀ text ∈ ["subscriptions", "replayParked", "info"], ∀ char ∈ text.toList,
      urlencodingKeeps char = true ∨ char = '%' ∨ char ∈ hexDigits :=
    fun text listed char present => Or.inl (List.all_eq_true.mp (fixed text listed) char present)
  have first := literal "subscriptions" (by decide)
  intro part present
  cases call with
  | replayParkedMessages streamName groupName =>
      simp only [parts, List.mem_cons, List.not_mem_nil, or_false] at present
      rcases present with rfl | rfl | rfl | rfl
      · exact first
      · exact encoded_chars streamName
      · exact encoded_chars groupName
      · exact literal "replayParked" (by decide)
  | listPersistentSubscriptionsForStream streamName =>
      simp only [parts, List.mem_cons, List.not_mem_nil, or_false] at present
      rcases present with rfl | rfl
      · exact first
      · exact encoded_chars streamName
  | getPersistentSubscriptionInfo streamName groupName =>
      simp only [parts, List.mem_cons, List.not_mem_nil, or_false] at present
      rcases present with rfl | rfl | rfl | rfl
      · exact first
      · exact encoded_chars streamName
      · exact encoded_chars groupName
      · exact literal "info" (by decide)

theorem names_ordinary {streamName groupName : String} {last : List Char}
    (kept : (settle [] ["subscriptions".toList, (urlencode streamName).toList,
      (urlencode groupName).toList, last]).length = 4) :
    Ordinary streamName ∧ Ordinary groupName := by
  have all : ∀ name ∈ [streamName, groupName], Ordinary name := by
    intro name listed
    by_contra odd
    rw [← urlencode_plain_iff] at odd
    have written : (urlencode name).toList ∈ ["subscriptions".toList,
        (urlencode streamName).toList, (urlencode groupName).toList] :=
      List.mem_cons_of_mem _ (List.mem_map_of_mem (f := fun text => (urlencode text).toList) listed)
    have shorter := settle_length_lt last written odd []
    change (settle [] ["subscriptions".toList, (urlencode streamName).toList,
      (urlencode groupName).toList, last]).length < 4 at shorter
    omega
  exact ⟨all streamName List.mem_cons_self, all groupName (List.mem_cons_of_mem _ List.mem_cons_self)⟩

theorem segments_injective : Function.Injective segments := by
  intro first second same
  cases first <;> cases second <;> simp_all [segments]

section Sent

variable {crates : PathCrates} {node : HttpNode} (documented : crates.Documented node)

include documented

theorem sentPath_eq (call : HttpCall) : call.sentPath crates node = settle [] call.parts := by
  have written : call.url crates node =
      node.url ++ String.ofList (UrlPath.joined call.parts) := by
    apply String.toList_inj.mp
    cases call <;> simp [url, documented.encodes, UrlPath.joined, parts]
  rw [sentPath, written]
  exact documented.settles _ (by cases call <;> exact List.cons_ne_nil _ _) call.parts_encoded

theorem addressed_of_named {call : HttpCall} (named : call.Named) :
    call.Addressed crates node := by
  have fixed : ∀ text ∈ ["subscriptions", "replayParked", "info"],
      UrlPath.Plain text.toList ∧ decode text.toList = utf8 text := by
    unfold UrlPath.Plain
    decide
  have first := fixed "subscriptions" (by decide)
  have replay := fixed "replayParked" (by decide)
  have info := fixed "info" (by decide)
  rw [Addressed, sentPath_eq documented]
  cases call with
  | replayParkedMessages streamName groupName =>
      rw [settle_plain, List.nil_append]
      · simp only [parts, segments, List.map_cons, List.map_nil, first.2, decode_urlencode, replay.2]
      · simp only [parts, List.forall_mem_cons, urlencode_plain_iff]
        exact ⟨first.1, named.1, named.2, replay.1, fun _ impossible =>
          absurd impossible List.not_mem_nil⟩
  | listPersistentSubscriptionsForStream streamName =>
      rw [settle_plain, List.nil_append]
      · simp only [parts, segments, List.map_cons, List.map_nil, first.2, decode_urlencode]
      · simp only [parts, List.forall_mem_cons, urlencode_plain_iff]
        exact ⟨first.1, named, fun _ impossible => absurd impossible List.not_mem_nil⟩
  | getPersistentSubscriptionInfo streamName groupName =>
      rw [settle_plain, List.nil_append]
      · simp only [parts, segments, List.map_cons, List.map_nil, first.2, decode_urlencode, info.2]
      · simp only [parts, List.forall_mem_cons, urlencode_plain_iff]
        exact ⟨first.1, named.1, named.2, info.1, fun _ impossible =>
          absurd impossible List.not_mem_nil⟩

theorem named_of_addressed {call : HttpCall} (addressed : call.Addressed crates node) :
    call.Named := by
  have lengths := congrArg List.length addressed
  rw [List.length_map, List.length_map, sentPath_eq documented] at lengths
  cases call with
  | replayParkedMessages streamName groupName => exact names_ordinary lengths
  | getPersistentSubscriptionInfo streamName groupName => exact names_ordinary lengths
  | listPersistentSubscriptionsForStream streamName =>
      change (settle [] ["subscriptions".toList, (urlencode streamName).toList]).length = 2 at lengths
      rw [Addressed, sentPath_eq documented] at addressed
      by_contra odd
      change ¬ Ordinary streamName at odd
      rw [Ordinary, not_and_or, not_not, not_not] at odd
      rcases odd with rfl | rfl
      · rw [parts, urlencode_kept (List.all_eq_true.mp (by decide))] at addressed
        exact absurd addressed (by decide)
      · rw [parts, urlencode_kept (List.all_eq_true.mp (by decide))] at addressed
        exact absurd addressed (by decide)

/-- Two calls of any names both reach what they name, and share a path only if they are the same
call, exactly when none of the names is a relative segment. -/
theorem calls_addressed_iff (first second : HttpCall) :
    (first.Addressed crates node ∧ second.Addressed crates node ∧
      (first.sentPath crates node = second.sentPath crates node → first = second)) ↔
      first.Named ∧ second.Named := by
  constructor
  · intro ⟨one, other, _⟩
    exact ⟨named_of_addressed documented one, named_of_addressed documented other⟩
  · intro ⟨one, other⟩
    have firstAddressed := addressed_of_named documented one
    have secondAddressed := addressed_of_named documented other
    refine ⟨firstAddressed, secondAddressed, ?_⟩
    intro same
    apply segments_injective
    apply List.map_injective_iff.mpr fun _ _ => utf8_injective
    calc
      first.segments.map utf8 = (first.sentPath crates node).map decode := firstAddressed.symm
      _ = (second.sentPath crates node).map decode := by rw [same]
      _ = second.segments.map utf8 := secondAddressed

end Sent

/-- The urlencoding crate, and a url crate that does what the URL standard says of paths. -/
def standardCrates : PathCrates := ⟨urlencode, fun text => UrlPath.segments text.toList⟩

theorem standardCrates_documented (node : HttpNode) : standardCrates.Documented node where
  encodes _ := rfl
  settles := by
    intro parts some_parts encoded
    let scheme := (if node.secure then "https" else "http").toList
    let authority := node.host.toList ++ ':' :: (toString node.port).toList
    have written : (node.url ++ String.ofList (UrlPath.joined parts)).toList =
        scheme ++ ':' :: '/' :: '/' :: (authority ++ UrlPath.joined parts) := by
      simp [HttpNode.url, scheme, authority]
    have named : ∀ char ∈ scheme, char ≠ ':' := by
      have checked : scheme.all (fun char => char != ':') = true := by
        simp only [scheme]
        split <;> decide
      intro char present
      exact bne_iff_ne.mp (List.all_eq_true.mp checked char present)
    have inside : ∀ char ∈ authority, endsAuthority char = false := by
      intro char present
      rcases List.mem_append.mp present with host | port
      · exact node.ends char host
      · rcases List.mem_cons.mp port with rfl | digits
        · rfl
        · have digit := toString_digits node.port char digits
          rw [← Bool.not_eq_true]
          intro stops
          simp only [endsAuthority, isSlash, endsPath, Bool.or_eq_true, decide_eq_true_eq] at stops
          rcases stops with (rfl | rfl) | rfl | rfl
          · exact absurd digit (by decide)
          · exact absurd digit (by decide)
          · exact absurd digit (by decide)
          · exact absurd digit (by decide)
    change UrlPath.segments _ = _
    rw [written]
    exact segments_joined named inside some_parts
      fun part present char member => encoded_inside (encoded part present char member)

theorem localhost_ends : ∀ char ∈ "localhost".toList, endsAuthority char = false := by
  have checked : "localhost".toList.all (fun char => !endsAuthority char) = true := by decide
  intro char present
  have stays := List.all_eq_true.mp checked char present
  rwa [Bool.not_eq_true'] at stays

def localHttpNode : HttpNode := ⟨false, "localhost", 2113, localhost_ends⟩

/-- A stream with a slash in its name, and two groups of it. -/
theorem slashed_calls_addressed :
    let first := getPersistentSubscriptionInfo "orders/2024" "billing"
    let second := getPersistentSubscriptionInfo "orders/2024" "shipping"
    first.Named ∧ second.Named ∧
      first.sentPath standardCrates localHttpNode = ["subscriptions".toList,
        "orders%2F2024".toList, "billing".toList, "info".toList] ∧
      first.Addressed standardCrates localHttpNode ∧
        second.Addressed standardCrates localHttpNode := by
  have first : (getPersistentSubscriptionInfo "orders/2024" "billing").Named := by
    unfold Named Ordinary
    decide
  have second : (getPersistentSubscriptionInfo "orders/2024" "shipping").Named := by
    unfold Named Ordinary
    decide
  have addressed := (calls_addressed_iff (standardCrates_documented localHttpNode) _ _).mpr
    ⟨first, second⟩
  exact ⟨first, second, by decide, addressed.1, addressed.2.1⟩

/-- The info of a group of the stream named by two dots is asked for outside the subscriptions, and
the list of the stream named by one dot is that of a stream without a name. -/
theorem dotted_calls_stray :
    standardCrates.Documented localHttpNode ∧
      ∀ crates : PathCrates, crates.Documented localHttpNode →
        (getPersistentSubscriptionInfo ".." "group").sentPath crates localHttpNode =
            ["group".toList, "info".toList] ∧
          (listPersistentSubscriptionsForStream ".").sentPath crates localHttpNode =
            (listPersistentSubscriptionsForStream "").sentPath crates localHttpNode ∧
          ¬ (getPersistentSubscriptionInfo ".." "group").Addressed crates localHttpNode := by
  refine ⟨standardCrates_documented localHttpNode, ?_⟩
  intro crates documented
  rw [sentPath_eq documented, sentPath_eq documented, sentPath_eq documented]
  refine ⟨by decide, by decide, ?_⟩
  intro addressed
  exact (named_of_addressed documented addressed).1.2 rfl

end HttpCall

end TrogonEventStore

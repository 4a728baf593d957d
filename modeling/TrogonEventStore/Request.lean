import TrogonEventStore.Settings

namespace TrogonEventStore

def utf8 (text : String) : Bytes := text.toUTF8.data.toList

/-- What requests use of the tonic crate, and the standard encoding of the base64 crate. `none` is a
refusal, and a panic of `set_timeout`. -/
structure Tonic where
  metadataKey : String → Option String
  metadataValue : String → Option Bytes
  setTimeout : Duration → Option Duration
  encode : Bytes → String

def MetadataMap.insert (metadata : MetadataMap) (key : String) (value : Bytes) : MetadataMap :=
  (key, value) :: metadata.filter (fun entry => entry.1 ≠ key)

/-- `MetadataInjector::set`: pairs gRPC metadata cannot carry are skipped. -/
def MetadataMap.injectorSet (tonic : Tonic) (metadata : MetadataMap) (pair : String × String) :
    MetadataMap :=
  match tonic.metadataKey pair.1, tonic.metadataValue pair.2 with
  | some key, some value => metadata.insert key value
  | _, _ => metadata

def buildAuthorizationHeader (tonic : Tonic) : Authentication → Option Bytes
  | .basic credentials =>
      let pair := fromUtf8Lossy credentials.login ++ ":" ++ fromUtf8Lossy credentials.password
      tonic.metadataValue ("Basic " ++ tonic.encode (utf8 pair))
  | .bearer token => tonic.metadataValue ("Bearer " ++ fromUtf8Lossy token)

/-- `build_request_metadata`; `propagated` is what the installed propagator emits.
`none` is the panic of the `expect` on the connection name. -/
def buildRequestMetadata (tonic : Tonic) (settings : ClientSettings)
    (options : CommonOperationOptions) (propagated : List (String × String)) : Option MetadataMap :=
  let metadata := propagated.foldl (MetadataMap.injectorSet tonic) []
  let authentication := options.authentication.or
    (settings.defaultUserName.map Authentication.basic)
  let metadata := match authentication.bind (buildAuthorizationHeader tonic) with
    | some value => metadata.insert "authorization" value
    | none => metadata
  let metadata :=
    if options.requiresLeader ∨ settings.preference = .leader then
      metadata.insert "requires-leader" (utf8 "true")
    else metadata
  match settings.connectionName with
  | some name => (tonic.metadataValue name).map (metadata.insert "connection-name")
  | none => some metadata

/-- What a header value takes of a text whatever the text is about: tabs and visible ASCII. -/
def HeaderText (text : String) : Prop :=
  ∀ char ∈ text.toList, char.toNat = 9 ∨ 32 ≤ char.toNat ∧ char.toNat < 127

def HeaderControl (char : Char) : Prop := char.toNat ≠ 9 ∧ (char.toNat < 32 ∨ char.toNat = 127)

def hour : Duration := Duration.fromSecs 3600

/-- A timeout has at most eight digits in hours. -/
def FitsTimeout (duration : Duration) : Prop := duration / hour ≤ 99999999

instance (duration : Duration) : Decidable (FitsTimeout duration) :=
  inferInstanceAs (Decidable (_ ≤ _))

/-- Nothing is said of values beyond ASCII. -/
structure Tonic.Documented (tonic : Tonic) : Prop where
  unchanged : ∀ text bytes, tonic.metadataValue text = some bytes → bytes = utf8 text
  visible : ∀ text, HeaderText text → tonic.metadataValue text ≠ none
  control : ∀ text, (∃ char ∈ text.toList, HeaderControl char) → tonic.metadataValue text = none
  encoded : ∀ bytes, HeaderText (tonic.encode bytes)
  stores : ∀ duration, FitsTimeout duration → tonic.setTimeout duration = some duration
  panics : ∀ duration, ¬ FitsTimeout duration → tonic.setTimeout duration = none

def Tonic.Takes (tonic : Tonic) (text : String) : Prop := tonic.metadataValue text ≠ none

section Plain

def base64Alphabet : List Char :=
  "ABCDEFGHIJKLMNOPQRSTUVWXYZabcdefghijklmnopqrstuvwxyz0123456789+/".toList

def base64Char (index : Nat) : Char := base64Alphabet.getD (index % 64) '='

def base64Encode : Bytes → List Char
  | [] => []
  | [a] =>
      [base64Char (a.toNat / 4), base64Char (a.toNat * 16), '=', '=']
  | [a, b] =>
      [base64Char (a.toNat / 4), base64Char (a.toNat * 16 + b.toNat / 16),
        base64Char (b.toNat * 4), '=']
  | a :: b :: c :: rest =>
      base64Char (a.toNat / 4) :: base64Char (a.toNat * 16 + b.toNat / 16) ::
        base64Char (b.toNat * 4 + c.toNat / 64) :: base64Char c.toNat :: base64Encode rest

theorem base64Char_mem (index : Nat) : base64Char index ∈ base64Alphabet := by
  unfold base64Char
  rw [List.getD_eq_getElem?_getD]
  have bound : index % 64 < base64Alphabet.length := Nat.mod_lt index (by decide)
  rw [List.getElem?_eq_getElem bound]
  exact List.getElem_mem bound

theorem base64Encode_chars (bytes : Bytes) :
    ∀ char ∈ base64Encode bytes, char ∈ base64Alphabet ∨ char = '=' := by
  induction bytes using base64Encode.induct with
  | case1 =>
      intro char impossible
      exact absurd impossible List.not_mem_nil
  | case2 a =>
      intro char present
      simp only [base64Encode, List.mem_cons, List.not_mem_nil, or_false] at present
      rcases present with rfl | rfl | rfl | rfl
      · exact Or.inl (base64Char_mem _)
      · exact Or.inl (base64Char_mem _)
      · exact Or.inr rfl
      · exact Or.inr rfl
  | case3 a b =>
      intro char present
      simp only [base64Encode, List.mem_cons, List.not_mem_nil, or_false] at present
      rcases present with rfl | rfl | rfl | rfl
      · exact Or.inl (base64Char_mem _)
      · exact Or.inl (base64Char_mem _)
      · exact Or.inl (base64Char_mem _)
      · exact Or.inr rfl
  | case4 a b c rest ih =>
      intro char present
      simp only [base64Encode, List.mem_cons] at present
      rcases present with rfl | rfl | rfl | rfl | later
      · exact Or.inl (base64Char_mem _)
      · exact Or.inl (base64Char_mem _)
      · exact Or.inl (base64Char_mem _)
      · exact Or.inl (base64Char_mem _)
      · exact ih char later

def headerNameChar (char : Char) : Bool :=
  char.isAlphanum || "!#$%&'*+-.^_|~".toList.contains char || char.toNat == 96

def headerValueChar (char : Char) : Bool :=
  char.toNat == 9 || (32 ≤ char.toNat && char.toNat != 127)

/-- Keys are header names in lower case without the binary suffix; values are texts without control
characters but the tab. -/
def Tonic.plain : Tonic where
  metadataKey text :=
    let key := text.toLower
    if key.toList ≠ [] ∧ key.toList.all headerNameChar ∧ ¬ ("-bin".toList <:+ key.toList) then
      some key
    else none
  metadataValue text := if text.toList.all headerValueChar then some (utf8 text) else none
  setTimeout duration := if FitsTimeout duration then some duration else none
  encode bytes := String.ofList (base64Encode bytes)

theorem Tonic.plain_documented : Tonic.plain.Documented where
  unchanged := by
    intro text bytes taken
    obtain ⟨_, same⟩ := Option.ite_none_right_eq_some.mp taken
    exact (Option.some.inj same).symm
  visible := by
    intro text visible refused
    have all : text.toList.all headerValueChar = true := by
      refine List.all_eq_true.mpr fun char present => ?_
      rcases visible char present with tab | ⟨low, high⟩
      · simp [headerValueChar, tab]
      · have below : char.toNat ≠ 127 := by omega
        simp [headerValueChar, low, below]
    cases (if_pos all).symm.trans refused
  control := by
    intro text ⟨char, present, other, range⟩
    refine if_neg fun all => ?_
    have accepted := List.all_eq_true.mp all char present
    simp only [headerValueChar, Bool.or_eq_true, beq_iff_eq, Bool.and_eq_true, decide_eq_true_eq,
      bne_iff_ne] at accepted
    omega
  encoded := by
    intro bytes char present
    have visible : base64Alphabet.all fun char => 32 ≤ char.toNat && char.toNat < 127 := by decide
    change char ∈ (String.ofList (base64Encode bytes)).toList at present
    rw [String.toList_ofList] at present
    rcases base64Encode_chars bytes char present with listed | rfl
    · simpa using Or.inr (List.all_eq_true.mp visible char listed)
    · exact Or.inr (by decide)
  stores := fun _ fits => if_pos fits
  panics := fun _ long => if_neg long

end Plain

end TrogonEventStore

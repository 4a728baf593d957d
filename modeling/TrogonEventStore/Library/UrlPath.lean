import Mathlib.Data.List.TakeWhile

/-! The path of a URL of the http scheme, taken apart as the URL standard does it: both slashes
separate segments, one dot stands for nothing and two dots take back the segment before. Characters
are left as they are; a text that is percent-encoded has none that would be escaped. -/

namespace UrlPath

def isSlash (char : Char) : Bool := char = '/' || char = '\\'

def endsPath (char : Char) : Bool := char = '?' || char = '#'

def endsAuthority (char : Char) : Bool := isSlash char || endsPath char

def singleDots : List (List Char) := [".", "%2e", "%2E"].map String.toList

def doubleDots : List (List Char) :=
  ["..", ".%2e", ".%2E", "%2e.", "%2E.", "%2e%2e", "%2e%2E", "%2E%2e", "%2E%2E"].map String.toList

/-- The segments kept so far, then those to come. Dots at the end leave an empty segment. -/
def settle : List (List Char) → List (List Char) → List (List Char)
  | settled, [] => settled
  | settled, [last] =>
      if last ∈ doubleDots then settled.dropLast ++ [[]]
      else if last ∈ singleDots then settled ++ [[]]
      else settled ++ [last]
  | settled, segment :: next :: rest =>
      if segment ∈ doubleDots then settle settled.dropLast (next :: rest)
      else if segment ∈ singleDots then settle settled (next :: rest)
      else settle (settled ++ [segment]) (next :: rest)

/-- What stands behind `scheme://authority`, up to the query and the fragment. -/
def pathText (url : List Char) : List Char :=
  (((url.dropWhile fun char => char ≠ ':').drop 3).dropWhile fun char =>
    !endsAuthority char).takeWhile fun char => !endsPath char

def segments (url : List Char) : List (List Char) :=
  settle [] (((pathText url).drop 1).splitOnP isSlash)

def joined (parts : List (List Char)) : List Char := parts.flatMap fun part => '/' :: part

def Plain (segment : List Char) : Prop := segment ∉ singleDots ∧ segment ∉ doubleDots

theorem settle_plain {parts : List (List Char)} (plain : ∀ part ∈ parts, Plain part)
    (settled : List (List Char)) : settle settled parts = settled ++ parts := by
  induction parts generalizing settled with
  | nil => rw [settle, List.append_nil]
  | cons part parts ih =>
      obtain ⟨noSingle, noDouble⟩ := plain part List.mem_cons_self
      cases parts with
      | nil => rw [settle, if_neg noDouble, if_neg noSingle]
      | cons next rest =>
          have later := ih (fun other member => plain other (List.mem_cons_of_mem _ member))
          rw [settle, if_neg noDouble, if_neg noSingle, later, List.append_assoc,
            List.singleton_append]

theorem settle_length_le (parts settled : List (List Char)) :
    (settle settled parts).length ≤ settled.length + parts.length := by
  induction parts generalizing settled with
  | nil => exact Nat.le_refl _
  | cons part parts ih =>
      have shorter : settled.dropLast.length ≤ settled.length := by
        rw [List.length_dropLast]
        omega
      cases parts with
      | nil =>
          rw [settle]
          split
          · rw [List.length_append, List.length_singleton, List.length_singleton]
            omega
          · split <;> exact Nat.le_of_eq List.length_append
      | cons next rest =>
          have backed := ih settled.dropLast
          have skipped := ih settled
          have kept := ih (settled ++ [part])
          rw [List.length_append, List.length_singleton] at kept
          rw [settle, List.length_cons]
          split
          · omega
          · split <;> omega

theorem settle_length_lt {parts : List (List Char)} (last : List Char) {dotted : List Char}
    (present : dotted ∈ parts) (dots : ¬ Plain dotted) (settled : List (List Char)) :
    (settle settled (parts ++ [last])).length < settled.length + parts.length + 1 := by
  induction parts generalizing settled with
  | nil => exact absurd present List.not_mem_nil
  | cons part parts ih =>
      have shorter : settled.dropLast.length ≤ settled.length := by
        rw [List.length_dropLast]
        omega
      have length : (parts ++ [last]).length = parts.length + 1 := List.length_append
      have backed := settle_length_le (parts ++ [last]) settled.dropLast
      have skipped := settle_length_le (parts ++ [last]) settled
      have unfolded : settle settled (part :: parts ++ [last]) =
          if part ∈ doubleDots then settle settled.dropLast (parts ++ [last])
          else if part ∈ singleDots then settle settled (parts ++ [last])
          else settle (settled ++ [part]) (parts ++ [last]) := by
        cases parts <;> rfl
      rw [unfolded, List.length_cons]
      split
      · omega
      · next noDouble =>
          split
          · omega
          · next noSingle =>
              rcases List.mem_cons.mp present with rfl | later
              · exact absurd ⟨noSingle, noDouble⟩ dots
              · have rest := ih later (settled ++ [part])
                rw [List.length_append, List.length_singleton] at rest
                omega

theorem split_joined {parts : List (List Char)} (some_parts : parts ≠ [])
    (whole : ∀ part ∈ parts, ∀ char ∈ part, isSlash char = false) :
    ((joined parts).drop 1).splitOnP isSlash = parts := by
  induction parts with
  | nil => exact absurd rfl some_parts
  | cons part parts ih =>
      have first := whole part List.mem_cons_self
      cases parts with
      | nil =>
          change List.splitOnP isSlash (part ++ []) = [part]
          rw [List.append_nil, List.splitOnP_eq_singleton first]
      | cons next rest =>
          have others := ih (List.cons_ne_nil _ _)
            (fun other member => whole other (List.mem_cons_of_mem _ member))
          change List.splitOnP isSlash (part ++ '/' :: (joined (next :: rest)).drop 1) = _
          rw [List.splitOnP_append_cons_of_forall_mem first '/' rfl, others]

/-- A URL whose path text is made of segments has the segments that are left of these. -/
theorem segments_joined {scheme authority : List Char} {parts : List (List Char)}
    (named : ∀ char ∈ scheme, char ≠ ':') (inside : ∀ char ∈ authority, endsAuthority char = false)
    (some_parts : parts ≠ [])
    (whole : ∀ part ∈ parts, ∀ char ∈ part, endsAuthority char = false) :
    segments (scheme ++ ':' :: '/' :: '/' :: (authority ++ joined parts)) = settle [] parts := by
  have path : pathText (scheme ++ ':' :: '/' :: '/' :: (authority ++ joined parts)) =
      joined parts := by
    have slash : endsAuthority '/' = true := rfl
    have unended : ∀ char ∈ joined parts, (!endsPath char) = true := by
      intro char member
      obtain ⟨part, present, listed⟩ := List.mem_flatMap.mp member
      rcases List.mem_cons.mp listed with rfl | written
      · rfl
      · have plain := whole part present char written
        rw [endsAuthority, Bool.or_eq_false_iff] at plain
        rw [plain.2]
        rfl
    have started : ∃ rest, joined parts = '/' :: rest := by
      cases parts with
      | nil => exact absurd rfl some_parts
      | cons part parts => exact ⟨part ++ joined parts, rfl⟩
    obtain ⟨rest, begins⟩ := started
    rw [pathText, List.dropWhile_append_of_pos fun char member => decide_eq_true (named char member),
      List.dropWhile_cons_of_neg (by simp)]
    change List.takeWhile _ (List.dropWhile _ (authority ++ joined parts)) = _
    rw [List.dropWhile_append_of_pos fun char member => by rw [inside char member]; rfl, begins,
      List.dropWhile_cons_of_neg (by rw [slash]; simp), ← begins,
      List.takeWhile_eq_self_iff.mpr unended]
  rw [segments, path, split_joined some_parts]
  intro part present char member
  have plain := whole part present char member
  rw [endsAuthority, Bool.or_eq_false_iff] at plain
  exact plain.1

end UrlPath

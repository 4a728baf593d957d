import Mathlib.Logic.Function.Basic
import TrogonEventStore.ConnectionActor

namespace TrogonEventStore

structure WireMemberInfo.Reads (parseUuid : String → Option Uuid) (wire : WireMemberInfo)
    (member : MemberInfo) : Prop where
  state : VNodeState.fromI32 wire.state = some member.state
  instanceId : (match wire.instanceId with
    | some wireUuid => wireUuid.tryInto parseUuid
    | none => some Uuid.nil) = some member.instanceId
  timeStamp : member.timeStamp = wire.timeStamp
  isAlive : member.isAlive = wire.isAlive
  httpEndPoint : wire.httpEndPoint = some member.httpEndPoint

/-- A member of a known state whose instance id is a text that is no uuid. -/
structure WireMemberInfo.Poisons (parseUuid : String → Option Uuid) (wire : WireMemberInfo) :
    Prop where
  known : (VNodeState.fromI32 wire.state).isSome
  unreadable : ∃ text, wire.instanceId = some ⟨some (.string text)⟩ ∧ parseUuid text = none

theorem WireUuid.tryInto_none_iff (parseUuid : String → Option Uuid) (wire : WireUuid) :
    wire.tryInto parseUuid = none ↔ ∃ text, wire = ⟨some (.string text)⟩ ∧ parseUuid text = none := by
  obtain ⟨value⟩ := wire
  cases value with
  | none => simp [tryInto]
  | some value =>
      cases value with
      | structured most least => simp [tryInto]
      | string text => simp [tryInto]

theorem readMember_none_iff (parseUuid : String → Option Uuid) (wire : WireMemberInfo) :
    readMember parseUuid wire = none ↔ wire.Poisons parseUuid := by
  constructor
  · intro read
    unfold readMember at read
    split at read
    · cases read
    · next state known =>
        split at read
        · next unreadable =>
            split at unreadable
            · next wireUuid identified =>
                obtain ⟨text, rfl, fails⟩ := (wireUuid.tryInto_none_iff parseUuid).mp unreadable
                exact ⟨by simp [known], text, identified, fails⟩
            · cases unreadable
        · split at read
          · cases read
          · cases read
  · intro poisons
    obtain ⟨state, known⟩ := Option.isSome_iff_exists.mp poisons.known
    obtain ⟨text, identified, fails⟩ := poisons.unreadable
    simp [readMember, known, identified, WireUuid.tryInto, fails]

theorem readMember_ok_iff (parseUuid : String → Option Uuid) (wire : WireMemberInfo)
    (member : MemberInfo) :
    readMember parseUuid wire = some (.ok member) ↔ wire.Reads parseUuid member := by
  constructor
  · intro read
    unfold readMember at read
    split at read
    · cases read
    · next state known =>
        split at read
        · cases read
        · next id identified =>
            split at read
            · cases read
            · next endpoint present =>
                cases read
                exact ⟨known, identified, rfl, rfl, present⟩
  · intro reads
    have id := reads.instanceId
    have alive := reads.isAlive
    have stamped := reads.timeStamp
    simp only [readMember, reads.state, reads.httpEndPoint, ← alive, ← stamped]
    cases identified : wire.instanceId with
    | none =>
        simp only [identified, Option.some.injEq] at id
        simp only [id]
    | some wireUuid =>
        simp only [identified] at id
        simp only [id]

theorem readMembers_ok_iff (parseUuid : String → Option Uuid) (wires : List WireMemberInfo)
    (members : List MemberInfo) :
    readMembers parseUuid wires = some (.ok members) ↔
      List.Forall₂ (WireMemberInfo.Reads parseUuid) wires members := by
  induction wires generalizing members with
  | nil =>
      constructor
      · intro read
        cases read
        exact .nil
      · intro reads
        cases reads
        rfl
  | cons wire wires ih =>
      constructor
      · intro read
        unfold readMembers at read
        split at read
        · cases read
        · cases read
        · next member first =>
            split at read
            · cases read
            · cases read
            · next others rest =>
                cases read
                exact .cons ((readMember_ok_iff parseUuid wire member).mp first)
                  ((ih others).mp rest)
      · intro reads
        cases reads with
        | cons first rest =>
            have head := (readMember_ok_iff parseUuid wire _).mpr first
            have tail := (ih _).mpr rest
            simp only [readMembers, head, tail]

/-- Reading a gossip response panics at the first member that cannot be read without an error,
when that member is poisonous. -/
theorem readMembers_none_iff (parseUuid : String → Option Uuid) (wires : List WireMemberInfo) :
    readMembers parseUuid wires = none ↔
      ∃ front wire back, wires = front ++ wire :: back ∧
        (∀ other ∈ front, ∃ member, other.Reads parseUuid member) ∧ wire.Poisons parseUuid := by
  induction wires with
  | nil => simp [readMembers]
  | cons wire wires ih =>
      constructor
      · intro read
        unfold readMembers at read
        split at read
        · next poisons =>
            exact ⟨[], wire, wires, rfl, by simp, (readMember_none_iff parseUuid wire).mp poisons⟩
        · cases read
        · next member first =>
            split at read
            · next rest =>
                obtain ⟨front, poison, back, split, readable, poisons⟩ := ih.mp rest
                refine ⟨wire :: front, poison, back, by rw [split, List.cons_append], ?_, poisons⟩
                intro other present
                rcases List.mem_cons.mp present with rfl | present
                · exact ⟨member, (readMember_ok_iff parseUuid other member).mp first⟩
                · exact readable other present
            · cases read
            · cases read
      · intro given
        obtain ⟨front, poison, back, split, readable, poisons⟩ := given
        cases front with
        | nil =>
            cases split
            simp only [readMembers, (readMember_none_iff parseUuid wire).mpr poisons]
        | cons first front =>
            cases split
            obtain ⟨member, reads⟩ := readable wire List.mem_cons_self
            have rest := ih.mpr ⟨front, poison, back, rfl,
              fun other present => readable other (List.mem_cons_of_mem _ present), poisons⟩
            simp only [readMembers, (readMember_ok_iff parseUuid wire member).mpr reads, rest]

def eligible (members : List MemberInfo) : List MemberInfo :=
  (members.filter MemberInfo.isAlive).filter fun member => allowedStates member.state

/-- Which member may be chosen: any of those that match the preference, and the last one where
none does; the random preference may choose any. -/
structure NodePreference.Selects (preference : NodePreference) (members : List MemberInfo)
    (member : MemberInfo) : Prop where
  present : member ∈ members
  fits : preference = .random ∨ preference.matchPreference member.state = true ∨
    (∀ other ∈ members, preference.matchPreference other.state = false) ∧
      members.getLast? = some member

section bestOf

variable {preference : NodePreference} (bits : Nat → Bool) (drawn : Nat) (best member : MemberInfo)
  (members : List MemberInfo)

theorem bestOf_random (random : preference = .random) :
    bestOf preference bits drawn best (member :: members) =
      bestOf preference bits (drawn + 1) (if bits drawn then member else best) members := by
  subst random
  cases bit : bits drawn <;> simp [bestOf, compareMembers, bit]

theorem bestOf_both (particular : preference ≠ .random)
    (first : preference.matchPreference best.state = true)
    (second : preference.matchPreference member.state = true) :
    bestOf preference bits drawn best (member :: members) =
      bestOf preference bits (drawn + 1) (if bits drawn then best else member) members := by
  cases bit : bits drawn <;> simp [bestOf, compareMembers, particular, first, second, bit]

theorem bestOf_first (particular : preference ≠ .random)
    (first : preference.matchPreference best.state = true)
    (second : preference.matchPreference member.state = false) :
    bestOf preference bits drawn best (member :: members) =
      bestOf preference bits drawn best members := by
  simp [bestOf, compareMembers, particular, first, second]

theorem bestOf_second (particular : preference ≠ .random)
    (first : preference.matchPreference best.state = false) :
    bestOf preference bits drawn best (member :: members) =
      bestOf preference bits drawn member members := by
  cases second : preference.matchPreference member.state <;>
    simp [bestOf, compareMembers, particular, first, second]

end bestOf

theorem NodePreference.Selects.cons {preference : NodePreference} {best member chosen : MemberInfo}
    {members : List MemberInfo} (kept : MemberInfo)
    (selects : preference.Selects (kept :: members) chosen)
    (either : kept = best ∨ kept = member)
    (last : preference.matchPreference kept.state = false →
      preference = .random ∨ kept = member ∧ preference.matchPreference best.state = false) :
    preference.Selects (best :: member :: members) chosen := by
  constructor
  · rcases List.mem_cons.mp selects.present with rfl | present
    · rcases either with rfl | rfl
      · exact List.mem_cons_self
      · exact List.mem_cons_of_mem _ List.mem_cons_self
    · exact List.mem_cons_of_mem _ (List.mem_cons_of_mem _ present)
  · rcases selects.fits with random | fits | ⟨none, final⟩
    · exact Or.inl random
    · exact Or.inr (Or.inl fits)
    · rcases last (none kept List.mem_cons_self) with random | ⟨rfl, unfit⟩
      · exact Or.inl random
      · refine Or.inr (Or.inr ⟨?_, ?_⟩)
        · intro other present
          rcases List.mem_cons.mp present with rfl | present
          · exact unfit
          · exact none other present
        · rw [List.getLast?_cons_cons]
          exact final

theorem bestOf_selects (preference : NodePreference) (bits : Nat → Bool) (drawn : Nat)
    (best : MemberInfo) (members : List MemberInfo) :
    preference.Selects (best :: members) (bestOf preference bits drawn best members) := by
  induction members generalizing drawn best with
  | nil =>
      refine ⟨List.mem_cons_self, ?_⟩
      cases fits : preference.matchPreference best.state with
      | true => exact Or.inr (Or.inl fits)
      | false =>
          refine Or.inr (Or.inr ⟨?_, rfl⟩)
          intro other present
          rw [List.mem_singleton.mp present]
          exact fits
  | cons member members ih =>
      by_cases random : preference = .random
      · rw [bestOf_random bits drawn best member members random]
        refine (ih _ _).cons _ ?_ fun _ => Or.inl random
        split
        · exact Or.inr rfl
        · exact Or.inl rfl
      · cases first : preference.matchPreference best.state with
        | false =>
            rw [bestOf_second bits drawn best member members random first]
            exact (ih _ _).cons member (Or.inr rfl) fun _ => Or.inr ⟨rfl, first⟩
        | true =>
            cases second : preference.matchPreference member.state with
            | false =>
                rw [bestOf_first bits drawn best member members random first second]
                refine (ih _ _).cons best (Or.inl rfl) fun unfit => ?_
                rw [first] at unfit
                cases unfit
            | true =>
                rw [bestOf_both bits drawn best member members random first second]
                cases bits drawn with
                | true =>
                    refine (ih _ _).cons best (Or.inl rfl) fun unfit => ?_
                    rw [first] at unfit
                    cases unfit
                | false =>
                    refine (ih _ _).cons member (Or.inr rfl) fun unfit => ?_
                    rw [second] at unfit
                    cases unfit

theorem bestOf_congr (preference : NodePreference) {bits other : Nat → Bool} {drawn : Nat}
    (agree : ∀ index, drawn ≤ index → bits index = other index) (best : MemberInfo)
    (members : List MemberInfo) :
    bestOf preference bits drawn best members = bestOf preference other drawn best members := by
  induction members generalizing drawn best with
  | nil => rfl
  | cons member members ih =>
      have now := agree drawn (Nat.le_refl _)
      rw [bestOf, bestOf, now]
      apply ih
      intro index later
      apply agree
      split at later
      · omega
      · omega

theorem bestOf_set (preference : NodePreference) (bits : Nat → Bool) (drawn : Nat) (bit : Bool)
    (best : MemberInfo) (members : List MemberInfo) :
    bestOf preference (Function.update bits drawn bit) (drawn + 1) best members =
      bestOf preference bits (drawn + 1) best members := by
  apply bestOf_congr
  intro index later
  apply Function.update_of_ne
  omega

theorem bestOf_reaches {preference : NodePreference} (drawn : Nat) (best : MemberInfo)
    (members : List MemberInfo) {target : MemberInfo} (present : target ∈ best :: members)
    (fits : preference = .random ∨ preference.matchPreference target.state = true) :
    ∃ bits, bestOf preference bits drawn best members = target := by
  induction members generalizing drawn best with
  | nil => exact ⟨fun _ => false, (List.mem_singleton.mp present).symm⟩
  | cons member members ih =>
      by_cases random : preference = .random
      · by_cases first : target = best
        · obtain ⟨bits, reached⟩ := ih (drawn + 1) best (by rw [first]; exact List.mem_cons_self)
          refine ⟨Function.update bits drawn false, ?_⟩
          rw [bestOf_random _ _ _ _ _ random, Function.update_self]
          exact (bestOf_set preference bits drawn false best members).trans reached
        · have later : target ∈ member :: members := (List.mem_cons.mp present).resolve_left first
          obtain ⟨bits, reached⟩ := ih (drawn + 1) member later
          refine ⟨Function.update bits drawn true, ?_⟩
          rw [bestOf_random _ _ _ _ _ random, Function.update_self]
          exact (bestOf_set preference bits drawn true member members).trans reached
      · have fitting := fits.resolve_left random
        cases first : preference.matchPreference best.state with
        | false =>
            have later : target ∈ member :: members := by
              rcases List.mem_cons.mp present with rfl | later
              · rw [first] at fitting
                cases fitting
              · exact later
            obtain ⟨bits, reached⟩ := ih drawn member later
            refine ⟨bits, ?_⟩
            rw [bestOf_second _ _ _ _ _ random first]
            exact reached
        | true =>
            cases second : preference.matchPreference member.state with
            | false =>
                have kept : target ∈ best :: members := by
                  rcases List.mem_cons.mp present with rfl | later
                  · exact List.mem_cons_self
                  · rcases List.mem_cons.mp later with rfl | later
                    · rw [second] at fitting
                      cases fitting
                    · exact List.mem_cons_of_mem _ later
                obtain ⟨bits, reached⟩ := ih drawn best kept
                refine ⟨bits, ?_⟩
                rw [bestOf_first _ _ _ _ _ random first second]
                exact reached
            | true =>
                by_cases head : target = best
                · obtain ⟨bits, reached⟩ := ih (drawn + 1) best (by
                    rw [head]
                    exact List.mem_cons_self)
                  refine ⟨Function.update bits drawn true, ?_⟩
                  rw [bestOf_both _ _ _ _ _ random first second, Function.update_self]
                  exact (bestOf_set preference bits drawn true best members).trans reached
                · have later : target ∈ member :: members :=
                    (List.mem_cons.mp present).resolve_left head
                  obtain ⟨bits, reached⟩ := ih (drawn + 1) member later
                  refine ⟨Function.update bits drawn false, ?_⟩
                  rw [bestOf_both _ _ _ _ _ random first second, Function.update_self]
                  exact (bestOf_set preference bits drawn false member members).trans reached

theorem bestOf_last {preference : NodePreference} (bits : Nat → Bool) (drawn : Nat)
    (best : MemberInfo) (members : List MemberInfo) {target : MemberInfo}
    (particular : preference ≠ .random)
    (none : ∀ other ∈ best :: members, preference.matchPreference other.state = false)
    (last : (best :: members).getLast? = some target) :
    bestOf preference bits drawn best members = target := by
  induction members generalizing best with
  | nil => exact Option.some.inj last
  | cons member members ih =>
      rw [bestOf_second _ _ _ _ _ particular (none best List.mem_cons_self)]
      rw [List.getLast?_cons_cons] at last
      exact ih member (fun other later => none other (List.mem_cons_of_mem _ later)) last

theorem determineBestNode_eq (bits : Nat → Bool) (preference : NodePreference)
    (members : List MemberInfo) :
    determineBestNode bits preference members =
      match eligible members with
      | [] => none
      | first :: rest => some (bestOf preference bits 0 first rest).httpEndPoint :=
  rfl

/-- `determine_best_node` chooses among the eligible members, and may choose any that the
preference selects. -/
theorem determineBestNode_iff (preference : NodePreference) (members : List MemberInfo)
    (node : Endpoint) :
    (∃ bits, determineBestNode bits preference members = some node) ↔
      ∃ member, preference.Selects (eligible members) member ∧ member.httpEndPoint = node := by
  simp only [determineBestNode_eq]
  cases eligible members with
  | nil =>
      constructor
      · intro given
        obtain ⟨bits, impossible⟩ := given
        cases impossible
      · intro given
        obtain ⟨member, selects, _⟩ := given
        cases selects.present
  | cons first rest =>
      constructor
      · intro given
        obtain ⟨bits, chosen⟩ := given
        cases chosen
        exact ⟨_, bestOf_selects preference bits 0 first rest, rfl⟩
      · intro given
        obtain ⟨member, selects, rfl⟩ := given
        by_cases random : preference = .random
        · obtain ⟨bits, reached⟩ := bestOf_reaches 0 first rest selects.present (Or.inl random)
          exact ⟨bits, congrArg (fun best => some best.httpEndPoint) reached⟩
        · rcases selects.fits with impossible | fits | ⟨none, last⟩
          · exact absurd impossible random
          · obtain ⟨bits, reached⟩ := bestOf_reaches 0 first rest selects.present (Or.inr fits)
            exact ⟨bits, congrArg (fun best => some best.httpEndPoint) reached⟩
          · have reached := bestOf_last (fun _ => false) 0 first rest random none last
            exact ⟨_, congrArg (fun best => some best.httpEndPoint) reached⟩

/-- A member a node may be chosen from: alive, and neither a manager nor about to leave. -/
structure MemberInfo.Eligible (member : MemberInfo) : Prop where
  alive : member.isAlive = true
  manager : member.state ≠ .manager
  shuttingDown : member.state ≠ .shuttingDown
  shutdown : member.state ≠ .shutdown

theorem mem_eligible_iff (members : List MemberInfo) (member : MemberInfo) :
    member ∈ eligible members ↔ member ∈ members ∧ member.Eligible := by
  unfold eligible
  rw [List.mem_filter, List.mem_filter, and_assoc]
  refine and_congr_right fun _ => ?_
  constructor
  · intro ⟨alive, allowed⟩
    simp only [allowedStates, Bool.not_eq_true', Bool.or_eq_false_iff, decide_eq_false_iff_not] at allowed
    exact ⟨alive, allowed.1.1, allowed.1.2, allowed.2⟩
  · intro eligible
    refine ⟨eligible.alive, ?_⟩
    simp [allowedStates, eligible.manager, eligible.shuttingDown, eligible.shutdown]

theorem determineBestNode_none_iff (bits : Nat → Bool) (preference : NodePreference)
    (members : List MemberInfo) :
    determineBestNode bits preference members = none ↔ eligible members = [] := by
  rw [determineBestNode_eq]
  cases eligible members with
  | nil => exact iff_of_true rfl rfl
  | cons first rest =>
      refine iff_of_false ?_ (List.cons_ne_nil first rest)
      intro impossible
      cases impossible

theorem NodePreference.Selects.matches {preference : NodePreference} {members : List MemberInfo}
    {member other : MemberInfo} (selects : preference.Selects members member)
    (particular : preference ≠ .random) (present : other ∈ members)
    (fits : preference.matchPreference other.state = true) :
    preference.matchPreference member.state = true := by
  rcases selects.fits with random | same | ⟨none, _⟩
  · exact absurd random particular
  · exact same
  · rw [none other present] at fits
    cases fits

/-- A node is found unless no member is eligible; it is an eligible member's, one that matches a
particular preference if any does, and every member that fits is found with some random bits. -/
theorem best_node_chosen (preference : NodePreference) (members : List MemberInfo) :
    (∀ bits, determineBestNode bits preference members = none ↔
      ∀ member ∈ members, ¬ member.Eligible) ∧
    (∀ bits node, determineBestNode bits preference members = some node →
      ∃ member ∈ members, member.httpEndPoint = node ∧ member.Eligible ∧
        (preference ≠ .random → ∀ other ∈ members, other.Eligible →
          preference.matchPreference other.state = true →
          preference.matchPreference member.state = true)) ∧
    (∀ member ∈ members, member.Eligible →
      preference = .random ∨ preference.matchPreference member.state = true →
      ∃ bits, determineBestNode bits preference members = some member.httpEndPoint) := by
  refine ⟨?_, ?_, ?_⟩
  · intro bits
    rw [determineBestNode_none_iff, List.eq_nil_iff_forall_not_mem]
    simp only [mem_eligible_iff, not_and]
  · intro bits node chosen
    obtain ⟨member, selects, found⟩ :=
      (determineBestNode_iff preference members node).mp ⟨bits, chosen⟩
    have listed := (mem_eligible_iff members member).mp selects.present
    refine ⟨member, listed.1, found, listed.2, ?_⟩
    intro particular other present eligible fits
    exact selects.matches particular ((mem_eligible_iff members other).mpr ⟨present, eligible⟩) fits
  · intro member present eligible fits
    have listed := (mem_eligible_iff members member).mpr ⟨present, eligible⟩
    exact (determineBestNode_iff preference members member.httpEndPoint).mpr
      ⟨member, ⟨listed, fits.imp_right Or.inl⟩, rfl⟩

end TrogonEventStore

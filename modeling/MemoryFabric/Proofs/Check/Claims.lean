import Mathlib.Data.List.Pairwise
import MemoryFabric.Check.Disjointness
import MemoryFabric.Proofs.Address.Aliases
import MemoryFabric.Proofs.Graph.Decisions

/-! How the check of disjointness compares claims. Inside a group only the match
values are compared; claims of different groups are searched for a common address. -/

namespace MemoryFabric.Check

variable {graph : Graph} {parent : NodeId} {fault : Fault}

theorem mem_claimsBelow_iff (claim : Claim) :
    claim ∈ claimsBelow graph parent ↔
      claim.node ∈ graph.downstream parent ∧ graph.Filters claim.node claim.predicate := by
  rw [claimsBelow, List.mem_flatMap]
  constructor
  · rintro ⟨node, nodeMember, member⟩
    split at member
    · rename_i predicates found
      rcases List.mem_map.mp member with ⟨predicate, predicateMember, rfl⟩
      exact ⟨nodeMember, predicates, found, predicateMember⟩
    · cases member
  · rintro ⟨nodeMember, predicates, found, member⟩
    refine ⟨claim.node, nodeMember, ?_⟩
    rw [found]
    exact List.mem_map.mpr ⟨claim.predicate, member, rfl⟩

/-! ## Pairs of claims -/

theorem sharesField_iff (first second : Claim) :
    first.sharesField second = true ↔
      ∃ range bits highBit value other,
        first.predicate = .interleaved range bits highBit value ∧
          second.predicate = .interleaved range bits highBit other := by
  rw [Claim.sharesField]
  constructor
  · intro shares
    split at shares
    · rename_i range bits highBit value _ _ _ other firstEqual secondEqual
      simp only [Bool.and_eq_true, decide_eq_true_eq] at shares
      rcases shares with ⟨⟨rfl, rfl⟩, rfl⟩
      exact ⟨range, bits, highBit, value, other, firstEqual, secondEqual⟩
    · cases shares
  · rintro ⟨range, bits, highBit, value, other, firstEqual, secondEqual⟩
    rw [firstEqual, secondEqual]
    simp

theorem sharesField_comm (first second : Claim) :
    first.sharesField second = second.sharesField first := by
  rw [Bool.eq_iff_iff, sharesField_iff, sharesField_iff]
  constructor
  · rintro ⟨range, bits, highBit, value, other, firstEqual, secondEqual⟩
    exact ⟨range, bits, highBit, other, value, secondEqual, firstEqual⟩
  · rintro ⟨range, bits, highBit, value, other, secondEqual, firstEqual⟩
    exact ⟨range, bits, highBit, other, value, firstEqual, secondEqual⟩

instance : Std.Symm fun first second : Claim => first.repeats second = false where
  symm first second unrepeated := by
    rw [Claim.repeats, sharesField_comm, BEq.comm, bne_comm]
    exact unrepeated

theorem repeats_of_claims {first second : Claim} (repeats : first.repeats second = true) :
    first.node ≠ second.node ∧ first.predicate.Repeats second.predicate := by
  rw [Claim.repeats, Bool.and_eq_true, Bool.and_eq_true, sharesField_iff, beq_iff_eq,
    bne_iff_ne] at repeats
  rcases repeats with ⟨⟨⟨range, bits, highBit, value, other, firstEqual, secondEqual⟩, values⟩,
    different⟩
  rw [Claim.matchValue?, Claim.matchValue?, firstEqual, secondEqual] at values
  cases values
  exact ⟨different, range, range, bits, highBit, value, firstEqual, secondEqual,
    range.overlaps_self⟩

theorem coincides_iff (first second : Claim) :
    first.coincides second = true ↔ first.predicate.Repeats second.predicate := by
  rw [Claim.coincides]
  constructor
  · intro coincides
    split at coincides
    · rename_i range bits highBit value range' bits' highBit' value' firstEqual secondEqual
      simp only [Bool.and_eq_true, decide_eq_true_eq] at coincides
      rcases coincides with ⟨⟨⟨rfl, rfl⟩, rfl⟩, overlapping⟩
      exact ⟨range, range', bits, highBit, value, firstEqual, secondEqual, overlapping⟩
    · cases coincides
  · rintro ⟨range, other, bits, highBit, value, firstEqual, secondEqual, overlapping⟩
    rw [firstEqual, secondEqual]
    simp [overlapping]

def Compatible (first second : Claim) : Prop :=
  first.node ≠ second.node →
    ¬ first.predicate.Repeats second.predicate ∧
      ∀ address, ¬ (first.predicate.accepts address = true ∧
        second.predicate.accepts address = true)

instance : Std.Symm Compatible where
  symm first second compatible different := by
    rcases compatible (Ne.symm different) with ⟨noRepeat, apart⟩
    exact ⟨fun again => noRepeat again.symm, fun address both => apart address both.symm⟩

theorem compatible_iff {first second : Claim} (different : first.node ≠ second.node) :
    Compatible first second ↔ ¬ first.predicate.Repeats second.predicate ∧
      first.predicate.overlapWitness second.predicate = none := by
  rw [AddressPredicate.overlapWitness_eq_none_iff]
  exact forall_prop_of_true different

theorem disjointPair_eq_ok_iff {first second : Claim} :
    disjointPair graph parent first second = .ok () ↔ Compatible first second := by
  rw [disjointPair]
  by_cases same : first.node = second.node
  · simp [Compatible, same]
  · rw [if_neg same, compatible_iff same, ← coincides_iff]
    by_cases coincides : first.coincides second = true
    · simp [coincides]
    · cases first.predicate.overlapWitness second.predicate <;> simp [coincides]

/-- Claims that share a field and write different values of it are compatible, unless the
values are the same in the field. -/
theorem aliases_or_compatible {first second : Claim} (different : first.node ≠ second.node)
    (shares : first.sharesField second = true) (unrepeated : first.repeats second = false) :
    first.predicate.Aliases second.predicate ∨ Compatible first second := by
  rcases (sharesField_iff first second).mp shares with
    ⟨range, bits, highBit, value, other, firstEqual, secondEqual⟩
  have values : value ≠ other := by
    simpa [Claim.repeats, shares, different, Claim.matchValue?, firstEqual, secondEqual]
      using unrepeated
  have noRepeat : ¬ first.predicate.Repeats second.predicate := by
    rw [firstEqual, secondEqual]
    exact AddressPredicate.not_repeats_of_ne values
  have either := AddressPredicate.aliases_or_apart range bits highBit values
  rw [← firstEqual, ← secondEqual] at either
  exact either.imp_right fun apart => (compatible_iff different).mpr ⟨noRepeat, apart⟩

/-- Comparing only the values of a shared field finds no fault in compatible claims and in
aliases, and finds one in all others. -/
theorem unchallenged_iff {first second : Claim} (different : first.node ≠ second.node) :
    (first.repeats second = false ∧
        (first.sharesField second = true ∨ Compatible first second)) ↔
      first.predicate.Aliases second.predicate ∨ Compatible first second := by
  constructor
  · rintro ⟨unrepeated, shares | compatible⟩
    · exact aliases_or_compatible different shares unrepeated
    · exact Or.inr compatible
  · intro either
    have noRepeat : ¬ first.predicate.Repeats second.predicate :=
      either.elim AddressPredicate.Aliases.not_repeats fun compatible => (compatible different).1
    constructor
    · rw [← Bool.not_eq_true]
      exact fun repeats => noRepeat (repeats_of_claims repeats).2
    · apply either.imp_left
      rintro ⟨range, bits, highBit, value, other, firstEqual, secondEqual, -⟩
      exact (sharesField_iff first second).mpr
        ⟨range, bits, highBit, value, other, firstEqual, secondEqual⟩

/-- What is wrong with two nodes directly below a node, as a fault tells it. -/
inductive Clash (graph : Graph) (parent first second : NodeId) : Fault → Prop where
  | overlap {witness : UInt64} (inFirst : graph.Admits first witness)
      (inSecond : graph.Admits second witness) :
      Clash graph parent first second (.overlappingPredicates (graph.nameOf parent)
        (graph.nameOf first) (graph.nameOf second) witness)
  | duplicate {range other : AddressRange} {bits highBit matchValue : Nat}
      (inFirst : graph.Filters first (.interleaved range bits highBit matchValue))
      (inSecond : graph.Filters second (.interleaved other bits highBit matchValue))
      (overlapping : range.overlaps other = true) :
      Clash graph parent first second (.duplicateInterleaveMatch (graph.nameOf parent)
        (graph.nameOf first) (graph.nameOf second) matchValue)

theorem clash_of_repeats {first second : Claim} (inFirst : graph.Filters first.node first.predicate)
    (inSecond : graph.Filters second.node second.predicate)
    (repeats : first.predicate.Repeats second.predicate) :
    Clash graph parent first.node second.node (duplicate graph parent first second) := by
  rcases repeats with ⟨range, other, bits, highBit, value, firstEqual, secondEqual, overlapping⟩
  rw [firstEqual] at inFirst
  rw [secondEqual] at inSecond
  rw [duplicate, Claim.matchValue?, secondEqual]
  exact .duplicate inFirst inSecond overlapping

theorem disjointPair_eq_error {first second : Claim}
    (inFirst : graph.Filters first.node first.predicate)
    (inSecond : graph.Filters second.node second.predicate)
    (failed : disjointPair graph parent first second = .error fault) :
    first.node ≠ second.node ∧ Clash graph parent first.node second.node fault := by
  rw [disjointPair] at failed
  split at failed
  case isTrue => cases failed
  case isFalse different =>
    refine ⟨different, ?_⟩
    split at failed
    case isTrue coincides =>
      cases failed
      exact clash_of_repeats inFirst inSecond ((coincides_iff first second).mp coincides)
    case isFalse =>
      split at failed
      case h_1 witness found =>
        cases failed
        have both := AddressPredicate.accepts_of_overlapWitness found
        exact .overlap ⟨_, inFirst, both.1⟩ ⟨_, inSecond, both.2⟩
      case h_2 => cases failed

/-! ## Claims of one group -/

theorem noRepeats_eq_ok_iff : ∀ {claims earlier : List Claim},
    noRepeats graph parent earlier claims = .ok () ↔
      (∀ first ∈ earlier, ∀ second ∈ claims, first.repeats second = false) ∧
        claims.Pairwise fun first second => first.repeats second = false
  | [], earlier => by simp [noRepeats]
  | claim :: rest, earlier => by
      rw [noRepeats]
      cases found : earlier.find? (·.repeats claim) with
      | some first =>
          have repeats : first.repeats claim = true :=
            List.find?_some (p := fun other : Claim => other.repeats claim) found
          refine iff_of_false (fun passed => by cases passed) fun unrepeated => ?_
          rw [unrepeated.1 first (List.mem_of_find?_eq_some found) claim List.mem_cons_self]
            at repeats
          cases repeats
      | none =>
          rw [List.find?_eq_none] at found
          simp only [Bool.not_eq_true] at found
          dsimp only
          rw [noRepeats_eq_ok_iff, List.pairwise_cons, List.forall_mem_cons]
          constructor
          · rintro ⟨⟨later, others⟩, pairs⟩
            refine ⟨fun first member => ?_, later, pairs⟩
            exact List.forall_mem_cons.mpr ⟨found first member, others first member⟩
          · rintro ⟨others, later, pairs⟩
            exact ⟨⟨later, fun first member second secondMember =>
              others first member second (List.mem_cons_of_mem claim secondMember)⟩, pairs⟩

theorem noRepeats_eq_error : ∀ {claims earlier : List Claim},
    noRepeats graph parent earlier claims = .error fault →
      ∃ first ∈ earlier ++ claims, ∃ second ∈ claims, first.repeats second = true ∧
        fault = duplicate graph parent first second
  | claim :: rest, earlier, failed => by
      rw [noRepeats] at failed
      cases found : earlier.find? (·.repeats claim) with
      | some first =>
          rw [found] at failed
          cases failed
          exact ⟨first, List.mem_append_left _ (List.mem_of_find?_eq_some found), claim,
            List.mem_cons_self,
            List.find?_some (p := fun other : Claim => other.repeats claim) found, rfl⟩
      | none =>
          rw [found] at failed
          rcases noRepeats_eq_error failed with ⟨first, firstMember, second, secondMember, repeats⟩
          refine ⟨first, ?_, second, List.mem_cons_of_mem claim secondMember, repeats⟩
          simp only [List.cons_append, List.mem_cons, List.mem_append] at firstMember ⊢
          exact or_left_comm.mp firstMember

def IsGroup (group : List Claim) : Prop :=
  group ≠ [] ∧ ∀ first ∈ group, ∀ second ∈ group, first = second ∨ first.sharesField second = true

theorem sharesField_trans {first second third : Claim}
    (firstShares : first.sharesField second = true)
    (secondShares : second.sharesField third = true) : first.sharesField third = true := by
  rw [sharesField_iff] at firstShares secondShares ⊢
  rcases firstShares with ⟨range, bits, highBit, value, other, firstEqual, secondEqual⟩
  rcases secondShares with ⟨_, _, _, _, another, equal, thirdEqual⟩
  rw [secondEqual] at equal
  cases equal
  exact ⟨range, bits, highBit, value, another, firstEqual, thirdEqual⟩

theorem IsGroup.append {claim : Claim} {group : List Claim} (isGroup : IsGroup group)
    (shares : group.head?.any claim.sharesField = true) : IsGroup (group ++ [claim]) := by
  cases group with
  | nil => cases shares
  | cons head rest =>
      have toHead : claim.sharesField head = true := shares
      have toAll : ∀ other ∈ head :: rest, claim.sharesField other = true := by
        intro other member
        rcases isGroup.2 head List.mem_cons_self other member with rfl | shared
        · exact toHead
        · exact sharesField_trans toHead shared
      refine ⟨by simp, ?_⟩
      intro first firstMember second secondMember
      rcases List.mem_append.mp firstMember with firstOld | firstNew
      · rcases List.mem_append.mp secondMember with secondOld | secondNew
        · exact isGroup.2 first firstOld second secondOld
        · rcases List.mem_singleton.mp secondNew with rfl
          rw [sharesField_comm]
          exact Or.inr (toAll first firstOld)
      · rcases List.mem_singleton.mp firstNew with rfl
        rcases List.mem_append.mp secondMember with secondOld | secondNew
        · exact Or.inr (toAll second secondOld)
        · exact Or.inl (List.mem_singleton.mp secondNew).symm

theorem isGroup_of_mem_insertClaim {claim : Claim} {groups : List (List Claim)}
    (areGroups : ∀ group ∈ groups, IsGroup group) :
    ∀ group ∈ insertClaim claim groups, IsGroup group := by
  induction groups with
  | nil =>
      intro group member
      rcases List.mem_singleton.mp member with rfl
      simp [IsGroup]
  | cons head rest induction =>
      rcases List.forall_mem_cons.mp areGroups with ⟨headGroup, restGroups⟩
      rw [insertClaim]
      split
      case isTrue shares => exact List.forall_mem_cons.mpr ⟨headGroup.append shares, restGroups⟩
      case isFalse => exact List.forall_mem_cons.mpr ⟨headGroup, induction restGroups⟩

theorem mem_flatten_insertClaim (claim member : Claim) (groups : List (List Claim)) :
    member ∈ (insertClaim claim groups).flatten ↔ member = claim ∨ member ∈ groups.flatten := by
  induction groups with
  | nil => simp [insertClaim]
  | cons head rest induction =>
      rw [insertClaim]
      split
      case isTrue =>
        rw [List.flatten_cons, List.flatten_cons, List.mem_append, List.mem_append,
          List.mem_append, List.mem_singleton, or_right_comm, or_comm]
      case isFalse =>
        rw [List.flatten_cons, List.flatten_cons, List.mem_append, List.mem_append, induction]
        exact or_left_comm

theorem mem_flatten_groupClaims (claims : List Claim) (member : Claim) :
    member ∈ (groupClaims claims).flatten ↔ member ∈ claims := by
  have folded : ∀ (claims : List Claim) (groups : List (List Claim)),
      member ∈ (claims.foldl (fun groups claim => insertClaim claim groups) groups).flatten ↔
        member ∈ claims ∨ member ∈ groups.flatten := by
    intro claims
    induction claims with
    | nil => simp
    | cons claim rest induction =>
        intro groups
        rw [List.foldl_cons, induction, mem_flatten_insertClaim, List.mem_cons, or_assoc]
        exact or_left_comm
  rw [groupClaims, folded]
  simp

theorem exists_leader {claim : Claim} {group : List Claim}
    (shares : group.head?.any claim.sharesField = true) :
    ∃ leader ∈ group, claim.sharesField leader = true := by
  cases group with
  | nil => cases shares
  | cons leader rest => exact ⟨leader, List.mem_cons_self, shares⟩

def Unshared (group other : List Claim) : Prop :=
  ∀ first ∈ group, ∀ second ∈ other, first.sharesField second = false

theorem IsGroup.unshared_of_head {claim : Claim} {group : List Claim} (isGroup : IsGroup group)
    (fails : ¬ group.head?.any claim.sharesField = true) :
    ∀ first ∈ group, first.sharesField claim = false := by
  cases group with
  | nil => exact absurd rfl isGroup.1
  | cons head rest =>
      intro first member
      rw [← Bool.not_eq_true]
      intro shares
      apply fails
      change claim.sharesField head = true
      rw [sharesField_comm]
      rcases isGroup.2 head List.mem_cons_self first member with rfl | toFirst
      · exact shares
      · exact sharesField_trans toFirst shares

theorem unshared_insertClaim {claim : Claim} {groups : List (List Claim)}
    (areGroups : ∀ group ∈ groups, IsGroup group) (unshared : groups.Pairwise Unshared) :
    (insertClaim claim groups).Pairwise Unshared := by
  induction groups with
  | nil => exact List.pairwise_singleton _ _
  | cons head rest induction =>
      rcases List.forall_mem_cons.mp areGroups with ⟨headGroup, restGroups⟩
      rcases List.pairwise_cons.mp unshared with ⟨fromHead, restUnshared⟩
      rw [insertClaim]
      split
      case isTrue shares =>
        refine List.pairwise_cons.mpr ⟨?_, restUnshared⟩
        intro other otherMember first firstMember second secondMember
        rcases List.mem_append.mp firstMember with old | new
        · exact fromHead other otherMember first old second secondMember
        · rcases List.mem_singleton.mp new with rfl
          rcases exists_leader shares with ⟨leader, leaderMember, toLeader⟩
          have apart := fromHead other otherMember leader leaderMember second secondMember
          rw [sharesField_comm] at toLeader
          rw [← Bool.not_eq_true] at apart ⊢
          exact fun toSecond => apart (sharesField_trans toLeader toSecond)
      case isFalse fails =>
        refine List.pairwise_cons.mpr ⟨?_, induction restGroups restUnshared⟩
        intro other otherMember first firstMember second secondMember
        have inserted := List.mem_flatten_of_mem otherMember secondMember
        rcases (mem_flatten_insertClaim _ _ _).mp inserted with rfl | old
        · exact headGroup.unshared_of_head fails first firstMember
        · rcases List.mem_flatten.mp old with ⟨group, groupMember, inGroup⟩
          exact fromHead group groupMember first firstMember second inGroup

/-- Claims share a field exactly where they are in one group. -/
structure Grouped (groups : List (List Claim)) : Prop where
  areGroups : ∀ group ∈ groups, IsGroup group
  unshared : groups.Pairwise Unshared

theorem Grouped.insertClaim {groups : List (List Claim)} (grouped : Grouped groups)
    (claim : Claim) : Grouped (insertClaim claim groups) where
  areGroups := isGroup_of_mem_insertClaim grouped.areGroups
  unshared := unshared_insertClaim grouped.areGroups grouped.unshared

theorem Grouped.foldl_insertClaim {groups : List (List Claim)} (grouped : Grouped groups)
    (claims : List Claim) :
    Grouped (claims.foldl (fun groups claim => Check.insertClaim claim groups) groups) := by
  induction claims generalizing groups with
  | nil => exact grouped
  | cons claim rest induction => exact induction (grouped.insertClaim claim)

theorem grouped_groupClaims (claims : List Claim) : Grouped (groupClaims claims) := by
  have none : Grouped [] := ⟨fun group member => (by cases member), .nil⟩
  exact none.foldl_insertClaim claims

/-! ## Claims of different groups -/

/-- Comparing the claims of different groups compares all that share no field. -/
theorem Grouped.pairwise_compatible_iff {groups : List (List Claim)} (grouped : Grouped groups) :
    (groups.Pairwise fun group other =>
        ∀ first ∈ group, ∀ second ∈ other, Compatible first second) ↔
      ∀ first ∈ groups.flatten, ∀ second ∈ groups.flatten,
        first.sharesField second = true ∨ Compatible first second := by
  have symmetric : Std.Symm fun group other : List Claim =>
      ∀ first ∈ group, ∀ second ∈ other, Compatible first second :=
    ⟨fun group other apart second inOther first inGroup =>
      Std.Symm.symm _ _ (apart first inGroup second inOther)⟩
  constructor
  · intro apart first firstMember second secondMember
    by_cases equal : first = second
    · exact Or.inr fun different => absurd (congrArg Claim.node equal) different
    rcases List.mem_flatten.mp firstMember with ⟨group, groupMember, inGroup⟩
    rcases List.mem_flatten.mp secondMember with ⟨other, otherMember, inOther⟩
    by_cases same : group = other
    · subst same
      have shares := (grouped.areGroups group groupMember).2 first inGroup second inOther
      exact Or.inl (shares.resolve_left equal)
    · exact Or.inr (apart.forall groupMember otherMember same first inGroup second inOther)
  · intro holds
    apply grouped.unshared.imp_of_mem
    intro group other groupMember otherMember unshared first inGroup second inOther
    have pair := holds first (List.mem_flatten_of_mem groupMember inGroup) second
      (List.mem_flatten_of_mem otherMember inOther)
    rw [unshared first inGroup second inOther] at pair
    exact pair.resolve_left Bool.false_ne_true

theorem disjointGroups_eq_ok_iff : ∀ {groups : List (List Claim)},
    disjointGroups graph parent groups = .ok () ↔
      groups.Pairwise fun group other =>
        ∀ first ∈ group, ∀ second ∈ other, Compatible first second
  | [] => iff_of_true rfl .nil
  | group :: rest => by
      have pairs : rest.forM (fun other => group.forM fun first => other.forM fun second =>
          disjointPair graph parent first second) = .ok () ↔
            ∀ other ∈ rest, ∀ first ∈ group, ∀ second ∈ other, Compatible first second := by
        simp only [forM_eq_ok_iff, disjointPair_eq_ok_iff]
      rw [disjointGroups, bind_eq_ok_iff, List.pairwise_cons, ← pairs, ← disjointGroups_eq_ok_iff]
      constructor
      · rintro ⟨_, passed, others⟩
        exact ⟨passed, others⟩
      · rintro ⟨passed, others⟩
        exact ⟨(), passed, others⟩

theorem disjointGroups_eq_error : ∀ {groups : List (List Claim)},
    disjointGroups graph parent groups = .error fault →
      ∃ group ∈ groups, ∃ other ∈ groups, ∃ first ∈ group, ∃ second ∈ other,
        disjointPair graph parent first second = .error fault
  | group :: rest, failed => by
      rw [disjointGroups] at failed
      rcases bind_eq_error failed with pairs | ⟨_, -, others⟩
      · rcases forM_eq_error pairs with ⟨_, other, _, splitRest, -, pairs⟩
        rcases forM_eq_error pairs with ⟨_, first, _, splitGroup, -, pairs⟩
        rcases forM_eq_error pairs with ⟨_, second, _, splitOther, -, pair⟩
        refine ⟨group, List.mem_cons_self, other, ?_, first, ?_, second, ?_, pair⟩
        · simp [splitRest]
        · simp [splitGroup]
        · simp [splitOther]
      · rcases disjointGroups_eq_error others with ⟨first, firstMember, second, secondMember, pair⟩
        exact ⟨first, List.mem_cons_of_mem group firstMember, second,
          List.mem_cons_of_mem group secondMember, pair⟩

end MemoryFabric.Check

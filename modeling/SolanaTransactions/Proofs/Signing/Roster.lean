/-
Module: SolanaTransactions.Proofs.Signing.Roster
Purpose: Who is registered for which transactions, without the registering.
Main exports:
  Plan.lists, Plan.placesOf, Signer.firsts, Plan.roster, Registration.ofPlans_eq,
  Plan.mem_map_key_roster
-/
import Mathlib.Data.List.Basic
import Mathlib.Data.List.Sort
import SolanaTransactions.Signing.Coordinator

namespace SolanaTransactions

/-!
Registering meets every signer as often as it is listed.  What it leaves is told
by two things that know nothing of the order of meeting: the first signer of each
key, and for each key the places of the plans that list it.  The entries at any
time are the signers met so far under the first fact, with the positions met so
far under the second; this is the invariant that carries the module.
-/

variable {ε : Type}

/-- Whether an instruction of a plan lists a signer of a key. -/
def Plan.lists (plan : Plan ε) (key : Key) : Bool :=
  plan.instructions.any fun instruction => instruction.signers.any (·.key == key)

/-- The signers that the instructions of a plan list, as often as they do. -/
def Plan.listed (plan : Plan ε) : List (Signer ε) := plan.instructions.flatMap (·.signers)

/-- The places of the plans whose transactions a key signs: all of them for the payer, and those
that list the key for anybody else. -/
def Plan.placesOf (payer : Key) (plans : List (Plan ε)) (key : Key) : List Nat :=
  (List.range plans.length).filter fun place =>
    key == payer || (plans[place]?).any (·.lists key)

/-- The first signer of every key, in order. -/
def Signer.firsts : List (Signer ε) → List (Signer ε)
  | [] => []
  | signer :: rest => signer :: (firsts rest).filter (·.key != signer.key)

/-- Everybody who signs, once for each key: the payer, then those that the plans list, each at the
place of the first listing. -/
def Plan.roster (payer : Signer ε) (plans : List (Plan ε)) : List (Signer ε) :=
  Signer.firsts (payer :: plans.flatMap Plan.listed)

/-! ### The first signer of each key -/

namespace Signer

theorem mem_map_key_firsts {signers : List (Signer ε)} {key : Key} :
    key ∈ (firsts signers).map (·.key) ↔ key ∈ signers.map (·.key) := by
  induction signers with
  | nil => rfl
  | cons first rest ih =>
      rw [firsts, List.map_cons, List.map_cons, List.mem_cons, List.mem_cons, ← ih]
      by_cases same : key = first.key
      · simp [same]
      · simp only [same, false_or, List.mem_map, List.mem_filter, bne_iff_ne]
        constructor
        · rintro ⟨signer, ⟨listed, _⟩, rfl⟩
          exact ⟨signer, listed, rfl⟩
        · rintro ⟨signer, listed, rfl⟩
          exact ⟨signer, ⟨listed, same⟩, rfl⟩

theorem nodup_map_key_firsts (signers : List (Signer ε)) :
    ((firsts signers).map (·.key)).Nodup := by
  induction signers with
  | nil => exact List.nodup_nil
  | cons first rest ih =>
      rw [firsts, List.map_cons, List.nodup_cons]
      constructor
      · simp
      · exact ih.sublist (List.filter_sublist.map _)

theorem mem_of_mem_firsts {signers : List (Signer ε)} {signer : Signer ε}
    (member : signer ∈ firsts signers) : signer ∈ signers := by
  induction signers with
  | nil => exact member
  | cons first rest ih =>
      rw [firsts] at member
      rcases List.mem_cons.1 member with rfl | later
      · exact List.mem_cons_self
      · exact List.mem_cons_of_mem first (ih (List.mem_of_mem_filter later))

theorem firsts_concat (signers : List (Signer ε)) (signer : Signer ε) :
    firsts (signers ++ [signer]) =
      if signer.key ∈ signers.map (·.key) then firsts signers else firsts signers ++ [signer] := by
  induction signers with
  | nil => rfl
  | cons first rest ih =>
      rw [List.cons_append, firsts, ih, firsts, List.map_cons]
      by_cases known : signer.key ∈ rest.map (·.key)
      · rw [if_pos known, if_pos (List.mem_cons_of_mem _ known)]
      · rw [if_neg known, List.filter_append]
        by_cases same : signer.key = first.key
        · rw [if_pos (same ▸ List.mem_cons_self)]
          simp [same]
        · rw [if_neg (by simp [same, known])]
          simp [same]

end Signer

/-! ### The entries -/

namespace Registration

theorem mem_insertPosition {position other : Int} {positions : List Int} :
    other ∈ insertPosition position positions ↔ other = position ∨ other ∈ positions := by
  induction positions with
  | nil => simp [insertPosition]
  | cons head rest ih =>
      rw [insertPosition]
      split
      · rw [List.mem_cons]
      · split
        · next same =>
            rw [same, List.mem_cons, or_self_left]
        · rw [List.mem_cons, List.mem_cons, ih, or_left_comm]

theorem insertPosition_ascending {position : Int} {positions : List Int}
    (ascending : positions.Pairwise (· < ·)) :
    (insertPosition position positions).Pairwise (· < ·) := by
  induction positions with
  | nil => exact List.pairwise_singleton _ _
  | cons head rest ih =>
      obtain ⟨above, later⟩ := List.pairwise_cons.1 ascending
      rw [insertPosition]
      split
      · next below =>
          refine List.pairwise_cons.2 ⟨?_, ascending⟩
          intro other member
          rcases List.mem_cons.1 member with rfl | inRest
          · exact below
          · exact below.trans (above other inRest)
      · split
        · exact ascending
        · next notBelow notSame =>
            refine List.pairwise_cons.2 ⟨?_, ih later⟩
            intro other member
            rcases mem_insertPosition.1 member with rfl | inRest
            · omega
            · exact above other inRest

/-- The entries of some signers, each with the positions of its key. -/
def entriesOf (signers : List (Signer ε)) (positions : Key → List Int) : List (Registration ε) :=
  signers.map fun signer => ⟨signer, positions signer.key⟩

/-- The positions of all keys after one more signer was met. -/
def meet (signer : Signer ε) (position : Int) (positions : Key → List Int) : Key → List Int :=
  fun key => if key = signer.key then insertPosition position (positions key) else positions key

theorem entriesOf_meet_of_notMem {signers : List (Signer ε)} {signer : Signer ε} (position : Int)
    (positions : Key → List Int) (unknown : signer.key ∉ signers.map (·.key)) :
    entriesOf signers (meet signer position positions) = entriesOf signers positions := by
  apply List.map_congr_left
  intro other member
  have differs : other.key ≠ signer.key := fun same =>
    unknown (same ▸ List.mem_map_of_mem member)
  rw [meet, if_neg differs]

/-- One more signer joins at the end when its key is new, and changes the positions of its key. -/
theorem add_entriesOf {signers : List (Signer ε)} (signer : Signer ε) (position : Int)
    (positions : Key → List Int) (distinct : (signers.map (·.key)).Nodup)
    (fresh : signer.key ∉ signers.map (·.key) → positions signer.key = []) :
    add signer position (entriesOf signers positions) =
      entriesOf (if signer.key ∈ signers.map (·.key) then signers else signers ++ [signer])
        (meet signer position positions) := by
  induction signers with
  | nil =>
      have none := fresh List.not_mem_nil
      simp [entriesOf, add, meet, none, insertPosition]
  | cons first rest ih =>
      obtain ⟨unknown, distinctRest⟩ := List.nodup_cons.1 distinct
      rw [entriesOf, List.map_cons, add]
      by_cases same : first.key = signer.key
      · have known : signer.key ∈ (first :: rest).map (·.key) := same ▸ List.mem_cons_self
        have others := entriesOf_meet_of_notMem position positions
          (same ▸ unknown : signer.key ∉ rest.map (·.key))
        rw [if_pos same, if_pos known, entriesOf, List.map_cons, meet, if_pos same]
        exact congrArg _ others.symm
      · have sameMembership : (signer.key ∈ (first :: rest).map (·.key)) =
            (signer.key ∈ rest.map (·.key)) := by
          simp [Ne.symm same]
        have later := ih distinctRest fun unknownRest => fresh (sameMembership ▸ unknownRest)
        have head : meet signer position positions first.key = positions first.key := if_neg same
        rw [if_neg same, ← entriesOf, later]
        by_cases known : signer.key ∈ rest.map (·.key)
        · rw [if_pos known, if_pos (sameMembership ▸ known), entriesOf, entriesOf, List.map_cons,
            head]
        · rw [if_neg known, if_neg (sameMembership ▸ known), List.cons_append, entriesOf, entriesOf,
            List.map_cons, head]

/-- The positions of all keys after some signers were met. -/
def meetAll (listed : List (Signer ε × Int)) (positions : Key → List Int) : Key → List Int :=
  listed.foldl (fun current meeting => meet meeting.1 meeting.2 current) positions

/-- After some meetings the entries are those of the first signers, with the positions met. -/
theorem foldl_add_entriesOf {listed : List (Signer ε × Int)} {met : List (Signer ε)}
    {positions : Key → List Int} (fresh : ∀ key ∉ met.map (·.key), positions key = []) :
    listed.foldl (fun entries meeting => add meeting.1 meeting.2 entries)
        (entriesOf (Signer.firsts met) positions) =
      entriesOf (Signer.firsts (met ++ listed.map (·.1))) (meetAll listed positions) := by
  induction listed generalizing met positions with
  | nil => rw [List.map_nil, List.append_nil, List.foldl_nil, meetAll, List.foldl_nil]
  | cons meeting rest ih =>
      obtain ⟨signer, position⟩ := meeting
      have stepped := add_entriesOf signer position positions (Signer.nodup_map_key_firsts met)
        fun unknown => fresh signer.key (mt Signer.mem_map_key_firsts.2 unknown)
      simp only [Signer.mem_map_key_firsts] at stepped
      rw [← Signer.firsts_concat] at stepped
      have later := @ih (met ++ [signer]) (meet signer position positions) (by
        intro key unknown
        simp only [List.map_append, List.map_cons, List.map_nil, List.mem_append,
          List.mem_singleton, not_or] at unknown
        rw [meet, if_neg unknown.2]
        exact fresh key unknown.1)
      rw [List.foldl_cons, stepped, later, List.map_cons, List.append_assoc, List.singleton_append,
        meetAll, meetAll, List.foldl_cons]

theorem mem_meetAll {listed : List (Signer ε × Int)} {positions : Key → List Int} {key : Key}
    {position : Int} :
    position ∈ meetAll listed positions key ↔
      position ∈ positions key ∨ ∃ signer, signer.key = key ∧ (signer, position) ∈ listed := by
  induction listed generalizing positions with
  | nil => simp [meetAll]
  | cons meeting rest ih =>
      obtain ⟨signer, other⟩ := meeting
      rw [meetAll, List.foldl_cons, ← meetAll, ih]
      have here : position ∈ meet signer other positions key ↔
          position ∈ positions key ∨ signer.key = key ∧ position = other := by
        by_cases same : key = signer.key
        · rw [meet, if_pos same, mem_insertPosition, or_comm]
          simp [same]
        · rw [meet, if_neg same]
          simp [Ne.symm same]
      rw [here, or_assoc]
      apply or_congr Iff.rfl
      simp only [List.mem_cons, Prod.mk.injEq]
      constructor
      · rintro (⟨same, rfl⟩ | ⟨later, same, member⟩)
        · exact ⟨signer, same, Or.inl ⟨rfl, rfl⟩⟩
        · exact ⟨later, same, Or.inr member⟩
      · rintro ⟨later, same, ⟨rfl, rfl⟩ | member⟩
        · exact Or.inl ⟨same, rfl⟩
        · exact Or.inr ⟨later, same, member⟩

theorem meetAll_ascending {listed : List (Signer ε × Int)} {positions : Key → List Int}
    (ascending : ∀ key, (positions key).Pairwise (· < ·)) (key : Key) :
    (meetAll listed positions key).Pairwise (· < ·) := by
  induction listed generalizing positions with
  | nil => exact ascending key
  | cons meeting rest ih =>
      rw [meetAll, List.foldl_cons, ← meetAll]
      apply ih
      intro other
      rw [meet]
      split
      · exact insertPosition_ascending (ascending other)
      · exact ascending other

/-! ### Plans -/

/-- The meetings of plans: every listed signer with the place of its plan. -/
def meetings (plans : List (Plan ε)) : List (Signer ε × Int) :=
  (plans.mapIdx fun position plan =>
    plan.instructions.flatMap fun instruction =>
      instruction.signers.map fun signer => (signer, (position : Int))).flatten

theorem map_fst_meetings (plans : List (Plan ε)) :
    (meetings plans).map (·.1) = plans.flatMap Plan.listed := by
  rw [meetings, List.map_flatten, List.flatMap_def]
  congr 1
  apply List.ext_getElem?
  intro place
  rw [List.getElem?_map, List.getElem?_mapIdx, List.getElem?_map]
  cases plans[place]? with
  | none => rfl
  | some plan =>
      rw [Option.map_some, Option.map_some, Option.map_some, Plan.listed, List.map_flatMap]
      simp only [List.map_map, Function.comp_def, List.map_id']

theorem mem_meetings {plans : List (Plan ε)} {signer : Signer ε} {position : Int} :
    (signer, position) ∈ meetings plans ↔
      ∃ (place : Nat) (plan : Plan ε), plans[place]? = some plan ∧ position = (place : Int) ∧
        signer ∈ plan.listed := by
  rw [meetings, List.mem_flatten]
  constructor
  · rintro ⟨part, inParts, member⟩
    obtain ⟨place, inPlans, rfl⟩ := List.mem_mapIdx.1 inParts
    obtain ⟨instruction, inPlan, inInstruction⟩ := List.mem_flatMap.1 member
    obtain ⟨_, inSigners, same⟩ := List.mem_map.1 inInstruction
    obtain ⟨rfl, rfl⟩ := Prod.mk.inj same
    exact ⟨place, _, List.getElem?_eq_getElem inPlans, rfl,
      List.mem_flatMap.2 ⟨instruction, inPlan, inSigners⟩⟩
  · rintro ⟨place, plan, found, rfl, listed⟩
    obtain ⟨inPlans, rfl⟩ := List.getElem?_eq_some_iff.1 found
    obtain ⟨instruction, inPlan, inSigners⟩ := List.mem_flatMap.1 listed
    exact ⟨_, List.mem_mapIdx.2 ⟨place, inPlans, rfl⟩,
      List.mem_flatMap.2 ⟨instruction, inPlan, List.mem_map_of_mem inSigners⟩⟩

theorem lists_iff {plan : Plan ε} {key : Key} :
    plan.lists key = true ↔ ∃ signer ∈ plan.listed, signer.key = key := by
  simp only [Plan.lists, Plan.listed, List.any_eq_true, beq_iff_eq, List.mem_flatMap]
  constructor
  · rintro ⟨instruction, inPlan, signer, inSigners, same⟩
    exact ⟨signer, ⟨instruction, inPlan, inSigners⟩, same⟩
  · rintro ⟨signer, ⟨instruction, inPlan, inSigners⟩, same⟩
    exact ⟨instruction, inPlan, signer, inSigners, same⟩

theorem mem_placesOf {payer : Key} {plans : List (Plan ε)} {key : Key} {place : Nat} :
    place ∈ Plan.placesOf payer plans key ↔ ∃ plan, plans[place]? = some plan ∧
      (key = payer ∨ plan.lists key = true) := by
  rw [Plan.placesOf, List.mem_filter, List.mem_range, Bool.or_eq_true, beq_iff_eq]
  constructor
  · rintro ⟨inPlans, signs⟩
    have found := List.getElem?_eq_getElem inPlans
    rw [found, Option.any_some] at signs
    exact ⟨_, found, signs⟩
  · rintro ⟨plan, found, signs⟩
    rw [found, Option.any_some]
    exact ⟨(List.getElem?_eq_some_iff.1 found).1, signs⟩

theorem placesOf_ascending (payer : Key) (plans : List (Plan ε)) (key : Key) :
    (Plan.placesOf payer plans key).Pairwise (· < ·) :=
  List.pairwise_lt_range.filter _

/-- Registered are the signers of the roster, each for the places of its key. -/
theorem ofPlans_eq (payer : Signer ε) (plans : List (Plan ε)) :
    ofPlans (.signer payer) plans = (Plan.roster payer plans).map fun signer =>
      ⟨signer, (Plan.placesOf payer.key plans signer.key).map Int.ofNat⟩ := by
  let start : Key → List Int := fun key =>
    if key = payer.key then (List.range plans.length).map Int.ofNat else []
  have ascending (key : Key) : (start key).Pairwise (· < ·) := by
    simp only [start]
    split
    · exact List.pairwise_map.2 (List.pairwise_lt_range.imp Int.ofNat_lt.2)
    · exact .nil
  have folded := @foldl_add_entriesOf _ (meetings plans) [payer] start fun key unknown =>
    if_neg (mt List.mem_singleton.2 unknown)
  have first : entriesOf (Signer.firsts [payer]) start =
      [⟨payer, (List.range plans.length).map Int.ofNat⟩] := by
    simp [entriesOf, Signer.firsts, start]
  rw [first, map_fst_meetings] at folded
  rw [ofPlans]
  refine Eq.trans folded (List.map_congr_left fun signer _ => ?_)
  congr 1
  have placesAscending := List.pairwise_map.2
    ((placesOf_ascending payer.key plans signer.key).imp Int.ofNat_lt.2)
  -- Both lists ascend, so it is enough that they have the same members.
  refine (meetAll_ascending ascending signer.key).eq_of_mem_iff placesAscending fun position => ?_
  rw [mem_meetAll, List.mem_map]
  constructor
  · rintro (atStart | ⟨other, same, met⟩)
    · simp only [start] at atStart
      split at atStart
      · next pays =>
          obtain ⟨place, inRange, rfl⟩ := List.mem_map.1 atStart
          have inPlans := List.mem_range.1 inRange
          exact ⟨place, mem_placesOf.2 ⟨_, List.getElem?_eq_getElem inPlans, Or.inl pays⟩, rfl⟩
      · contradiction
    · obtain ⟨place, plan, found, rfl, listed⟩ := mem_meetings.1 met
      exact ⟨place, mem_placesOf.2 ⟨plan, found, Or.inr (lists_iff.2 ⟨other, listed, same⟩)⟩, rfl⟩
  · rintro ⟨place, member, rfl⟩
    obtain ⟨plan, found, pays | lists⟩ := mem_placesOf.1 member
    · left
      simp only [start, if_pos pays]
      exact List.mem_map_of_mem (List.mem_range.2 (List.getElem?_eq_some_iff.1 found).1)
    · obtain ⟨other, listed, same⟩ := lists_iff.1 lists
      exact Or.inr ⟨other, same, mem_meetings.2 ⟨place, plan, found, rfl, listed⟩⟩

end Registration

/-! ### Everybody who signs -/

theorem Plan.mem_map_key_roster {payer : Signer ε} {plans : List (Plan ε)} {key : Key} :
    key ∈ (roster payer plans).map (·.key) ↔
      key = payer.key ∨ ∃ plan ∈ plans, plan.lists key = true := by
  rw [roster, Signer.mem_map_key_firsts, List.map_cons, List.mem_cons]
  refine or_congr Iff.rfl ?_
  simp only [List.mem_map, List.mem_flatMap, Registration.lists_iff]
  constructor
  · rintro ⟨signer, ⟨plan, inPlans, listed⟩, same⟩
    exact ⟨plan, inPlans, signer, listed, same⟩
  · rintro ⟨plan, inPlans, signer, listed, same⟩
    exact ⟨signer, ⟨plan, inPlans, listed⟩, same⟩

theorem Plan.forall_mem_roster {payer : Signer ε} {plans : List (Plan ε)}
    {Kind : Signer ε → Prop} (payerKind : Kind payer)
    (kind : ∀ plan ∈ plans, ∀ signer ∈ plan.listed, Kind signer) :
    ∀ signer ∈ roster payer plans, Kind signer := by
  intro signer member
  rcases List.mem_cons.1 (Signer.mem_of_mem_firsts member) with rfl | later
  · exact payerKind
  · obtain ⟨plan, inPlans, listed⟩ := List.mem_flatMap.1 later
    exact kind plan inPlans signer listed

end SolanaTransactions

/-
Module: SolanaTransactions.Proofs.ComputeBudget.RecentFee
Purpose: The recent fee is drawn from the newest samples, whatever the order of the reply.
Main exports:
  NewestSplit, NewestSplit.perm_of_gap, newestSamples_eq_of_splits, FeeStrategy.Draws,
  exists_recentFee, recentFee_newest
-/
import Mathlib.Algebra.Order.BigOperators.Group.List
import Mathlib.Data.List.Nodup
import Mathlib.Data.Rat.Floor
import SolanaTransactions.ComputeBudget.RecentFee
import SolanaTransactions.Proofs.Client.Run

namespace SolanaTransactions

/-!
Samples are sorted by descending slots and cut.  The cut splits them into newer
and older ones, and when there is a gap between the two parts every other such
split has the same newer samples.  With distinct slots there always is one, so
neither the order of a reply nor what lies beyond the cut makes a difference.
-/

/-! ### The cut -/

/-- Samples are split into as many as asked for, or all, and the rest, none of which is newer. -/
structure NewestSplit (count : Nat) (samples considered rest : List FeeSample) : Prop where
  perm : samples.Perm (considered ++ rest)
  length : considered.length = min count samples.length
  newer : ∀ sample ∈ considered, ∀ other ∈ rest, other.slot ≤ sample.slot

theorem NewestSplit.congr {count : Nat} {samples same considered rest : List FeeSample}
    (split : NewestSplit count samples considered rest) (perm : same.Perm samples) :
    NewestSplit count same considered rest where
  perm := perm.trans split.perm
  length := perm.length_eq ▸ split.length
  newer := split.newer

theorem NewestSplit.nodup {count : Nat} {samples considered rest : List FeeSample}
    (split : NewestSplit count samples considered rest) (distinct : (samples.map (·.slot)).Nodup) :
    (considered.map (·.slot)).Nodup := by
  have whole := (split.perm.map (·.slot)).nodup_iff.1 distinct
  rw [List.map_append] at whole
  exact List.Nodup.of_append_left whole

/-- With distinct slots, there is a gap between the newest samples and the rest. -/
theorem NewestSplit.gap {count : Nat} {samples considered rest : List FeeSample}
    (split : NewestSplit count samples considered rest) (distinct : (samples.map (·.slot)).Nodup) :
    ∀ sample ∈ considered, ∀ other ∈ rest, other.slot < sample.slot := by
  intro sample newer other older
  have apart := (split.perm.map (·.slot)).nodup_iff.1 distinct
  rw [List.map_append, List.nodup_append] at apart
  apply lt_of_le_of_ne (split.newer sample newer other older)
  intro same
  exact apart.2.2 _ (List.mem_map_of_mem newer) _ (List.mem_map_of_mem older) same.symm

/-- When there is a gap behind the newest samples, there are no other newest ones. -/
theorem NewestSplit.perm_of_gap {count : Nat}
    {samples considered rest considered' rest' : List FeeSample}
    (split : NewestSplit count samples considered rest)
    (gap : ∀ sample ∈ considered, ∀ other ∈ rest, other.slot < sample.slot)
    (split' : NewestSplit count samples considered' rest') : considered'.Perm considered := by
  -- The test of being newer than the whole rest tells the two parts of the first split apart.
  let test (sample : FeeSample) : Bool := rest.all fun other => other.slot < sample.slot
  have passes : considered.filter test = considered := by
    apply List.filter_eq_self.2
    intro sample member
    simpa [test] using gap sample member
  have fails : rest.filter test = [] := by
    apply List.filter_eq_nil_iff.2
    intro sample member passed
    simp only [test, List.all_eq_true, decide_eq_true_eq] at passed
    exact lt_irrefl _ (passed sample member)
  have parts : (considered'.filter test ++ rest'.filter test).Perm considered := by
    have both := (split'.perm.symm.trans split.perm).filter test
    rw [List.filter_append, List.filter_append, passes, fails, List.append_nil] at both
    exact both
  have counts := parts.length_eq
  rw [List.length_append, split.length, ← split'.length] at counts
  have whole : considered'.filter test = considered' := by
    by_cases none : rest'.filter test = []
    · rw [none, List.length_nil, Nat.add_zero] at counts
      exact List.filter_sublist.eq_of_length counts
    · -- What passes behind the second cut is not newer than anything before it.
      obtain ⟨late, member⟩ := List.exists_mem_of_ne_nil _ none
      obtain ⟨behind, passed⟩ := List.mem_filter.1 member
      simp only [test, List.all_eq_true, decide_eq_true_eq] at passed
      apply List.filter_eq_self.2
      intro sample newer
      simp only [test, List.all_eq_true, decide_eq_true_eq]
      intro other older
      exact lt_of_lt_of_le (passed other older) (split'.newer sample newer late behind)
  rw [whole] at counts parts
  have empty : rest'.filter test = [] := List.length_eq_zero_iff.1 (by omega)
  rw [empty, List.append_nil] at parts
  exact parts

section Cut

variable {count : Int} {samples : List FeeSample}

theorem newestSamples_eq_take (natural : 0 ≤ count) (samples : List FeeSample) :
    newestSamples count samples =
      (samples.mergeSort fun left right => right.slot ≤ left.slot).take count.toNat := by
  rw [newestSamples, takeUpTo, if_neg (not_lt.2 natural)]

theorem pairwise_mergeSort_slot (samples : List FeeSample) :
    (samples.mergeSort fun left right => right.slot ≤ left.slot).Pairwise
      fun left right => right.slot ≤ left.slot := by
  have sorted : (samples.mergeSort fun left right => right.slot ≤ left.slot).Pairwise
      fun left right => decide (right.slot ≤ left.slot) = true := by
    apply List.pairwise_mergeSort
    · intro first second third
      simp only [decide_eq_true_eq]
      omega
    · intro first second
      simp only [Bool.or_eq_true, decide_eq_true_eq]
      omega
  simpa only [decide_eq_true_eq] using sorted

theorem pairwise_newestSamples (natural : 0 ≤ count) (samples : List FeeSample) :
    (newestSamples count samples).Pairwise fun left right => right.slot ≤ left.slot := by
  rw [newestSamples_eq_take natural]
  exact (pairwise_mergeSort_slot samples).sublist (List.take_sublist _ _)

theorem exists_newestSplit (natural : 0 ≤ count) (samples : List FeeSample) :
    ∃ rest, NewestSplit count.toNat samples (newestSamples count samples) rest := by
  rw [newestSamples_eq_take natural]
  have perm := List.mergeSort_perm samples fun left right => right.slot ≤ left.slot
  have sorted := pairwise_mergeSort_slot samples
  generalize samples.mergeSort (fun left right => right.slot ≤ left.slot) = descending
    at perm sorted ⊢
  rw [← List.take_append_drop count.toNat descending] at perm sorted
  refine ⟨descending.drop count.toNat, perm.symm, ?_, (List.pairwise_append.1 sorted).2.2⟩
  rw [← perm.length_eq, List.take_append_drop, List.length_take]

/-- Lists of samples with the same newest ones and a gap behind them are cut to the same list. -/
theorem newestSamples_eq_of_splits (natural : 0 ≤ count)
    {other considered rest rest' : List FeeSample}
    (distinct : (considered.map (·.slot)).Nodup)
    (split : NewestSplit count.toNat samples considered rest)
    (gap : ∀ sample ∈ considered, ∀ older ∈ rest, older.slot < sample.slot)
    (split' : NewestSplit count.toNat other considered rest')
    (gap' : ∀ sample ∈ considered, ∀ older ∈ rest', older.slot < sample.slot) :
    newestSamples count other = newestSamples count samples := by
  obtain ⟨_, cut⟩ := exists_newestSplit natural samples
  obtain ⟨_, cut'⟩ := exists_newestSplit natural other
  have here := split.perm_of_gap gap cut
  have there := split'.perm_of_gap gap' cut'
  apply List.Perm.eq_of_pairwise ?_ (pairwise_newestSamples natural other)
    (pairwise_newestSamples natural samples) (there.trans here.symm)
  intro first second inOther inSamples below above
  exact List.inj_on_of_nodup_map distinct (there.mem_iff.1 inOther) (here.mem_iff.1 inSamples)
    (le_antisymm above below)

end Cut

/-! ### What is drawn -/

/-- A strategy draws a fee from some samples, in whatever order they are. -/
def FeeStrategy.Draws (strategy : FeeStrategy) (considered : List FeeSample) (fee : Int) : Prop :=
  match strategy with
  | latest => ∃ sample ∈ considered, sample.fee = fee ∧
      ∀ other ∈ considered, other.slot ≤ sample.slot
  | greatest => (∃ sample ∈ considered, sample.fee = fee) ∧
      ∀ other ∈ considered, other.fee ≤ fee
  | average => fee = ⌊((considered.map (·.fee)).sum : Int) / (considered.length : ℚ)⌋

namespace FeeStrategy.Draws

variable {considered : List FeeSample}

theorem of_perm {strategy : FeeStrategy} {same : List FeeSample} {fee : Int}
    (draws : strategy.Draws considered fee) (perm : considered.Perm same) :
    strategy.Draws same fee := by
  cases strategy with
  | latest => simpa only [Draws, perm.mem_iff] using draws
  | greatest => simpa only [Draws, perm.mem_iff] using draws
  | average => simpa only [Draws, (perm.map _).sum_eq, perm.length_eq] using draws

theorem latest_le_greatest {fee most : Int} (latest : FeeStrategy.latest.Draws considered fee)
    (greatest : FeeStrategy.greatest.Draws considered most) : fee ≤ most := by
  obtain ⟨sample, member, rfl, _⟩ := latest
  exact greatest.2 sample member

theorem average_le_greatest {fee most : Int} (some : considered ≠ [])
    (average : FeeStrategy.average.Draws considered fee)
    (greatest : FeeStrategy.greatest.Draws considered most) : fee ≤ most := by
  have bound : (considered.map (·.fee)).sum ≤ (considered.map (·.fee)).length • most := by
    apply List.sum_le_card_nsmul
    simpa using greatest.2
  have positive : 0 < (considered.length : Int) := by
    exact_mod_cast List.length_pos_iff.2 some
  rw [average, Rat.floor_intCast_div_natCast]
  apply Int.ediv_le_of_le_mul positive
  rw [List.length_map, nsmul_eq_mul, mul_comm] at bound
  exact bound

theorem le_average {fee least : Int} (some : considered ≠ [])
    (average : FeeStrategy.average.Draws considered fee)
    (below : ∀ sample ∈ considered, least ≤ sample.fee) : least ≤ fee := by
  have bound : (considered.map (·.fee)).length • least ≤ (considered.map (·.fee)).sum := by
    apply List.card_nsmul_le_sum
    simpa using below
  have positive : 0 < (considered.length : Int) := by
    exact_mod_cast List.length_pos_iff.2 some
  rw [average, Rat.floor_intCast_div_natCast]
  apply Int.le_ediv_of_mul_le positive
  rw [List.length_map, nsmul_eq_mul, mul_comm] at bound
  exact bound

end FeeStrategy.Draws

theorem total_eq_sum (fees : List Int) : total fees = fees.sum := by
  induction fees with
  | nil => rfl
  | cons fee rest ih => rw [total, List.sum_cons, ih]

/-- The fold keeps a fee of the list that none exceeds. -/
theorem foldl_greater (first : Int) (rest : List Int) :
    rest.foldl greater first ∈ first :: rest ∧
      ∀ fee ∈ first :: rest, fee ≤ rest.foldl greater first := by
  induction rest generalizing first with
  | nil => simp
  | cons second rest ih =>
      obtain ⟨member, bound⟩ := ih (greater first second)
      have step : greater first second = max first second := by
        rw [greater]
        omega
      rw [List.foldl_cons]
      rw [step] at member bound ⊢
      constructor
      · rcases List.mem_cons.1 member with here | later
        · rw [here]
          rcases max_choice first second with left | right
          · simp [left]
          · simp [right]
        · exact List.mem_cons_of_mem _ (List.mem_cons_of_mem _ later)
      · intro fee inFees
        have most := bound (max first second) List.mem_cons_self
        rcases List.mem_cons.1 inFees with rfl | later
        · exact (le_max_left _ _).trans most
        · rcases List.mem_cons.1 later with rfl | inRest
          · exact (le_max_right _ _).trans most
          · exact bound fee (List.mem_cons_of_mem _ inRest)

section Fee

variable {count : Int} {samples : List FeeSample}

/-- When samples are left by the cut, every strategy draws a fee from them. -/
theorem exists_recentFee (natural : 0 ≤ count) (strategy : FeeStrategy)
    (some : newestSamples count samples ≠ []) :
    ∃ fee, recentFee strategy count samples = .some fee ∧
      strategy.Draws (newestSamples count samples) fee := by
  have sorted := pairwise_newestSamples natural samples
  rw [recentFee]
  generalize newestSamples count samples = considered at some sorted
  cases considered with
  | nil => contradiction
  | cons newest older =>
      cases strategy with
      | latest =>
          refine ⟨_, rfl, newest, List.mem_cons_self, rfl, fun other member => ?_⟩
          rcases List.mem_cons.1 member with rfl | later
          · exact le_refl _
          · exact (List.pairwise_cons.1 sorted).1 other later
      | greatest =>
          obtain ⟨member, bound⟩ := foldl_greater newest.fee (older.map (·.fee))
          have held : ∃ sample ∈ newest :: older, sample.fee = _ := List.mem_map.1 member
          exact ⟨_, rfl, held, fun other inList => bound other.fee (List.mem_map_of_mem inList)⟩
      | average =>
          refine ⟨_, rfl, ?_⟩
          rw [FeeStrategy.Draws, Rat.floor_intCast_div_natCast, total_eq_sum, List.length_map]
          rfl

theorem newestSamples_eq_nil_iff (positive : 1 ≤ count) :
    newestSamples count samples = [] ↔ samples = [] := by
  have natural : 0 ≤ count := by omega
  obtain ⟨_, split⟩ := exists_newestSplit natural samples
  rw [← List.length_eq_zero_iff, split.length, ← List.length_eq_zero_iff]
  omega

theorem recentFee_eq_none_iff (positive : 1 ≤ count) (strategy : FeeStrategy) :
    recentFee strategy count samples = none ↔ samples = [] := by
  rw [← newestSamples_eq_nil_iff positive]
  constructor
  · intro nothing
    by_contra some
    obtain ⟨fee, drawn, _⟩ := exists_recentFee (by omega) strategy some
    rw [nothing] at drawn
    contradiction
  · intro empty
    rw [recentFee, empty]
    rfl

theorem recentFee_congr {other : List FeeSample} (strategy : FeeStrategy)
    (same : newestSamples count other = newestSamples count samples) :
    recentFee strategy count other = recentFee strategy count samples := by
  rw [recentFee, recentFee, same]

/-- A sample behind the gap is one more of the rest. -/
theorem NewestSplit.grow {count : Nat} {considered rest grown : List FeeSample} {older : FeeSample}
    (split : NewestSplit count samples considered rest) (enough : count ≤ samples.length)
    (behind : ∀ sample ∈ considered, older.slot < sample.slot)
    (perm : grown.Perm (older :: samples)) : NewestSplit count grown considered (older :: rest) where
  perm := perm.trans ((split.perm.cons older).trans List.perm_middle.symm)
  length := by
    rw [split.length, perm.length_eq, List.length_cons]
    omega
  newer := by
    intro sample newer other inRest
    rcases List.mem_cons.1 inRest with rfl | later
    · exact le_of_lt (behind sample newer)
    · exact split.newer sample newer other later

/-- With distinct slots, the order of the samples does not matter. -/
theorem recentFee_perm {other : List FeeSample} (natural : 0 ≤ count) (strategy : FeeStrategy)
    (distinct : (samples.map (·.slot)).Nodup) (perm : other.Perm samples) :
    recentFee strategy count other = recentFee strategy count samples := by
  obtain ⟨rest, split⟩ := exists_newestSplit natural samples
  have gap := split.gap distinct
  exact recentFee_congr strategy (newestSamples_eq_of_splits natural (split.nodup distinct) split
    gap (split.congr perm) gap)

/-- With distinct slots, the fee is drawn from the newest samples of any split. -/
theorem exists_recentFee_of_split {considered rest : List FeeSample} (positive : 1 ≤ count)
    (strategy : FeeStrategy) (distinct : (samples.map (·.slot)).Nodup)
    (split : NewestSplit count.toNat samples considered rest) (some : samples ≠ []) :
    ∃ fee, recentFee strategy count samples = .some fee ∧ strategy.Draws considered fee := by
  have natural : 0 ≤ count := by omega
  obtain ⟨fee, drawn, draws⟩ := exists_recentFee natural strategy
    (mt (newestSamples_eq_nil_iff positive).1 some)
  obtain ⟨_, cut⟩ := exists_newestSplit natural samples
  exact ⟨fee, drawn, draws.of_perm (split.perm_of_gap (split.gap distinct) cut)⟩

/-- With distinct slots, a sample that is older than the newest ones does not matter. -/
theorem recentFee_grow {considered rest grown : List FeeSample} {older : FeeSample}
    (natural : 0 ≤ count) (strategy : FeeStrategy) (distinct : (samples.map (·.slot)).Nodup)
    (split : NewestSplit count.toNat samples considered rest) (enough : count ≤ samples.length)
    (behind : ∀ sample ∈ considered, older.slot < sample.slot)
    (perm : grown.Perm (older :: samples)) :
    recentFee strategy count grown = recentFee strategy count samples := by
  have gap := split.gap distinct
  apply recentFee_congr strategy
  apply newestSamples_eq_of_splits natural (split.nodup distinct) split gap
    (split.grow (by omega) behind perm)
  intro sample newer other inRest
  rcases List.mem_cons.1 inRest with rfl | later
  · exact behind sample newer
  · exact gap sample newer other later

theorem runFrom_askRecentFee {ε : Type} {network : Network ε} {accounts : List Key}
    {world : World ε} (strategy : FeeStrategy) (count : Int)
    (replied : (network.prioritizationFees accounts world.environment).1 = .ok samples) :
    ((askRecentFee network strategy count accounts).runFrom world).1 =
      .ok (recentFee strategy count samples) := by
  have asked : ((Client.prioritizationFees network accounts).runFrom world).1 = .ok samples :=
    replied
  rw [askRecentFee, Client.runFrom_bind_pure, asked]
  rfl

end Fee

/-- The recent fee is asked of the network and drawn from its samples.  There is none exactly when there
are no samples.  With distinct slots the order of the samples does not matter, the fee is the latest,
the greatest or the average one of the newest samples, and an older sample beyond these does not
matter.  With any slots the latest and the average fee are at most the greatest one, and the average is
at least the least one. -/
theorem recentFee_newest {count : Int} (positive : 1 ≤ count) (samples : List FeeSample) :
    (∀ (ε : Type) (network : Network ε) (accounts : List Key) (world : World ε) strategy,
      (network.prioritizationFees accounts world.environment).1 = .ok samples →
        ((askRecentFee network strategy count accounts).runFrom world).1 =
          .ok (recentFee strategy count samples)) ∧
    (∀ strategy, recentFee strategy count samples = none ↔ samples = []) ∧
    ((samples.map (·.slot)).Nodup → ∀ strategy,
      (∀ other, other.Perm samples →
        recentFee strategy count other = recentFee strategy count samples) ∧
      ∀ considered rest, NewestSplit count.toNat samples considered rest →
        (samples ≠ [] → ∃ fee, recentFee strategy count samples = some fee ∧
          strategy.Draws considered fee) ∧
        ∀ older grown, count ≤ samples.length → (∀ sample ∈ considered, older.slot < sample.slot) →
          grown.Perm (older :: samples) →
            recentFee strategy count grown = recentFee strategy count samples) ∧
    (samples ≠ [] → ∃ considered rest, NewestSplit count.toNat samples considered rest ∧
      ∃ latest greatest average,
        (recentFee .latest count samples = some latest ∧
          FeeStrategy.latest.Draws considered latest) ∧
        (recentFee .greatest count samples = some greatest ∧
          FeeStrategy.greatest.Draws considered greatest) ∧
        (recentFee .average count samples = some average ∧
          FeeStrategy.average.Draws considered average) ∧
        latest ≤ greatest ∧ average ≤ greatest ∧
        ∀ least, (∀ sample ∈ considered, least ≤ sample.fee) → least ≤ average) := by
  have natural : 0 ≤ count := by omega
  refine ⟨?asked, recentFee_eq_none_iff positive, ?distinct, ?bounds⟩
  case asked =>
    intro ε network accounts world strategy replied
    exact runFrom_askRecentFee strategy count replied
  case distinct =>
    intro distinct strategy
    refine ⟨fun other perm => recentFee_perm natural strategy distinct perm, ?_⟩
    intro considered rest split
    constructor
    · intro some
      exact exists_recentFee_of_split positive strategy distinct split some
    · intro older grown enough behind perm
      exact recentFee_grow natural strategy distinct split enough behind perm
  case bounds =>
    intro some
    have left := mt (newestSamples_eq_nil_iff positive).1 some
    obtain ⟨rest, split⟩ := exists_newestSplit natural samples
    obtain ⟨latest, latestDrawn⟩ := exists_recentFee natural .latest left
    obtain ⟨greatest, greatestDrawn⟩ := exists_recentFee natural .greatest left
    obtain ⟨average, averageDrawn⟩ := exists_recentFee natural .average left
    exact ⟨_, rest, split, latest, greatest, average, latestDrawn, greatestDrawn, averageDrawn,
      latestDrawn.2.latest_le_greatest greatestDrawn.2,
      averageDrawn.2.average_le_greatest left greatestDrawn.2,
      fun least below => averageDrawn.2.le_average left below⟩

/-- Of three samples in any order, the two newest average to less than their least integer mean. -/
theorem recentFee_newest_two :
    let samples : List FeeSample := [⟨5, 100⟩, ⟨9, 2⟩, ⟨7, -5⟩]
    (1 : Int) ≤ 2 ∧ (samples.map (·.slot)).Nodup ∧ recentFee .average 2 samples = some (-2) ∧
      recentFee .average 2 [⟨7, -5⟩, ⟨1, 40⟩, ⟨5, 100⟩, ⟨9, 2⟩] = some (-2) := by
  intro samples
  have distinct : (samples.map (·.slot)).Nodup := by decide
  have split : NewestSplit (2 : Int).toNat samples [⟨9, 2⟩, ⟨7, -5⟩] [⟨5, 100⟩] :=
    ⟨by decide, by decide, by decide⟩
  obtain ⟨draws, grows⟩ :=
    ((recentFee_newest (by decide) samples).2.2.1 distinct .average).2 _ _ split
  obtain ⟨fee, drawn, average⟩ := draws (by decide)
  obtain rfl : fee = -2 := by
    rw [average]
    norm_num [Int.floor_eq_iff]
  refine ⟨by decide, distinct, drawn, ?_⟩
  rw [← drawn]
  exact grows ⟨1, 40⟩ _ (by decide) (by decide) (by decide)

end SolanaTransactions

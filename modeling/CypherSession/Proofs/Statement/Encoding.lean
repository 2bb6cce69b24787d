import CypherSession.Proofs.Result
import CypherSession.Request

/-!
# Requests for statements

A request says what its descriptors say. The only thing that keeps a list of them from being sent is
a number that has no JSON form.
-/

namespace CypherSession

open Result

namespace Parameter

/-- A parameter is another one, or stands in its items or entries, at any depth. -/
inductive OccursIn (part : Parameter) : Parameter → Prop where
  | here : OccursIn part part
  | item {items : List Parameter} {item : Parameter} (hmem : item ∈ items)
      (h : OccursIn part item) : OccursIn part (.list items)
  | entry {entries : List (String × Parameter)} {entry : String × Parameter}
      (hmem : entry ∈ entries) (h : OccursIn part entry.2) : OccursIn part (.map entries)

end Parameter

/-- The error is that for a number which occurs in the parameter and is not finite. -/
def SessionError.Blames (error : SessionError) (parameter : Parameter) : Prop :=
  ∃ value, error = .nonFinite value ∧ value.isFinite = false ∧
    (Parameter.float value).OccursIn parameter

namespace Parameter

mutual

theorem blames_of_toValue {error : SessionError} :
    ∀ parameter : Parameter, parameter.toValue = .error error → error.Blames parameter
  | .null, h | .bool _, h | .integer _, h | .string _, h | .binary _, h => by
    simp [toValue] at h
  | .float value, h => by
    unfold toValue at h
    split at h
    · cases h
    · rename_i hfinite
      cases h
      exact ⟨value, rfl, by simpa using hfinite, .here⟩
  | .list items, h => by
    unfold toValue at h
    obtain ⟨item, hmem, value, herror, hfinite, hoccurs⟩ :=
      exists_blames_of_itemsToValues items (map_eq_error_iff.1 h)
    exact ⟨value, herror, hfinite, .item hmem hoccurs⟩
  | .map entries, h => by
    unfold toValue at h
    obtain ⟨entry, hmem, value, herror, hfinite, hoccurs⟩ :=
      exists_blames_of_entriesToValues entries (map_eq_error_iff.1 h)
    exact ⟨value, herror, hfinite, .entry hmem hoccurs⟩

theorem exists_blames_of_itemsToValues {error : SessionError} :
    ∀ items : List Parameter, itemsToValues items = .error error →
      ∃ item ∈ items, error.Blames item
  | [], h => by cases h
  | item :: rest, h => by
    unfold itemsToValues at h
    rcases bind_eq_error_iff.1 h with hitem | ⟨value, -, h⟩
    · exact ⟨item, List.mem_cons_self, blames_of_toValue item hitem⟩
    rcases bind_eq_error_iff.1 h with hrest | ⟨values, -, h⟩
    · obtain ⟨other, hmem, hother⟩ := exists_blames_of_itemsToValues rest hrest
      exact ⟨other, List.mem_cons_of_mem item hmem, hother⟩
    · cases h

theorem exists_blames_of_entriesToValues {error : SessionError} :
    ∀ entries : List (String × Parameter), entriesToValues entries = .error error →
      ∃ entry ∈ entries, error.Blames entry.2
  | [], h => by cases h
  | (name, item) :: rest, h => by
    unfold entriesToValues at h
    rcases bind_eq_error_iff.1 h with hitem | ⟨value, -, h⟩
    · exact ⟨(name, item), List.mem_cons_self, blames_of_toValue item hitem⟩
    rcases bind_eq_error_iff.1 h with hrest | ⟨values, -, h⟩
    · obtain ⟨other, hmem, hother⟩ := exists_blames_of_entriesToValues rest hrest
      exact ⟨other, List.mem_cons_of_mem (name, item) hmem, hother⟩
    · cases h

end

end Parameter

namespace Request

variable {descriptors : List Descriptor}

/-- An encoding that fails blames a parameter of one of the statements. -/
theorem exists_blames_of_ofDescriptors {error : SessionError}
    (h : Request.ofDescriptors descriptors = .error error) :
    ∃ descriptor ∈ descriptors, ∃ entry ∈ descriptor.parameters.entries,
      error.Blames entry.2 := by
  rcases bind_eq_error_iff.1 h with hstatements | ⟨statements, -, h⟩
  · obtain ⟨descriptor, hmem, hdescriptor⟩ := mapM_eq_error hstatements
    rcases bind_eq_error_iff.1 hdescriptor with hentries | ⟨values, -, h⟩
    · exact ⟨descriptor, hmem, Parameter.exists_blames_of_entriesToValues _ hentries⟩
    · cases h
  · cases h

theorem eq_nonFinite_of_ofDescriptors {error : SessionError}
    (h : Request.ofDescriptors descriptors = .error error) :
    ∃ value, error = .nonFinite value := by
  obtain ⟨_, -, _, -, value, herror, -⟩ := exists_blames_of_ofDescriptors h
  exact ⟨value, herror⟩

structure Encodes (descriptor : Descriptor) (statement : RequestStatement) : Prop where
  text : statement.text = descriptor.text
  parameters :
    Parameter.entriesToValues descriptor.parameters.entries = .ok statement.parameters
  includeStats : statement.includeStats = descriptor.wantStats

theorem encodeDescriptor_eq_ok_iff {descriptor : Descriptor} {statement : RequestStatement} :
    encodeDescriptor descriptor = .ok statement ↔ Encodes descriptor statement := by
  constructor
  · intro h
    obtain ⟨parameters, hparameters, h⟩ := bind_eq_ok_iff.1 h
    cases h
    exact ⟨rfl, hparameters, rfl⟩
  · rintro ⟨htext, hparameters, hstats⟩
    refine bind_eq_ok_iff.2 ⟨statement.parameters, hparameters, ?_⟩
    rw [← htext, ← hstats]
    rfl

/-- A request says what the descriptors say, one statement for each and in their order. -/
theorem ofDescriptors_eq_ok_iff {request : Request} :
    Request.ofDescriptors descriptors = .ok request ↔
      List.Forall₂ Encodes descriptors request.statements := by
  simp only [Request.ofDescriptors, bind_eq_ok_iff, mapM_eq_ok_iff, encodeDescriptor_eq_ok_iff]
  constructor
  · rintro ⟨statements, hstatements, h⟩
    cases h
    exact hstatements
  · intro h
    exact ⟨request.statements, h, rfl⟩

theorem size_of_ofDescriptors {request : Request}
    (h : Request.ofDescriptors descriptors = .ok request) : request.size = descriptors.length :=
  (ofDescriptors_eq_ok_iff.1 h).length_eq.symm

theorem isEmpty_of_ofDescriptors {request : Request}
    (h : Request.ofDescriptors descriptors = .ok request) :
    request.isEmpty = descriptors.isEmpty := by
  have hsize : request.statements.length = descriptors.length := size_of_ofDescriptors h
  rw [Request.isEmpty, Bool.eq_iff_iff, List.isEmpty_iff_length_eq_zero,
    List.isEmpty_iff_length_eq_zero, hsize]

end Request

end CypherSession

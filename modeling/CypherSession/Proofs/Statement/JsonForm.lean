import CypherSession.Proofs.Statement.Binding

/-!
# Parameters and their JSON values

A parameter has a JSON value unless a number that is not finite occurs in it, at any depth. The
value can be read back, up to one thing: octets are sent as a list of integers, and what comes back
is this list. So two parameters have the same value exactly if they are the same with such lists in
the place of their octets. A request says of each descriptor what it is, with a member for each of
its parameters.
-/

namespace CypherSession

open Result

namespace Binary64

variable {value : Binary64}

def IsNaN (value : Binary64) : Prop := value.exponent = 0x7FF ∧ value.fraction ≠ 0

def IsInfinite (value : Binary64) : Prop := value.exponent = 0x7FF ∧ value.fraction = 0

theorem isFinite_eq_false_iff : value.isFinite = false ↔ value.IsNaN ∨ value.IsInfinite := by
  unfold isFinite IsNaN IsInfinite
  by_cases hfraction : value.fraction = 0 <;> simp [hfraction]

end Binary64

namespace Parameter

/-! ## Parameters without a JSON value -/

/-- A NaN or an infinite number occurs in the parameter, at any depth. -/
def HoldsNonFinite (parameter : Parameter) : Prop :=
  ∃ value : Binary64, (value.IsNaN ∨ value.IsInfinite) ∧ (float value).OccursIn parameter

variable {parameter : Parameter}

theorem itemsToValues_eq_mapM (items : List Parameter) :
    itemsToValues items = items.mapM toValue := by
  induction items with
  | nil => rfl
  | cons item rest ih => rw [itemsToValues, List.mapM_cons, ih]

theorem IsEncodable.of_occursIn {part : Parameter} (h : parameter.IsEncodable)
    (hoccurs : part.OccursIn parameter) : part.IsEncodable := by
  induction hoccurs with
  | here => exact h
  | item hmem _ ih =>
    obtain ⟨value, hvalue⟩ := h
    rw [toValue] at hvalue
    obtain ⟨values, hvalues, -⟩ := map_eq_ok_iff.1 hvalue
    rw [itemsToValues_eq_mapM, mapM_eq_ok_iff] at hvalues
    obtain ⟨json, -, hjson⟩ := exists_of_forall₂_of_mem hvalues hmem
    exact ih ⟨json, hjson⟩
  | entry hmem _ ih =>
    obtain ⟨value, hvalue⟩ := h
    rw [toValue] at hvalue
    obtain ⟨values, hvalues, -⟩ := map_eq_ok_iff.1 hvalue
    obtain ⟨member, -, -, hmember⟩ :=
      exists_of_forall₂_of_mem (entriesToValues_eq_ok_iff.1 hvalues) hmem
    exact ih ⟨member.2, hmember⟩

/-- Only floats that are no numbers or infinite stand in the way of the encoding. -/
theorem isEncodable_iff : parameter.IsEncodable ↔ ¬parameter.HoldsNonFinite := by
  constructor
  · rintro h ⟨number, hnumber, hoccurs⟩
    obtain ⟨value, hvalue⟩ := h.of_occursIn hoccurs
    rw [toValue, Binary64.isFinite_eq_false_iff.2 hnumber] at hvalue
    cases hvalue
  · intro hnone
    cases hvalue : parameter.toValue with
    | ok value => exact ⟨value, hvalue⟩
    | error error =>
      obtain ⟨number, -, hfinite, hoccurs⟩ := blames_of_toValue parameter hvalue
      exact absurd ⟨number, Binary64.isFinite_eq_false_iff.1 hfinite, hoccurs⟩ hnone

/-! ## Values read back -/

def ofOctet (octet : UInt8) : Parameter := .integer (.ofNat octet.toNat)

mutual

/-- The parameter with lists of integers in the place of octets, at every depth. -/
def unpacked : Parameter → Parameter
  | .null => .null
  | .bool value => .bool value
  | .integer value => .integer value
  | .float value => .float value
  | .string value => .string value
  | .binary octets => .list (octets.map ofOctet)
  | .list items => .list (unpackedItems items)
  | .map entries => .map (unpackedEntries entries)

def unpackedItems : List Parameter → List Parameter
  | [] => []
  | item :: rest => item.unpacked :: unpackedItems rest

def unpackedEntries : List (String × Parameter) → List (String × Parameter)
  | [] => []
  | (name, item) :: rest => (name, item.unpacked) :: unpackedEntries rest

end

mutual

/-- The parameter without octets that has a JSON value. -/
def ofValue : Json.Value → Parameter
  | .null => .null
  | .bool value => .bool value
  | .number (.integer value) => .integer (.ofInt value)
  | .number (.float value) => .float value
  | .string value => .string value
  | .array items => .list (ofValues items)
  | .object entries => .map (ofMembers entries)

def ofValues : List Json.Value → List Parameter
  | [] => []
  | item :: rest => ofValue item :: ofValues rest

def ofMembers : List (String × Json.Value) → List (String × Parameter)
  | [] => []
  | (name, item) :: rest => (name, ofValue item) :: ofMembers rest

end

theorem ofValues_octets (octets : List UInt8) :
    ofValues (octets.map fun octet => .number (.integer octet.toNat)) = octets.map ofOctet := by
  induction octets with
  | nil => rfl
  | cons octet rest ih =>
    rw [List.map_cons, List.map_cons, ofValues, ih, ofValue, ofOctet, Int64.ofInt_eq_ofNat]

mutual

/-- What is encoded can be read back, with the octets of binary data as integers. -/
theorem ofValue_of_toValue : ∀ (parameter : Parameter) {value : Json.Value},
    parameter.toValue = .ok value → ofValue value = parameter.unpacked
  | .null, _, h | .bool _, _, h | .string _, _, h => by
    rw [toValue] at h
    cases h
    rfl
  | .integer value, _, h => by
    rw [toValue] at h
    cases h
    rw [ofValue, Int64.ofInt_toInt, unpacked]
  | .float value, _, h => by
    rw [toValue] at h
    split at h
    · cases h
      rfl
    · cases h
  | .binary octets, _, h => by
    rw [toValue] at h
    cases h
    rw [ofValue, ofValues_octets, unpacked]
  | .list items, _, h => by
    rw [toValue] at h
    obtain ⟨values, hvalues, rfl⟩ := map_eq_ok_iff.1 h
    rw [ofValue, ofValues_of_itemsToValues items hvalues, unpacked]
  | .map entries, _, h => by
    rw [toValue] at h
    obtain ⟨members, hmembers, rfl⟩ := map_eq_ok_iff.1 h
    rw [ofValue, ofMembers_of_entriesToValues entries hmembers, unpacked]

theorem ofValues_of_itemsToValues : ∀ (items : List Parameter) {values : List Json.Value},
    itemsToValues items = .ok values → ofValues values = unpackedItems items
  | [], _, h => by
    cases h
    rfl
  | item :: rest, _, h => by
    rw [itemsToValues] at h
    obtain ⟨value, hitem, h⟩ := bind_eq_ok_iff.1 h
    obtain ⟨values, hrest, h⟩ := bind_eq_ok_iff.1 h
    cases h
    rw [ofValues, ofValue_of_toValue item hitem, ofValues_of_itemsToValues rest hrest,
      unpackedItems]

theorem ofMembers_of_entriesToValues : ∀ (entries : List (String × Parameter))
    {members : List (String × Json.Value)},
    entriesToValues entries = .ok members → ofMembers members = unpackedEntries entries
  | [], _, h => by
    cases h
    rfl
  | (name, item) :: rest, _, h => by
    rw [entriesToValues] at h
    obtain ⟨value, hitem, h⟩ := bind_eq_ok_iff.1 h
    obtain ⟨members, hrest, h⟩ := bind_eq_ok_iff.1 h
    cases h
    rw [ofMembers, ofValue_of_toValue item hitem, ofMembers_of_entriesToValues rest hrest,
      unpackedEntries]

end

theorem toInt_ofNat_octet (octet : UInt8) : (Int64.ofNat octet.toNat).toInt = octet.toNat :=
  Int64.toInt_ofNat_of_lt (Nat.lt_trans octet.toNat_lt (by decide))

theorem itemsToValues_octets (octets : List UInt8) :
    itemsToValues (octets.map ofOctet) =
      .ok (octets.map fun octet => .number (.integer octet.toNat)) := by
  induction octets with
  | nil => rfl
  | cons octet rest ih =>
    rw [List.map_cons, itemsToValues, ih, ofOctet, toValue, toInt_ofNat_octet]
    rfl

mutual

theorem toValue_unpacked : ∀ parameter : Parameter, parameter.unpacked.toValue = parameter.toValue
  | .null | .bool _ | .integer _ | .float _ | .string _ => by rw [unpacked]
  | .binary octets => by
    rw [unpacked, toValue, toValue, itemsToValues_octets]
    rfl
  | .list items => by
    rw [unpacked, toValue, itemsToValues_unpackedItems items, toValue]
  | .map entries => by
    rw [unpacked, toValue, entriesToValues_unpackedEntries entries, toValue]

theorem itemsToValues_unpackedItems :
    ∀ items : List Parameter, itemsToValues (unpackedItems items) = itemsToValues items
  | [] => rfl
  | item :: rest => by
    rw [unpackedItems, itemsToValues, toValue_unpacked item, itemsToValues_unpackedItems rest,
      itemsToValues]

theorem entriesToValues_unpackedEntries : ∀ entries : List (String × Parameter),
    entriesToValues (unpackedEntries entries) = entriesToValues entries
  | [] => rfl
  | (name, item) :: rest => by
    rw [unpackedEntries, entriesToValues, toValue_unpacked item,
      entriesToValues_unpackedEntries rest, entriesToValues]

end

/-- Two parameters have the same value if they are the same up to octets. -/
theorem exists_same_value_iff {first second : Parameter} :
    (∃ value, first.toValue = .ok value ∧ second.toValue = .ok value) ↔
      first.IsEncodable ∧ first.unpacked = second.unpacked := by
  constructor
  · rintro ⟨value, hfirst, hsecond⟩
    refine ⟨⟨value, hfirst⟩, ?_⟩
    calc first.unpacked = ofValue value := (ofValue_of_toValue first hfirst).symm
      _ = second.unpacked := ofValue_of_toValue second hsecond
  · rintro ⟨⟨value, hvalue⟩, hsame⟩
    refine ⟨value, hvalue, ?_⟩
    calc second.toValue = second.unpacked.toValue := (toValue_unpacked second).symm
      _ = first.unpacked.toValue := by rw [hsame]
      _ = first.toValue := toValue_unpacked first
      _ = .ok value := hvalue

/-- Nothing is told of whether an empty value holds octets or items. -/
example : (binary []).toValue = (list []).toValue := rfl

end Parameter

/-! ## Requests -/

def Descriptor.HoldsNonFinite (descriptor : Descriptor) : Prop :=
  ∃ name parameter, descriptor.parameters.find? name = some parameter ∧ parameter.HoldsNonFinite

namespace Request

/-- A statement has the text and the flag of a descriptor, and a member for each of its parameters,
with the JSON value of the parameter. -/
structure Carries (descriptor : Descriptor) (statement : RequestStatement) : Prop where
  text : statement.text = descriptor.text
  includeStats : statement.includeStats = descriptor.wantStats
  names : statement.parameters.map Prod.fst = descriptor.parameters.names
  distinct : (statement.parameters.map Prod.fst).Nodup
  values : ∀ name parameter, descriptor.parameters.find? name = some parameter →
    ∃ value, parameter.toValue = .ok value ∧ lookup? name statement.parameters = some value

variable {descriptor : Descriptor} {descriptors : List Descriptor} {statement : RequestStatement}

theorem Encodes.carries (h : Encodes descriptor statement) : Carries descriptor statement where
  text := h.text
  includeStats := h.includeStats
  names := Parameter.map_fst_entriesToValues h.parameters
  distinct := by
    rw [Parameter.map_fst_entriesToValues h.parameters]
    exact descriptor.parameters.nodup_names
  values _ _ hfind := Parameter.lookup?_entriesToValues h.parameters hfind

theorem Carries.not_holdsNonFinite (h : Carries descriptor statement) :
    ¬descriptor.HoldsNonFinite := by
  rintro ⟨name, parameter, hfind, hholds⟩
  obtain ⟨value, hvalue, -⟩ := h.values name parameter hfind
  exact Parameter.isEncodable_iff.1 ⟨value, hvalue⟩ hholds

theorem exists_holdsNonFinite_of_ofDescriptors {error : SessionError}
    (h : ofDescriptors descriptors = .error error) :
    ∃ descriptor ∈ descriptors, descriptor.HoldsNonFinite := by
  obtain ⟨descriptor, hmem, ⟨name, parameter⟩, hentry, value, -, hfinite, hoccurs⟩ :=
    exists_blames_of_ofDescriptors h
  exact ⟨descriptor, hmem, name, parameter, (descriptor.parameters.mem_entries_iff).1 hentry,
    value, Binary64.isFinite_eq_false_iff.1 hfinite, hoccurs⟩

theorem carries_of_ofDescriptors {request : Request}
    (h : ofDescriptors descriptors = .ok request) :
    List.Forall₂ Carries descriptors request.statements :=
  (ofDescriptors_eq_ok_iff.1 h).imp fun _ _ hencodes => hencodes.carries

/-- **Requests say what is asked for, or nothing.** There is no request for descriptors exactly if a
NaN or an infinite number occurs in a parameter of one of them, at any depth. Otherwise there is
one, with a statement for each descriptor and in their order, and with a member for each parameter.
The JSON values of the members tell parameters apart, but for octets, which are sent as the list of
the integers that they are. -/
theorem ofDescriptors_carries (descriptors : List Descriptor) :
    ((∃ error, ofDescriptors descriptors = .error error) ↔
      ∃ descriptor ∈ descriptors, descriptor.HoldsNonFinite) ∧
    ((∃ request, ofDescriptors descriptors = .ok request ∧
        List.Forall₂ Carries descriptors request.statements) ↔
      ¬∃ descriptor ∈ descriptors, descriptor.HoldsNonFinite) ∧
    ∀ first second : Parameter,
      (∃ value, first.toValue = .ok value ∧ second.toValue = .ok value) ↔
        ¬first.HoldsNonFinite ∧ first.unpacked = second.unpacked := by
  have hnone {request : Request} (h : ofDescriptors descriptors = .ok request) :
      ¬∃ descriptor ∈ descriptors, descriptor.HoldsNonFinite := by
    rintro ⟨descriptor, hmem, hholds⟩
    obtain ⟨statement, -, hcarries⟩ := exists_of_forall₂_of_mem (carries_of_ofDescriptors h) hmem
    exact hcarries.not_holdsNonFinite hholds
  refine ⟨⟨?_, ?_⟩, ⟨?_, ?_⟩, ?_⟩
  · rintro ⟨error, herror⟩
    exact exists_holdsNonFinite_of_ofDescriptors herror
  · intro hholds
    cases hrequest : ofDescriptors descriptors with
    | error error => exact ⟨error, rfl⟩
    | ok request => exact absurd hholds (hnone hrequest)
  · rintro ⟨request, hrequest, -⟩
    exact hnone hrequest
  · intro hnot
    cases hrequest : ofDescriptors descriptors with
    | error error => exact absurd (exists_holdsNonFinite_of_ofDescriptors hrequest) hnot
    | ok request => exact ⟨request, rfl, carries_of_ofDescriptors hrequest⟩
  · intro first second
    rw [Parameter.exists_same_value_iff, Parameter.isEncodable_iff]

end Request

end CypherSession

import CypherSession.Proofs.Dictionary
import CypherSession.Proofs.Statement.Encoding
import CypherSession.Proofs.Statement.Parts

/-!
# Bound parameters

Values that are bound one by one, in any order, and values that are given all at once end up under
the same names: the name of a position is a numeral, and two positions have different ones, so
nothing that is bound takes the place of another value.
-/

namespace CypherSession

open Result

/-! ## Names of positions -/

namespace Descriptor

variable {values : List Parameter} {index : Nat}

theorem positionName_inj {first second : Nat} (h : positionName first = positionName second) :
    first = second := by
  have hdigits : Text.digits (first + 1) = Text.digits (second + 1) := by
    have htoList := congrArg String.toList h
    rwa [positionName, positionName, Nat.toString_eq_repr, Nat.toString_eq_repr, Nat.toList_repr,
      Nat.toList_repr] at htoList
  have hnumber := congrArg Text.numeral? hdigits
  rw [Text.numeral?_digits, Text.numeral?_digits] at hnumber
  exact Nat.succ.inj (Option.some.inj hnumber)

def indexedFrom (index : Nat) (values : List Parameter) : List (Nat × Parameter) :=
  (List.range' index values.length).zip values

def underName (binding : Nat × Parameter) : String × Parameter :=
  (positionName binding.1, binding.2)

theorem positionedFrom_eq (index : Nat) (values : List Parameter) :
    positionedFrom index values = (indexedFrom index values).map underName := by
  induction values generalizing index with
  | nil => rfl
  | cons value rest ih =>
    rw [positionedFrom, ih (index + 1)]
    rfl

theorem map_fst_indexedFrom (index : Nat) (values : List Parameter) :
    (indexedFrom index values).map Prod.fst = List.range' index values.length :=
  List.map_fst_zip (by simp)

theorem map_fst_positionedFrom (index : Nat) (values : List Parameter) :
    (positionedFrom index values).map Prod.fst =
      (List.range' index values.length).map positionName := by
  rw [positionedFrom_eq, ← map_fst_indexedFrom, List.map_map, List.map_map]
  rfl

theorem nodup_positionedFrom (index : Nat) (values : List Parameter) :
    ((positionedFrom index values).map Prod.fst).Nodup := by
  rw [map_fst_positionedFrom]
  exact List.Nodup.map (fun _ _ => positionName_inj) List.nodup_range'

theorem mem_positionedFrom_iff {name : String} {value : Parameter} :
    (name, value) ∈ positionedFrom index values ↔
      ∃ k, values[k]? = some value ∧ name = positionName (index + k) := by
  induction values generalizing index with
  | nil => simp [positionedFrom]
  | cons first rest ih =>
    rw [positionedFrom, List.mem_cons, ih, Prod.mk.injEq]
    constructor
    · rintro (⟨rfl, rfl⟩ | ⟨k, hk, rfl⟩)
      · exact ⟨0, rfl, rfl⟩
      · exact ⟨k + 1, hk, by rw [Nat.add_right_comm, Nat.add_assoc]⟩
    · rintro ⟨k, hk, rfl⟩
      cases k with
      | zero => exact .inl ⟨rfl, (Option.some.inj hk).symm⟩
      | succ k => exact .inr ⟨k, hk, by rw [Nat.add_right_comm, Nat.add_assoc]⟩

theorem find?_positional (text : String) (values : List Parameter) (wantStats : Bool) (k : Nat) :
    (positional text values wantStats).parameters.find? (positionName k) = values[k]? := by
  refine Option.ext fun value => ?_
  refine (Dictionary.find?_ofList_eq_some_iff (nodup_positionedFrom 0 values)).trans ?_
  rw [mem_positionedFrom_iff]
  constructor
  · rintro ⟨other, hother, hname⟩
    rw [Nat.zero_add] at hname
    rwa [positionName_inj hname]
  · intro hvalue
    exact ⟨k, hvalue, by rw [Nat.zero_add]⟩

end Descriptor

/-! ## Bindings one by one -/

namespace Statement

variable {statement bound : Statement} {bindings : List (Nat × Parameter)}

def bindEach (statement : Statement) : List (Nat × Parameter) → Except SessionError Statement
  | [] => .ok statement
  | (index, value) :: rest => do (← statement.bind index value).bindEach rest

def withParameters (statement : Statement) (pairs : List (String × Parameter)) : Statement :=
  { statement with parameters := statement.parameters.insertAll pairs }

theorem bind_of_lt {index : Nat} (h : index < statement.placeholders) (value : Parameter) :
    statement.bind index value =
      .ok (statement.withParameters [(Descriptor.positionName index, value)]) :=
  if_pos h

/-- A value can be bound exactly if there is a placeholder for it. -/
theorem exists_bind_iff {index : Nat} {value : Parameter} :
    (∃ next, statement.bind index value = .ok next) ↔ index < statement.placeholders := by
  constructor
  · rintro ⟨next, hnext⟩
    by_contra hnot
    rw [bind, if_neg hnot] at hnext
    cases hnext
  · exact fun h => ⟨_, bind_of_lt h value⟩

theorem bindEach_of_lt (h : ∀ binding ∈ bindings, binding.1 < statement.placeholders) :
    statement.bindEach bindings =
      .ok (statement.withParameters (bindings.map Descriptor.underName)) := by
  induction bindings generalizing statement with
  | nil => rfl
  | cons binding rest ih =>
    obtain ⟨hfirst, hrest⟩ := List.forall_mem_cons.1 h
    rw [bindEach, bind_of_lt hfirst]
    exact ih hrest

theorem placeholders_of_bindEach (h : statement.bindEach bindings = .ok bound) :
    bound.placeholders = statement.placeholders := by
  induction bindings generalizing statement with
  | nil =>
    cases h
    rfl
  | cons binding rest ih =>
    obtain ⟨next, hnext, hrest⟩ := bind_eq_ok_iff.1 h
    have hlt := exists_bind_iff.1 ⟨next, hnext⟩
    rw [bind_of_lt hlt] at hnext
    cases hnext
    exact (ih hrest).trans rfl

/-- The values that have placeholders are bound, and the first one that has none ends it. -/
theorem bindFrom_eq (values : List Parameter) {index : Nat} (h : index ≤ statement.placeholders) :
    statement.bindFrom index values =
      (statement.withParameters
          (Descriptor.positionedFrom index (values.take (statement.placeholders - index))),
        if index + values.length ≤ statement.placeholders then .ok ()
        else .error (.noPlaceholder statement.placeholders statement.placeholders)) := by
  induction values generalizing index statement with
  | nil =>
    rw [List.take_nil, List.length_nil, Nat.add_zero, if_pos h]
    rfl
  | cons value rest ih =>
    rw [bindFrom]
    rcases Nat.lt_or_eq_of_le h with hlt | rfl
    · have htake : (value :: rest).take (statement.placeholders - index) =
          value :: rest.take (statement.placeholders - (index + 1)) := by
        rw [← Nat.succ_pred_eq_of_pos (Nat.sub_pos_of_lt hlt), List.take_succ_cons, Nat.sub_succ]
      rw [bind_of_lt hlt, htake, List.length_cons, Nat.add_comm rest.length, ← Nat.add_assoc]
      have hnext : index + 1 ≤
          (statement.withParameters [(Descriptor.positionName index, value)]).placeholders := hlt
      exact ih hnext
    · have hmore : ¬statement.placeholders + (value :: rest).length ≤ statement.placeholders := by
        rw [List.length_cons]
        omega
      rw [bind, if_neg (Nat.lt_irrefl _), Nat.sub_self, List.take_zero, if_neg hmore]
      rfl

theorem bindFrom_of_le {values : List Parameter} {index : Nat}
    (h : index + values.length ≤ statement.placeholders) :
    statement.bindFrom index values =
      (statement.withParameters (Descriptor.positionedFrom index values), .ok ()) := by
  rw [bindFrom_eq values (by omega), if_pos h, List.take_of_length_le (by omega)]

/-- The order in which values are bound does not show in the descriptor. -/
theorem descriptor_withParameters (text : String) {pairs : List (String × Parameter)}
    {values : List Parameter} (hperm : (Descriptor.positionedFrom 0 values).Perm pairs) :
    ((ofText text).withParameters pairs).descriptor = Descriptor.positional text values true := by
  have hparameters : Dictionary.ofList (Descriptor.positionedFrom 0 values) =
      Dictionary.ofList pairs :=
    Dictionary.ofList_perm hperm (Descriptor.nodup_positionedFrom 0 values)
  rw [Descriptor.positional, hparameters]
  rfl

end Statement

/-! ## What is sent -/

namespace Parameter

theorem entriesToValues_eq_ok_iff {entries : List (String × Parameter)}
    {values : List (String × Json.Value)} :
    entriesToValues entries = .ok values ↔
      List.Forall₂ (fun entry value => entry.1 = value.1 ∧ entry.2.toValue = .ok value.2)
        entries values := by
  induction entries generalizing values with
  | nil =>
    rw [entriesToValues, List.forall₂_nil_left_iff]
    exact ⟨fun h => (Except.ok.inj h).symm, congrArg Except.ok ∘ Eq.symm⟩
  | cons entry rest ih =>
    obtain ⟨name, item⟩ := entry
    rw [entriesToValues, bind_eq_ok_iff, List.forall₂_cons_left_iff]
    constructor
    · rintro ⟨value, hitem, h⟩
      obtain ⟨others, hrest, h⟩ := bind_eq_ok_iff.1 h
      cases h
      exact ⟨(name, value), others, ⟨rfl, hitem⟩, ih.1 hrest, rfl⟩
    · rintro ⟨⟨_, value⟩, others, ⟨rfl, hitem⟩, hrest, rfl⟩
      exact ⟨value, hitem, bind_eq_ok_iff.2 ⟨others, ih.2 hrest, rfl⟩⟩

def IsEncodable (parameter : Parameter) : Prop := ∃ value, parameter.toValue = .ok value

theorem exists_entriesToValues {entries : List (String × Parameter)}
    (h : ∀ entry ∈ entries, IsEncodable entry.2) :
    ∃ values, entriesToValues entries = .ok values := by
  induction entries with
  | nil => exact ⟨[], rfl⟩
  | cons entry rest ih =>
    obtain ⟨⟨value, hvalue⟩, hrest⟩ := List.forall_mem_cons.1 h
    obtain ⟨values, hvalues⟩ := ih hrest
    exact ⟨(entry.1, value) :: values, entriesToValues_eq_ok_iff.2
      (.cons ⟨rfl, hvalue⟩ (entriesToValues_eq_ok_iff.1 hvalues))⟩

theorem map_fst_entriesToValues {entries : List (String × Parameter)}
    {values : List (String × Json.Value)} (h : entriesToValues entries = .ok values) :
    values.map Prod.fst = entries.map Prod.fst := by
  have hentries := entriesToValues_eq_ok_iff.1 h
  clear h
  induction hentries with
  | nil => rfl
  | cons hhead htail ih => rw [List.map_cons, List.map_cons, ih, hhead.1]

theorem lookup?_entriesToValues {entries : List (String × Parameter)}
    {values : List (String × Json.Value)} (h : entriesToValues entries = .ok values)
    {name : String} {parameter : Parameter} (hfind : lookup? name entries = some parameter) :
    ∃ value, parameter.toValue = .ok value ∧ lookup? name values = some value := by
  have hentries := entriesToValues_eq_ok_iff.1 h
  clear h
  induction hentries with
  | nil => cases hfind
  | @cons entry value entries values hhead htail ih =>
    obtain ⟨n, item⟩ := entry
    obtain ⟨rfl, hitem⟩ : n = value.1 ∧ item.toValue = .ok value.2 := hhead
    rw [lookup?] at hfind ⊢
    by_cases hname : value.1 = name
    · rw [if_pos hname] at hfind ⊢
      rw [← Option.some.inj hfind]
      exact ⟨value.2, hitem, rfl⟩
    · rw [if_neg hname] at hfind ⊢
      exact ih hfind

end Parameter

namespace Statement

open Placeholder (Cut numberedParts)

/-- The values of all placeholders, when they are sent. -/
theorem sent_of_cut {text : String} {first : List Char} {others : List (List Char)}
    (hcut : Cut text.toList first others) {values : List Parameter}
    (hlength : values.length = others.length)
    (hencodable : ∀ value ∈ values, value.IsEncodable) :
    ∃ sent, Request.encodeDescriptor (.positional text values true) = .ok sent ∧
      sent.text = String.ofList (first ++ numberedParts 0 others) ∧
      (sent.parameters.map Prod.fst).Perm
        ((List.range others.length).map fun k => toString (k + 1)) ∧
      ∀ k value json, values[k]? = some value → value.toValue = .ok json →
        lookup? (toString (k + 1)) sent.parameters = some json := by
  let descriptor := Descriptor.positional text values true
  have hentries : descriptor.parameters.entries.Perm (Descriptor.positionedFrom 0 values) :=
    Dictionary.entries_ofList_perm (Descriptor.nodup_positionedFrom 0 values)
  have hitems : ∀ entry ∈ descriptor.parameters.entries, entry.2.IsEncodable := by
    intro entry hmem
    obtain ⟨k, hk, -⟩ := Descriptor.mem_positionedFrom_iff.1 (hentries.mem_iff.1 hmem)
    exact hencodable entry.2 (List.mem_of_getElem? hk)
  obtain ⟨parameters, hparameters⟩ := Parameter.exists_entriesToValues hitems
  refine ⟨⟨descriptor.text, parameters, true⟩,
    Request.encodeDescriptor_eq_ok_iff.2 ⟨rfl, hparameters, rfl⟩, ?_, ?_, ?_⟩
  · exact congrArg Prod.fst (Placeholder.number_of_cut hcut)
  · rw [Parameter.map_fst_entriesToValues hparameters]
    refine (hentries.map Prod.fst).trans (List.Perm.of_eq ?_)
    rw [Descriptor.map_fst_positionedFrom, hlength, List.range_eq_range']
    rfl
  · intro k value json hvalue hjson
    have hfind := (Descriptor.find?_positional text values true k).trans hvalue
    obtain ⟨other, hother, hlookup⟩ := Parameter.lookup?_entriesToValues hparameters hfind
    obtain rfl : other = json := Except.ok.inj (hother.symm.trans hjson)
    exact hlookup

/-- **Placeholders and bindings agree.** A text with `n` placeholders is cut by them into `n + 1`
parts. Up to `n` values make the same descriptor, whether they are bound all at once, one by one in
any order of their positions, or given with the text. If there are `n` of them and all can be sent,
then what is sent is the text with the numbers from 1 to `n` in the place of the placeholders, and
these numbers are the names of the parameters, each with the value of its position. A position can
be bound exactly if it is less than `n`, whatever was bound before. -/
theorem bindings_agree (text : String) :
    ∃ (first : List Char) (others : List (List Char)),
      Cut text.toList first others ∧
      (∀ values : List Parameter, values.length ≤ others.length →
        let descriptor := Descriptor.positional text values true
        (∃ bound, (ofText text).bindAll values = (bound, .ok ()) ∧
          bound.descriptor = descriptor) ∧
        (∀ bindings, bindings.Perm (Descriptor.indexedFrom 0 values) →
          ∃ bound, (ofText text).bindEach bindings = .ok bound ∧
            bound.descriptor = descriptor) ∧
        (values.length = others.length → (∀ value ∈ values, value.IsEncodable) →
          ∃ sent, Request.encodeDescriptor descriptor = .ok sent ∧
            sent.text = String.ofList (first ++ numberedParts 0 others) ∧
            (sent.parameters.map Prod.fst).Perm
              ((List.range others.length).map fun k => toString (k + 1)) ∧
            ∀ k value json, values[k]? = some value → value.toValue = .ok json →
              lookup? (toString (k + 1)) sent.parameters = some json)) ∧
      ∀ bindings bound index value, (ofText text).bindEach bindings = .ok bound →
        ((∃ next, bound.bind index value = .ok next) ↔ index < others.length) := by
  obtain ⟨first, others, hcut⟩ := Placeholder.exists_cut text.toList
  have hnumber := Placeholder.number_of_cut hcut
  have hplaceholders : (ofText text).placeholders = others.length := congrArg Prod.snd hnumber
  refine ⟨first, others, hcut, fun values hlength => ⟨?_, ?_, ?_⟩, ?_⟩
  · have hlength : 0 + values.length ≤ (ofText text).placeholders := by
      rwa [hplaceholders, Nat.zero_add]
    exact ⟨_, bindFrom_of_le hlength, descriptor_withParameters text (.refl _)⟩
  · intro bindings hperm
    have hindices : ∀ binding ∈ bindings, binding.1 < (ofText text).placeholders := by
      intro binding hmem
      have hindex : binding.1 ∈ (Descriptor.indexedFrom 0 values).map Prod.fst :=
        List.mem_map_of_mem (hperm.mem_iff.1 hmem)
      rw [Descriptor.map_fst_indexedFrom, List.mem_range'_1] at hindex
      omega
    have hpairs : (Descriptor.positionedFrom 0 values).Perm
        (bindings.map Descriptor.underName) := by
      rw [Descriptor.positionedFrom_eq]
      exact hperm.symm.map Descriptor.underName
    exact ⟨_, bindEach_of_lt hindices, descriptor_withParameters text hpairs⟩
  · intro hall hencodable
    exact sent_of_cut hcut hall hencodable
  · intro bindings bound index value hbound
    rw [exists_bind_iff, placeholders_of_bindEach hbound, hplaceholders]

def quotedQuery : String :=
  "RETURN ?, ?, ?, ?, ?, ?, ?, ?, ?, ?, ? + 'it\\'s ?' + `?`, ?"

def quotedValues : List Parameter := (List.range 12).map fun k => .integer (Int64.ofNat (7 * k))

/-- Twelve placeholders, and two quoted question marks; the values are bound from the last one to
the first one. -/
theorem bindings_agree_quoted :
    let descriptor := Descriptor.positional quotedQuery quotedValues true
    (∃ bound, (ofText quotedQuery).bindEach (Descriptor.indexedFrom 0 quotedValues).reverse =
        .ok bound ∧ bound.descriptor = descriptor) ∧
      (∃ sent, Request.encodeDescriptor descriptor = .ok sent ∧
        sent.text =
          "RETURN $1, $2, $3, $4, $5, $6, $7, $8, $9, $10, $11 + 'it\\'s ?' + `?`, $12" ∧
        lookup? "10" sent.parameters = some (.number (.integer 63))) ∧
      ¬∃ next, (ofText quotedQuery).bind 12 .null = .ok next := by
  obtain ⟨first, others, hcut, hvalues, hbind⟩ := bindings_agree quotedQuery
  have hnumber := (Placeholder.number_of_cut hcut).symm.trans
    (show Placeholder.number quotedQuery = ("RETURN $1, $2, $3, $4, $5, $6, $7, $8, $9, $10, " ++
      "$11 + 'it\\'s ?' + `?`, $12", 12) by decide +kernel)
  obtain ⟨htext, hcount⟩ := Prod.mk.inj hnumber
  have hlength : quotedValues.length = others.length := hcount.symm
  obtain ⟨-, hpermuted, hsent⟩ := hvalues quotedValues (Nat.le_of_eq hlength)
  refine ⟨hpermuted _ (List.reverse_perm _), ?_, fun hnext => ?_⟩
  · have hencodable : ∀ value ∈ quotedValues, value.IsEncodable := by
      intro value hmem
      obtain ⟨k, -, rfl⟩ := List.mem_map.1 hmem
      exact ⟨_, rfl⟩
    obtain ⟨sent, hencode, hsentText, -, hlookup⟩ := hsent hlength hencodable
    refine ⟨sent, hencode, hsentText.trans htext, ?_⟩
    exact hlookup 9 (.integer 63) (.number (.integer 63)) rfl rfl
  · have hless := (hbind [] _ 12 .null rfl).1 hnext
    omega

end Statement

end CypherSession

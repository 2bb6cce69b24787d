import CypherSession.Json.Record
import CypherSession.Proofs.Result

/-!
# What is read of a record

An object is read as a record by its known members alone: their order does not matter, members of
other names do not count, and no known member may be there twice. So two objects are read alike if
they have the same known members, or ones that are read alike themselves.
-/

namespace CypherSession.Json.Document

open Result (exists_of_forall₂_of_mem)

variable {α : Type} {known : List (List String)} {names : List String} {name : String}
  {document other : Document} {members others : List (Option String × Document)}

theorem mapM_eq_some_iff {β : Type} {f : α → Option β} {items : List α} {values : List β} :
    items.mapM f = some values ↔
      List.Forall₂ (fun item value => f item = some value) items values := by
  induction items generalizing values with
  | nil =>
    rw [List.mapM_nil, List.forall₂_nil_left_iff]
    exact ⟨fun h => (Option.some.inj h).symm, congrArg some ∘ Eq.symm⟩
  | cons item rest ih =>
    rw [List.mapM_cons, List.forall₂_cons_left_iff]
    constructor
    · intro h
      obtain ⟨value, hitem, h⟩ := Option.bind_eq_some_iff.1 h
      obtain ⟨others, hrest, h⟩ := Option.bind_eq_some_iff.1 h
      cases h
      exact ⟨value, others, hitem, ih.1 hrest, rfl⟩
    · rintro ⟨value, others, hitem, hrest, rfl⟩
      refine Option.bind_eq_some_iff.2 ⟨value, hitem, ?_⟩
      exact Option.bind_eq_some_iff.2 ⟨others, ih.2 hrest, rfl⟩

theorem list?_eq_some_iff {read : Document → Option α} {values : List α} :
    list? read document = some values ↔ ∃ items, document = .array items ∧
      List.Forall₂ (fun item value => read item = some value) items values := by
  cases document with
  | array items =>
    refine (mapM_eq_some_iff (f := read)).trans ⟨fun h => ⟨items, rfl, h⟩, ?_⟩
    rintro ⟨_, ⟨⟩, h⟩
    exact h
  | _ => simp [list?]

/-! ## Known members -/

/-- Two members have names of the same known member. -/
inductive Repeats (known : List (List String)) : Document → Prop where
  | intro {names : List String} {first second : String} {value value' : Document}
      {before between after : List (Option String × Document)} (hknown : names ∈ known)
      (hfirst : first ∈ names) (hsecond : second ∈ names) :
      Repeats known
        (.object (before ++ (some first, value) :: (between ++ (some second, value') :: after)))

structure IsPlain (known : List (List String)) (members : List (Option String × Document)) :
    Prop where
  proper : ∀ member ∈ members, member.1.isSome = true
  unique : ¬Repeats known (.object members)

/-- The only member with one of the names is read as the value; without one there is a default. -/
inductive ReadsMember (names : List String) (default : α) (read : Document → Option α)
    (members : List (Option String × Document)) : α → Prop where
  | absent (hnone : ∀ member ∈ members, ∀ name ∈ names, member.1 ≠ some name) :
      ReadsMember names default read members default
  | present {name : String} {document : Document} {value : α} (hname : name ∈ names)
      (hmem : (some name, document) ∈ members) (hread : read document = some value) :
      ReadsMember names default read members value

theorem valueNamed_eq_some_iff {member : Option String × Document} {value : Document} :
    (if member.1.any (· ∈ names) then some member.2 else none) = some value ↔
      ∃ name ∈ names, member = (some name, value) := by
  obtain ⟨name?, document⟩ := member
  cases name? with
  | none => simp
  | some name => simp [and_comm, eq_comm]

theorem mem_valuesNamed_iff {value : Document} :
    value ∈ valuesNamed names members ↔ ∃ name ∈ names, (some name, value) ∈ members := by
  constructor
  · intro h
    obtain ⟨member, hmem, hvalue⟩ := List.mem_filterMap.1 h
    obtain ⟨name, hname, rfl⟩ := valueNamed_eq_some_iff.1 hvalue
    exact ⟨name, hname, hmem⟩
  · rintro ⟨name, hname, hmem⟩
    exact List.mem_filterMap.2 ⟨_, hmem, valueNamed_eq_some_iff.2 ⟨name, hname, rfl⟩⟩

theorem atMostOne?_eq_some_iff {values : List Document} {value? : Option Document} :
    atMostOne? values = some value? ↔ values = value?.toList := by
  match values with
  | [] => cases value? <;> simp [atMostOne?]
  | [value] => cases value? <;> simp [atMostOne?]
  | _ :: _ :: _ => cases value? <;> simp [atMostOne?]

theorem valueNamed_named {value : Document} (hname : name ∈ names) :
    (if (some name).any (· ∈ names) then some value else none) = some value :=
  valueNamed_eq_some_iff.2 ⟨name, hname, rfl⟩

theorem repeats_iff :
    Repeats known (.object members) ↔
      ∃ names ∈ known, 2 ≤ (valuesNamed names members).length := by
  constructor
  · rintro ⟨hknown, hfirst, hsecond⟩
    refine ⟨_, hknown, ?_⟩
    simp only [valuesNamed, List.filterMap_append, List.filterMap_cons, valueNamed_named hfirst,
      valueNamed_named hsecond, List.length_append, List.length_cons]
    omega
  · rintro ⟨names, hknown, hlength⟩
    obtain ⟨value, values, hvalues⟩ : ∃ value values, valuesNamed names members = value :: values :=
      List.exists_cons_of_length_pos (Nat.lt_of_lt_of_le Nat.zero_lt_two hlength)
    obtain ⟨before, first, rest, rfl, -, hfirst, hrest⟩ := List.filterMap_eq_cons_iff.1 hvalues
    rw [hvalues, List.length_cons] at hlength
    obtain ⟨value', values', rfl⟩ : ∃ value' values', values = value' :: values' :=
      List.exists_cons_of_length_pos (by omega)
    obtain ⟨between, second, after, rfl, -, hsecond, -⟩ := List.filterMap_eq_cons_iff.1 hrest
    obtain ⟨firstName, hfirstName, rfl⟩ := valueNamed_eq_some_iff.1 hfirst
    obtain ⟨secondName, hsecondName, rfl⟩ := valueNamed_eq_some_iff.1 hsecond
    exact .intro hknown hfirstName hsecondName

/-- The fields of a record are its known members. -/
theorem objectFields?_eq_some_iff {fields : List (Option Document)} :
    objectFields? known members = some fields ↔
      (∀ member ∈ members, member.1.isSome = true) ∧
        List.Forall₂ (fun names field? => valuesNamed names members = field?.toList) known
          fields := by
  unfold objectFields?
  rw [← List.all_eq_true]
  split
  · rename_i hproper
    simp only [mapM_eq_some_iff, atMostOne?_eq_some_iff, hproper, true_and]
  · rename_i hproper
    simp only [hproper, reduceCtorEq, false_and]

/-- Fields are read only from members without repetition. -/
theorem isPlain_of_objectFields? {fields : List (Option Document)}
    (h : objectFields? known members = some fields) : IsPlain known members := by
  obtain ⟨hproper, hfields⟩ := objectFields?_eq_some_iff.1 h
  refine ⟨hproper, fun hrepeats => ?_⟩
  obtain ⟨names, hknown, hlength⟩ := repeats_iff.1 hrepeats
  obtain ⟨field?, -, hvalues⟩ := exists_of_forall₂_of_mem hfields hknown
  rw [hvalues] at hlength
  cases field? <;> simp at hlength

theorem not_repeats_of_fields? {fields : List (Option Document)}
    (h : fields? known document = some fields) : ¬Repeats known document := by
  intro hrepeats
  obtain ⟨hknown, hfirst, hsecond⟩ := hrepeats
  exact (isPlain_of_objectFields? h).unique (.intro hknown hfirst hsecond)

theorem eq_some_of_mem {field? : Option Document} (h : valuesNamed names members = field?.toList)
    (hname : name ∈ names) (hmem : (some name, document) ∈ members) : field? = some document := by
  have hvalue : document ∈ field?.toList := h ▸ mem_valuesNamed_iff.2 ⟨name, hname, hmem⟩
  exact Option.mem_toList.1 hvalue

/-- A member is read by its field, if the record has a field for it. -/
theorem readsMember_iff {default : α} {read : Document → Option α} {value : α}
    (hunique : (valuesNamed names members).length < 2) :
    ReadsMember names default read members value ↔
      ∃ field?, valuesNamed names members = field?.toList ∧
        orDefault default read field? = some value := by
  constructor
  · intro h
    cases h with
    | absent hnone =>
      refine ⟨none, List.eq_nil_iff_forall_not_mem.2 fun document hdocument => ?_, rfl⟩
      obtain ⟨name, hname, hmem⟩ := mem_valuesNamed_iff.1 hdocument
      exact hnone _ hmem name hname rfl
    | @present name document _ hname hmem hread =>
      have hdocument := mem_valuesNamed_iff.2 ⟨name, hname, hmem⟩
      have hlength := List.length_pos_of_mem hdocument
      have hone : (valuesNamed names members).length = 1 := by omega
      obtain ⟨only, honly⟩ := List.length_eq_one_iff.1 hone
      rw [honly, List.mem_singleton] at hdocument
      exact ⟨some document, by rw [honly, hdocument]; rfl, hread⟩
  · rintro ⟨field?, hvalues, hread⟩
    cases field? with
    | none =>
      cases hread
      refine .absent fun member hmem name hname heq => ?_
      have hvalue : member.2 ∈ valuesNamed names members :=
        mem_valuesNamed_iff.2 ⟨name, hname, by rwa [← heq]⟩
      rw [hvalues] at hvalue
      cases hvalue
    | some document =>
      have hvalue : document ∈ valuesNamed names members := by
        rw [hvalues]
        exact List.mem_singleton_self document
      obtain ⟨name, hname, hmem⟩ := mem_valuesNamed_iff.1 hvalue
      exact .present hname hmem hread

theorem readsMember_singleton_iff {default : α} {read : Document → Option α} {value : α} :
    ReadsMember [name] default read members value ↔
      ((∀ member ∈ members, member.1 ≠ some name) ∧ value = default) ∨
        ∃ document, (some name, document) ∈ members ∧ read document = some value := by
  constructor
  · intro h
    cases h with
    | absent hnone => exact .inl ⟨fun member hmem => hnone member hmem name (by simp), rfl⟩
    | present hname hmem hread =>
      obtain rfl := List.mem_singleton.1 hname
      exact .inr ⟨_, hmem, hread⟩
  · rintro (⟨hnone, rfl⟩ | ⟨document, hmem, hread⟩)
    · refine .absent fun member hmem other hother => ?_
      rw [List.mem_singleton.1 hother]
      exact hnone member hmem
    · exact .present List.mem_cons_self hmem hread

theorem IsPlain.readsMember_iff {default : α} {read : Document → Option α} {value : α}
    (h : IsPlain known members) (hknown : names ∈ known) :
    ReadsMember names default read members value ↔
      ∃ field?, valuesNamed names members = field?.toList ∧
        orDefault default read field? = some value := by
  refine Document.readsMember_iff (Nat.lt_of_not_le fun hlength => h.unique ?_)
  exact repeats_iff.2 ⟨names, hknown, hlength⟩

/-- A member that is present is the one that is read. -/
theorem IsPlain.read_of_mem {default : α} {read : Document → Option α} {value : α}
    (h : IsPlain known members) (hknown : names ∈ known)
    (hreads : ReadsMember names default read members value) (hname : name ∈ names)
    (hmem : (some name, document) ∈ members) : read document = some value := by
  obtain ⟨field?, hvalues, hread⟩ := (h.readsMember_iff hknown).1 hreads
  rwa [eq_some_of_mem hvalues hname hmem] at hread

theorem IsPlain.items_of_mem {default values : List α} {items : List Document}
    {read : Document → Option α} (h : IsPlain known members) (hknown : names ∈ known)
    (hreads : ReadsMember names default (list? read) members values) (hname : name ∈ names)
    (hmem : (some name, .array items) ∈ members) :
    List.Forall₂ (fun item value => read item = some value) items values := by
  have hread := h.read_of_mem hknown hreads hname hmem
  obtain ⟨_, ⟨⟩, hitems⟩ := list?_eq_some_iff.1 hread
  exact hitems

/-- A record that may be null is read as a record if a member is there twice. -/
theorem not_repeats_of_nullable? {read : Document → Option α} {value? : Option α}
    (h : nullable? read document = some value?)
    (hread : ∀ value, read document = some value → ¬Repeats known document) :
    ¬Repeats known document := by
  intro hrepeats
  cases hrepeats with | intro hknown hfirst hsecond =>
  obtain ⟨value, hvalue, -⟩ := Option.map_eq_some_iff.1 h
  exact hread value hvalue (.intro hknown hfirst hsecond)

/-! ## Records that are read alike -/

def IsUnknown (known : List (List String)) (member : Option String × Document) : Prop :=
  ∃ name, member.1 = some name ∧ ∀ names ∈ known, name ∉ names

/-- The members of a record that are read as records or lists themselves, with what makes two of
their values alike. -/
abbrev Parts := List (String × (Document → Document → Prop))

variable {parts : Parts}

def AlikeUnder (parts : Parts) (name? : Option String) (document other : Document) : Prop :=
  document = other ∨ ∃ part ∈ parts, name? = some part.1 ∧ part.2 document other

/-- Two documents are the same, or the second one is an object with the members of the first one in
some order, or ones that are alike as parts, and with members of unknown names besides. -/
inductive SameRecord (known : List (List String)) (parts : Parts) :
    Document → Document → Prop where
  | refl (document : Document) : SameRecord known parts document document
  | object {members kept added others : List (Option String × Document)}
      (hkept : List.Forall₂ (fun member other =>
        member.1 = other.1 ∧ AlikeUnder parts member.1 member.2 other.2) members kept)
      (hadded : ∀ member ∈ added, IsUnknown known member)
      (hperm : others.Perm (kept ++ added)) :
      SameRecord known parts (.object members) (.object others)

inductive EachItem (alike : Document → Document → Prop) : Document → Document → Prop where
  | refl (document : Document) : EachItem alike document document
  | array {items others : List Document} (h : List.Forall₂ alike items others) :
      EachItem alike (.array items) (.array others)

def AlikeIn (parts : Parts) (names : List String) (document other : Document) : Prop :=
  ∃ name ∈ names, AlikeUnder parts (some name) document other

theorem forall₂_valuesNamed {kept : List (Option String × Document)}
    (h : List.Forall₂ (fun member other =>
      member.1 = other.1 ∧ AlikeUnder parts member.1 member.2 other.2) members kept) :
    List.Forall₂ (AlikeIn parts names) (valuesNamed names members) (valuesNamed names kept) := by
  refine List.rel_filterMap (fun member other hmember => ?_) h
  obtain ⟨name?, document⟩ := member
  obtain ⟨_, document'⟩ := other
  obtain ⟨rfl, halike⟩ := hmember
  cases name? with
  | none => exact .none
  | some name =>
    by_cases hname : name ∈ names
    · simp only [valueNamed_named hname]
      exact .some ⟨name, hname, halike⟩
    · simp only [Option.any_some, hname, decide_false, Bool.false_eq_true, if_false]
      exact .none

theorem valuesNamed_unknown {added : List (Option String × Document)}
    (hadded : ∀ member ∈ added, IsUnknown known member) (hknown : names ∈ known) :
    valuesNamed names added = [] := by
  refine List.eq_nil_iff_forall_not_mem.2 fun document hdocument => ?_
  obtain ⟨name, hname, hmem⟩ := mem_valuesNamed_iff.1 hdocument
  obtain ⟨_, ⟨⟩, hunknown⟩ := hadded _ hmem
  exact hunknown names hknown hname

theorem rel_atMostOne? {values kept others : List Document}
    (halike : List.Forall₂ (AlikeIn parts names) values kept) (hperm : others.Perm kept) :
    Option.Rel (Option.Rel (AlikeIn parts names)) (atMostOne? values) (atMostOne? others) := by
  match values, halike with
  | [], .nil =>
    rw [hperm.eq_nil]
    exact .some .none
  | [_], .cons hvalue .nil =>
    rw [List.perm_singleton.1 hperm]
    exact .some (.some hvalue)
  | _ :: _ :: _, .cons _ (.cons _ _) =>
    match others, hperm.length_eq with
    | _ :: _ :: _, _ => exact .none

inductive AlikeFields (parts : Parts) :
    List (List String) → List (Option Document) → List (Option Document) → Prop where
  | nil : AlikeFields parts [] [] []
  | cons {names : List String} {known : List (List String)} {field? other? : Option Document}
      {fields others : List (Option Document)}
      (hfield : Option.Rel (AlikeIn parts names) field? other?)
      (hrest : AlikeFields parts known fields others) :
      AlikeFields parts (names :: known) (field? :: fields) (other? :: others)

theorem rel_bind {β γ δ : Type} {related : α → β → Prop} {alike : γ → δ → Prop} {first : Option α}
    {second : Option β} {f : α → Option γ} {g : β → Option δ} (h : Option.Rel related first second)
    (hnext : ∀ value other, related value other → Option.Rel alike (f value) (g other)) :
    Option.Rel alike (first.bind f) (second.bind g) := by
  cases h with
  | none => exact .none
  | some hvalue => exact hnext _ _ hvalue

/-- Each field is read by its own names, so the fields are alike one by one. -/
theorem rel_mapM {f g : List String → Option (Option Document)}
    (h : ∀ names ∈ known, Option.Rel (Option.Rel (AlikeIn parts names)) (f names) (g names)) :
    Option.Rel (AlikeFields parts known) (known.mapM f) (known.mapM g) := by
  induction known with
  | nil => exact .some .nil
  | cons names known ih =>
    obtain ⟨hfirst, hrest⟩ := List.forall_mem_cons.1 h
    rw [List.mapM_cons, List.mapM_cons]
    exact rel_bind hfirst fun _ _ hfield => rel_bind (ih hrest) fun _ _ hfields =>
      .some (.cons hfield hfields)

theorem all_isSome_of_kept {kept added : List (Option String × Document)}
    (hkept : List.Forall₂ (fun member other =>
      member.1 = other.1 ∧ AlikeUnder parts member.1 member.2 other.2) members kept)
    (hadded : ∀ member ∈ added, IsUnknown known member) (hperm : others.Perm (kept ++ added)) :
    (members.all fun member => member.1.isSome) = others.all fun member => member.1.isSome := by
  have hkeptAll : (members.all fun member => member.1.isSome) =
      kept.all fun member => member.1.isSome := by
    clear hperm
    induction hkept with
    | nil => rfl
    | cons hmember hrest ih =>
      rw [List.all_cons, List.all_cons, hmember.1, ih]
  have haddedAll : (added.all fun member => member.1.isSome) = true := by
    refine List.all_eq_true.2 fun member hmem => ?_
    obtain ⟨name, hname, -⟩ := hadded member hmem
    rw [hname]
    rfl
  rw [hperm.all_eq, List.all_append, haddedAll, Bool.and_true, hkeptAll]

/-- The fields of a record do not depend on the order of its members, nor on unknown ones. -/
theorem rel_objectFields? {kept added : List (Option String × Document)}
    (hkept : List.Forall₂ (fun member other =>
      member.1 = other.1 ∧ AlikeUnder parts member.1 member.2 other.2) members kept)
    (hadded : ∀ member ∈ added, IsUnknown known member) (hperm : others.Perm (kept ++ added)) :
    Option.Rel (AlikeFields parts known) (objectFields? known members)
      (objectFields? known others) := by
  unfold objectFields?
  rw [all_isSome_of_kept hkept hadded hperm]
  split
  · refine rel_mapM fun names hknown => ?_
    have hvalues : (valuesNamed names others).Perm (valuesNamed names kept) := by
      have hfiltered : (valuesNamed names others).Perm (valuesNamed names (kept ++ added)) :=
        hperm.filterMap _
      have happend : valuesNamed names (kept ++ added) =
          valuesNamed names kept ++ valuesNamed names added := List.filterMap_append
      rwa [happend, valuesNamed_unknown hadded hknown, List.append_nil] at hfiltered
    exact rel_atMostOne? (forall₂_valuesNamed hkept) hvalues
  · exact .none

/-! ## Readers -/

theorem bind_eq_of_rel {β γ : Type} {related : α → β → Prop} {first : Option α} {second : Option β}
    {f : α → Option γ} {g : β → Option γ} (h : Option.Rel related first second)
    (hnext : ∀ value other, related value other → f value = g other) :
    first.bind f = second.bind g := by
  cases h with
  | none => rfl
  | some hvalue => exact hnext _ _ hvalue

theorem read_eq_of_alikeIn {read : Document → Option α}
    (hparts : ∀ part ∈ parts, part.1 ∈ names → ∀ document other, part.2 document other →
      read document = read other) (h : AlikeIn parts names document other) :
    read document = read other := by
  obtain ⟨name, hname, rfl | ⟨part, hpart, heq, halike⟩⟩ := h
  · rfl
  · obtain rfl := Option.some.inj heq
    exact hparts part hpart hname _ _ halike

theorem orDefault_eq_of_rel {read : Document → Option α} {field? other? : Option Document}
    (h : Option.Rel (AlikeIn parts names) field? other?) (default : α)
    (hparts : ∀ part ∈ parts, part.1 ∈ names → ∀ document other, part.2 document other →
      read document = read other) :
    orDefault default read field? = orDefault default read other? := by
  cases h with
  | none => rfl
  | some hvalue => exact read_eq_of_alikeIn hparts hvalue

theorem AlikeFields.eq {fields others : List (Option Document)}
    (h : AlikeFields [] known fields others) : fields = others := by
  induction h with
  | nil => rfl
  | cons hfield hrest ih =>
    cases hfield with
    | none => rw [ih]
    | some hvalue =>
      obtain ⟨_, -, rfl | ⟨_, hpart, -⟩⟩ := hvalue
      · rw [ih]
      · cases hpart

/-- The order of the members and unknown members make no difference. -/
theorem fields?_eq_of_sameRecord (h : SameRecord known [] document other) :
    fields? known document = fields? known other := by
  cases h with
  | refl => rfl
  | object hkept hadded hperm =>
    have hfields := bind_eq_of_rel (rel_objectFields? hkept hadded hperm)
      fun _ _ hfields => congrArg some hfields.eq
    rwa [Option.bind_fun_some, Option.bind_fun_some] at hfields

theorem list?_eq_of_eachItem {alike : Document → Document → Prop} {read : Document → Option α}
    (hread : ∀ document other, alike document other → read document = read other)
    (h : EachItem alike document other) : list? read document = list? read other := by
  cases h with
  | refl => rfl
  | array hitems =>
    change List.mapM read _ = List.mapM read _
    induction hitems with
    | nil => rfl
    | cons hitem hrest ih => rw [List.mapM_cons, List.mapM_cons, hread _ _ hitem, ih]

theorem nullable?_eq_of_eachItem {alike : Document → Document → Prop}
    {read : Document → Option α} (hread : read document = read other)
    (h : EachItem alike document other) : nullable? read document = nullable? read other := by
  cases h with
  | refl => rfl
  | array hitems => exact congrArg (Option.map some) hread

theorem nullable?_eq_of_sameRecord {read : Document → Option α}
    (hread : read document = read other) (h : SameRecord known parts document other) :
    nullable? read document = nullable? read other := by
  cases h with
  | refl => rfl
  | object hkept hadded hperm => exact congrArg (Option.map some) hread

end CypherSession.Json.Document

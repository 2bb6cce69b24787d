/-!
# Dictionaries

Finite maps from names to values, kept as entries in strictly increasing order of their names, so
that two dictionaries with the same values under the same names are equal.
-/

namespace CypherSession

variable {α β : Type}

def insertEntry (name : String) (value : α) : List (String × α) → List (String × α)
  | [] => [(name, value)]
  | (n, v) :: rest =>
    if name < n then (name, value) :: (n, v) :: rest
    else if name = n then (name, value) :: rest
    else (n, v) :: insertEntry name value rest

def lookup? (name : String) : List (String × α) → Option α
  | [] => none
  | (n, v) :: rest => if n = name then some v else lookup? name rest

abbrev Ordered (entries : List (String × α)) : Prop :=
  entries.Pairwise fun first second => first.1 < second.1

theorem lt_or_eq_or_gt (a b : String) : a < b ∨ a = b ∨ b < a := by
  by_cases h : a < b
  · exact .inl h
  · by_cases h' : b < a
    · exact .inr (.inr h')
    · exact .inr (.inl (String.le_antisymm (String.not_lt.1 h') (String.not_lt.1 h)))

theorem mem_insertEntry {name : String} {value : α} {entries : List (String × α)}
    {x : String × α} (h : x ∈ insertEntry name value entries) :
    x = (name, value) ∨ x ∈ entries := by
  induction entries with
  | nil => simpa [insertEntry] using h
  | cons e rest ih =>
    obtain ⟨n, v⟩ := e
    unfold insertEntry at h
    split at h
    · simpa using h
    · split at h
      · rcases List.mem_cons.1 h with h | h
        · exact .inl h
        · exact .inr (List.mem_cons_of_mem _ h)
      · rcases List.mem_cons.1 h with h | h
        · exact .inr (h ▸ List.mem_cons_self)
        · exact (ih h).imp_right (List.mem_cons_of_mem _)

theorem ordered_insertEntry {name : String} {value : α} {entries : List (String × α)}
    (h : Ordered entries) : Ordered (insertEntry name value entries) := by
  induction entries with
  | nil => simp [insertEntry]
  | cons e rest ih =>
    obtain ⟨n, v⟩ := e
    obtain ⟨hhead, htail⟩ := List.pairwise_cons.1 h
    unfold insertEntry
    split
    · next hlt =>
      refine List.pairwise_cons.2 ⟨fun x hx => ?_, h⟩
      rcases List.mem_cons.1 hx with rfl | hx
      · exact hlt
      · exact String.lt_trans hlt (hhead x hx)
    · next hnlt =>
      split
      · next heq =>
        subst heq
        exact List.pairwise_cons.2 ⟨hhead, htail⟩
      · next hne =>
        have hgt : n < name := by
          rcases lt_or_eq_or_gt name n with h1 | h1 | h1
          · exact absurd h1 hnlt
          · exact absurd h1 hne
          · exact h1
        refine List.pairwise_cons.2 ⟨fun x hx => ?_, ih htail⟩
        rcases mem_insertEntry hx with rfl | hx
        · exact hgt
        · exact hhead x hx

theorem lookup?_insertEntry_self (name : String) (value : α) (entries : List (String × α)) :
    lookup? name (insertEntry name value entries) = some value := by
  induction entries with
  | nil => simp [insertEntry, lookup?]
  | cons e rest ih =>
    obtain ⟨n, v⟩ := e
    unfold insertEntry
    split
    · simp [lookup?]
    · split
      · simp [lookup?]
      · next hne => simp [lookup?, Ne.symm hne, ih]

theorem lookup?_insertEntry_of_ne {name other : String} (hne : other ≠ name) (value : α)
    (entries : List (String × α)) :
    lookup? other (insertEntry name value entries) = lookup? other entries := by
  induction entries with
  | nil => simp [insertEntry, lookup?, Ne.symm hne]
  | cons e rest ih =>
    obtain ⟨n, v⟩ := e
    unfold insertEntry
    split
    · simp [lookup?, Ne.symm hne]
    · split
      · next heq => subst heq; simp [lookup?, Ne.symm hne]
      · simp [lookup?, ih]

theorem lookup?_eq_none {name : String} {entries : List (String × α)}
    (h : ∀ x ∈ entries, name < x.1) : lookup? name entries = none := by
  induction entries with
  | nil => rfl
  | cons e rest ih =>
    obtain ⟨n, v⟩ := e
    have hn : n ≠ name := by
      rintro rfl
      exact String.lt_irrefl n (h (n, v) List.mem_cons_self)
    simp [lookup?, hn, ih fun x hx => h x (List.mem_cons_of_mem _ hx)]

/-- Ordered entries are determined by the value under each name. -/
theorem eq_of_lookup?_eq {first second : List (String × α)} (hfirst : Ordered first)
    (hsecond : Ordered second) (h : ∀ name, lookup? name first = lookup? name second) :
    first = second := by
  induction first generalizing second with
  | nil =>
    cases second with
    | nil => rfl
    | cons e rest => simpa [lookup?] using h e.1
  | cons e rest ih =>
    obtain ⟨n, v⟩ := e
    cases second with
    | nil => simpa [lookup?] using h n
    | cons e' rest' =>
      obtain ⟨n', v'⟩ := e'
      obtain ⟨hhead, htail⟩ := List.pairwise_cons.1 hfirst
      obtain ⟨hhead', htail'⟩ := List.pairwise_cons.1 hsecond
      have hn : n = n' := by
        rcases lt_or_eq_or_gt n n' with hlt | heq | hlt
        · have hnone : lookup? n ((n', v') :: rest') = none :=
            lookup?_eq_none fun x hx => by
              rcases List.mem_cons.1 hx with rfl | hx
              · exact hlt
              · exact String.lt_trans hlt (hhead' x hx)
          have := h n
          rw [hnone] at this
          simp [lookup?] at this
        · exact heq
        · have hnone : lookup? n' ((n, v) :: rest) = none :=
            lookup?_eq_none fun x hx => by
              rcases List.mem_cons.1 hx with rfl | hx
              · exact hlt
              · exact String.lt_trans hlt (hhead x hx)
          have := h n'
          rw [hnone] at this
          simp [lookup?] at this
      subst hn
      have hv : v = v' := by simpa [lookup?] using h n
      subst hv
      refine congrArg _ (ih htail htail' fun name => ?_)
      by_cases hname : n = name
      · subst hname
        rw [lookup?_eq_none fun x hx => hhead x hx, lookup?_eq_none fun x hx => hhead' x hx]
      · simpa [lookup?, hname] using h name

structure Dictionary (α : Type) where
  entries : List (String × α)
  ordered : Ordered entries
  deriving DecidableEq

namespace Dictionary

def empty : Dictionary α := ⟨[], List.Pairwise.nil⟩

instance : EmptyCollection (Dictionary α) := ⟨empty⟩
instance : Inhabited (Dictionary α) := ⟨empty⟩

def find? (dictionary : Dictionary α) (name : String) : Option α :=
  lookup? name dictionary.entries

def insert (dictionary : Dictionary α) (name : String) (value : α) : Dictionary α :=
  ⟨insertEntry name value dictionary.entries, ordered_insertEntry dictionary.ordered⟩

/-- The pairs put in one after the other, so that the last one with a name stays. -/
def ofList (pairs : List (String × α)) : Dictionary α :=
  pairs.foldl (fun dictionary pair => dictionary.insert pair.1 pair.2) empty

def names (dictionary : Dictionary α) : List String := dictionary.entries.map (·.1)

@[simp] theorem find?_empty (name : String) : (empty : Dictionary α).find? name = none := rfl

theorem find?_insert (dictionary : Dictionary α) (name other : String) (value : α) :
    (dictionary.insert name value).find? other =
      if other = name then some value else dictionary.find? other := by
  split
  · next h => subst h; exact lookup?_insertEntry_self _ _ _
  · next h => exact lookup?_insertEntry_of_ne h _ _

@[ext] theorem ext {first second : Dictionary α}
    (h : ∀ name, first.find? name = second.find? name) : first = second := by
  obtain ⟨entries, ordered⟩ := first
  obtain ⟨entries', ordered'⟩ := second
  obtain rfl : entries = entries' := eq_of_lookup?_eq ordered ordered' h
  rfl

end Dictionary

end CypherSession

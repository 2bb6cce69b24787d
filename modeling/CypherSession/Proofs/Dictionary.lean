import CypherSession.Dictionary
import Mathlib.Data.List.Nodup

/-!
# Pairs put into a dictionary

If no two pairs have the same name, the dictionary holds exactly these pairs, in whatever order they
were put in.
-/

namespace CypherSession

variable {α : Type} {name : String} {value : α}

theorem lookup?_eq_some_iff {entries : List (String × α)} (h : Ordered entries) :
    lookup? name entries = some value ↔ (name, value) ∈ entries := by
  induction entries with
  | nil => simp [lookup?]
  | cons entry rest ih =>
    obtain ⟨n, v⟩ := entry
    obtain ⟨hhead, htail⟩ := List.pairwise_cons.1 h
    rw [lookup?, List.mem_cons, Prod.mk.injEq]
    by_cases hname : n = name
    · -- The names after the first one are greater, so they are others.
      have hrest : (name, value) ∉ rest := by
        intro hmem
        have hless : n < name := hhead (name, value) hmem
        exact String.lt_irrefl name (hname ▸ hless)
      simp [hname, hrest, eq_comm]
    · rw [if_neg hname, ih htail]
      simp [Ne.symm hname]

namespace Dictionary

theorem mem_entries_iff (dictionary : Dictionary α) :
    (name, value) ∈ dictionary.entries ↔ dictionary.find? name = some value :=
  (lookup?_eq_some_iff dictionary.ordered).symm

theorem nodup_names (dictionary : Dictionary α) : dictionary.names.Nodup := by
  refine List.pairwise_map.2 (dictionary.ordered.imp fun hless heq => ?_)
  rw [heq] at hless
  exact String.lt_irrefl _ hless

def insertAll (dictionary : Dictionary α) (pairs : List (String × α)) : Dictionary α :=
  pairs.foldl (fun dictionary pair => dictionary.insert pair.1 pair.2) dictionary

theorem find?_insertAll_of_not_mem {pairs : List (String × α)} (h : name ∉ pairs.map Prod.fst)
    (dictionary : Dictionary α) :
    (dictionary.insertAll pairs).find? name = dictionary.find? name := by
  induction pairs generalizing dictionary with
  | nil => rfl
  | cons pair rest ih =>
    rw [List.map_cons, List.mem_cons, not_or] at h
    calc (dictionary.insertAll (pair :: rest)).find? name
        = (dictionary.insert pair.1 pair.2).find? name := ih h.2 _
      _ = dictionary.find? name := by rw [find?_insert, if_neg h.1]

/-- Pairs with different names can all be found after they are put in. -/
theorem find?_insertAll_of_mem {pairs : List (String × α)} (hnodup : (pairs.map Prod.fst).Nodup)
    (h : (name, value) ∈ pairs) (dictionary : Dictionary α) :
    (dictionary.insertAll pairs).find? name = some value := by
  induction pairs generalizing dictionary with
  | nil => cases h
  | cons pair rest ih =>
    obtain ⟨hhead, htail⟩ := List.nodup_cons.1 hnodup
    rcases List.mem_cons.1 h with rfl | hmem
    · calc (dictionary.insertAll ((name, value) :: rest)).find? name
          = (dictionary.insert name value).find? name := find?_insertAll_of_not_mem hhead _
        _ = some value := by rw [find?_insert, if_pos rfl]
    · exact ih htail hmem _

/-- Putting pairs in changes nothing if they are there already, and only then. -/
theorem insertAll_eq_self_iff {dictionary : Dictionary α} {pairs : List (String × α)}
    (hnodup : (pairs.map Prod.fst).Nodup) :
    dictionary.insertAll pairs = dictionary ↔
      ∀ name value, (name, value) ∈ pairs → dictionary.find? name = some value := by
  constructor
  · intro hself name value hmem
    rw [← hself]
    exact find?_insertAll_of_mem hnodup hmem dictionary
  · refine fun hthere => Dictionary.ext fun name => ?_
    by_cases hname : name ∈ pairs.map Prod.fst
    · obtain ⟨⟨name, value⟩, hmem, rfl⟩ := List.mem_map.1 hname
      rw [find?_insertAll_of_mem hnodup hmem, hthere name value hmem]
    · exact find?_insertAll_of_not_mem hname dictionary

theorem find?_ofList_eq_some_iff {pairs : List (String × α)}
    (hnodup : (pairs.map Prod.fst).Nodup) :
    (ofList pairs).find? name = some value ↔ (name, value) ∈ pairs := by
  constructor
  · intro hfind
    by_cases hname : name ∈ pairs.map Prod.fst
    · obtain ⟨⟨_, other⟩, hmem, rfl⟩ := List.mem_map.1 hname
      have hother := find?_insertAll_of_mem hnodup hmem empty
      obtain rfl : other = value := Option.some.inj (hother.symm.trans hfind)
      exact hmem
    · have hnone : (ofList pairs).find? name = none := find?_insertAll_of_not_mem hname empty
      rw [hnone] at hfind
      cases hfind
  · exact fun hmem => find?_insertAll_of_mem hnodup hmem empty

/-- The order of pairs with different names does not matter. -/
theorem ofList_perm {pairs others : List (String × α)} (hperm : pairs.Perm others)
    (hnodup : (pairs.map Prod.fst).Nodup) : ofList pairs = ofList others := by
  have hothers : (others.map Prod.fst).Nodup := (hperm.map Prod.fst).nodup_iff.1 hnodup
  refine Dictionary.ext fun name => Option.ext fun value => ?_
  rw [find?_ofList_eq_some_iff hnodup, find?_ofList_eq_some_iff hothers, hperm.mem_iff]

/-- A dictionary made of pairs with different names has these pairs as its entries. -/
theorem entries_ofList_perm {pairs : List (String × α)} (hnodup : (pairs.map Prod.fst).Nodup) :
    (ofList pairs).entries.Perm pairs := by
  have hentries : (ofList pairs).entries.Nodup := List.Nodup.of_map Prod.fst (nodup_names _)
  refine (List.perm_ext_iff_of_nodup hentries (List.Nodup.of_map Prod.fst hnodup)).2 ?_
  rintro ⟨name, value⟩
  rw [mem_entries_iff, find?_ofList_eq_some_iff hnodup]

end Dictionary

end CypherSession

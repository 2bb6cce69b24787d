import CypherSession.Proofs.Text.Spelling
import CypherSession.Settings.Url

/-!
# Schemes of connection URLs

What the words before the authority of a connection URL may look like, and that reading takes off
exactly these. No two of the words begin with the same letter, so none is taken for another one.
-/

namespace CypherSession

namespace Locator

open Text (Spells)

/-- The text begins with the scheme, after an optional `jdbc:` and an optional `neo4j:`, all of them
in letters of either case. -/
def HasScheme (scheme text rest : List Char) : Prop :=
  ∃ jdbc neo4j written, text = jdbc ++ (neo4j ++ (written ++ rest)) ∧
    (jdbc = [] ∨ Spells "jdbc:".toList jdbc) ∧ (neo4j = [] ∨ Spells "neo4j:".toList neo4j) ∧
      Spells scheme written

/-- The words before a scheme are taken off, and the scheme decides the rest. -/
theorem exists_splitScheme? {scheme text rest : List Char} (hscheme : scheme.head? = some 'h')
    (h : HasScheme scheme text rest) :
    ∃ written, Spells scheme written ∧
      splitScheme? text =
        ((Text.stripStart "https://".toList (written ++ rest)).map fun rest => (true, rest)).or
          ((Text.stripStart "http://".toList (written ++ rest)).map fun rest => (false, rest)) := by
  obtain ⟨jdbc, neo4j, written, rfl, hjdbc, hneo4j, hwritten⟩ := h
  obtain ⟨letters, rfl⟩ := List.head?_eq_some_iff.1 hscheme
  have hneo4jRest : Text.stripStart "neo4j:".toList (written ++ rest) = none :=
    Text.stripStart_of_spells_other hwritten (by decide) rest
  have hjdbcRest : Text.stripStart "jdbc:".toList (neo4j ++ (written ++ rest)) = none := by
    rcases hneo4j with rfl | hspells
    · exact Text.stripStart_of_spells_other hwritten (by decide) rest
    · exact Text.stripStart_of_spells_other hspells (by decide) (written ++ rest)
  have hafterJdbc := Text.getD_stripStart hjdbc hjdbcRest
  have hafterNeo4j := Text.getD_stripStart hneo4j hneo4jRest
  refine ⟨written, hwritten, ?_⟩
  simp only [splitScheme?, hafterJdbc, hafterNeo4j]
  cases Text.stripStart "https://".toList (written ++ rest) <;> rfl

theorem splitScheme?_of_https {text rest : List Char}
    (h : HasScheme "https://".toList text rest) : splitScheme? text = some (true, rest) := by
  obtain ⟨written, hwritten, hsplit⟩ := exists_splitScheme? (by decide) h
  rw [hsplit, Text.stripStart_of_spells hwritten]
  rfl

theorem splitScheme?_of_http {text rest : List Char}
    (h : HasScheme "http://".toList text rest) : splitScheme? text = some (false, rest) := by
  obtain ⟨written, hwritten, hsplit⟩ := exists_splitScheme? (by decide) h
  -- The two schemes begin alike, and part where only one of them has an `s`.
  have hparts : Spells ("http".toList ++ "://".toList) written := hwritten
  obtain ⟨head, tail, rfl, hhead, htail⟩ := hparts.exists_append
  have hhttps : Text.stripStart "https://".toList (head ++ tail ++ rest) = none := by
    rw [List.append_assoc]
    exact (Text.stripStart_append_of_spells hhead (tail ++ rest)).trans
      (Text.stripStart_of_spells_other htail (by decide) rest)
  rw [hsplit, hhttps, Text.stripStart_of_spells hwritten]
  rfl

end Locator

end CypherSession

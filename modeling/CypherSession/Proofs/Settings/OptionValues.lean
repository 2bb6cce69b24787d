import CypherSession.Proofs.Settings.OptionText

/-!
# Names and values of options

An option with a meaning has one name or several ones, and takes its value from a text, a word or a
numeral.
-/

namespace CypherSession

open Result

/-! ## Names and values -/

namespace Locator

open Text (Spells)

def Key.words : Key → List String
  | .username => ["user", "username"]
  | .password => ["password"]
  | .autoCommit => ["autocommit"]
  | .maxRows => ["maxrows"]
  | .debug => ["debug"]
  | .readOnly => ["readonly"]
  | .useTls => ["ssl", "secure", "tls"]
  | .timeout => ["timeout"]
  | .database => ["database"]

/-- The name means the option. The case of its letters does not matter. -/
def Key.Names (key : Key) (name : String) : Prop :=
  ∃ word ∈ key.words, Spells word.toList name.toList

def trueWords : List String := ["true", "1", "yes", "on"]

def falseWords : List String := ["false", "0", "no", "off"]

def ReadsBool (value : String) (enabled : Bool) : Prop :=
  ∃ word ∈ if enabled then trueWords else falseWords, Spells word.toList value.toList

/-- The value is a numeral for the number, which fits in 64 bits. -/
def ReadsNumber (value : String) (n : Nat) : Prop :=
  Text.unsigned? UInt64.size value.toList = some n

def small (text : String) : String := String.ofList (text.toList.map Char.toLower)

theorem exists_spells_iff {words : List String} (hwords : ∀ word ∈ words, small word = word)
    {text : String} :
    (∃ word ∈ words, Spells word.toList text.toList) ↔ small text ∈ words := by
  constructor
  · rintro ⟨word, hmem, hspells⟩
    have hsmall : small text = small word := congrArg String.ofList hspells
    rw [hsmall, hwords word hmem]
    exact hmem
  · intro hmem
    have hsmall : small text = small (small text) := (hwords _ hmem).symm
    exact ⟨small text, hmem, String.ofList_injective hsmall⟩

theorem ofName?_eq_some_iff {name : String} {key : Key} :
    Key.ofName? name = some key ↔ key.Names name := by
  have hwords : ∀ word ∈ key.words, small word = word := by cases key <;> decide +kernel
  rw [Key.Names, exists_spells_iff hwords, small]
  unfold Key.ofName?
  generalize String.ofList (name.toList.map Char.toLower) = word
  split
  case h_13 => cases key <;> simp_all [Key.words]
  all_goals cases key <;> decide

theorem ofName?_eq_none_iff {name : String} :
    Key.ofName? name = none ↔ ∀ key : Key, ¬key.Names name := by
  simp only [Option.eq_none_iff_forall_ne_some, ne_eq, ofName?_eq_some_iff]

theorem Key.Names.eq {name : String} {key other : Key} (h : key.Names name)
    (hother : other.Names name) : key = other := by
  rw [← ofName?_eq_some_iff] at h hother
  exact Option.some.inj (h.symm.trans hother)

theorem readsBool_of_readBool {name value : String} {enabled : Bool}
    (h : readBool name value = .ok enabled) : ReadsBool value enabled := by
  have hwords : ∀ word ∈ if enabled then trueWords else falseWords, small word = word := by
    cases enabled <;> decide +kernel
  rw [ReadsBool, exists_spells_iff hwords, small]
  unfold readBool at h
  generalize String.ofList (value.toList.map Char.toLower) = word at h ⊢
  split at h <;> cases h <;> decide

theorem readsNumber_of_readNumber {name value what : String} {n : Nat}
    (h : readNumber name value what = .ok n) : ReadsNumber value n := by
  unfold readNumber at h
  cases hread : Text.unsigned? UInt64.size value.toList with
  | none =>
    simp only [hread] at h
    cases h
  | some m =>
    simp only [hread] at h
    cases h
    exact hread

end Locator

/-! ## Settings that values write -/

open Locator (Key ReadsBool ReadsNumber)

inductive Setting.Reads (value : String) : Setting → Prop where
  | username : Reads value (.username value)
  | password : Reads value (.password value)
  | autoCommit {enabled : Bool} (h : ReadsBool value enabled) : Reads value (.autoCommit enabled)
  | maxRows {n : Nat} (h : ReadsNumber value n) : Reads value (.maxRows n)
  | debug {enabled : Bool} (h : ReadsBool value enabled) : Reads value (.debug enabled)
  | readOnly {enabled : Bool} (h : ReadsBool value enabled) : Reads value (.readOnly enabled)
  | useTls {enabled : Bool} (h : ReadsBool value enabled) : Reads value (.useTls enabled)
  | timeout {seconds : Nat} (h : ReadsNumber value seconds) :
      Reads value (.timeout (.ofSeconds seconds))
  | database : Reads value (.database value)

theorem Setting.reads_of_ofKey {name value : String} {key : Key} {setting : Setting}
    (h : ofKey name value key = .ok setting) : setting.Reads value := by
  cases key with
  | username =>
    cases h
    exact .username
  | password =>
    cases h
    exact .password
  | database =>
    cases h
    exact .database
  | autoCommit =>
    obtain ⟨_, hread, rfl⟩ := map_eq_ok_iff.1 h
    exact .autoCommit (Locator.readsBool_of_readBool hread)
  | debug =>
    obtain ⟨_, hread, rfl⟩ := map_eq_ok_iff.1 h
    exact .debug (Locator.readsBool_of_readBool hread)
  | readOnly =>
    obtain ⟨_, hread, rfl⟩ := map_eq_ok_iff.1 h
    exact .readOnly (Locator.readsBool_of_readBool hread)
  | useTls =>
    obtain ⟨_, hread, rfl⟩ := map_eq_ok_iff.1 h
    exact .useTls (Locator.readsBool_of_readBool hread)
  | maxRows =>
    obtain ⟨_, hread, rfl⟩ := map_eq_ok_iff.1 h
    exact .maxRows (Locator.readsNumber_of_readNumber hread)
  | timeout =>
    obtain ⟨_, hread, rfl⟩ := map_eq_ok_iff.1 h
    exact .timeout (Locator.readsNumber_of_readNumber hread)

end CypherSession

import CypherSession.Proofs.Dictionary
import CypherSession.Proofs.Settings.PasswordUrl

/-!
# Options as they are written

The grammar of connection URLs as far as the options: the scheme, the authority up to the first
question mark, and after it segments between commas or ampersands, of which empty ones do not count.
A segment writes a name and a value, or a name alone. A URL can be taken apart exactly if it is
written so, and its options end up in a dictionary, in an order that is not theirs.
-/

namespace CypherSession

open Result

/-! ## Schemes -/

namespace Locator

def schemeWords (isHttps : Bool) : List Char :=
  if isHttps then "https://".toList else "http://".toList

/-- The reader of the scheme finds it in every spelling, and nowhere else. -/
theorem splitScheme?_eq_some_iff {text rest : List Char} {isHttps : Bool} :
    splitScheme? text = some (isHttps, rest) ↔ HasScheme (schemeWords isHttps) text rest := by
  constructor
  · intro h
    simp only [splitScheme?] at h
    obtain ⟨jdbc, hjdbc, hspellsJdbc⟩ := Text.exists_of_getD_stripStart "jdbc:".toList text
    generalize (Text.stripStart "jdbc:".toList text).getD text = afterJdbc at h hjdbc
    obtain ⟨neo4j, hneo4j, hspellsNeo4j⟩ :=
      Text.exists_of_getD_stripStart "neo4j:".toList afterJdbc
    generalize (Text.stripStart "neo4j:".toList afterJdbc).getD afterJdbc = afterNeo4j at h hneo4j
    have hscheme : ∃ written, afterNeo4j = written ++ rest ∧
        Text.Spells (schemeWords isHttps) written := by
      cases hhttps : Text.stripStart "https://".toList afterNeo4j with
      | some other =>
        simp only [hhttps] at h
        cases h
        exact Text.exists_of_stripStart hhttps
      | none =>
        simp only [hhttps] at h
        obtain ⟨other, hhttp, hother⟩ := Option.map_eq_some_iff.1 h
        cases hother
        exact Text.exists_of_stripStart hhttp
    obtain ⟨written, rfl, hwritten⟩ := hscheme
    rw [hneo4j] at hjdbc
    exact ⟨jdbc, neo4j, written, hjdbc, hspellsJdbc, hspellsNeo4j, hwritten⟩
  · intro h
    cases isHttps with
    | true => exact splitScheme?_of_https h
    | false => exact splitScheme?_of_http h

/-! ## Segments -/

inductive WritesOption : List Char → String × String → Prop where
  | named {key value name decoded : List Char} (hkey : '=' ∉ key)
      (hname : Text.Percent.decode key = .ok name)
      (hvalue : Text.Percent.decode value = .ok decoded) :
      WritesOption (key ++ '=' :: value) (String.ofList name, String.ofList decoded)
  | bare {key name : List Char} (hkey : '=' ∉ key) (hname : Text.Percent.decode key = .ok name) :
      WritesOption key (String.ofList name, "true")

theorem decode_eq_ok_iff {part : String} {text : List Char} {value : String} :
    decode part text = .ok value ↔
      ∃ decoded, Text.Percent.decode text = .ok decoded ∧ value = String.ofList decoded := by
  unfold decode
  cases Text.Percent.decode text with
  | error fault => simp
  | ok decoded => simp [eq_comm]

/-- A segment is read as an option exactly if it writes the option. -/
theorem readOption_eq_ok_iff {segment : List Char} {option : String × String} :
    readOption segment = .ok option ↔ WritesOption segment option := by
  obtain ⟨name, value⟩ := option
  constructor
  · intro h
    unfold readOption at h
    cases hcut : Text.cutFirst '=' segment with
    | none =>
      rw [hcut] at h
      obtain ⟨_, hname, h⟩ := bind_eq_ok_iff.1 h
      obtain ⟨_, hvalue, h⟩ := bind_eq_ok_iff.1 h
      cases h
      obtain ⟨decodedName, hdecode, rfl⟩ := decode_eq_ok_iff.1 hname
      have htrue : decode "value" "true".toList = .ok "true" := by decide +kernel
      cases hvalue.symm.trans htrue
      exact .bare (Text.cutFirst_eq_none_iff.1 hcut) hdecode
    | some parts =>
      obtain ⟨key, written⟩ := parts
      rw [hcut] at h
      obtain ⟨_, hname, h⟩ := bind_eq_ok_iff.1 h
      obtain ⟨_, hvalue, h⟩ := bind_eq_ok_iff.1 h
      cases h
      obtain ⟨decodedName, hdecode, rfl⟩ := decode_eq_ok_iff.1 hname
      obtain ⟨decodedValue, hdecode', rfl⟩ := decode_eq_ok_iff.1 hvalue
      obtain ⟨rfl, hkey⟩ := Text.cutFirst_eq_some_iff.1 hcut
      exact .named hkey hdecode hdecode'
  · intro h
    unfold readOption
    cases h with
    | @named key written decodedName decodedValue hkey hname hvalue =>
      rw [Text.cutFirst_eq_some_iff.2 ⟨rfl, hkey⟩, Option.getD_some]
      exact bind_eq_ok_iff.2 ⟨_, decode_eq_ok_iff.2 ⟨_, hname, rfl⟩,
        bind_eq_ok_iff.2 ⟨_, decode_eq_ok_iff.2 ⟨_, hvalue, rfl⟩, rfl⟩⟩
    | @bare _ decodedName hkey hname =>
      have htrue : decode "value" "true".toList = .ok "true" := by decide +kernel
      rw [Text.cutFirst_eq_none_iff.2 hkey, Option.getD_none]
      exact bind_eq_ok_iff.2 ⟨_, decode_eq_ok_iff.2 ⟨_, hname, rfl⟩,
        bind_eq_ok_iff.2 ⟨_, htrue, rfl⟩⟩

/-- The text writes the options, in segments between separators; empty segments write nothing. -/
def WritesOptions (text : List Char) (options : List (String × String)) : Prop :=
  List.Forall₂ WritesOption (segments text) options

/-- A text is read as the options that it writes, of which the last one with a name counts. -/
theorem readOptions_eq_ok_iff {text : List Char} {dictionary : Dictionary String} :
    readOptions text = .ok dictionary ↔
      ∃ options, WritesOptions text options ∧ Dictionary.ofList options = dictionary := by
  simp only [readOptions_eq, map_eq_ok_iff, mapM_eq_ok_iff, readOption_eq_ok_iff, WritesOptions]

/-! ## URLs -/

/-- A URL writes a scheme, an authority and options. Blanks around it do not count. -/
structure Writes (url : String) (isHttps : Bool) (authority : List Char)
    (options : List (String × String)) : Prop where
  noQuestion : '?' ∉ authority
  parts : ∃ query text,
    HasScheme (schemeWords isHttps) (Text.trim url.toList) (authority ++ query) ∧
    (query = [] ∧ text = [] ∨ query = '?' :: text) ∧ WritesOptions text options

theorem cutOptions_eq {authority query text : List Char} (hauthority : '?' ∉ authority)
    (hquery : query = [] ∧ text = [] ∨ query = '?' :: text) :
    cutOptions (authority ++ query) = (authority, text) := by
  rcases hquery with ⟨rfl, rfl⟩ | rfl
  · exact cutOptions_append hauthority (by simp)
  · exact cutOptions_append hauthority (by simp)

theorem exists_of_cutOptions (rest : List Char) :
    '?' ∉ (cutOptions rest).1 ∧ ∃ query, rest = (cutOptions rest).1 ++ query ∧
      (query = [] ∧ (cutOptions rest).2 = [] ∨ query = '?' :: (cutOptions rest).2) := by
  unfold cutOptions
  cases hcut : Text.cutFirst '?' rest with
  | none =>
    exact ⟨Text.cutFirst_eq_none_iff.1 hcut, [], (List.append_nil rest).symm, .inl ⟨rfl, rfl⟩⟩
  | some parts =>
    obtain ⟨authority, text⟩ := parts
    obtain ⟨rfl, hauthority⟩ := Text.cutFirst_eq_some_iff.1 hcut
    exact ⟨hauthority, '?' :: text, rfl, .inr rfl⟩

/-- A URL can be taken apart exactly if it is written as a scheme, an authority and options. -/
theorem ofUrl_eq_ok_iff {url : String} {locator : Locator} :
    ofUrl url = .ok locator ↔ ∃ options, Writes url locator.isHttps locator.authority options ∧
      (Dictionary.ofList options).entries = locator.options := by
  obtain ⟨isHttps, authority, entries⟩ := locator
  constructor
  · intro h
    cases hsplit : splitScheme? (Text.trim url.toList) with
    | none =>
      simp only [ofUrl, hsplit] at h
      cases h
    | some parts =>
      obtain ⟨isHttps', rest⟩ := parts
      rw [ofUrl_eq hsplit] at h
      obtain ⟨dictionary, hread, hlocator⟩ := map_eq_ok_iff.1 h
      cases hlocator
      obtain ⟨options, hwrites, rfl⟩ := readOptions_eq_ok_iff.1 hread
      obtain ⟨hauthority, query, hrest, hquery⟩ := exists_of_cutOptions rest
      rw [hrest] at hsplit
      exact ⟨options, ⟨hauthority, query, _, splitScheme?_eq_some_iff.1 hsplit, hquery, hwrites⟩,
        rfl⟩
  · rintro ⟨options, ⟨hauthority, query, text, hscheme, hquery, hwrites⟩, hentries⟩
    rw [ofUrl_eq (splitScheme?_eq_some_iff.2 hscheme), cutOptions_eq hauthority hquery,
      readOptions_eq_ok_iff.2 ⟨options, hwrites, rfl⟩, Except.map, hentries]

end Locator

end CypherSession

import CypherSession.Proofs.Settings.OptionEffects
import CypherSession.Proofs.Settings.RoundTrip

/-!
# The place of the server

Between the user information of a URL and its options stands the place of the server: a host, with
or without brackets around it, and a port after a colon or none. Reading takes all of the place to
be one of these, with one exception: behind the bracket that closes a host it looks for a colon, and
what stands there without one is passed over.
-/

namespace CypherSession

open Result

namespace Text

theorem getLast?_dropEndWhile {p : Char → Bool} {text : List Char} :
    ∀ c ∈ (dropEndWhile p text).getLast?, p c = false := by
  intro c hc
  rw [dropEndWhile, List.getLast?_reverse] at hc
  have hnot := List.head?_dropWhile_not p text.reverse
  rw [Option.mem_def.1 hc] at hnot
  simpa using hnot

end Text

namespace Locator

open Text (dropEndWhile)

/-- The text spells the number in decimal: digits, with or without a plus sign before them. -/
def SpellsNumber (n : Nat) (text : List Char) : Prop :=
  ∃ sign digits, text = sign ++ digits ∧ (sign = [] ∨ sign = ['+']) ∧ digits ≠ [] ∧
    (∀ c ∈ digits, c.isDigit = true) ∧ Nat.ofDigitChars 10 digits 0 = n

inductive PlaceForm where
  | host
  | hostPort
  | brackets
  | bracketsPort
  deriving DecidableEq

def PlaceForm.Writes (form : PlaceForm) (host : List Char) (port : Nat) (place : List Char) :
    Prop :=
  match form with
  | .host => place = host
  | .hostPort => ∃ digits, SpellsNumber port digits ∧ place = host ++ ':' :: digits
  | .brackets => place = '[' :: host ++ [']']
  | .bracketsPort =>
    ∃ digits, SpellsNumber port digits ∧ place = '[' :: host ++ ']' :: ':' :: digits

/-- The text stands unread in the place, behind the bracket that closes the host: it is not empty,
and it does not begin with a colon. -/
def Unread (place host rest : List Char) : Prop :=
  place = '[' :: host ++ ']' :: rest ∧ rest ≠ [] ∧ rest.head? ≠ some ':'

/-- The URL has the place between its user information and its options; slashes at the end do not
count. -/
def HasPlace (url : String) (place : List Char) : Prop :=
  ∃ isHttps userInfo slashes query,
    HasScheme (schemeWords isHttps) (Text.trim url.toList)
      (userInfo ++ (place ++ slashes) ++ query) ∧
    '?' ∉ userInfo ++ (place ++ slashes) ∧ (∀ c ∈ query.head?, c = '?') ∧
    (userInfo = [] ∨ ∃ user, userInfo = user ++ ['@']) ∧ '@' ∉ place ∧
    (∀ c ∈ slashes, c = '/') ∧ ∀ c ∈ place.getLast?, c ≠ '/'

variable {url : String} {text place host rest : List Char} {port? : Option UInt16}

/-! ## Where the place is -/

theorem dropEndWhile_slashes {slashes : List Char} (hslashes : ∀ c ∈ slashes, c = '/')
    (hlast : ∀ c ∈ place.getLast?, c ≠ '/') :
    dropEndWhile (· = '/') (place ++ slashes) = place := by
  rw [Text.dropEndWhile_append fun c hc => decide_eq_true (hslashes c hc)]
  exact Text.dropEndWhile_of_getLast? fun c hc => decide_eq_false (hlast c hc)

/-- The place is what the reader of URLs cuts out. -/
theorem hasPlace_iff :
    HasPlace url place ↔ ∃ isHttps rest,
      splitScheme? (Text.trim url.toList) = some (isHttps, rest) ∧
      dropEndWhile (· = '/') (userAndHost (cutOptions rest).1).2 = place := by
  constructor
  · rintro ⟨isHttps, userInfo, slashes, query, hscheme, hauthority, hquery, huser, hat, hslashes,
      hlast⟩
    have hslashesAt : '@' ∉ slashes := by
      intro hmem
      cases hslashes _ hmem
    have hparts : (userAndHost (userInfo ++ (place ++ slashes))).2 = place ++ slashes := by
      have hhost : '@' ∉ place ++ slashes := by simp [hat, hslashesAt]
      rcases huser with rfl | ⟨user, rfl⟩
      · rw [List.nil_append, userAndHost, Text.cutLast_eq_none_iff.2 hhost]
      · rw [List.append_assoc, List.singleton_append, userAndHost_eq hhost]
    refine ⟨isHttps, _, splitScheme?_eq_some_iff.2 hscheme, ?_⟩
    rw [cutOptions_append hauthority hquery, hparts]
    exact dropEndWhile_slashes hslashes hlast
  · rintro ⟨isHttps, rest, hsplit, rfl⟩
    obtain ⟨hauthority, query, hrest, hquery⟩ := exists_of_cutOptions rest
    have hstart : ∀ c ∈ query.head?, c = '?' := by
      rcases hquery with ⟨rfl, -⟩ | hquery
      · simp
      · simp [hquery]
    obtain ⟨slashes, hslashes, hall⟩ := Text.exists_eq_dropEndWhile_append (· = '/')
      (userAndHost (cutOptions rest).1).2
    have hparts : ∃ userInfo, (cutOptions rest).1 =
        userInfo ++ (userAndHost (cutOptions rest).1).2 ∧
        (userInfo = [] ∨ ∃ user, userInfo = user ++ ['@']) ∧
        '@' ∉ (userAndHost (cutOptions rest).1).2 := by
      rcases userAndHost_cases (cutOptions rest).1 with ⟨heq, hat⟩ | ⟨user, hostPort, heq, htext, hat⟩
      · rw [heq]
        exact ⟨[], rfl, .inl rfl, hat⟩
      · rw [heq]
        exact ⟨user ++ ['@'], by rw [htext]; simp, .inr ⟨user, rfl⟩, hat⟩
    obtain ⟨userInfo, heq, huser, hat⟩ := hparts
    rw [hslashes] at heq hat
    refine ⟨isHttps, userInfo, slashes, query, ?_, ?_, hstart, huser, ?_, ?_, ?_⟩
    · rw [← heq, ← hrest]
      exact splitScheme?_eq_some_iff.1 hsplit
    · rwa [← heq]
    · exact fun hmem => hat (List.mem_append_left _ hmem)
    · intro c hc
      exact of_decide_eq_true (hall c hc)
    · intro c hc
      exact of_decide_eq_false (Text.getLast?_dropEndWhile c hc)

/-! ## How the place is written -/

/-- A port that is read is spelled by the text. -/
theorem spellsNumber_of_readPort {shown : List Char} {port : UInt16}
    (h : readPort shown text = .ok port) : SpellsNumber port.toNat text := by
  unfold readPort at h
  split at h
  · rename_i n hread
    obtain ⟨sign, digits, htext, hsign, hnumeral, hless⟩ := Text.unsigned?_eq_some_iff.1 hread
    obtain ⟨hne, hdigits, hvalue⟩ := Text.numeral?_eq_some_iff.1 hnumeral
    have hport : port.toNat = n := by
      rw [← Except.ok.inj h]
      exact Nat.mod_eq_of_lt hless
    exact ⟨sign, digits, htext, hsign, hne, hdigits, hvalue.trans hport.symm⟩
  · cases h

theorem bracket_not_mem_of_spellsNumber {n : Nat} (h : SpellsNumber n text) : ']' ∉ text := by
  obtain ⟨sign, digits, rfl, hsign, -, hdigits, -⟩ := h
  intro hmem
  rcases List.mem_append.1 hmem with hmem | hmem
  · rcases hsign with rfl | rfl
    · cases hmem
    · cases List.mem_singleton.1 hmem
  · cases hdigits _ hmem

theorem readPlain_cases (h : readPlain place = .ok (host, port?)) :
    (port? = none ∧ place = host) ∨ ∃ port digits, port? = some port ∧
      SpellsNumber port.toNat digits ∧ place = host ++ ':' :: digits := by
  unfold readPlain at h
  cases hcut : Text.cutLast ':' place with
  | none =>
    rw [hcut] at h
    cases h
    exact .inl ⟨rfl, rfl⟩
  | some parts =>
    obtain ⟨before, digits⟩ := parts
    rw [hcut] at h
    obtain ⟨port, hport, hparts⟩ := map_eq_ok_iff.1 h
    cases hparts
    exact .inr ⟨port, digits, rfl, spellsNumber_of_readPort hport,
      (Text.cutLast_eq_some_iff.1 hcut).1⟩

/-- What a place that is read looks like. Only behind a bracket may there be something unread. -/
theorem readHostPort_cases (h : readHostPort place = .ok (host, port?)) :
    (port? = none ∧
      (place = host ∨ ∃ rest, place = '[' :: host ++ ']' :: rest ∧ rest.head? ≠ some ':')) ∨
    ∃ port digits, port? = some port ∧ SpellsNumber port.toNat digits ∧
      (place = host ++ ':' :: digits ∨ place = '[' :: host ++ ']' :: ':' :: digits) := by
  by_cases hbrackets : ∃ inside rest, place = '[' :: inside ++ ']' :: rest ∧ ']' ∉ inside
  · obtain ⟨inside, rest, rfl, hinside⟩ := hbrackets
    have hcut : Text.cutFirst ']' (inside ++ ']' :: rest) = some (inside, rest) :=
      Text.cutFirst_eq_some_iff.2 ⟨rfl, hinside⟩
    simp only [readHostPort, List.cons_append, hcut] at h
    split at h
    · rename_i digits
      obtain ⟨port, hport, h⟩ := bind_eq_ok_iff.1 h
      cases h
      exact .inr ⟨port, digits, rfl, spellsNumber_of_readPort hport, .inr rfl⟩
    · rename_i hcolon
      cases h
      refine .inl ⟨rfl, .inr ⟨rest, rfl, fun hhead => ?_⟩⟩
      obtain ⟨digits, rfl⟩ := List.head?_eq_some_iff.1 hhead
      exact hcolon digits rfl
  · have hplain (rest : List Char) (hopen : place = '[' :: rest) : ']' ∉ rest := by
      intro hclose
      obtain ⟨inside, after, hrest, hinside⟩ := List.eq_append_cons_of_mem hclose
      exact hbrackets ⟨inside, after, by rw [hopen, hrest]; rfl, hinside⟩
    rw [readHostPort_eq_readPlain hplain] at h
    rcases readPlain_cases h with ⟨hnone, hplace⟩ | ⟨port, digits, hport, hdigits, hplace⟩
    · exact .inl ⟨hnone, .inl hplace⟩
    · exact .inr ⟨port, digits, hport, hdigits, .inl hplace⟩

/-! ## One way to write a place -/

theorem ne_brackets (host rest : List Char) : host ≠ '[' :: host ++ ']' :: rest := by
  intro heq
  have hlength := congrArg List.length heq
  rw [List.length_append, List.length_cons] at hlength
  omega

theorem hostPort_ne_brackets {n : Nat} {digits : List Char} (h : SpellsNumber n digits)
    (host rest : List Char) : host ++ ':' :: digits ≠ '[' :: host ++ ']' :: rest := by
  intro heq
  have hsplit : host ++ [':'] ++ digits = '[' :: host ++ ']' :: rest := by
    rw [List.append_assoc, List.singleton_append, heq]
  obtain ⟨-, hdigits⟩ := List.append_inj hsplit (by simp)
  apply bracket_not_mem_of_spellsNumber h
  rw [hdigits]
  exact List.mem_cons_self

namespace PlaceForm

variable {form other : PlaceForm} {port : Nat}

/-- A form without brackets, or what stands behind the bracket. -/
theorem Writes.cases (h : form.Writes host port place) :
    (form = .host ∧ place = host) ∨
    (form = .hostPort ∧ ∃ digits, SpellsNumber port digits ∧ place = host ++ ':' :: digits) ∨
    ∃ rest, place = '[' :: host ++ ']' :: rest ∧
      (form = .brackets ∧ rest = [] ∨ form = .bracketsPort ∧ rest.head? = some ':') := by
  cases form with
  | host => exact .inl ⟨rfl, h⟩
  | hostPort => exact .inr (.inl ⟨rfl, h⟩)
  | brackets => exact .inr (.inr ⟨[], h, .inl ⟨rfl, rfl⟩⟩)
  | bracketsPort =>
    obtain ⟨digits, -, hplace⟩ := h
    exact .inr (.inr ⟨':' :: digits, hplace, .inr ⟨rfl, rfl⟩⟩)

theorem Writes.of_brackets (h : form.Writes host port ('[' :: host ++ ']' :: rest)) :
    form = .brackets ∧ rest = [] ∨ form = .bracketsPort ∧ rest.head? = some ':' := by
  rcases h.cases with ⟨-, hplace⟩ | ⟨-, digits, hdigits, hplace⟩ | ⟨rest', hplace, hform⟩
  · exact absurd hplace.symm (ne_brackets host rest)
  · exact absurd hplace.symm (hostPort_ne_brackets hdigits host rest)
  · obtain ⟨-, rfl⟩ := List.cons.inj (List.append_cancel_left hplace)
    exact hform

/-- A place is written in one form at most. -/
theorem Writes.unique (h : form.Writes host port place) (h' : other.Writes host port place) :
    other = form := by
  rcases h.cases with ⟨rfl, rfl⟩ | ⟨rfl, digits, hdigits, rfl⟩ | ⟨rest, rfl, hform⟩
  · rcases h'.cases with ⟨hother, -⟩ | ⟨-, digits, -, hplace⟩ | ⟨rest, hplace, -⟩
    · exact hother
    · simp at hplace
    · exact absurd hplace (ne_brackets _ rest)
  · rcases h'.cases with ⟨-, hplace⟩ | ⟨hother, -⟩ | ⟨rest, hplace, -⟩
    · simp at hplace
    · exact hother
    · exact absurd hplace (hostPort_ne_brackets hdigits _ rest)
  · rcases hform with ⟨rfl, hempty⟩ | ⟨rfl, hcolon⟩
    · rcases h'.of_brackets with ⟨hother, -⟩ | ⟨-, hother⟩
      · exact hother
      · rw [hempty] at hother
        cases hother
    · rcases h'.of_brackets with ⟨-, hother⟩ | ⟨hother, -⟩
      · rw [hother] at hcolon
        cases hcolon
      · exact hother

end PlaceForm

/-! ## What settings have of the place -/

/-- Options leave the host and the port alone. -/
theorem host?_port?_of_applyOptions {options : List (String × String)} {draft final : Settings.Draft}
    (happly : applyOptions draft options = .ok final) :
    final.host? = draft.host? ∧ final.port? = draft.port? := by
  induction options generalizing draft with
  | nil =>
    cases happly
    exact ⟨rfl, rfl⟩
  | cons option rest ih =>
    cases hread : Setting.ofOption option with
    | error error =>
      rw [applyOptions_cons_error hread] at happly
      cases happly
    | ok setting =>
      rw [applyOptions_cons_ok hread] at happly
      obtain ⟨hhost, hport⟩ := ih happly
      exact ⟨hhost.trans (draft.host?_put setting), hport.trans (draft.port?_put setting)⟩

/-- The settings have the host and the port that are read of the place. -/
theorem exists_place_of_reads {settings : Settings} (h : Settings.Reads url (.ok settings)) :
    ∃ place port?, (∀ other, HasPlace url other ↔ other = place) ∧
      readHostPort place = .ok (settings.host.toList, port?) ∧
      settings.port = port?.getD (Settings.defaultPort settings.useTls) := by
  obtain ⟨locator, options, hlocator, -, hsettings⟩ := h.exists_locator
  obtain ⟨username?, password, left, host, port?, final, -, hread, happly, hbuild⟩ :=
    settings_steps hsettings
  obtain ⟨hhost, hport⟩ := host?_port?_of_applyOptions happly
  have hmakes := Settings.Draft.makes_of_build hbuild
  have hname : settings.host.toList = host := by
    rw [← String.ofList_inj, String.ofList_toList]
    exact Option.some.inj (hmakes.host.symm.trans hhost)
  refine ⟨_, port?, fun other => ?_, hname ▸ hread, by rw [hmakes.port, hport]; rfl⟩
  cases hsplit : splitScheme? (Text.trim url.toList) with
  | none =>
    simp only [ofUrl, hsplit] at hlocator
    cases hlocator
  | some parts =>
    obtain ⟨isHttps, rest⟩ := parts
    rw [ofUrl_eq hsplit] at hlocator
    obtain ⟨options, -, rfl⟩ := map_eq_ok_iff.1 hlocator
    rw [hasPlace_iff, hsplit]
    constructor
    · rintro ⟨_, _, ⟨⟩, rfl⟩
      rfl
    · rintro rfl
      exact ⟨isHttps, rest, rfl, rfl⟩

end Locator

namespace Settings

open Locator (HasPlace PlaceForm Unread)

/-- **No part of the place is ignored, but behind a bracket.** A URL that is accepted, in whatever
order its options are taken, has one place. It is written in exactly one of the four forms, with the
host and the port of the settings, unless something stands behind the bracket that closes the host
and does not begin with a colon: that is passed over. A place that says no port stands for the
default one. -/
theorem place_is_read {url : String} {settings : Settings} (h : Reads url (.ok settings)) :
    ∃ place, (∀ other, HasPlace url other ↔ other = place) ∧
      ((∃! form : PlaceForm, form.Writes settings.host.toList settings.port.toNat place) ↔
        ¬∃ rest, Unread place settings.host.toList rest) ∧
      ((∃ digits, place = settings.host.toList ++ ':' :: digits ∨
          place = '[' :: settings.host.toList ++ ']' :: ':' :: digits) ∨
        settings.port = defaultPort settings.useTls) := by
  obtain ⟨place, port?, hplace, hread, hport⟩ := Locator.exists_place_of_reads h
  have hforms := Locator.readHostPort_cases hread
  refine ⟨place, hplace, ⟨?_, ?_⟩, ?_⟩
  · rintro ⟨form, hform, -⟩ ⟨rest, rfl, hrest, hcolon⟩
    rcases hform.of_brackets with ⟨-, hempty⟩ | ⟨-, hhead⟩
    · exact hrest hempty
    · exact hcolon hhead
  · intro hall
    have hexists : ∃ form : PlaceForm,
        form.Writes settings.host.toList settings.port.toNat place := by
      rcases hforms with ⟨-, hhost | ⟨rest, hrest, hcolon⟩⟩ |
        ⟨port, digits, rfl, hdigits, htext⟩
      · exact ⟨.host, hhost⟩
      · have hempty : rest = [] := by
          by_contra hne
          exact hall ⟨rest, hrest, hne, hcolon⟩
        exact ⟨.brackets, by rw [hrest, hempty]; rfl⟩
      · have hsame : settings.port = port := hport
        rw [hsame]
        rcases htext with hhost | hbrackets
        · exact ⟨.hostPort, digits, hdigits, hhost⟩
        · exact ⟨.bracketsPort, digits, hdigits, hbrackets⟩
    obtain ⟨form, hform⟩ := hexists
    exact ⟨form, hform, fun other hother => hform.unique hother⟩
  · rcases hforms with ⟨rfl, -⟩ | ⟨port, digits, -, -, htext⟩
    · exact .inr hport
    · exact .inl ⟨digits, htext⟩

def bracketsUrl : String := "JDBC:neo4j:https://ann:p@[x]@[fe80::1]:+07473//?maxRows=5"

/-- An address in brackets, and a port with a sign and a zero before it. -/
theorem place_is_read_in_brackets :
    let place := "[fe80::1]:+07473".toList
    (ofUrl bracketsUrl).map (fun settings => (settings.host, settings.port)) =
        .ok ("fe80::1", 7473) ∧
      HasPlace bracketsUrl place ∧
      ∃! form : PlaceForm, form.Writes "fe80::1".toList 7473 place := by
  intro place
  have hmap : (ofUrl bracketsUrl).map (fun settings => (settings.host, settings.port)) =
      .ok ("fe80::1", 7473) := by decide +kernel
  have hhere : HasPlace bracketsUrl place :=
    Locator.hasPlace_iff.2 ⟨true, "ann:p@[x]@[fe80::1]:+07473//?maxRows=5".toList,
      by decide +kernel, by decide +kernel⟩
  obtain ⟨settings, hread, hsettings⟩ := map_eq_ok_iff.1 hmap
  obtain ⟨hhost, hport⟩ := Prod.mk.inj hsettings
  obtain ⟨other, hplace, hform, -⟩ := place_is_read (reads_of_ofUrl hread)
  obtain rfl : place = other := (hplace place).1 hhere
  have hnone : ¬∃ rest, Unread place settings.host.toList rest := by
    rintro ⟨rest, heq, -, hcolon⟩
    rw [hhost] at heq
    have hparts : "[fe80::1".toList ++ ']' :: ":+07473".toList =
        "[fe80::1".toList ++ ']' :: rest := heq
    obtain ⟨-, hrest⟩ := List.cons.inj (List.append_cancel_left hparts)
    rw [← hrest] at hcolon
    exact hcolon rfl
  have hone := hform.2 hnone
  rw [hhost, hport] at hone
  exact ⟨hmap, hhere, hone⟩

def unreadUrl : String := "neo4j:http://[::1]7475"

/-- A port without a colon before it goes unread, and the settings have the default one. -/
theorem port_unread_behind_bracket :
    ∃ settings, ofUrl unreadUrl = .ok settings ∧ settings.host = "::1" ∧ settings.port = 7474 ∧
      HasPlace unreadUrl "[::1]7475".toList ∧
      ¬∃ form : PlaceForm,
        form.Writes settings.host.toList settings.port.toNat "[::1]7475".toList := by
  have hmap : (ofUrl unreadUrl).map (fun settings => (settings.host, settings.port)) =
      .ok ("::1", 7474) := by decide +kernel
  obtain ⟨settings, hread, hsettings⟩ := map_eq_ok_iff.1 hmap
  obtain ⟨hhost, hport⟩ := Prod.mk.inj hsettings
  refine ⟨settings, hread, hhost, hport,
    Locator.hasPlace_iff.2 ⟨false, "[::1]7475".toList, by decide +kernel, by decide +kernel⟩, ?_⟩
  rintro ⟨form, hform⟩
  rw [hhost] at hform
  have hbrackets : "[::1]7475".toList = '[' :: "::1".toList ++ ']' :: "7475".toList := by
    decide +kernel
  rw [hbrackets] at hform
  rcases hform.of_brackets with ⟨-, hempty⟩ | ⟨-, hcolon⟩
  · cases hempty
  · cases hcolon

end Settings

end CypherSession

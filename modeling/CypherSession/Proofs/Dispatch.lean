import CypherSession.Proofs.Settings.OptionText
import CypherSession.Proofs.Text.Blank
import CypherSession.Registry

/-!
# Passwords in dispatch errors

If no driver takes a URL, the error shows the URL without what stands between its first `://` and
the last `@` after it. A password of the user information always stands there. The value of an
option for passwords stands there only if a `://` comes before it and an `@` after it; otherwise the
error shows it in full.
-/

namespace CypherSession

/-! ## Schemes -/

namespace Locator

/-- The words before the authority of a connection URL do not go on behind such a text. -/
def IsMark (mark : List Char) : Prop := mark = "?".toList ∨ mark = "://".toList

variable {isHttps : Bool} {words start mark : List Char}

/-- A text has a scheme exactly if the words of one stand at its head. -/
theorem isSome_splitScheme?_iff {text : List Char} :
    (splitScheme? text).isSome = true ↔
      ∃ isHttps words, HasScheme (schemeWords isHttps) words [] ∧ words <+: text := by
  constructor
  · intro hsome
    obtain ⟨⟨isHttps, rest⟩, hsplit⟩ := Option.isSome_iff_exists.1 hsome
    obtain ⟨jdbc, neo4j, written, rfl, hwords⟩ := splitScheme?_eq_some_iff.1 hsplit
    refine ⟨isHttps, _, ⟨jdbc, neo4j, written, rfl, hwords⟩, rest, ?_⟩
    simp only [List.append_nil, List.append_assoc]
  · rintro ⟨isHttps, words, hwords, rest, rfl⟩
    exact Option.isSome_iff_exists.2 ⟨_, splitScheme?_eq_some_iff.2 (hwords.append rest)⟩

/-- There is no question mark in the words, and no slash but in their last two characters. -/
theorem HasScheme.exists_slashes (h : HasScheme (schemeWords isHttps) words []) :
    '?' ∉ words ∧ ∃ colons slashes, words = colons ++ slashes ∧ '/' ∉ colons ∧
      slashes.length = 2 := by
  obtain ⟨jdbc, neo4j, written, rfl, hjdbc, hneo4j, hwritten⟩ := h
  have hoptional {word text : List Char} (h : text = [] ∨ Text.Spells word text) {c : Char}
      (hc : c.toLower ∉ word.map Char.toLower) : c ∉ text := by
    rcases h with rfl | hspells
    · exact List.not_mem_nil
    · exact hspells.not_mem hc
  have hparts : ∃ scheme, schemeWords isHttps = scheme ++ "//".toList ∧
      '?' ∉ (scheme ++ "//".toList).map Char.toLower ∧ '/' ∉ scheme.map Char.toLower := by
    cases isHttps with
    | true => exact ⟨"https:".toList, by decide⟩
    | false => exact ⟨"http:".toList, by decide⟩
  obtain ⟨scheme, hscheme, hquestion, hslash⟩ := hparts
  rw [hscheme] at hwritten
  obtain ⟨head, slashes, rfl, hhead, hslashes⟩ := hwritten.exists_append
  constructor
  · have hjdbc := hoptional hjdbc (c := '?') (by decide)
    have hneo4j := hoptional hneo4j (c := '?') (by decide)
    have hwritten := hwritten.not_mem (c := '?') hquestion
    simp [hjdbc, hneo4j, hwritten]
  · refine ⟨jdbc ++ (neo4j ++ head), slashes, by simp, ?_, ?_⟩
    · have hjdbc := hoptional hjdbc (c := '/') (by decide)
      have hneo4j := hoptional hneo4j (c := '/') (by decide)
      have hhead := hhead.not_mem (c := '/') hslash
      simp [hjdbc, hneo4j, hhead]
    · have hlength := congrArg List.length hslashes
      rwa [List.length_map, List.length_map] at hlength

theorem HasScheme.prefix_of_isMark (h : HasScheme (schemeWords isHttps) words [])
    (hmark : IsMark mark) {rest : List Char} (hstarts : words <+: start ++ mark ++ rest) :
    words <+: start ++ mark := by
  rcases List.prefix_or_prefix_of_prefix hstarts (List.prefix_append (start ++ mark) rest) with
    hshort | ⟨more, hmore⟩
  · exact hshort
  obtain ⟨hquestion, colons, slashes, hwords, hcolons, hlength⟩ := h.exists_slashes
  rcases hmark with rfl | rfl
  · exact absurd (by rw [← hmore]; simp) hquestion
  · -- The slashes of the mark cannot stand before the last two characters of the words.
    have hparts : (start ++ [':']) ++ ('/' :: '/' :: more) = colons ++ slashes := by
      rw [← hwords, ← hmore]
      simp
    have hshort : ('/' :: '/' :: more).length ≤ slashes.length := by
      rcases List.append_eq_append_iff.1 hparts with ⟨more', rfl, hslashes⟩ | ⟨more', -, hslashes⟩
      · cases more' with
        | nil => exact Nat.le_of_eq (congrArg List.length hslashes)
        | cons c more' =>
          obtain ⟨rfl, -⟩ := List.cons.inj hslashes
          exact absurd (by simp) hcolons
      · rw [hslashes, List.length_append]
        exact Nat.le_add_left _ _
    rw [hlength, List.length_cons, List.length_cons] at hshort
    have hnil : more = [] := List.eq_nil_of_length_eq_zero (by omega)
    exact ⟨[], by rw [List.append_nil, ← hmore, hnil, List.append_nil]⟩

/-- What is blank before a mark and behind it is taken off on either side by itself. -/
theorem trim_append_isMark (hmark : IsMark mark) (start rest : List Char) :
    Text.trim (start ++ mark ++ rest) =
      start.dropWhile Text.isBlank ++ mark ++ Text.dropEndWhile Text.isBlank rest := by
  have hfirst : (mark ++ rest).dropWhile Text.isBlank = mark ++ rest := by
    rcases hmark with rfl | rfl <;> exact List.dropWhile_cons_of_neg (by decide)
  have hlast : Text.dropEndWhile Text.isBlank (start.dropWhile Text.isBlank ++ mark) =
      start.dropWhile Text.isBlank ++ mark := by
    rcases hmark with rfl | rfl
    · exact Text.dropEndWhile_of_not (by decide)
    · have hslash : Text.isBlank '/' = false := by decide
      rw [show "://".toList = ":/".toList ++ ['/'] from rfl, ← List.append_assoc]
      exact Text.dropEndWhile_of_not hslash
  rw [List.append_assoc, Text.trim, Text.dropWhile_append_of_dropWhile hfirst,
    ← List.append_assoc, Text.dropEndWhile_append_of_dropEndWhile hlast]

/-- What stands behind a mark does not decide whether a URL is supported. -/
theorem isSupported_append_isMark (hmark : IsMark mark) (start rest : List Char) :
    isSupported (String.ofList (start ++ mark ++ rest)) =
      (splitScheme? (start.dropWhile Text.isBlank ++ mark)).isSome := by
  rw [isSupported, String.toList_ofList, trim_append_isMark hmark, Bool.eq_iff_iff,
    isSome_splitScheme?_iff, isSome_splitScheme?_iff]
  constructor
  · rintro ⟨isHttps, words, hwords, hstarts⟩
    exact ⟨isHttps, words, hwords, hwords.prefix_of_isMark hmark hstarts⟩
  · rintro ⟨isHttps, words, hwords, hstarts⟩
    exact ⟨isHttps, words, hwords, hstarts.trans (List.prefix_append _ _)⟩

end Locator

namespace Registry

/-! ## What an error shows -/

theorem cutScheme_cons_of_not {c : Char} {rest : List Char}
    (h : ¬ "://".toList <+: c :: rest) :
    cutScheme (c :: rest) = (cutScheme rest).map (Prod.map (c :: ·) id) := by
  rw [cutScheme, if_neg fun hstarts => h (List.isPrefixOf_iff_prefix.1 hstarts)]
  rfl

/-- A `://` in the first part of a text decides where the text is cut. -/
theorem exists_cutScheme_append {before : List Char} (h : "://".toList <:+: before) :
    ∃ scheme rest, ∀ more, cutScheme (before ++ more) = some (scheme, rest ++ more) := by
  induction before with
  | nil => cases List.infix_nil.1 h
  | cons c before ih =>
    by_cases hstarts : "://".toList <+: c :: before
    · obtain ⟨rest, hrest⟩ := hstarts
      refine ⟨[], rest, fun more => ?_⟩
      rw [← hrest]
      rfl
    · have hwithin : "://".toList <:+: before := (List.infix_cons_iff.1 h).resolve_left hstarts
      obtain ⟨scheme, rest, hcut⟩ := ih hwithin
      refine ⟨c :: scheme, rest, fun more => ?_⟩
      have hlonger : ¬ "://".toList <+: c :: (before ++ more) := by
        intro hmore
        exact hstarts (List.prefix_of_prefix_length_le hmore (List.prefix_append (c :: before) more)
          (Nat.le_succ_of_le hwithin.length_le))
      rw [List.cons_append, cutScheme_cons_of_not hlonger, hcut]
      rfl

/-- A first part without `://` stays in front, unless one begins in it and ends behind it. -/
theorem cutScheme_append {front after : List Char} (hfront : ¬ "://".toList <:+: front)
    (hafter : after.head? ≠ some '/') :
    cutScheme (front ++ after) = (cutScheme after).map (Prod.map (front ++ ·) id) := by
  induction front with
  | nil =>
    rw [List.nil_append]
    cases cutScheme after <;> rfl
  | cons c front ih =>
    have hnot : ¬ "://".toList <+: c :: (front ++ after) := by
      rintro ⟨rest, hrest : ':' :: '/' :: '/' :: rest = c :: (front ++ after)⟩
      obtain ⟨rfl, hslashes⟩ := List.cons.inj hrest
      match front with
      | [] => exact hafter (congrArg List.head? hslashes).symm
      | [a] => exact hafter (congrArg List.head? (List.cons.inj hslashes).2).symm
      | a :: b :: front =>
        obtain ⟨rfl, hslash⟩ := List.cons.inj hslashes
        obtain ⟨rfl, -⟩ := List.cons.inj hslash
        exact hfront (List.prefix_append "://".toList front).isInfix
    have hrest : ¬ "://".toList <:+: front := fun hwithin => hfront (List.infix_cons hwithin)
    rw [List.cons_append, cutScheme_cons_of_not hnot, ih hrest]
    cases cutScheme after <;> rfl

def shown (url : List Char) : List Char :=
  match cutScheme url with
  | none => url
  | some (scheme, rest) =>
    match Text.cutLast '@' rest with
    | none => url
    | some (_, host) => scheme ++ "://".toList ++ redacted.toList ++ '@' :: host

/-- An error shows the URL without the text between `://` and the last `@`. -/
theorem redact_eq (url : String) : redact url = String.ofList (shown url.toList) := by
  unfold redact shown
  cases cutScheme url.toList with
  | none => exact String.ofList_toList.symm
  | some cut =>
    obtain ⟨scheme, rest⟩ := cut
    cases hcut : Text.cutLast '@' rest with
    | none => simp only [hcut, String.ofList_toList]
    | some cut =>
      refine String.toList_inj.1 ?_
      simp [hcut]

section

variable {before after password : List Char}

theorem shown_append (hfront : ¬ "://".toList <:+: before) (hafter : after.head? ≠ some '/') :
    shown (before ++ after) = before ++ shown after := by
  unfold shown
  rw [cutScheme_append hfront hafter]
  cases cutScheme after with
  | none => rfl
  | some cut =>
    obtain ⟨scheme, rest⟩ := cut
    cases hcut : Text.cutLast '@' rest with
    | none => simp [hcut]
    | some cut => simp [hcut]

theorem shown_append_of_scheme (hbefore : "://".toList <:+: before) (hafter : '@' ∉ after) :
    shown (before ++ after) = shown before ++ after := by
  obtain ⟨scheme, rest, hscheme⟩ := exists_cutScheme_append hbefore
  have hbefore := hscheme []
  rw [List.append_nil, List.append_nil] at hbefore
  simp only [shown, hscheme, hbefore]
  cases hcut : Text.cutLast '@' rest with
  | none =>
    have hmem : '@' ∉ rest ++ after := by
      simp [Text.cutLast_eq_none_iff.1 hcut, hafter]
    rw [Text.cutLast_eq_none_iff.2 hmem]
  | some cut =>
    obtain ⟨user, host⟩ := cut
    obtain ⟨rfl, hhost⟩ := Text.cutLast_eq_some_iff.1 hcut
    have hmore : Text.cutLast '@' (user ++ '@' :: host ++ after) = some (user, host ++ after) :=
      Text.cutLast_eq_some_iff.2 ⟨by simp, by simp [hhost, hafter]⟩
    simp only [hmore]
    rw [List.append_assoc _ ('@' :: host) after, List.cons_append]

end

/-! ## Places for a password -/

/-- What stands before and after a password in a URL. -/
structure Place where
  before : List Char
  after : List Char

namespace Place

variable {place : Place}

def url (place : Place) (password : List Char) : String :=
  String.ofList (place.before ++ password ++ place.after)

/-- There is a `://` before the password and an `@` after it. -/
def Hides (place : Place) : Prop := "://".toList <:+: place.before ∧ '@' ∈ place.after

/-- A password in such a place is not shown, whatever it is. -/
theorem Hides.exists_redact (h : place.Hides) :
    ∃ text, ∀ password, redact (place.url password) = text := by
  obtain ⟨before, after⟩ := place
  obtain ⟨scheme, rest, hscheme⟩ := exists_cutScheme_append h.1
  obtain ⟨⟨between, host⟩, hcut⟩ : ∃ cut, Text.cutLast '@' after = some cut := by
    apply Option.ne_none_iff_exists'.1
    intro hnone
    exact Text.cutLast_eq_none_iff.1 hnone h.2
  obtain ⟨rfl, hhost⟩ := Text.cutLast_eq_some_iff.1 hcut
  refine ⟨String.ofList (scheme ++ "://".toList ++ redacted.toList ++ '@' :: host), ?_⟩
  intro password
  have hlast : Text.cutLast '@' (rest ++ (password ++ (between ++ '@' :: host))) =
      some (rest ++ (password ++ between), host) :=
    Text.cutLast_eq_some_iff.2 ⟨by simp, hhost⟩
  rw [redact_eq, url, String.toList_ofList, List.append_assoc]
  simp only [shown, hscheme, hlast]

/-- A password that is not hidden is shown, if it has no slash and no at sign. -/
theorem exists_redact_of_not_hides (h : ¬ place.Hides) (hafter : place.after.head? ≠ some '/') :
    ∃ left right, ∀ password, '/' ∉ password → '@' ∉ password →
      redact (place.url password) = String.ofList (left ++ password ++ right) := by
  obtain ⟨before, after⟩ := place
  by_cases hbefore : "://".toList <:+: before
  · have hat : '@' ∉ after := fun hmem => h ⟨hbefore, hmem⟩
    refine ⟨shown before, after, fun password _ hpassword => ?_⟩
    have hplain : '@' ∉ password ++ after := by simp [hpassword, hat]
    rw [redact_eq, url, String.toList_ofList, List.append_assoc,
      shown_append_of_scheme hbefore hplain, List.append_assoc]
  · refine ⟨before, shown after, fun password hslash _ => ?_⟩
    have hplain : ¬ "://".toList <:+: password := fun hwithin => hslash (hwithin.subset (by simp))
    have hhead : (password ++ after).head? ≠ some '/' := by
      cases password with
      | nil => exact hafter
      | cons c password =>
        rintro ⟨⟩
        exact hslash List.mem_cons_self
    rw [redact_eq, url, String.toList_ofList, List.append_assoc, shown_append hbefore hhead,
      shown_append hplain hafter, List.append_assoc]

/-- A driver of the registry takes the URL, whatever the password is. -/
def IsTaken (place : Place) (registry : Registry) : Prop :=
  ∃ driver, ∀ password, registry.driverFor (place.url password) = .ok driver

/-- Behind a mark, the password does not decide whether a driver takes the URL. -/
theorem driverFor_url (registry : Registry) {start mark rest : List Char}
    (hmark : Locator.IsMark mark) (hbefore : place.before = start ++ mark ++ rest) :
    place.IsTaken registry ∨
      ∀ password, registry.driverFor (place.url password) =
        .error (.noSuitableDriver (redact (place.url password))) := by
  have hsupported (password : List Char) : Locator.isSupported (place.url password) =
      (Locator.splitScheme? (start.dropWhile Text.isBlank ++ mark)).isSome := by
    rw [url, hbefore, List.append_assoc, List.append_assoc]
    exact Locator.isSupported_append_isMark hmark start (rest ++ (password ++ place.after))
  generalize (Locator.splitScheme? (start.dropWhile Text.isBlank ++ mark)).isSome = supported
    at hsupported
  cases hfind : registry.drivers.find? fun _ => supported with
  | some driver =>
    left
    refine ⟨driver, fun password => ?_⟩
    simp only [driverFor, Driver.accepts, hsupported, hfind]
  | none =>
    right
    intro password
    simp only [driverFor, Driver.accepts, hsupported, hfind]

/-- If a driver takes the URL or the password is hidden, there is one answer. -/
theorem driverFor_url_eq (registry : Registry) {start mark rest : List Char}
    (hmark : Locator.IsMark mark) (hbefore : place.before = start ++ mark ++ rest)
    (h : place.IsTaken registry ∨ place.Hides) (password other : List Char) :
    registry.driverFor (place.url password) = registry.driverFor (place.url other) := by
  rcases driverFor_url registry hmark hbefore with ⟨driver, htaken⟩ | hrefused
  · rw [htaken, htaken]
  · have hhides : place.Hides := by
      refine h.resolve_left ?_
      rintro ⟨driver, htaken⟩
      cases (hrefused password).symm.trans (htaken password)
    obtain ⟨text, hredact⟩ := hhides.exists_redact
    rw [hrefused, hrefused, hredact, hredact]

end Place

/-- A URL, of any scheme, with a place for the password of its user information. -/
structure UserSlot where
  start : List Char
  user : List Char
  rest : List Char

/-- A URL, of any scheme, with a place for the value of an option for passwords. -/
structure OptionSlot where
  start : List Char
  before : List Char
  key : List Char
  after : List Char
  start_plain : '?' ∉ start
  before_end : ∀ c ∈ before.getLast?, Locator.isSeparator c = true
  after_start : ∀ c ∈ after.head?, Locator.isSeparator c = true
  namesPassword : Locator.NamesPassword key

def UserSlot.place (slot : UserSlot) : Place where
  before := slot.start ++ "://".toList ++ (slot.user ++ [':'])
  after := '@' :: slot.rest

def OptionSlot.place (slot : OptionSlot) : Place where
  before := slot.start ++ ['?'] ++ (slot.before ++ slot.key ++ ['='])
  after := slot.after

theorem UserSlot.hides (slot : UserSlot) : slot.place.Hides :=
  ⟨⟨slot.start, slot.user ++ [':'], rfl⟩, List.mem_cons_self⟩

theorem OptionSlot.head?_after_ne (slot : OptionSlot) : slot.place.after.head? ≠ some '/' := by
  intro hslash
  have hseparator := slot.after_start '/' hslash
  revert hseparator
  decide

/-- **What dispatch errors tell of a password.** A password of the user information makes no
difference to the answer of any registry. A password that is the value of an option makes none
exactly if a driver takes the URL or a `://` before the password and an `@` after it hide it;
otherwise the error shows it. -/
theorem dispatch_tells_password_iff (registry : Registry) :
    (∀ (slot : UserSlot) (password other : List Char),
      registry.driverFor (slot.place.url password) = registry.driverFor (slot.place.url other)) ∧
    ∀ slot : OptionSlot,
      ((∀ password other : List Char, (∀ c ∈ password ++ other, Locator.isSeparator c = false) →
          registry.driverFor (slot.place.url password) =
            registry.driverFor (slot.place.url other)) ↔
        slot.place.IsTaken registry ∨ slot.place.Hides) ∧
      (¬ (slot.place.IsTaken registry ∨ slot.place.Hides) →
        ∃ left right, ∀ password, '/' ∉ password → '@' ∉ password →
          registry.driverFor (slot.place.url password) =
            .error (.noSuitableDriver (String.ofList (left ++ password ++ right)))) := by
  constructor
  · intro slot
    exact Place.driverFor_url_eq registry (.inr rfl) rfl (.inr slot.hides)
  intro slot
  have hshown (hnot : ¬ (slot.place.IsTaken registry ∨ slot.place.Hides)) :
      ∃ left right, ∀ password, '/' ∉ password → '@' ∉ password →
        registry.driverFor (slot.place.url password) =
          .error (.noSuitableDriver (String.ofList (left ++ password ++ right))) := by
    obtain ⟨htaken, hhides⟩ := not_or.1 hnot
    have hrefused := (Place.driverFor_url registry (.inl rfl) rfl).resolve_left htaken
    obtain ⟨left, right, hredact⟩ :=
      Place.exists_redact_of_not_hides hhides slot.head?_after_ne
    refine ⟨left, right, fun password hslash hat => ?_⟩
    rw [hrefused, hredact password hslash hat]
  refine ⟨⟨fun hsame => ?_, fun h password other _ => ?_⟩, hshown⟩
  · -- Two passwords of one letter would be told apart.
    by_contra hnot
    obtain ⟨left, right, herror⟩ := hshown hnot
    have heq := hsame ['a'] ['b'] (by simp [Locator.isSeparator])
    rw [herror ['a'] (by decide) (by decide), herror ['b'] (by decide) (by decide)] at heq
    simp at heq
  · exact Place.driverFor_url_eq registry (.inl rfl) rfl h password other

def sampleSlot : OptionSlot where
  start := "jdbc:mysql://localhost".toList
  before := "user=root,".toList
  key := "password".toList
  after := []
  start_plain := by decide +kernel
  before_end := by simp [Locator.isSeparator]
  after_start := by simp
  namesPassword := {
    noEquals := by decide +kernel
    noSeparator := by simp [Locator.isSeparator]
    decodes := ⟨"password".toList, by decide +kernel, by decide +kernel⟩ }

/-- The registry with the driver over HTTP shows a password that is an option. -/
theorem dispatch_shows_option_password :
    let first := "jdbc:mysql://localhost?user=root,password=hunter2"
    let second := "jdbc:mysql://localhost?user=root,password=other"
    (first = sampleSlot.place.url "hunter2".toList ∧
      second = sampleSlot.place.url "other".toList) ∧
    withHttp.driverFor first = .error (.noSuitableDriver first) ∧
      withHttp.driverFor second = .error (.noSuitableDriver second) ∧
      withHttp.driverFor first ≠ withHttp.driverFor second := by
  decide +kernel

end Registry

end CypherSession

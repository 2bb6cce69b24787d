import CypherSession.Proofs.Dispatch

/-!
# Accepted URLs

A driver takes a URL exactly if reading finds a scheme in it: both look at the same words, which are
the same whatever the case of their letters is and whatever blank characters stand around the URL.
What is read then does not depend on how the words are written.
-/

namespace CypherSession

namespace Locator

variable {url : String} {isHttps : Bool} {rest words text : List Char}

theorem HasScheme.exists_words {scheme : List Char} (h : HasScheme scheme text rest) :
    ∃ words, HasScheme scheme words [] ∧ text = words ++ rest := by
  obtain ⟨jdbc, neo4j, written, rfl, hwords⟩ := h
  refine ⟨jdbc ++ (neo4j ++ (written ++ [])), ⟨jdbc, neo4j, written, rfl, hwords⟩, ?_⟩
  simp only [List.append_nil, List.append_assoc]

theorem HasScheme.not_blank (h : HasScheme (schemeWords isHttps) words []) :
    ∀ c ∈ words, Text.isBlank c = false := by
  have hplain {word text : List Char}
      (hletters : ((Text.bothCases word).all fun c => Text.isBlank c = false) = true)
      (h : Text.Spells word text) : ∀ c ∈ text, Text.isBlank c = false :=
    fun c hc => of_decide_eq_true (List.all_eq_true.1 hletters c (h.mem_bothCases hc))
  obtain ⟨jdbc, neo4j, written, rfl, hjdbc, hneo4j, hwritten⟩ := h
  intro c hc
  simp only [List.append_nil, List.mem_append] at hc
  rcases hc with hc | hc | hc
  · rcases hjdbc with rfl | hjdbc
    · cases hc
    · exact hplain (by decide) hjdbc c hc
  · rcases hneo4j with rfl | hneo4j
    · cases hc
    · exact hplain (by decide) hneo4j c hc
  · cases isHttps with
    | true => exact hplain (by decide) hwritten c hc
    | false => exact hplain (by decide) hwritten c hc

/-- Blank characters around a URL do not touch the words of its scheme. -/
theorem HasScheme.trim (h : HasScheme (schemeWords isHttps) text rest) :
    HasScheme (schemeWords isHttps) (Text.trim text) (Text.dropEndWhile Text.isBlank rest) := by
  obtain ⟨words, hwords, rfl⟩ := h.exists_words
  have hne : words ≠ [] := by
    rintro rfl
    obtain ⟨-, colons, slashes, hnil, -, hlength⟩ := hwords.exists_slashes
    rw [(List.append_eq_nil_iff.1 hnil.symm).2] at hlength
    cases hlength
  rw [Text.trim_append_of_not_blank hne hwords.not_blank]
  exact hwords.append _

/-- The URL has a text behind the words of a scheme, in letters of either case, and blank characters
around all of it. -/
def Spelled (url : String) (isHttps : Bool) (rest : List Char) : Prop :=
  ∃ start text ending, url.toList = start ++ text ++ ending ∧
    (∀ c ∈ start, Text.isBlank c = true) ∧ (∀ c ∈ ending, Text.isBlank c = true) ∧
      HasScheme (schemeWords isHttps) text rest

def plainUrl (isHttps : Bool) (rest : List Char) : String :=
  String.ofList (schemeWords isHttps ++ rest)

theorem spelled_plainUrl (isHttps : Bool) (rest : List Char) :
    Spelled (plainUrl isHttps rest) isHttps rest := by
  refine ⟨[], schemeWords isHttps ++ rest, [], ?_, nofun, nofun, ?_⟩
  · rw [plainUrl, String.toList_ofList, List.nil_append, List.append_nil]
  · exact ⟨[], [], schemeWords isHttps, rfl, .inl rfl, .inl rfl, rfl⟩

theorem Spelled.splitScheme?_eq (h : Spelled url isHttps rest) :
    splitScheme? (Text.trim url.toList) =
      some (isHttps, Text.dropEndWhile Text.isBlank rest) := by
  obtain ⟨start, text, ending, hurl, hstart, hending, hscheme⟩ := h
  rw [hurl, Text.trim_append hstart hending]
  exact splitScheme?_eq_some_iff.2 hscheme.trim

/-- A URL is read as the text behind its scheme alone is. -/
theorem Spelled.ofUrl_eq (h : Spelled url isHttps rest) :
    ofUrl url = ofUrl (plainUrl isHttps rest) := by
  rw [Locator.ofUrl_eq h.splitScheme?_eq,
    Locator.ofUrl_eq (spelled_plainUrl isHttps rest).splitScheme?_eq]

/-- The URLs that are supported are those with a scheme, however it is spelled. -/
theorem isSupported_iff :
    isSupported url = true ↔ ∃ isHttps rest, Spelled url isHttps rest := by
  constructor
  · intro hsupported
    obtain ⟨⟨isHttps, rest⟩, hsplit⟩ := Option.isSome_iff_exists.1 hsupported
    obtain ⟨start, ending, hurl, hstart, hending⟩ := Text.exists_eq_trim url.toList
    exact ⟨isHttps, rest, start, Text.trim url.toList, ending, hurl, hstart, hending,
      splitScheme?_eq_some_iff.1 hsplit⟩
  · rintro ⟨isHttps, rest, hspelled⟩
    exact Option.isSome_iff_exists.2 ⟨_, hspelled.splitScheme?_eq⟩

end Locator

variable {url : String}

/-- A URL without a scheme is refused before anything else of it is read. -/
theorem Locator.ofUrl_of_not_supported (h : isSupported url = false) :
    ofUrl url = .error
      (.malformed "Connection URL must start with '[jdbc:]neo4j:http://' or 'https://'") := by
  have hsplit : splitScheme? (Text.trim url.toList) = none :=
    Option.isSome_eq_false_iff.1 h |> Option.isNone_iff_eq_none.1
  simp only [ofUrl, hsplit]

/-- Only a URL that is supported can be read as settings. -/
theorem Settings.Reads.isSupported {settings : Settings} (h : Reads url (.ok settings)) :
    Locator.isSupported url = true := by
  obtain ⟨locator, -, hlocator, -⟩ := h.exists_locator
  by_contra hnot
  rw [Locator.ofUrl_of_not_supported (Bool.eq_false_iff.2 hnot)] at hlocator
  cases hlocator

namespace Driver

theorem exists_of_validates {driver : Driver} (h : driver.validates url = true) :
    ∃ database, Database.ofUrl url = .ok database := by
  rw [validates, openDatabase] at h
  cases hopen : Database.ofUrl url with
  | ok database => exact ⟨database, rfl⟩
  | error error =>
    rw [hopen] at h
    cases h

theorem isSupported_of_validates {driver : Driver} (h : driver.validates url = true) :
    Locator.isSupported url = true := by
  obtain ⟨database, hopen⟩ := exists_of_validates h
  obtain ⟨settings, hsettings, -⟩ := Result.bind_eq_ok_iff.1 hopen
  exact (Settings.reads_of_ofUrl hsettings).isSupported

end Driver

namespace Registry

theorem driverFor_of_isSupported (h : Locator.isSupported url = true) (first : Driver)
    (others : List Driver) : driverFor ⟨first :: others⟩ url = .ok first := by
  have hfind : (first :: others).find? (·.accepts url) = some first := List.find?_cons_of_pos h
  simp only [driverFor, hfind]

/-- **Dispatch and reading agree on schemes.** Behind an optional `jdbc:`, an optional `neo4j:` and a
scheme, in letters of either case and with blank characters around all of it, a text is read exactly
as it is behind the scheme alone in small letters: to the same parts, and so to the same settings or
the same error; and every driver takes such a URL. No driver takes another URL, and reading it
fails. So a URL that some driver could open is opened by the first driver of any registry. All this
holds in whatever order the options of a URL are taken; if they do not conflict, what one driver
reads is what the first one opens. -/
theorem dispatch_agrees (url : String) :
    let noScheme : ConnectionError :=
      .malformed "Connection URL must start with '[jdbc:]neo4j:http://' or 'https://'"
    (∀ isHttps rest, Locator.Spelled url isHttps rest →
        Locator.ofUrl url = Locator.ofUrl (Locator.plainUrl isHttps rest) ∧
          Settings.ofUrl url = Settings.ofUrl (Locator.plainUrl isHttps rest) ∧
          (∀ result, Settings.Reads url result ↔
            Settings.Reads (Locator.plainUrl isHttps rest) result) ∧
          ∀ driver : Driver, driver.accepts url = true) ∧
      ((¬∃ isHttps rest, Locator.Spelled url isHttps rest) →
        (∀ driver : Driver, driver.accepts url = false) ∧
          Settings.ofUrl url = .error noScheme ∧
          ∀ result, Settings.Reads url result ↔ result = .error noScheme) ∧
      (∀ settings, Settings.Reads url (.ok settings) → ∀ first others,
        driverFor ⟨first :: others⟩ url = .ok first ∧
          ((∀ locator, Locator.ofUrl url = .ok locator →
            locator.options.Pairwise Locator.Independent) →
              openDatabase ⟨first :: others⟩ url = .ok ⟨settings⟩)) ∧
      ∀ driver : Driver, driver.validates url = true → ∀ first others,
        driverFor ⟨first :: others⟩ url = .ok first ∧
          ∃ database, openDatabase ⟨first :: others⟩ url = .ok database := by
  intro noScheme
  refine ⟨fun isHttps rest hspelled => ?_, fun hother => ?_, fun settings hread first others => ?_,
    fun driver hvalid first others => ?_⟩
  · have hlocator := hspelled.ofUrl_eq
    refine ⟨hlocator, ?_, fun _ => ⟨.of_ofUrl_eq hlocator, .of_ofUrl_eq hlocator.symm⟩,
      fun _ => Locator.isSupported_iff.2 ⟨isHttps, rest, hspelled⟩⟩
    rw [Settings.ofUrl, hlocator, Settings.ofUrl]
  · have hnot : Locator.isSupported url = false :=
      Bool.eq_false_iff.2 fun h => hother (Locator.isSupported_iff.1 h)
    have hlocator : Locator.ofUrl url = .error noScheme := Locator.ofUrl_of_not_supported hnot
    have hrefused : Settings.Reads url (.error noScheme) := .refused hlocator
    have hreads (result : Except ConnectionError Settings) :
        Settings.Reads url result ↔ result = .error noScheme :=
      ⟨fun h => h.eq_error hlocator, fun h => h ▸ hrefused⟩
    exact ⟨fun _ => hnot, (hreads _).1 (Settings.reads_of_ofUrl rfl), hreads⟩
  · have hfirst := driverFor_of_isSupported hread.isSupported first others
    refine ⟨hfirst, fun hindependent => ?_⟩
    rw [openDatabase, hfirst]
    change Database.ofUrl url = _
    rw [Database.ofUrl, ← hread.eq_ofUrl hindependent]
    rfl
  · have hfirst := driverFor_of_isSupported (Driver.isSupported_of_validates hvalid) first others
    obtain ⟨database, hdatabase⟩ := Driver.exists_of_validates hvalid
    refine ⟨hfirst, database, ?_⟩
    rw [openDatabase, hfirst]
    exact hdatabase

/-- A URL in mixed letters between blanks, and one with its words in the wrong order. -/
theorem dispatch_agrees_mixed_case :
    let url := "\u3000 JdBc:NEO4J:hTTpS://localhost?a=b \t"
    let swapped := "neo4j:jdbc:https://localhost?a=b"
    Settings.ofUrl url = Settings.ofUrl "https://localhost?a=b" ∧ Driver.http.accepts url = true ∧
      driverFor .withHttp url = .ok .http ∧ Driver.http.accepts swapped = false := by
  intro url swapped
  have hspelled : Locator.Spelled url true "localhost?a=b".toList :=
    ⟨"\u3000 ".toList, "JdBc:NEO4J:hTTpS://localhost?a=b".toList, " \t".toList,
      by decide +kernel, List.all_eq_true.1 (by decide), List.all_eq_true.1 (by decide),
      "JdBc:".toList, "NEO4J:".toList, "hTTpS://".toList, by decide +kernel, .inr (by decide),
      .inr (by decide), by decide⟩
  have hvalid : Driver.http.validates url = true := by decide +kernel
  have hother : ¬∃ isHttps rest, Locator.Spelled swapped isHttps rest := by
    rw [← Locator.isSupported_iff]
    decide +kernel
  obtain ⟨hread, -, -, hopens⟩ := dispatch_agrees url
  obtain ⟨-, hsettings, -, haccepts⟩ := hread true _ hspelled
  exact ⟨hsettings, haccepts .http, (hopens .http hvalid .http []).1,
    ((dispatch_agrees swapped).2.1 hother).1 .http⟩

end Registry

end CypherSession

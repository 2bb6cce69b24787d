import CypherSession.Proofs.Settings.Build
import CypherSession.Proofs.Settings.Scheme

/-!
# Encrypted connections

The scheme `https` turns encryption on, and the options of a URL cannot turn it off. They are
checked before they are applied, in any order and with any spelling; what the check lets through
turns encryption on as well, since both steps read a name and a value alike.
-/

namespace CypherSession

open Result

namespace Locator

def KeepsTls (option : String × String) : Prop :=
  Key.ofName? option.1 = some .useTls → readBool option.1 option.2 = .ok true

variable {options left : List (String × String)} {draft next : Settings.Draft}
  {name value : String}

/-- The check lets no option through that would turn encryption off. -/
theorem keepsTls_of_checkTls (h : checkTls options = .ok ()) :
    ∀ option ∈ options, KeepsTls option := by
  induction options with
  | nil => exact nofun
  | cons option rest ih =>
    obtain ⟨name, value⟩ := option
    unfold checkTls at h
    by_cases hkey : Key.ofName? name = some .useTls
    · rw [if_pos hkey] at h
      obtain ⟨enabled, hread, h⟩ := bind_eq_ok_iff.1 h
      cases enabled with
      | false => cases h
      | true => exact List.forall_mem_cons.2 ⟨fun _ => hread, ih h⟩
    · rw [if_neg hkey] at h
      exact List.forall_mem_cons.2 ⟨fun htls => absurd htls hkey, ih h⟩

theorem useTls?_of_applyOption (hkeeps : KeepsTls (name, value))
    (happly : applyOption draft name value = .ok next) (h : draft.useTls? = some true) :
    next.useTls? = some true := by
  unfold applyOption at happly
  cases hkey : Key.ofName? name with
  | none =>
    simp only [hkey] at happly
    cases happly
    exact h
  | some key =>
    simp only [hkey] at happly
    cases key with
    | username | password | database =>
      cases happly
      exact h
    | autoCommit | maxRows | debug | readOnly | timeout =>
      obtain ⟨_, -, hnext⟩ := bind_eq_ok_iff.1 happly
      cases hnext
      exact h
    | useTls =>
      obtain ⟨enabled, hread, hnext⟩ := bind_eq_ok_iff.1 happly
      rw [hkeeps hkey] at hread
      cases hread
      cases hnext
      rfl

/-- Options that keep encryption leave a draft with it encrypted. -/
theorem useTls?_of_applyOptions (hkeeps : ∀ option ∈ options, KeepsTls option)
    (happly : applyOptions draft options = .ok next) (h : draft.useTls? = some true) :
    next.useTls? = some true := by
  induction options generalizing draft with
  | nil =>
    cases happly
    exact h
  | cons option rest ih =>
    obtain ⟨name, value⟩ := option
    obtain ⟨hoption, hrest⟩ := List.forall_mem_cons.1 hkeeps
    obtain ⟨first, hfirst, happly⟩ := bind_eq_ok_iff.1 happly
    exact ih hrest happly (useTls?_of_applyOption hoption hfirst h)

theorem takeOption_subset (key : Key) (options : List (String × String)) :
    (takeOption key options).2 ⊆ options := by
  induction options with
  | nil => exact List.Subset.refl []
  | cons option rest ih =>
    obtain ⟨name, value⟩ := option
    unfold takeOption
    by_cases hkey : Key.ofName? name = some key
    · rw [if_pos hkey]
      exact List.subset_cons_self _ _
    · rw [if_neg hkey]
      exact List.cons_subset_cons _ ih

theorem subset_of_readCredentials {userInfo? : Option (List Char)} {username? : Option String}
    {password : String} (h : readCredentials userInfo? options = .ok (username?, password, left)) :
    left ⊆ options := by
  cases userInfo? with
  | some userInfo =>
    obtain ⟨_, -, h⟩ := bind_eq_ok_iff.1 h
    cases h
    exact List.Subset.refl options
  | none =>
    cases h
    exact List.Subset.trans (takeOption_subset _ _) (takeOption_subset _ _)

theorem useTls_of_build {settings : Settings} (h : draft.build = .ok settings) :
    settings.useTls = draft.useTls?.getD false :=
  congrArg Settings.useTls (Settings.Draft.builds_of_build h).parts

/-- What reading goes through when it succeeds: the check of the options, the credentials, and the
options that these leave over. -/
theorem exists_draft_of_settings {locator : Locator} {settings : Settings}
    (h : locator.settings = .ok settings) :
    ∃ userInfo? username? password left draft final,
      (locator.isHttps = true → checkTls locator.options = .ok ()) ∧
      readCredentials userInfo? locator.options = .ok (username?, password, left) ∧
      draft.useTls? = some locator.isHttps ∧ applyOptions draft left = .ok final ∧
      final.build = .ok settings := by
  unfold Locator.settings at h
  obtain ⟨hcheck, h⟩ := ite_bind_eq_ok_iff.1 h
  obtain ⟨⟨username?, password, left⟩, hcredentials, h⟩ := bind_eq_ok_iff.1 h
  obtain ⟨-, h⟩ := ite_bind_eq_ok_iff.1 h
  obtain ⟨⟨host, port?⟩, -, h⟩ := bind_eq_ok_iff.1 h
  obtain ⟨final, happly, hbuild⟩ := bind_eq_ok_iff.1 h
  exact ⟨_, username?, password, left, _, final, hcheck, hcredentials, rfl, happly, hbuild⟩

/-- **Settings of an `https` URL use encryption**, whatever its options are. -/
theorem useTls_of_settings {locator : Locator} {settings : Settings}
    (hhttps : locator.isHttps = true) (h : locator.settings = .ok settings) :
    settings.useTls = true := by
  obtain ⟨userInfo?, username?, password, left, draft, final, hcheck, hcredentials, hdraft, happly,
    hbuild⟩ := exists_draft_of_settings h
  have hkeeps := keepsTls_of_checkTls (hcheck hhttps)
  have hleft (option : String × String) (hmem : option ∈ left) : KeepsTls option :=
    hkeeps option (subset_of_readCredentials hcredentials hmem)
  rw [hhttps] at hdraft
  rw [useTls_of_build hbuild, useTls?_of_applyOptions hleft happly hdraft, Option.getD_some]

theorem isHttps_of_ofUrl {url : String} {rest : List Char}
    (hscheme : HasScheme "https://".toList (Text.trim url.toList) rest) {locator : Locator}
    (h : ofUrl url = .ok locator) : locator.isHttps = true := by
  simp only [ofUrl, splitScheme?_of_https hscheme] at h
  obtain ⟨_, -, h⟩ := bind_eq_ok_iff.1 h
  cases h
  rfl

end Locator

/-! ## URLs of an endpoint -/

namespace Endpoint

variable {endpoint : Endpoint}

theorem https_baseUrl (h : endpoint.useTls = true) :
    "https://".toList <+: endpoint.baseUrl.toList := by
  have hscheme : scheme endpoint.useTls = "https" := by rw [h]; rfl
  refine ⟨(urlHost endpoint.host ++ ":" ++ toString endpoint.port).toList, ?_⟩
  rw [baseUrl, hscheme, ← String.toList_append]
  simp only [String.append_assoc]
  rfl

theorem baseUrl_prefix_transactionUrl (endpoint : Endpoint) :
    endpoint.baseUrl.toList <+: endpoint.transactionUrl.toList := by
  unfold transactionUrl
  cases endpoint.database? with
  | some database => simp only [String.toList_append, List.append_assoc, List.prefix_append]
  | none => simp only [String.toList_append, List.prefix_append]

/-- All URLs of an endpoint begin with its base. -/
theorem transactionUrl_prefix_autocommitUrl (endpoint : Endpoint) :
    endpoint.transactionUrl.toList <+: endpoint.autocommitUrl.toList := by
  rw [autocommitUrl, String.toList_append]
  exact List.prefix_append _ _

end Endpoint

namespace Settings

/-- Everything that is sent with the settings is encrypted. -/
structure IsEncrypted (settings : Settings) : Prop where
  useTls : settings.useTls = true
  baseUrl : "https://".toList <+: settings.endpoint.baseUrl.toList
  transactionUrl : "https://".toList <+: settings.endpoint.transactionUrl.toList
  autocommitUrl : "https://".toList <+: settings.endpoint.autocommitUrl.toList

theorem isEncrypted_of_useTls {settings : Settings} (h : settings.useTls = true) :
    settings.IsEncrypted := by
  have hbase : "https://".toList <+: settings.endpoint.baseUrl.toList := Endpoint.https_baseUrl h
  have htransaction := hbase.trans (Endpoint.baseUrl_prefix_transactionUrl settings.endpoint)
  exact {
    useTls := h
    baseUrl := hbase
    transactionUrl := htransaction
    autocommitUrl :=
      htransaction.trans (Endpoint.transactionUrl_prefix_autocommitUrl settings.endpoint) }

/-- **A connection by `https` stays encrypted.** If a URL has the scheme `https` in any spelling,
after any of the words that may come before it, then settings that it describes use encryption, and
all URLs of their endpoint begin with `https://`. This holds for any options that are taken in the
place of those that stand in the URL, and so for these in every order. -/
theorem https_stays_encrypted (url : String) (rest : List Char)
    (hscheme : Locator.HasScheme "https://".toList (Text.trim url.toList) rest) :
    (∀ settings, ofUrl url = .ok settings → settings.IsEncrypted) ∧
    ∀ locator options settings, Locator.ofUrl url = .ok locator →
      ({ locator with options } : Locator).settings = .ok settings → settings.IsEncrypted := by
  have htaken (locator : Locator) (options : List (String × String)) (settings : Settings)
      (hread : Locator.ofUrl url = .ok locator)
      (hsettings : ({ locator with options } : Locator).settings = .ok settings) :
      settings.IsEncrypted := by
    have hhttps : ({ locator with options } : Locator).isHttps = true :=
      (Locator.isHttps_of_ofUrl hscheme hread : locator.isHttps = true)
    exact isEncrypted_of_useTls (Locator.useTls_of_settings hhttps hsettings)
  refine ⟨?_, htaken⟩
  intro settings h
  obtain ⟨locator, hread, hsettings⟩ := bind_eq_ok_iff.1 h
  exact htaken locator locator.options settings hread hsettings

def spelledUrl : String :=
  " jdbc:Neo4J:HTTPS://ann:pw@[::1]:1234/?SSL=on,%74ls=YES&database=movies\n"

def spelledLocator : Locator where
  isHttps := true
  authority := "ann:pw@[::1]:1234/".toList
  options := [("SSL", "on"), ("database", "movies"), ("tls", "YES")]

def spelledSettings : Settings where
  host := "::1"
  port := 1234
  username? := some "ann"
  password := "pw"
  useTls := true
  autoCommit := true
  maxRows := 0
  debug := false
  readOnly := false
  timeout := .ofSeconds 30
  database? := some "movies"
  attributes := .empty

theorem https_stays_encrypted_spelled :
    Locator.HasScheme "https://".toList (Text.trim spelledUrl.toList)
        "ann:pw@[::1]:1234/?SSL=on,%74ls=YES&database=movies".toList ∧
      Locator.ofUrl spelledUrl = .ok spelledLocator ∧
      ofUrl spelledUrl = .ok spelledSettings ∧
      ({ spelledLocator with options := spelledLocator.options.reverse } : Locator).settings =
        .ok spelledSettings ∧
      spelledSettings.IsEncrypted := by
  have hscheme : Locator.HasScheme "https://".toList (Text.trim spelledUrl.toList)
      "ann:pw@[::1]:1234/?SSL=on,%74ls=YES&database=movies".toList :=
    ⟨"jdbc:".toList, "Neo4J:".toList, "HTTPS://".toList, by decide +kernel,
      .inr (by decide +kernel), .inr (by decide +kernel), by decide +kernel⟩
  have hlocator : Locator.ofUrl spelledUrl = .ok spelledLocator := by decide +kernel
  have hread : ofUrl spelledUrl = .ok spelledSettings := by decide +kernel
  have hreversed : ({ spelledLocator with options := spelledLocator.options.reverse } :
      Locator).settings = .ok spelledSettings := by decide +kernel
  obtain ⟨-, htaken⟩ := https_stays_encrypted spelledUrl _ hscheme
  exact ⟨hscheme, hlocator, hread, hreversed, htaken _ _ _ hlocator hreversed⟩

end Settings

end CypherSession

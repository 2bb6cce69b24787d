import CypherSession.Proofs.Settings.PasswordUrl
import CypherSession.Proofs.Text.Blank
import CypherSession.Proofs.Text.Percent

/-!
# Printed URLs read back

An endpoint is printed as a scheme, a host and a port, and the connection string of a database puts
the user before the host. Reading cuts such a text at the same places. The port is what stands after
the last colon, or after the bracket that closes the host, and the host begins after the last `@`.
So an address with colons is read back with brackets around it as well as without: the port, which
is always printed, keeps its last colon from being the last one of the authority.
-/

namespace CypherSession

open Result

namespace Text

theorem isDigit_of_getLast? {start : List Char} {n : Nat} {c : Char}
    (h : c ∈ (start ++ ':' :: digits n).getLast?) : c.isDigit = true := by
  rw [List.getLast?_append_of_ne_nil _ (List.cons_ne_nil _ _),
    List.getLast?_cons_of_ne_nil (digits_ne_nil n)] at h
  exact isDigit_of_mem_digits (List.mem_of_mem_getLast? h)

theorem unsigned?_digits {limit n : Nat} (h : n < limit) : unsigned? limit (digits n) = some n :=
  unsigned?_eq_some_iff.2 ⟨[], digits n, rfl, .inl rfl, numeral?_digits n, h⟩

theorem toList_toString_port (port : UInt16) : (toString port).toList = digits port.toNat :=
  Nat.toList_repr

end Text

/-! ## Settings that were accepted -/

namespace Settings

structure Accepted (settings : Settings) : Prop where
  host : settings.host ≠ ""
  username : settings.username? ≠ some ""
  port : settings.port ≠ 0

theorem accepted_of_build {draft : Draft} {settings : Settings}
    (h : draft.build = .ok settings) : settings.Accepted := by
  have hbuilds := Draft.builds_of_build h
  exact ⟨hbuilds.host.2, hbuilds.username, hbuilds.port⟩

theorem Reads.accepted {url : String} {settings : Settings} (h : Reads url (.ok settings)) :
    settings.Accepted := by
  obtain ⟨locator, options, -, -, hsettings⟩ := h.exists_locator
  obtain ⟨_, _, _, _, _, final, -, -, -, -, hbuild⟩ :=
    Locator.exists_draft_of_settings hsettings
  exact accepted_of_build hbuild

/-- What a printed URL says of settings: where the server is and, if it names one, the user. All
else is as it is by default. -/
def placeOf (settings : Settings) (username? : Option String) : Settings where
  host := settings.host
  port := settings.port
  username?
  password := ""
  useTls := settings.useTls
  autoCommit := true
  maxRows := 0
  debug := false
  readOnly := false
  timeout := defaultTimeout
  database? := none
  attributes := .empty

/-- What a printed URL says of accepted settings is accepted again. -/
theorem Accepted.build {settings : Settings} (h : settings.Accepted) {username? : Option String}
    (husername : username? ≠ some "") :
    (Locator.firstDraft settings.useTls settings.host.toList (some settings.port) username?
      "").build = .ok (settings.placeOf username?) := by
  have hhost : Draft.checkHost (some (String.ofList settings.host.toList)) = .ok settings.host := by
    rw [String.ofList_toList, Draft.checkHost, if_neg h.host]
  have husername : Draft.checkUsername username? = .ok () := if_neg husername
  have hport : Draft.checkPort settings.port = .ok () := if_neg h.port
  have htimeout : Draft.checkTimeout defaultTimeout = .ok () := by decide
  have hpassword : (username?.map fun _ => "").getD "" = "" := by cases username? <;> rfl
  simp only [Draft.build, Locator.firstDraft, hhost, husername, Option.getD_some, hport,
    Option.getD_none, htimeout, hpassword]
  rfl

end Settings

def Locator.hostMarks : List Char := ['/', '?', '@', '[', ']']

def Locator.userMarks : List Char := [':', '?', '%']

/-! ## Reading an authority -/

theorem Endpoint.mem_urlHost {host : String} {c : Char} (h : c ∈ (urlHost host).toList) :
    c ∈ host.toList ∨ c = '[' ∨ c = ']' := by
  unfold urlHost at h
  split at h
  · have hc : c = '[' ∨ c ∈ host.toList ∨ c = ']' := by simpa using h
    rcases hc with hopen | hmem | hclose
    · exact .inr (.inl hopen)
    · exact .inl hmem
    · exact .inr (.inr hclose)
  · exact .inl h

namespace Locator

open Text (digits)

variable {host : List Char} {port : UInt16}

/-- A port that is printed reads back. -/
theorem readPort_digits (shown : List Char) (port : UInt16) :
    readPort shown (digits port.toNat) = .ok port := by
  rw [readPort, Text.unsigned?_digits port.toNat_lt]
  exact congrArg Except.ok (UInt16.ofNat_toNat)

def readPlain (text : List Char) : Except ConnectionError (List Char × Option UInt16) :=
  match Text.cutLast ':' text with
  | some (host, port) => (readPort port port).map fun port => (host, some port)
  | none => .ok (text, none)

theorem readHostPort_eq_readPlain {text : List Char}
    (h : ∀ rest, text = '[' :: rest → ']' ∉ rest) : readHostPort text = readPlain text := by
  unfold readHostPort readPlain
  split
  · rename_i rest
    rw [Text.cutFirst_eq_none_iff.2 (h rest rfl)]
    cases Text.cutLast ':' ('[' :: rest) with
    | none => rfl
    | some parts => cases readPort parts.2 parts.2 <;> rfl
  · cases Text.cutLast ':' text with
    | none => rfl
    | some parts => cases readPort parts.2 parts.2 <;> rfl

/-- So does a host without a bracket at its head, which may hold colons, -/
theorem readHostPort_of_plain (hhost : host.head? ≠ some '[') :
    readHostPort (host ++ ':' :: digits port.toNat) = .ok (host, some port) := by
  have hcolon : ':' ∉ digits port.toNat := Text.not_mem_digits rfl
  have hcut : Text.cutLast ':' (host ++ ':' :: digits port.toNat) =
      some (host, digits port.toNat) := Text.cutLast_eq_some_iff.2 ⟨rfl, hcolon⟩
  have hopen (rest : List Char) (heq : host ++ ':' :: digits port.toNat = '[' :: rest) :
      ']' ∉ rest := by
    cases host with
    | nil => cases heq
    | cons c host => exact absurd (congrArg List.head? heq) hhost
  rw [readHostPort_eq_readPlain hopen, readPlain, hcut]
  simp only [readPort_digits]
  rfl

/-- and one in brackets. -/
theorem readHostPort_of_brackets (hhost : ']' ∉ host) :
    readHostPort ('[' :: host ++ ']' :: ':' :: digits port.toNat) = .ok (host, some port) := by
  have hcut : Text.cutFirst ']' (host ++ ']' :: ':' :: digits port.toNat) =
      some (host, ':' :: digits port.toNat) := Text.cutFirst_eq_some_iff.2 ⟨rfl, hhost⟩
  simp only [readHostPort, List.cons_append, hcut, readPort_digits]
  rfl

/-- The host of an endpoint is read back from the form in which its URL writes it. -/
theorem readHostPort_of_urlHost {host : String} (hopen : '[' ∉ host.toList)
    (hclose : ']' ∉ host.toList) :
    readHostPort ((Endpoint.urlHost host).toList ++ ':' :: digits port.toNat) =
      .ok (host.toList, some port) := by
  have hhead : host.toList.head? ≠ some '[' := fun h => hopen (List.mem_of_mem_head? h)
  unfold Endpoint.urlHost
  split
  · rw [String.toList_append, String.toList_append, List.append_assoc]
    exact readHostPort_of_brackets hclose
  · exact readHostPort_of_plain hhead

/-! ### The user -/

theorem decode_of_plain (part : String) {text : List Char} (h : '%' ∉ text) :
    decode part text = .ok (String.ofList text) := by
  rw [decode, Text.Percent.decode_of_plain h]

theorem readUser_of_plain {username : String} (h : ∀ c ∈ userMarks, c ∉ username.toList) :
    readUser username.toList = .ok (username, "") := by
  have hcut : Text.cutFirst ':' username.toList = none :=
    Text.cutFirst_eq_none_iff.2 (h ':' (by decide))
  simp only [readUser, hcut, Option.getD_none, decode_of_plain "username" (h '%' (by decide)),
    decode_of_plain "password" List.not_mem_nil, String.ofList_toList]
  rfl

def printedUser (username? : Option String) : List Char :=
  ((username?.map (· ++ "@")).getD "").toList

theorem not_mem_printedUser {username? : Option String} {c : Char} (hat : c ≠ '@')
    (h : ∀ username ∈ username?, c ∉ username.toList) : c ∉ printedUser username? := by
  cases username? with
  | none => exact List.not_mem_nil
  | some username => simp [printedUser, h username rfl, hat]

theorem exists_userInfo {username? : Option String} {hostPort : List Char}
    (hat : '@' ∉ hostPort) (h : ∀ username ∈ username?, ∀ c ∈ userMarks, c ∉ username.toList) :
    ∃ userInfo?, userAndHost (printedUser username? ++ hostPort) = (userInfo?, hostPort) ∧
      readCredentials userInfo? [] = .ok (username?, "", []) := by
  cases username? with
  | none =>
    refine ⟨none, ?_, rfl⟩
    rw [userAndHost, Text.cutLast_eq_none_iff.2]
    · rfl
    · exact hat
  | some username =>
    refine ⟨some username.toList, ?_, ?_⟩
    · have hprinted : printedUser (some username) = username.toList ++ ['@'] := by
        simp [printedUser]
      rw [hprinted, List.append_assoc]
      exact userAndHost_eq hat
    · rw [readCredentials_some, readUser_of_plain (h username rfl)]
      rfl

/-! ## Reading a printed URL -/

/-- The parts of a printed URL, which has no options and ends in a port. -/
theorem ofUrl_of_printed {url : String} {neo4j authority : List Char} (isHttps : Bool)
    (hneo4j : neo4j = [] ∨ neo4j = "neo4j:".toList) (hauthority : '?' ∉ authority)
    (hurl : url.toList = neo4j ++ ((Endpoint.scheme isHttps ++ "://").toList ++
      (authority ++ ':' :: digits port.toNat))) :
    ofUrl url = .ok ⟨isHttps, authority ++ ':' :: digits port.toNat, []⟩ := by
  obtain ⟨first, hfirst, hblank⟩ : ∃ first, url.toList.head? = some first ∧
      Text.isBlank first = false := by
    rw [hurl]
    rcases hneo4j with rfl | rfl <;> cases isHttps <;> exact ⟨_, rfl, by decide⟩
  have htrim : Text.trim url.toList = url.toList := by
    apply Text.trim_of_ends
    · intro c hc
      rwa [Option.some.inj (hfirst.symm.trans hc)] at hblank
    · intro c hc
      rw [hurl, ← List.append_assoc, ← List.append_assoc] at hc
      exact Text.isBlank_of_isDigit (Text.isDigit_of_getLast? hc)
  have hspells : neo4j = [] ∨ Text.Spells "neo4j:".toList neo4j :=
    hneo4j.imp_right (congrArg (List.map Char.toLower))
  have hsplit : splitScheme? (Text.trim url.toList) =
      some (isHttps, authority ++ ':' :: digits port.toNat) := by
    rw [htrim]
    cases isHttps with
    | true =>
      exact splitScheme?_of_https ⟨[], neo4j, "https://".toList, hurl, .inl rfl, hspells, rfl⟩
    | false =>
      exact splitScheme?_of_http ⟨[], neo4j, "http://".toList, hurl, .inl rfl, hspells, rfl⟩
  have hquestion : '?' ∉ authority ++ ':' :: digits port.toNat := by
    simp [hauthority, Text.not_mem_digits]
  have hcut : cutOptions (authority ++ ':' :: digits port.toNat) =
      (authority ++ ':' :: digits port.toNat, []) := by
    have hcut := @cutOptions_append _ [] hquestion nofun
    rwa [List.append_nil] at hcut
  rw [ofUrl_eq hsplit, hcut]
  rfl

/-- What a printed URL is read as, once its user and its host have been cut out. -/
theorem settings_of_printed {settings : Settings} (haccepted : settings.Accepted)
    {authority host : List Char} {userInfo? : Option (List Char)} {username? : Option String}
    (hparts : userAndHost authority = (userInfo?, host ++ ':' :: digits settings.port.toNat))
    (hcredentials : readCredentials userInfo? [] = .ok (username?, "", []))
    (husername : username? ≠ some "") (hslash : '/' ∉ host)
    (hread : readHostPort (host ++ ':' :: digits settings.port.toNat) =
      .ok (settings.host.toList, some settings.port)) :
    (⟨settings.useTls, authority, []⟩ : Locator).settings = .ok (settings.placeOf username?) := by
  have htrimmed : Text.dropEndWhile (· = '/') (host ++ ':' :: digits settings.port.toNat) =
      host ++ ':' :: digits settings.port.toNat := by
    apply Text.dropEndWhile_of_getLast?
    intro c hc
    have hdigit := Text.isDigit_of_getLast? hc
    apply decide_eq_false
    rintro rfl
    cases hdigit
  have hpath : '/' ∉ host ++ ':' :: digits settings.port.toNat := by
    simp [hslash, Text.not_mem_digits]
  have hcheck : checkOptions settings.useTls [] = .ok () := by cases settings.useTls <;> rfl
  simp only [settings_eq, hparts, hcheck, hcredentials]
  change finish settings.useTls _ (username?, "", []) = _
  simp only [finish, htrimmed, if_neg hpath, hread]
  exact haccepted.build husername

end Locator

namespace Settings

open Locator (hostMarks userMarks)

variable {settings : Settings}

/-- The URL of an endpoint reads back as its host, its port and its encryption. -/
theorem ofUrl_baseUrl (haccepted : settings.Accepted)
    (hhost : ∀ c ∈ hostMarks, c ∉ settings.host.toList) :
    ofUrl settings.endpoint.baseUrl = .ok (settings.placeOf none) := by
  have hplain {c : Char} (hmark : c ∈ hostMarks) (hopen : c ≠ '[') (hclose : c ≠ ']') :
      c ∉ (Endpoint.urlHost settings.host).toList := by
    intro hmem
    rcases Endpoint.mem_urlHost hmem with hmem | rfl | rfl
    · exact hhost c hmark hmem
    · exact hopen rfl
    · exact hclose rfl
  have hurl : settings.endpoint.baseUrl.toList =
      [] ++ ((Endpoint.scheme settings.useTls ++ "://").toList ++
        ((Endpoint.urlHost settings.host).toList ++ ':' :: Text.digits settings.port.toNat)) := by
    rw [← Text.toList_toString_port]
    simp [Endpoint.baseUrl, Settings.endpoint]
  have hread := @Locator.readHostPort_of_urlHost settings.port _
    (hhost '[' (by decide)) (hhost ']' (by decide))
  have hparts : Locator.userAndHost
      ((Endpoint.urlHost settings.host).toList ++ ':' :: Text.digits settings.port.toNat) =
        (none, (Endpoint.urlHost settings.host).toList ++
          ':' :: Text.digits settings.port.toNat) := by
    have hat : '@' ∉ (Endpoint.urlHost settings.host).toList ++
        ':' :: Text.digits settings.port.toNat := by
      simp [hplain (c := '@') (by decide) (by decide) (by decide), Text.not_mem_digits]
    rw [Locator.userAndHost, Text.cutLast_eq_none_iff.2 hat]
  rw [ofUrl, Locator.ofUrl_of_printed settings.useTls (.inl rfl)
    (hplain (by decide) (by decide) (by decide)) hurl]
  exact Locator.settings_of_printed haccepted hparts rfl (by simp)
    (hplain (by decide) (by decide) (by decide)) hread

/-- A connection string reads back as the same and the user. -/
theorem ofUrl_connectionString (haccepted : settings.Accepted)
    (hhost : ∀ c ∈ hostMarks, c ∉ settings.host.toList)
    (husername : ∀ username ∈ settings.username?, ∀ c ∈ userMarks, c ∉ username.toList) :
    ofUrl (Database.mk settings).connectionString =
      .ok (settings.placeOf settings.username?) := by
  have hurl : (Database.mk settings).connectionString.toList =
      "neo4j:".toList ++ ((Endpoint.scheme settings.useTls ++ "://").toList ++
        (Locator.printedUser settings.username? ++ settings.host.toList ++
          ':' :: Text.digits settings.port.toNat)) := by
    rw [← Text.toList_toString_port]
    simp [Database.connectionString, Locator.printedUser]
  have hquestion : '?' ∉ Locator.printedUser settings.username? ++ settings.host.toList := by
    have huser := Locator.not_mem_printedUser (c := '?') (by decide)
      fun username hname => husername username hname '?' (by decide)
    simp [huser, hhost '?' (by decide)]
  have hat : '@' ∉ settings.host.toList ++ ':' :: Text.digits settings.port.toNat := by
    simp [hhost '@' (by decide), Text.not_mem_digits]
  have hhead : settings.host.toList.head? ≠ some '[' :=
    fun h => hhost '[' (by decide) (List.mem_of_mem_head? h)
  obtain ⟨userInfo?, hparts, hcredentials⟩ := Locator.exists_userInfo hat husername
  rw [← List.append_assoc] at hparts
  rw [ofUrl, Locator.ofUrl_of_printed settings.useTls (.inr rfl) hquestion hurl]
  exact Locator.settings_of_printed haccepted hparts hcredentials haccepted.username
    (hhost '/' (by decide)) (Locator.readHostPort_of_plain hhead)

/-- **Printed URLs read back.** If the host of accepted settings, of a draft or of a URL whose
options are taken in any order, holds none of the characters that end a host, then the URL of their
endpoint describes the same host, port and encryption; if the user, when there is one, also holds no
colon, question mark or percent sign, then the connection string describes the same user as well.
Neither of them says anything else. -/
theorem printed_reads_back (settings : Settings)
    (haccepted : (∃ draft : Draft, draft.build = .ok settings) ∨
      ∃ url, Reads url (.ok settings))
    (hhost : ∀ c ∈ ['/', '?', '@', '[', ']'], c ∉ settings.host.toList) :
    ofUrl settings.endpoint.baseUrl = .ok (settings.placeOf none) ∧
    ((∀ username ∈ settings.username?, ∀ c ∈ [':', '?', '%'], c ∉ username.toList) →
      ofUrl (Database.mk settings).connectionString =
        .ok (settings.placeOf settings.username?)) := by
  have hsettings : settings.Accepted := by
    rcases haccepted with ⟨draft, hbuild⟩ | ⟨url, hurl⟩
    · exact accepted_of_build hbuild
    · exact hurl.accepted
  exact ⟨ofUrl_baseUrl hsettings hhost, ofUrl_connectionString hsettings hhost⟩

def addressDraft : Draft where
  host? := some "fe80::1"
  username? := some "ann@x/é"
  password? := some "secret"
  useTls? := some true
  database? := some "movies"

def addressSettings : Settings where
  host := "fe80::1"
  port := 7473
  username? := some "ann@x/é"
  password := "secret"
  useTls := true
  autoCommit := true
  maxRows := 0
  debug := false
  readOnly := false
  timeout := .ofSeconds 30
  database? := some "movies"
  attributes := .empty

/-- An address with colons, in brackets and without, and a user with the marks of other parts. -/
theorem printed_reads_back_address :
    addressDraft.build = .ok addressSettings ∧
      addressSettings.endpoint.baseUrl = "https://[fe80::1]:7473" ∧
      ofUrl addressSettings.endpoint.baseUrl = .ok (addressSettings.placeOf none) ∧
      (Database.mk addressSettings).connectionString = "neo4j:https://ann@x/é@fe80::1:7473" ∧
      ofUrl (Database.mk addressSettings).connectionString =
        .ok (addressSettings.placeOf (some "ann@x/é")) := by
  have hbuild : addressDraft.build = .ok addressSettings := by decide +kernel
  have huser : ∀ username ∈ addressSettings.username?, ∀ c ∈ [':', '?', '%'],
      c ∉ username.toList := by
    intro username h
    cases h
    simp
  have hhost : ∀ c ∈ ['/', '?', '@', '[', ']'], c ∉ addressSettings.host.toList := by
    simp [addressSettings]
  obtain ⟨hbase, hconnection⟩ :=
    printed_reads_back addressSettings (.inl ⟨addressDraft, hbuild⟩) hhost
  exact ⟨hbuild, by decide +kernel, hbase, by decide +kernel, hconnection huser⟩

end Settings

end CypherSession

import CypherSession.Proofs.Settings.Password

/-!
# URLs that differ in the password

A password stands in a URL before the last `@` of the authority or as the value of an option. In
both places it may contain every character but those that end it, so the cuts that find the other
parts of the URL never fall into it.
-/

namespace CypherSession

open Result

/-! ## Dictionaries -/

section

variable {α : Type} {name other : String}

theorem find?_foldl_insert {first second : Dictionary α}
    (h : first.find? other = second.find? other) (pairs : List (String × α)) :
    let insert (dictionary : Dictionary α) (pair : String × α) := dictionary.insert pair.1 pair.2
    (pairs.foldl insert first).find? other = (pairs.foldl insert second).find? other := by
  intro insert
  induction pairs generalizing first second with
  | nil => exact h
  | cons pair rest ih =>
    refine ih ?_
    rw [Dictionary.find?_insert, Dictionary.find?_insert, h]

/-- The value under one name makes no difference under another one. -/
theorem find?_ofList_of_ne (hne : other ≠ name) (before after : List (String × α))
    (value value' : α) :
    (Dictionary.ofList (before ++ (name, value) :: after)).find? other =
      (Dictionary.ofList (before ++ (name, value') :: after)).find? other := by
  unfold Dictionary.ofList
  rw [List.foldl_append, List.foldl_append]
  refine find?_foldl_insert ?_ after
  rw [Dictionary.find?_insert, Dictionary.find?_insert, if_neg hne, if_neg hne]

theorem lookup?_filter (keep : String → Bool) (name : String) (entries : List (String × α)) :
    lookup? name (entries.filter fun entry => keep entry.1) =
      if keep name then lookup? name entries else none := by
  induction entries with
  | nil => simp [lookup?]
  | cons entry rest ih =>
    obtain ⟨n, value⟩ := entry
    rw [List.filter_cons]
    by_cases hkeep : keep n = true
    · rw [if_pos hkeep, lookup?, lookup?, ih]
      by_cases hname : n = name
      · rw [if_pos hname, if_pos hname, ← hname, if_pos hkeep]
      · rw [if_neg hname, if_neg hname]
    · rw [if_neg hkeep, ih, lookup?]
      by_cases hname : n = name
      · rw [← hname, if_neg hkeep, if_neg hkeep]
      · rw [if_neg hname]

end

namespace Locator

/-- The value of a password makes no difference to the other options. -/
theorem withoutPasswords_ofList {name : String} (hname : Key.ofName? name = some .password)
    (before after : List (String × String)) (value value' : String) :
    withoutPasswords (Dictionary.ofList (before ++ (name, value) :: after)).entries =
      withoutPasswords (Dictionary.ofList (before ++ (name, value') :: after)).entries := by
  have hordered (dictionary : Dictionary String) :
      Ordered (withoutPasswords dictionary.entries) := dictionary.ordered.filter _
  refine eq_of_lookup?_eq (hordered _) (hordered _) fun other => ?_
  have hlookup (entries : List (String × String)) :=
    lookup?_filter (fun name => Key.ofName? name ≠ some .password) other entries
  unfold withoutPasswords
  rw [hlookup, hlookup]
  by_cases hkey : Key.ofName? other = some .password
  · simp only [hkey, ne_eq, not_true_eq_false, decide_false, Bool.false_eq_true, if_false]
  · have hne : other ≠ name := by
      rintro rfl
      exact hkey hname
    have hfind := find?_ofList_of_ne hne before after value value'
    unfold Dictionary.find? at hfind
    rw [hfind]

/-! ## Options in a text -/

def isSeparator (c : Char) : Bool := c = '&' || c = ','

def segments (text : List Char) : List (List Char) :=
  (text.splitOnP isSeparator).filter (· ≠ [])

theorem readOptions_eq (text : List Char) :
    readOptions text = ((segments text).mapM readOption).map Dictionary.ofList := by
  change (do return Dictionary.ofList (← (segments text).mapM readOption)) = _
  cases (segments text).mapM readOption <;> rfl

theorem segments_append {c : Char} (hc : isSeparator c = true) (before after : List Char) :
    segments (before ++ c :: after) = segments before ++ segments after := by
  unfold segments
  rw [List.splitOnP_append_cons before after hc, List.filter_append]

theorem segments_of_segment {segment : List Char} (hne : segment ≠ [])
    (h : ∀ c ∈ segment, isSeparator c = false) : segments segment = [segment] := by
  unfold segments
  rw [List.splitOnP_eq_singleton fun c hc => by simp [h c hc]]
  exact List.filter_cons_of_pos (by simpa using hne)

/-- A segment of the options is one wherever it stands between separators. -/
theorem segments_around {before segment after : List Char}
    (hbefore : ∀ c ∈ before.getLast?, isSeparator c = true)
    (hafter : ∀ c ∈ after.head?, isSeparator c = true) (hne : segment ≠ [])
    (h : ∀ c ∈ segment, isSeparator c = false) :
    segments (before ++ (segment ++ after)) = segments before ++ segment :: segments after := by
  have hrest : segments (segment ++ after) = segment :: segments after := by
    cases after with
    | nil => rw [List.append_nil, segments_of_segment hne h]; rfl
    | cons c rest =>
      have hc := hafter c rfl
      have hsegments : segments (c :: rest) = segments rest := segments_append hc [] rest
      rw [segments_append hc, segments_of_segment hne h, hsegments]
      rfl
  rcases List.eq_nil_or_concat' before with rfl | ⟨start, c, rfl⟩
  · exact hrest
  · have hc : isSeparator c = true := hbefore c (by simp)
    rw [List.append_assoc, List.singleton_append, segments_append hc, segments_append hc, hrest,
      List.append_assoc]
    rfl

/-- The text is a name of the option for passwords, with or without escapes. -/
structure NamesPassword (key : List Char) : Prop where
  noEquals : '=' ∉ key
  noSeparator : ∀ c ∈ key, isSeparator c = false
  decodes : ∃ name, Text.Percent.decode key = .ok name ∧
    Key.ofName? (String.ofList name) = some .password

theorem exists_readOption {key password : List Char} {name : List Char} (hkey : '=' ∉ key)
    (hname : Text.Percent.decode key = .ok name) (hpassword : Decodes password) :
    ∃ value, readOption (key ++ '=' :: password) = .ok (String.ofList name, value) := by
  obtain ⟨value, hvalue⟩ := exists_decode "value" hpassword
  have hcut : Text.cutFirst '=' (key ++ '=' :: password) = some (key, password) :=
    Text.cutFirst_eq_some_iff.2 ⟨rfl, hkey⟩
  have hdecode : decode "key" key = .ok (String.ofList name) := by simp only [decode, hname]
  refine ⟨value, ?_⟩
  simp only [readOption, hcut, Option.getD_some, hdecode, hvalue]
  rfl

/-- Options that differ in a password are the same but for the passwords among them. -/
theorem readOptions_withoutPasswords {before key password other after : List Char}
    (hbefore : ∀ c ∈ before.getLast?, isSeparator c = true)
    (hafter : ∀ c ∈ after.head?, isSeparator c = true) (hkey : NamesPassword key)
    (hpassword : Decodes password) (hother : Decodes other)
    (hseparator : ∀ c ∈ password ++ other, isSeparator c = false) :
    (readOptions (before ++ (key ++ '=' :: password ++ after))).map
        (fun options => withoutPasswords options.entries) =
      (readOptions (before ++ (key ++ '=' :: other ++ after))).map
        (fun options => withoutPasswords options.entries) := by
  obtain ⟨name, hdecode, hname⟩ := hkey.decodes
  obtain ⟨value, hvalue⟩ := exists_readOption hkey.noEquals hdecode hpassword
  obtain ⟨value', hvalue'⟩ := exists_readOption hkey.noEquals hdecode hother
  have hsegment (password : List Char) (h : ∀ c ∈ password, isSeparator c = false) :
      ∀ c ∈ key ++ '=' :: password, isSeparator c = false := by
    intro c hc
    rcases List.mem_append.1 hc with hmem | hmem
    · exact hkey.noSeparator c hmem
    · rcases List.mem_cons.1 hmem with rfl | hmem
      · rfl
      · exact h c hmem
  obtain ⟨hfirst, hsecond⟩ := List.forall_mem_append.1 hseparator
  rw [readOptions_eq, readOptions_eq,
    segments_around hbefore hafter (by simp) (hsegment password hfirst),
    segments_around hbefore hafter (by simp) (hsegment other hsecond)]
  simp only [List.mapM_append, List.mapM_cons, hvalue, hvalue']
  cases (segments before).mapM readOption with
  | error error => rfl
  | ok pairs =>
    cases (segments after).mapM readOption with
    | error error => rfl
    | ok pairs' =>
      exact congrArg Except.ok (withoutPasswords_ofList hname pairs pairs' value value')

/-! ## Places for a password -/

def IsStart (start : List Char) : Prop :=
  HasScheme "https://".toList start [] ∨ HasScheme "http://".toList start []

theorem HasScheme.append {scheme start : List Char} (h : HasScheme scheme start [])
    (rest : List Char) : HasScheme scheme (start ++ rest) rest := by
  obtain ⟨jdbc, neo4j, written, rfl, hwords⟩ := h
  refine ⟨jdbc, neo4j, written, ?_, hwords⟩
  simp only [List.append_nil, List.append_assoc]

theorem IsStart.exists_splitScheme? {start : List Char} (h : IsStart start) :
    ∃ isHttps, ∀ rest, splitScheme? (start ++ rest) = some (isHttps, rest) := by
  rcases h with hhttps | hhttp
  · exact ⟨true, fun rest => splitScheme?_of_https (hhttps.append rest)⟩
  · exact ⟨false, fun rest => splitScheme?_of_http (hhttp.append rest)⟩

/-- A connection URL with a place for the password of its user information: between the first colon
of that and the last `@` before the options. -/
structure UserSlot where
  start : List Char
  user : List Char
  hostPort : List Char
  options : List Char
  isStart : IsStart start
  user_plain : ':' ∉ user ∧ '?' ∉ user
  hostPort_plain : '@' ∉ hostPort ∧ '?' ∉ hostPort
  options_start : ∀ c ∈ options.head?, c = '?'

/-- A connection URL with a place for the value of an option for passwords. -/
structure OptionSlot where
  start : List Char
  authority : List Char
  before : List Char
  key : List Char
  after : List Char
  isStart : IsStart start
  authority_plain : '?' ∉ authority
  before_end : ∀ c ∈ before.getLast?, isSeparator c = true
  after_start : ∀ c ∈ after.head?, isSeparator c = true
  namesPassword : NamesPassword key

def UserSlot.fill (slot : UserSlot) (password : List Char) : List Char :=
  slot.start ++ (slot.user ++ ':' :: password ++ '@' :: slot.hostPort ++ slot.options)

def OptionSlot.fill (slot : OptionSlot) (password : List Char) : List Char :=
  slot.start ++ (slot.authority ++
    '?' :: (slot.before ++ (slot.key ++ '=' :: password ++ slot.after)))

/-- Two connection URLs are the same but for the password and for blanks around them. -/
inductive DifferInPassword (first second : String) : Prop where
  | userInfo (slot : UserSlot) {password other : List Char}
      (hpassword : '?' ∉ password ∧ Decodes password) (hother : '?' ∉ other ∧ Decodes other)
      (hfirst : Text.trim first.toList = slot.fill password)
      (hsecond : Text.trim second.toList = slot.fill other) : DifferInPassword first second
  | option (slot : OptionSlot) {password other : List Char}
      (hpassword : (∀ c ∈ password, isSeparator c = false) ∧ Decodes password)
      (hother : (∀ c ∈ other, isSeparator c = false) ∧ Decodes other)
      (hfirst : Text.trim first.toList = slot.fill password)
      (hsecond : Text.trim second.toList = slot.fill other) : DifferInPassword first second

/-! ## Reading -/

def cutOptions (rest : List Char) : List Char × List Char :=
  (Text.cutFirst '?' rest).getD (rest, [])

theorem cutOptions_append {authority options : List Char} (hauthority : '?' ∉ authority)
    (hoptions : ∀ c ∈ options.head?, c = '?') :
    cutOptions (authority ++ options) = (authority, options.tail) := by
  unfold cutOptions
  cases options with
  | nil =>
    rw [List.append_nil, Text.cutFirst_eq_none_iff.2 hauthority]
    rfl
  | cons c rest =>
    obtain rfl : c = '?' := hoptions c rfl
    rw [Text.cutFirst_eq_some_iff.2 ⟨rfl, hauthority⟩]
    rfl

/-- Reading a URL with a scheme cuts it at the first question mark. -/
theorem ofUrl_eq {url : String} {isHttps : Bool} {rest : List Char}
    (hsplit : splitScheme? (Text.trim url.toList) = some (isHttps, rest)) :
    ofUrl url = (readOptions (cutOptions rest).2).map fun options =>
      ⟨isHttps, (cutOptions rest).1, options.entries⟩ := by
  simp only [ofUrl, hsplit]
  change (do
    let options ← readOptions (cutOptions rest).2
    return (⟨isHttps, (cutOptions rest).1, options.entries⟩ : Locator)) = _
  cases readOptions (cutOptions rest).2 <;> rfl

def AlikeWithoutPassword (first second : Except ConnectionError Locator) : Prop :=
  (∃ error, first = .error error ∧ second = .error error) ∨
    ∃ locator other, first = .ok locator ∧ second = .ok other ∧
      locator.settings.map Settings.withoutPassword = other.settings.map Settings.withoutPassword

/-- The password of the user information stays out of what is read besides it. -/
theorem alike_of_userSlot {first second : String} (slot : UserSlot) {password other : List Char}
    (hpassword : '?' ∉ password ∧ Decodes password) (hother : '?' ∉ other ∧ Decodes other)
    (hfirst : Text.trim first.toList = slot.fill password)
    (hsecond : Text.trim second.toList = slot.fill other) :
    AlikeWithoutPassword (ofUrl first) (ofUrl second) := by
  obtain ⟨isHttps, hsplit⟩ := slot.isStart.exists_splitScheme?
  have hread {url : String} {password : List Char} (hplain : '?' ∉ password)
      (hurl : Text.trim url.toList = slot.fill password) :
      ofUrl url = (readOptions slot.options.tail).map fun options =>
        ⟨isHttps, slot.user ++ ':' :: password ++ '@' :: slot.hostPort, options.entries⟩ := by
    have hauthority : '?' ∉ slot.user ++ ':' :: password ++ '@' :: slot.hostPort := by
      simp [slot.user_plain.2, hplain, slot.hostPort_plain.2]
    rw [ofUrl_eq (by rw [hurl]; exact hsplit _), cutOptions_append hauthority slot.options_start]
  rw [hread hpassword.1 hfirst, hread hother.1 hsecond]
  cases readOptions slot.options.tail with
  | error error => exact .inl ⟨error, rfl, rfl⟩
  | ok options =>
    exact .inr ⟨_, _, rfl, rfl, settings_of_userInfo isHttps options.entries slot.user_plain.1
      slot.hostPort_plain.1 hpassword.2 hother.2⟩

/-- So does the password of an option. -/
theorem alike_of_optionSlot {first second : String} (slot : OptionSlot)
    {password other : List Char}
    (hpassword : (∀ c ∈ password, isSeparator c = false) ∧ Decodes password)
    (hother : (∀ c ∈ other, isSeparator c = false) ∧ Decodes other)
    (hfirst : Text.trim first.toList = slot.fill password)
    (hsecond : Text.trim second.toList = slot.fill other) :
    AlikeWithoutPassword (ofUrl first) (ofUrl second) := by
  obtain ⟨isHttps, hsplit⟩ := slot.isStart.exists_splitScheme?
  have hread {url : String} {password : List Char}
      (hurl : Text.trim url.toList = slot.fill password) :
      ofUrl url =
        (readOptions (slot.before ++ (slot.key ++ '=' :: password ++ slot.after))).map
          fun options => ⟨isHttps, slot.authority, options.entries⟩ := by
    rw [ofUrl_eq (by rw [hurl]; exact hsplit _),
      cutOptions_append slot.authority_plain (by simp)]
    rfl
  have hseparator : ∀ c ∈ password ++ other, isSeparator c = false :=
    List.forall_mem_append.2 ⟨hpassword.1, hother.1⟩
  have hoptions := readOptions_withoutPasswords slot.before_end slot.after_start
    slot.namesPassword hpassword.2 hother.2 hseparator
  rw [hread hfirst, hread hsecond]
  rcases map_eq_map_iff.1 hoptions with ⟨error, hread, hread'⟩ | ⟨options, left, hread, hread', h⟩
  · rw [hread, hread']
    exact .inl ⟨error, rfl, rfl⟩
  · rw [hread, hread']
    exact .inr ⟨_, _, rfl, rfl, settings_of_options ⟨isHttps, slot.authority, []⟩ h⟩

theorem alike_of_differInPassword {first second : String} (h : DifferInPassword first second) :
    AlikeWithoutPassword (ofUrl first) (ofUrl second) := by
  cases h with
  | userInfo slot hpassword hother hfirst hsecond =>
    exact alike_of_userSlot slot hpassword hother hfirst hsecond
  | option slot hpassword hother hfirst hsecond =>
    exact alike_of_optionSlot slot hpassword hother hfirst hsecond

end Locator

/-! ## What is seen of settings -/

namespace Settings

/-- The text lists the attributes of the settings in some order. -/
def Lists (settings : Settings) (write : List (String × String) → String) (text : String) : Prop :=
  ∃ order, order.Perm settings.attributes.entries ∧ write order = text

def IsDebugText (settings : Settings) : String → Prop := settings.Lists (settings.debugText ·)

def IsDatabaseDebugText (settings : Settings) : String → Prop :=
  settings.Lists ((Database.mk settings).debugText ·)

/-- Two settings agree in all but the password, and no text of them tells them apart. A text that
lists the attributes is the same if it lists them in the same order; so the two can have the same
texts, and if there is no more than one attribute, they have one text. -/
structure SameButPassword (first second : Settings) : Prop where
  fields : { second with password := first.password } = first
  debugText : ∀ order, second.debugText order = first.debugText order
  isDebugText_iff : ∀ text, second.IsDebugText text ↔ first.IsDebugText text
  debugText_unique : first.attributes.entries.length ≤ 1 → ∀ text other,
    first.IsDebugText text → second.IsDebugText other → other = text
  text : second.text = first.text
  databaseDebugText : ∀ order,
    (Database.mk second).debugText order = (Database.mk first).debugText order
  isDatabaseDebugText_iff : ∀ text, second.IsDatabaseDebugText text ↔ first.IsDatabaseDebugText text
  databaseDebugText_unique : first.attributes.entries.length ≤ 1 → ∀ text other,
    first.IsDatabaseDebugText text → second.IsDatabaseDebugText other → other = text
  databaseText : (Database.mk second).text = (Database.mk first).text
  connectionString : (Database.mk second).connectionString = (Database.mk first).connectionString

/-- One attribute can be listed in one order only. -/
theorem Lists.eq_entries {settings : Settings} {write : List (String × String) → String}
    {text : String} (h : settings.Lists write text)
    (hlength : settings.attributes.entries.length ≤ 1) :
    text = write settings.attributes.entries := by
  obtain ⟨order, hperm, rfl⟩ := h
  cases hentries : settings.attributes.entries with
  | nil => rw [hentries] at hperm; rw [hperm.eq_nil]
  | cons entry rest =>
    rw [hentries, List.length_cons] at hlength
    obtain rfl : rest = [] := List.eq_nil_of_length_eq_zero (by omega)
    rw [hentries] at hperm
    rw [hperm.eq_singleton]

/-- No text of settings shows the password. -/
theorem sameButPassword_of_withoutPassword {first second : Settings}
    (h : first.withoutPassword = second.withoutPassword) : first.SameButPassword second := by
  -- Nothing that is shown is read off the password, so the two sides of `h` show the same.
  have hattributes : second.attributes = first.attributes := (congrArg Settings.attributes h).symm
  have hdebug : (second.debugText ·) = (first.debugText ·) :=
    funext fun order => (congrArg (fun seen : Settings => seen.debugText order) h).symm
  have hdatabase : ((Database.mk second).debugText ·) = ((Database.mk first).debugText ·) :=
    funext fun order => (congrArg (fun seen => (Database.mk seen).debugText order) h).symm
  have hlists (write : List (String × String) → String) :
      second.Lists write = first.Lists write := by
    unfold Lists
    rw [hattributes]
  have hone (write : List (String × String) → String)
      (hlength : first.attributes.entries.length ≤ 1) (text other : String)
      (hfirst : first.Lists write text) (hsecond : first.Lists write other) : other = text :=
    (hsecond.eq_entries hlength).trans (hfirst.eq_entries hlength).symm
  have hdebugTexts : second.IsDebugText = first.IsDebugText := by
    rw [IsDebugText, IsDebugText, hdebug, hlists]
  have hdatabaseTexts : second.IsDatabaseDebugText = first.IsDatabaseDebugText := by
    rw [IsDatabaseDebugText, IsDatabaseDebugText, hdatabase, hlists]
  exact {
    fields := (congrArg (fun seen => { seen with password := first.password }) h).symm
    debugText := congrFun hdebug
    isDebugText_iff := fun text => iff_of_eq (congrFun hdebugTexts text)
    debugText_unique := by
      rw [hdebugTexts]
      exact hone (first.debugText ·)
    text := (congrArg Settings.text h).symm
    databaseDebugText := congrFun hdatabase
    isDatabaseDebugText_iff := fun text => iff_of_eq (congrFun hdatabaseTexts text)
    databaseDebugText_unique := by
      rw [hdatabaseTexts]
      exact hone ((Database.mk first).debugText ·)
    databaseText := (congrArg (fun seen => (Database.mk seen).text) h).symm
    connectionString := (congrArg (fun seen => (Database.mk seen).connectionString) h).symm }

inductive ReadAlike :
    Except ConnectionError Settings → Except ConnectionError Settings → Prop where
  | refused (error : ConnectionError) : ReadAlike (.error error) (.error error)
  | read {first second : Settings} (h : first.SameButPassword second) :
      ReadAlike (.ok first) (.ok second)

theorem readAlike_of_withoutPassword {first second : Except ConnectionError Settings}
    (h : first.map withoutPassword = second.map withoutPassword) : ReadAlike first second := by
  rcases map_eq_map_iff.1 h with ⟨error, rfl, rfl⟩ | ⟨settings, other, rfl, rfl, hsame⟩
  · exact .refused error
  · exact .read (sameButPassword_of_withoutPassword hsame)

/-- **The password stays private.** Two URLs that differ in the password alone are refused with the
same error, or they are read as settings that agree in all but the password, and no text of these
tells which one it was. This holds in every order in which the options of the two URLs are taken, if
in neither of them two options name the same setting or more than one is refused. -/
theorem password_stays_private (first second : String)
    (hdiffer : Locator.DifferInPassword first second)
    (hindependent : ∀ locator,
      Locator.ofUrl first = .ok locator ∨ Locator.ofUrl second = .ok locator →
        locator.options.Pairwise Locator.Independent) :
    ReadAlike (ofUrl first) (ofUrl second) ∧
      ∀ result other, Reads first result → Reads second other → ReadAlike result other := by
  have hreads (result other : Except ConnectionError Settings) (hresult : Reads first result)
      (hother : Reads second other) : ReadAlike result other := by
    rcases Locator.alike_of_differInPassword hdiffer with
      ⟨error, hfirst, hsecond⟩ | ⟨locator, locator', hfirst, hsecond, hsame⟩
    · rw [hresult.eq_error hfirst, hother.eq_error hsecond]
      exact .refused error
    · rw [hresult.eq_settings hfirst (hindependent locator (.inl hfirst)),
        hother.eq_settings hsecond (hindependent locator' (.inr hsecond))]
      exact readAlike_of_withoutPassword hsame
  exact ⟨hreads _ _ (reads_of_ofUrl rfl) (reads_of_ofUrl rfl), hreads⟩

def sampleUserSlot : Locator.UserSlot where
  start := "jdbc:Neo4J:HTTPS://".toList
  user := "ann".toList
  hostPort := "[::1]:7473/".toList
  options := "?team=red&area=north".toList
  isStart := .inl ⟨"jdbc:".toList, "Neo4J:".toList, "HTTPS://".toList, by decide +kernel,
    .inr (by decide +kernel), .inr (by decide +kernel), by decide +kernel⟩
  user_plain := by decide +kernel
  hostPort_plain := by decide +kernel
  options_start := by simp

def sampleOptionSlot : Locator.OptionSlot where
  start := "http://".toList
  authority := "db.example".toList
  before := "maxRows=many,".toList
  key := "Pass%77ord".toList
  after := "&".toList
  isStart := .inr ⟨[], [], "http://".toList, by decide +kernel, .inl rfl, .inl rfl,
    by decide +kernel⟩
  authority_plain := by decide +kernel
  before_end := by simp [Locator.isSeparator]
  after_start := by simp [Locator.isSeparator]
  namesPassword := {
    noEquals := by decide +kernel
    noSeparator := by simp [Locator.isSeparator]
    decodes := ⟨"Password".toList, by decide +kernel, by decide +kernel⟩ }

def sampleOptions (password : String) : List (String × String) :=
  [("Password", password), ("maxRows", "many")]

theorem independent_sampleOptions (password : String) :
    (sampleOptions password).Pairwise Locator.Independent := by
  have hkey : Locator.Key.ofName? "Password" = some .password := by decide +kernel
  have hpassword : Locator.Accepted ("Password", password) :=
    ⟨{ password? := some password }, by simp only [Locator.applyOption, hkey]⟩
  have hname : "Password" ≠ "maxRows" := by decide
  have hother : Locator.Key.ofName? "Password" ≠ Locator.Key.ofName? "maxRows" := by
    decide +kernel
  exact List.pairwise_pair.2 ⟨hname, .inr hother, .inl hpassword⟩

theorem independent_of_ofUrl {url : String} {options : List (String × String)} {locator : Locator}
    (hread : (Locator.ofUrl url).map Locator.options = .ok options)
    (h : options.Pairwise Locator.Independent) (hlocator : Locator.ofUrl url = .ok locator) :
    locator.options.Pairwise Locator.Independent := by
  rw [hlocator] at hread
  cases hread
  exact h

/-- Passwords with characters that end other parts of a URL, next to short ones. The first pair of
URLs has two attributes, which may be listed in either order; in the second pair an option is
refused, with the same error in both. -/
theorem password_stays_private_between_marks :
    let first := "\tjdbc:Neo4J:HTTPS://ann:p:w@/[x]=%C3%A9&y@[::1]:7473/?team=red&area=north"
    let second := "\tjdbc:Neo4J:HTTPS://ann:q@[::1]:7473/?team=red&area=north"
    let third := "http://db.example?maxRows=many,Pass%77ord=p:w@/[x]=?y&"
    let fourth := "http://db.example?maxRows=many,Pass%77ord=&"
    ((ofUrl first).map (·.password) = .ok "p:w@/[x]=é&y" ∧
      (ofUrl second).map (·.password) = .ok "q" ∧ ReadAlike (ofUrl first) (ofUrl second)) ∧
      ofUrl third = .error (.invalidParameter "maxRows" "Invalid row limit: many") ∧
      ReadAlike (ofUrl third) (ofUrl fourth) := by
  intro first second third fourth
  have hdiffer : Locator.DifferInPassword first second := by
    refine .userInfo sampleUserSlot ⟨?_, "p:w@/[x]=é&y".toList, ?_⟩ ⟨?_, "q".toList, ?_⟩
      (?_ : _ = sampleUserSlot.fill "p:w@/[x]=%C3%A9&y".toList)
      (?_ : _ = sampleUserSlot.fill "q".toList)
    all_goals decide +kernel
  have hdiffer' : Locator.DifferInPassword third fourth := by
    have hplain : ∀ c ∈ "p:w@/[x]=?y".toList, Locator.isSeparator c = false := by
      simp [Locator.isSeparator]
    refine .option sampleOptionSlot ⟨hplain, "p:w@/[x]=?y".toList, ?_⟩ ⟨by simp, [], ?_⟩
      (?_ : _ = sampleOptionSlot.fill "p:w@/[x]=?y".toList)
      (?_ : _ = sampleOptionSlot.fill [])
    all_goals decide +kernel
  have hshort : [("area", "north"), ("team", "red")].Pairwise Locator.Independent :=
    List.pairwise_pair.2 ⟨by decide, .inl (by decide +kernel), .inl ⟨_, rfl⟩⟩
  obtain ⟨halike, -⟩ := password_stays_private first second hdiffer fun locator h =>
    h.elim (independent_of_ofUrl (by decide +kernel) hshort)
      (independent_of_ofUrl (by decide +kernel) hshort)
  obtain ⟨halike', -⟩ := password_stays_private third fourth hdiffer' fun locator h =>
    h.elim (independent_of_ofUrl (by decide +kernel) (independent_sampleOptions "p:w@/[x]=?y"))
      (independent_of_ofUrl (by decide +kernel) (independent_sampleOptions ""))
  exact ⟨⟨by decide +kernel, by decide +kernel, halike⟩, by decide +kernel, halike'⟩

end Settings

end CypherSession

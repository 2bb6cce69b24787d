import CypherSession.Proofs.Settings.OptionValues

/-!
# What options do

Every option with a meaning makes one setting, over what the user information or the scheme says,
and a setting that no option makes has its default. The other options are kept as they are. Only a
password does nothing if there is no user whose password it could be. None of this depends on the
order of the options, as long as no two of them make the same setting and no more than one cannot be
read.
-/

namespace CypherSession

open Result

open Locator (Key)

/-! ## Settings of keys -/

def Settings.setting? (settings : Settings) : Key → Option Setting
  | .username => settings.username?.map .username
  | .password => some (.password settings.password)
  | .autoCommit => some (.autoCommit settings.autoCommit)
  | .maxRows => some (.maxRows settings.maxRows)
  | .debug => some (.debug settings.debug)
  | .readOnly => some (.readOnly settings.readOnly)
  | .useTls => some (.useTls settings.useTls)
  | .timeout => some (.timeout settings.timeout)
  | .database => settings.database?.map .database

/-- The setting of a key if there is no option for it; the scheme decides about the encryption, and
the user information about the user. -/
def Settings.default? (isHttps : Bool) (user? : Option (String × String)) : Key → Option Setting
  | .username => user?.map fun user => .username user.1
  | .password => some (.password ((user?.map Prod.snd).getD ""))
  | .autoCommit => some (.autoCommit true)
  | .maxRows => some (.maxRows 0)
  | .debug => some (.debug false)
  | .readOnly => some (.readOnly false)
  | .useTls => some (.useTls isHttps)
  | .timeout => some (.timeout (.ofSeconds 30))
  | .database => none

namespace Settings.Draft

def setting? (draft : Draft) : Key → Option Setting
  | .username => draft.username?.map .username
  | .password => draft.password?.map .password
  | .autoCommit => draft.autoCommit?.map .autoCommit
  | .maxRows => draft.maxRows?.map .maxRows
  | .debug => draft.debug?.map .debug
  | .readOnly => draft.readOnly?.map .readOnly
  | .useTls => draft.useTls?.map .useTls
  | .timeout => draft.timeout?.map .timeout
  | .database => draft.database?.map .database

theorem setting?_put (draft : Draft) (setting : Setting) (key : Key) :
    (setting.put draft).setting? key =
      if setting.key? = some key then some setting else draft.setting? key := by
  cases setting <;> cases key <;> rfl

theorem host?_put (draft : Draft) (setting : Setting) :
    (setting.put draft).host? = draft.host? := by
  cases setting <;> rfl

theorem port?_put (draft : Draft) (setting : Setting) :
    (setting.put draft).port? = draft.port? := by
  cases setting <;> rfl

theorem attributes_put_of_key? {setting : Setting} {key : Key} (h : setting.key? = some key)
    (draft : Draft) : (setting.put draft).attributes = draft.attributes := by
  cases setting <;> first | rfl | cases h

structure Makes (draft : Draft) (settings : Settings) : Prop where
  host : draft.host? = some settings.host
  port : settings.port = draft.port?.getD (defaultPort settings.useTls)
  attributes : settings.attributes = draft.attributes
  setting? : ∀ key, settings.setting? key = (draft.setting? key).or (default? false none key)

/-- Settings have what their draft has, and defaults for the rest. -/
theorem makes_of_build {draft : Draft} {settings : Settings} (h : draft.build = .ok settings) :
    draft.Makes settings := by
  have hbuilds := builds_of_build h
  have hmap {α : Type} (value? : Option α) (make : α → Setting) (value : α) :
      some (make (value?.getD value)) = (value?.map make).or (some (make value)) := by
    cases value? <;> rfl
  refine ⟨hbuilds.host.1, ?_, ?_, fun key => ?_⟩
  · rw [hbuilds.parts]
  · rw [hbuilds.parts]
  · rw [hbuilds.parts]
    cases key with
    | username | database => exact Option.or_none.symm
    | password | autoCommit | maxRows | debug | readOnly | useTls | timeout => exact hmap _ _ _

end Settings.Draft

/-! ## Options and what they set -/

namespace Locator

variable {options left : List (String × String)} {key : Key} {before after : Option Setting}

/-- A key has the setting that an option makes, or else the one from before. -/
inductive SetBy (options : List (String × String)) (key : Key) (before : Option Setting) :
    Option Setting → Prop where
  | option {name value : String} {setting : Setting} (hmem : (name, value) ∈ options)
      (hname : key.Names name) (hreads : setting.Reads value) (hkey : setting.key? = some key) :
      SetBy options key before (some setting)
  | default (hnone : ∀ option ∈ options, ¬key.Names option.1) : SetBy options key before before

theorem SetBy.eq_before (h : SetBy options key before after)
    (hnone : ∀ option ∈ options, ¬key.Names option.1) : after = before := by
  cases h with
  | option hmem hname => exact absurd hname (hnone _ hmem)
  | default => rfl

theorem SetBy.cons {option : String × String} (h : SetBy options key before after)
    (hname : ¬key.Names option.1) : SetBy (option :: options) key before after := by
  cases h with
  | option hmem hname hreads hkey =>
    exact .option (List.mem_cons_of_mem option hmem) hname hreads hkey
  | default hnone => exact .default (List.forall_mem_cons.2 ⟨hname, hnone⟩)

theorem SetBy.or (h : SetBy options key before after) (fallback : Option Setting) :
    SetBy options key (before.or fallback) (after.or fallback) := by
  cases h with
  | option hmem hname hreads hkey => exact .option hmem hname hreads hkey
  | default hnone => exact .default hnone

/-- Only the options that name the key matter. -/
theorem SetBy.of_mem_iff (h : SetBy options key before after)
    (hmem : ∀ option : String × String, key.Names option.1 → (option ∈ options ↔ option ∈ left)) :
    SetBy left key before after := by
  cases h with
  | @option name value _ hoption hname hreads hkey =>
    exact .option ((hmem (name, value) hname).1 hoption) hname hreads hkey
  | default hnone =>
    exact .default fun option hoption hname => hnone option ((hmem option hname).2 hoption) hname

theorem Independent.not_names {first second : String × String} (h : Independent first second)
    (hkey : key.Names first.1) : ¬key.Names second.1 := by
  rw [← ofName?_eq_some_iff] at hkey ⊢
  exact h.key_ne hkey

def attributesOf (options : List (String × String)) : List (String × String) :=
  options.filter fun option => Key.ofName? option.1 = none

theorem attributesOf_cons_of_none {option : String × String} (h : Key.ofName? option.1 = none)
    (rest : List (String × String)) :
    attributesOf (option :: rest) = option :: attributesOf rest :=
  List.filter_cons_of_pos (by simp [h])

theorem attributesOf_cons_of_some {option : String × String}
    (h : Key.ofName? option.1 = some key) (rest : List (String × String)) :
    attributesOf (option :: rest) = attributesOf rest :=
  List.filter_cons_of_neg (by simp [h])

structure Applies (options : List (String × String)) (draft final : Settings.Draft) : Prop where
  host? : final.host? = draft.host?
  port? : final.port? = draft.port?
  attributes : final.attributes = draft.attributes.insertAll (attributesOf options)
  setBy : ∀ key, SetBy options key (draft.setting? key) (final.setting? key)

theorem Applies.cons {option : String × String} {setting : Setting} {draft final : Settings.Draft}
    (h : Applies options (setting.put draft) final) (hread : Setting.ofOption option = .ok setting)
    (hindependent : ∀ other ∈ options, Independent option other) :
    Applies (option :: options) draft final where
  host? := h.host?.trans (draft.host?_put setting)
  port? := h.port?.trans (draft.port?_put setting)
  attributes := by
    cases hkey : Key.ofName? option.1 with
    | none =>
      rw [Setting.ofOption, hkey] at hread
      cases hread
      rw [h.attributes, attributesOf_cons_of_none hkey]
      rfl
    | some key =>
      have hsetting := (Setting.key?_of_ofOption hread).trans hkey
      rw [h.attributes, attributesOf_cons_of_some hkey,
        Settings.Draft.attributes_put_of_key? hsetting]
  setBy key := by
    have hrest := h.setBy key
    rw [Settings.Draft.setting?_put, Setting.key?_of_ofOption hread] at hrest
    by_cases hkey : Key.ofName? option.1 = some key
    · have hname := ofName?_eq_some_iff.1 hkey
      rw [if_pos hkey] at hrest
      rw [hrest.eq_before fun other hmem => (hindependent other hmem).not_names hname]
      rw [Setting.ofOption, hkey] at hread
      exact .option List.mem_cons_self hname (Setting.reads_of_ofKey hread)
        (Setting.key?_of_ofKey hread)
    · rw [if_neg hkey] at hrest
      exact hrest.cons (mt ofName?_eq_some_iff.2 hkey)

/-- Options that do not conflict each set what they name, and nothing else. -/
theorem applies_of_applyOptions {draft final : Settings.Draft}
    (hindependent : options.Pairwise Independent)
    (happly : applyOptions draft options = .ok final) : Applies options draft final := by
  induction options generalizing draft with
  | nil =>
    cases happly
    exact ⟨rfl, rfl, rfl, fun key => .default nofun⟩
  | cons option rest ih =>
    obtain ⟨hfirst, hrest⟩ := List.pairwise_cons.1 hindependent
    cases hread : Setting.ofOption option with
    | error error =>
      rw [applyOptions_cons_error hread] at happly
      cases happly
    | ok setting =>
      rw [applyOptions_cons_ok hread] at happly
      exact (ih hrest happly).cons hread hfirst

/-! ## Options for the user -/

structure Takes (options : List (String × String)) (key : Key) (value? : Option String)
    (left : List (String × String)) : Prop where
  independent : left.Pairwise Independent
  not_names : ∀ option ∈ left, ¬key.Names option.1
  mem_iff : ∀ option : String × String, ¬key.Names option.1 → (option ∈ left ↔ option ∈ options)
  setBy : ∀ {make : String → Setting} (before : Option Setting),
    (∀ value, (make value).Reads value ∧ (make value).key? = some key) →
      SetBy options key before ((value?.map make).or before)

theorem Takes.setBy_of_ne {value? : Option String} {other : Key}
    (h : Takes options key value? left) (hne : other ≠ key)
    (hset : SetBy left other before after) : SetBy options other before after :=
  hset.of_mem_iff fun option hname => h.mem_iff option fun hkey => hne (hname.eq hkey)

/-- Taking the option for a key out leaves all others. -/
theorem takes_of_takeOption (key : Key) (hindependent : options.Pairwise Independent) :
    Takes options key (takeOption key options).1 (takeOption key options).2 := by
  have hleft := hindependent.sublist (takeOption_sublist key options)
  induction options with
  | nil => exact ⟨.nil, nofun, fun _ _ => .rfl, fun _ _ => .default nofun⟩
  | cons option rest ih =>
    obtain ⟨hfirst, hrest⟩ := List.pairwise_cons.1 hindependent
    by_cases hkey : Key.ofName? option.1 = some key
    · have hname := ofName?_eq_some_iff.1 hkey
      rw [takeOption_of_key hkey]
      refine ⟨hrest, fun other hmem => (hfirst other hmem).not_names hname,
        fun other hother => ?_, fun _ hmake => ?_⟩
      · have hne : other ≠ option := by
          rintro rfl
          exact hother hname
        rw [List.mem_cons, or_iff_right hne]
      · exact .option List.mem_cons_self hname (hmake option.2).1 (hmake option.2).2
    · have hname := mt ofName?_eq_some_iff.2 hkey
      rw [takeOption_of_ne hkey] at hleft ⊢
      obtain ⟨-, hnames, hmem, hset⟩ := ih hrest (List.pairwise_cons.1 hleft).2
      refine ⟨hleft, List.forall_mem_cons.2 ⟨hname, hnames⟩, fun other hother => ?_,
        fun before hmake => (hset before hmake).cons hname⟩
      rw [List.mem_cons, List.mem_cons, hmem other hother]

/-! ## What settings follow from -/

/-- The authority names the user with the password, or nobody, and then says the host and the
port. -/
inductive NamesUser : List Char → Option (String × String) → List Char → Prop where
  | nobody {hostPort : List Char} (hhost : '@' ∉ hostPort) : NamesUser hostPort none hostPort
  | user {userInfo hostPort : List Char} {user : String × String} (hhost : '@' ∉ hostPort)
      (huser : readUser userInfo = .ok user) :
      NamesUser (userInfo ++ '@' :: hostPort) (some user) hostPort

/-- The settings say what a URL with the scheme, the authority and the options says. -/
structure Follows (isHttps : Bool) (authority : List Char) (options : List (String × String))
    (settings : Settings) : Prop where
  parts : ∃ user? hostPort port?, NamesUser authority user? hostPort ∧
    readHostPort (Text.dropEndWhile (· = '/') hostPort) = .ok (settings.host.toList, port?) ∧
    settings.port = port?.getD (Settings.defaultPort settings.useTls) ∧
    ∀ key, (key = .password → settings.username? ≠ none) →
      SetBy options key (Settings.default? isHttps user? key) (settings.setting? key)
  password : settings.username? = none → settings.password = ""
  attributes : ∀ name value, settings.attributes.find? name = some value ↔
    (name, value) ∈ options ∧ ∀ key : Key, ¬key.Names name

/-- The steps by which a locator becomes settings. -/
theorem settings_steps {locator : Locator} {settings : Settings}
    (h : locator.settings = .ok settings) :
    ∃ username? password left host port? final,
      readCredentials (userAndHost locator.authority).1 locator.options =
        .ok (username?, password, left) ∧
      readHostPort (Text.dropEndWhile (· = '/') (userAndHost locator.authority).2) =
        .ok (host, port?) ∧
      applyOptions (firstDraft locator.isHttps host port? username? password) left = .ok final ∧
      final.build = .ok settings := by
  rw [settings_eq] at h
  obtain ⟨_, -, h⟩ := bind_eq_ok_iff.1 h
  obtain ⟨⟨username?, password, left⟩, hcredentials, h⟩ := bind_eq_ok_iff.1 h
  unfold finish at h
  obtain ⟨-, h⟩ := ite_bind_eq_ok_iff.1 h
  obtain ⟨⟨host, port?⟩, hhost, h⟩ := bind_eq_ok_iff.1 h
  obtain ⟨final, happly, hbuild⟩ := bind_eq_ok_iff.1 h
  exact ⟨username?, password, left, host, port?, final, hcredentials, hhost, happly, hbuild⟩

variable {isHttps : Bool} {authority host hostPort : List Char} {port? : Option UInt16}
  {username? : Option String} {password : String}
  {final : Settings.Draft} {settings : Settings}

/-- The attributes of settings are the options without a meaning, with their values. -/
theorem find?_attributes (happlies : Applies left (firstDraft isHttps host port? username? password)
    final) (hmakes : final.Makes settings) (hindependent : left.Pairwise Independent)
    {name value : String} : settings.attributes.find? name = some value ↔
      (name, value) ∈ left ∧ ∀ key : Key, ¬key.Names name := by
  have hattributes : settings.attributes = .ofList (attributesOf left) :=
    hmakes.attributes.trans happlies.attributes
  have hnames : ((attributesOf left).map Prod.fst).Nodup :=
    List.pairwise_map.2 ((hindependent.filter _).imp Independent.name)
  rw [hattributes, Dictionary.find?_ofList_eq_some_iff hnames, attributesOf, List.mem_filter,
    decide_eq_true_iff, ofName?_eq_none_iff]

/-- The options do what they say over user information. -/
theorem setBy_of_user {user : String × String}
    (happlies : Applies options (firstDraft isHttps host port? (some user.1) user.2) final)
    (hmakes : final.Makes settings) (key : Key) :
    SetBy options key (Settings.default? isHttps (some user) key) (settings.setting? key) := by
  have hset := (happlies.setBy key).or (Settings.default? false none key)
  rw [← hmakes.setting?] at hset
  have hdefault : (((firstDraft isHttps host port? (some user.1) user.2).setting? key).or
      (Settings.default? false none key)) = Settings.default? isHttps (some user) key := by
    cases key <;> rfl
  rwa [hdefault] at hset

section

variable {named password? : Option String} {others : List (String × String)}

theorem username_of_nobody (hpassword : Takes others .password password? left)
    (hnamed : Takes options .username named others)
    (happlies : Applies left (firstDraft isHttps host port? named password) final)
    (hmakes : final.Makes settings) :
    settings.setting? .username = named.map .username := by
  have hleft : ∀ option ∈ left, ¬Key.username.Names option.1 := fun option hmem hname =>
    hnamed.not_names option
      ((hpassword.mem_iff option fun hother => nomatch hname.eq hother).1 hmem) hname
  rw [hmakes.setting?, (happlies.setBy .username).eq_before hleft]
  exact Option.or_none

theorem password_of_nobody (hpassword : Takes others .password password? left)
    (happlies : Applies left (firstDraft isHttps host port? named password) final)
    (hmakes : final.Makes settings) :
    settings.setting? .password =
      (named.map fun _ => Setting.password password).or (some (.password "")) := by
  rw [hmakes.setting?, (happlies.setBy .password).eq_before hpassword.not_names]
  cases named <;> rfl

/-- Without user information, the options for the user do what they say. -/
theorem setBy_of_nobody (hnamed : Takes options .username named others)
    (hpassword : Takes others .password password? left)
    (happlies : Applies left (firstDraft isHttps host port? named (password?.getD "")) final)
    (hmakes : final.Makes settings) (key : Key)
    (huser : key = .password → settings.username? ≠ none) :
    SetBy options key (Settings.default? isHttps none key) (settings.setting? key) := by
  have husername := username_of_nobody hpassword hnamed happlies hmakes
  have hother (hname : key ≠ .username) (hpass : key ≠ .password) :=
    hnamed.setBy_of_ne hname (hpassword.setBy_of_ne hpass (happlies.setBy key))
  cases key with
  | username =>
    have hset := hnamed.setBy none fun _ => ⟨.username, rfl⟩
    rwa [Option.or_none, ← husername] at hset
  | password =>
    have hvalue := hpassword.setBy (some (.password "")) fun _ => ⟨.password, rfl⟩
    have hset := hnamed.setBy_of_ne (by decide) hvalue
    rw [password_of_nobody hpassword happlies hmakes]
    cases named with
    | none => exact absurd (Option.map_eq_none_iff.1 husername) (huser rfl)
    | some username => cases password? <;> exact hset
  | autoCommit | maxRows | debug | readOnly | useTls | timeout | database =>
    rw [hmakes.setting?]
    exact (hother nofun nofun).or _

end

theorem userAndHost_cases (authority : List Char) :
    (userAndHost authority = (none, authority) ∧ '@' ∉ authority) ∨
      ∃ userInfo hostPort, userAndHost authority = (some userInfo, hostPort) ∧
        authority = userInfo ++ '@' :: hostPort ∧ '@' ∉ hostPort := by
  unfold userAndHost
  cases hcut : Text.cutLast '@' authority with
  | none => exact .inl ⟨rfl, Text.cutLast_eq_none_iff.1 hcut⟩
  | some parts => exact .inr ⟨parts.1, parts.2, rfl, Text.cutLast_eq_some_iff.1 hcut⟩

/-- Settings made of a draft to which options were applied say what the URL says. -/
theorem follows_of_applies {user? : Option (String × String)}
    (huser : NamesUser authority user? hostPort)
    (hhost : readHostPort (Text.dropEndWhile (· = '/') hostPort) = .ok (host, port?))
    (hindependent : left.Pairwise Independent)
    (hleft : ∀ option : String × String, (∀ key : Key, ¬key.Names option.1) →
      (option ∈ left ↔ option ∈ options))
    (happlies : Applies left (firstDraft isHttps host port? username? password) final)
    (hmakes : final.Makes settings)
    (hset : ∀ key, (key = .password → settings.username? ≠ none) →
      SetBy options key (Settings.default? isHttps user? key) (settings.setting? key))
    (hpassword : settings.username? = none → settings.password = "") :
    Follows isHttps authority options settings := by
  have hhostText : settings.host = String.ofList host :=
    Option.some.inj (hmakes.host.symm.trans happlies.host?)
  have hport : settings.port = port?.getD (Settings.defaultPort settings.useTls) := by
    rw [hmakes.port, happlies.port?]
    rfl
  refine ⟨⟨user?, hostPort, port?, huser, ?_, hport, hset⟩, hpassword, fun name value => ?_⟩
  · rw [hhostText, String.toList_ofList]
    exact hhost
  · rw [find?_attributes happlies hmakes hindependent]
    exact and_congr_left fun hnone => hleft (name, value) hnone

/-- The options of a locator do what they say. -/
theorem follows_of_settings (hindependent : options.Pairwise Independent)
    (h : (Locator.mk isHttps authority options).settings = .ok settings) :
    Follows isHttps authority options settings := by
  obtain ⟨username?, password, left, host, port?, final, hcredentials, hhost, happly, hbuild⟩ :=
    settings_steps h
  have hmakes := Settings.Draft.makes_of_build hbuild
  rcases userAndHost_cases authority with
    ⟨hparts, hnobody⟩ | ⟨userInfo, hostPort, hparts, rfl, hat⟩
  · have hnamed := takes_of_takeOption .username hindependent
    have hpassword := takes_of_takeOption .password hnamed.independent
    rw [hparts] at hcredentials hhost
    cases hcredentials
    have happlies := applies_of_applyOptions hpassword.independent happly
    refine follows_of_applies (.nobody hnobody) hhost hpassword.independent
      (fun option hnone => ?_) happlies hmakes (setBy_of_nobody hnamed hpassword happlies hmakes)
      fun huser => ?_
    · exact (hpassword.mem_iff option (hnone _)).trans (hnamed.mem_iff option (hnone _))
    · have husername := username_of_nobody hpassword hnamed happlies hmakes
      have hvalue := password_of_nobody hpassword happlies hmakes
      have hnone : (takeOption .username options).1 = none := by
        rw [Settings.setting?, huser] at husername
        exact Option.map_eq_none_iff.1 husername.symm
      rw [hnone] at hvalue
      exact Setting.password.inj (Option.some.inj hvalue)
  · rw [hparts] at hcredentials hhost
    rw [readCredentials_some] at hcredentials
    obtain ⟨user, huser, hcredentials⟩ := map_eq_ok_iff.1 hcredentials
    cases hcredentials
    have happlies := applies_of_applyOptions hindependent happly
    have hset := setBy_of_user happlies hmakes
    refine follows_of_applies (.user hat huser) hhost hindependent (fun _ _ => .rfl) happlies
      hmakes (fun key _ => hset key) fun hnone => ?_
    -- A user that is named is there, with that name or with the one of an option.
    have husername := hset .username
    rw [Settings.setting?, hnone] at husername
    cases husername

end Locator

namespace Settings

open Locator (Writes Independent Follows)

/-- **Options take effect in any order.** If no two options of a URL make the same setting and no
more than one of them cannot be read, the URL gives the same result in whatever order the options
are taken, and so does every URL that differs from it in their order. If the result is settings,
every setting is the one that its option makes, or else its default. Only a password does nothing
if there is no user. -/
theorem options_take_effect {url : String} {isHttps : Bool} {authority : List Char}
    {options : List (String × String)} (hurl : Writes url isHttps authority options)
    (hindependent : options.Pairwise Independent) :
    (∀ result, Reads url result → result = ofUrl url) ∧
    (∀ other left, Writes other isHttps authority left → left.Perm options →
      ofUrl other = ofUrl url) ∧
    ∀ settings, ofUrl url = .ok settings → Follows isHttps authority options settings := by
  have hlocator {other : String} {left : List (String × String)}
      (h : Writes other isHttps authority left) :
      Locator.ofUrl other = .ok ⟨isHttps, authority, (Dictionary.ofList left).entries⟩ :=
    Locator.ofUrl_eq_ok_iff.2 ⟨left, h, rfl⟩
  have hnames : (options.map Prod.fst).Nodup :=
    List.pairwise_map.2 (hindependent.imp Independent.name)
  have hentries : (Dictionary.ofList options).entries.Perm options :=
    Dictionary.entries_ofList_perm hnames
  have hread : ofUrl url = (Locator.mk isHttps authority options).settings := by
    rw [ofUrl, hlocator hurl]
    exact Locator.settings_perm ⟨isHttps, authority, options⟩ hentries
      (Locator.independent_perm hentries.symm hindependent)
  refine ⟨fun result hresult => ?_, fun other left hother hperm => ?_, fun settings h => ?_⟩
  · rw [ofUrl, hlocator hurl]
    exact hresult.eq_settings (hlocator hurl) (Locator.independent_perm hentries.symm hindependent)
  · rw [ofUrl, ofUrl, hlocator hurl, hlocator hother, Dictionary.ofList_perm hperm.symm hnames]
  · exact Locator.follows_of_settings hindependent (hread.symm.trans h)

def mixedOptions : List (String × String) :=
  [("SSL", "On"), ("maxRows", "5"), ("team", "red"), ("User", "bob"), ("debug", "true")]

def mixedSettings : Settings where
  host := "db.example"
  port := 7473
  username? := some "bob"
  password := "p:w"
  useTls := true
  autoCommit := true
  maxRows := 5
  debug := true
  readOnly := false
  timeout := .ofSeconds 30
  database? := none
  attributes := .ofList [("team", "red")]

theorem writes_of_mapM {url : String} {authority : List Char} {options : List (String × String)}
    (text : List Char) (hauthority : '?' ∉ authority)
    (hsplit : Locator.splitScheme? (Text.trim url.toList) = some (false, authority ++ '?' :: text))
    (hread : (Locator.segments text).mapM Locator.readOption = .ok options) :
    Writes url false authority options := by
  refine ⟨hauthority, _, text, Locator.splitScheme?_eq_some_iff.1 hsplit, .inr rfl, ?_⟩
  exact (mapM_eq_ok_iff.1 hread).imp fun _ _ => Locator.readOption_eq_ok_iff.1

/-- Options between commas and ampersands, some of them with escapes and with letters of either
case, and the same options the other way round. -/
theorem options_take_effect_mixed :
    let url := "neo4j:http://ann:p:w@db.example/?SSL=On,,maxRows=5&te%61m=r%65d,User=bob&debug"
    let other := "neo4j:http://ann:p:w@db.example/?debug&User=bob&team=red,maxRows=5,SSL=On&"
    ofUrl url = .ok mixedSettings ∧ ofUrl other = .ok mixedSettings ∧
      (∀ result, Reads url result → result = .ok mixedSettings) ∧
      Follows false "ann:p:w@db.example/".toList mixedOptions mixedSettings := by
  intro url other
  have hread : ofUrl url = .ok mixedSettings := by decide +kernel
  have hwrites : Writes url false "ann:p:w@db.example/".toList mixedOptions :=
    writes_of_mapM "SSL=On,,maxRows=5&te%61m=r%65d,User=bob&debug".toList
      (by decide +kernel) (by decide +kernel) (by decide +kernel)
  have hother : Writes other false "ann:p:w@db.example/".toList mixedOptions.reverse :=
    writes_of_mapM "debug&User=bob&team=red,maxRows=5,SSL=On&".toList
      (by decide +kernel) (by decide +kernel) (by decide +kernel)
  have hdifferent : mixedOptions.Pairwise fun first second => first.1 ≠ second.1 ∧
      (Locator.Key.ofName? first.1 = none ∨
        Locator.Key.ofName? first.1 ≠ Locator.Key.ofName? second.1) := by decide +kernel
  have haccepted : ∀ option ∈ mixedOptions, Locator.Accepted option := by
    simp only [mixedOptions, List.forall_mem_cons]
    exact ⟨⟨_, rfl⟩, ⟨_, rfl⟩, ⟨_, rfl⟩, ⟨_, rfl⟩, ⟨_, rfl⟩, nofun⟩
  have hindependent : mixedOptions.Pairwise Independent :=
    hdifferent.imp_of_mem fun hfirst _ h => ⟨h.1, h.2, .inl (haccepted _ hfirst)⟩
  obtain ⟨horder, hsame, hfollows⟩ := options_take_effect hwrites hindependent
  rw [hread] at horder hsame hfollows
  exact ⟨hread, hsame other _ hother (List.reverse_perm _), horder, hfollows _ rfl⟩

end Settings

end CypherSession

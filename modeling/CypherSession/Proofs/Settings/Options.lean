import CypherSession.Proofs.Settings.Encryption

/-!
# The order of options

Every option is read by itself, and what it sets is a part of a draft that no other option sets,
unless the two mean the same. So options may be taken in any order, as long as no two of them mean
the same and no more than one of them cannot be read: two errors, of which the first one counts,
would depend on the order.
-/

namespace CypherSession

open Result

theorem Dictionary.insert_comm {α : Type} (dictionary : Dictionary α) {name other : String}
    (hne : name ≠ other) (value value' : α) :
    (dictionary.insert name value).insert other value' =
      (dictionary.insert other value').insert name value := by
  ext searched
  simp only [find?_insert]
  by_cases hname : searched = name
  · have hother : searched ≠ other := by rwa [hname]
    simp only [if_pos hname, if_neg hother]
  · simp only [if_neg hname]

/-! ## What options set -/

inductive Setting where
  | username (value : String)
  | password (value : String)
  | autoCommit (value : Bool)
  | maxRows (value : Nat)
  | debug (value : Bool)
  | readOnly (value : Bool)
  | useTls (value : Bool)
  | timeout (value : Duration)
  | database (value : String)
  /-- A setting without a meaning of its own. -/
  | other (name value : String)

namespace Setting

def key? : Setting → Option Locator.Key
  | username _ => some .username
  | password _ => some .password
  | autoCommit _ => some .autoCommit
  | maxRows _ => some .maxRows
  | debug _ => some .debug
  | readOnly _ => some .readOnly
  | useTls _ => some .useTls
  | timeout _ => some .timeout
  | database _ => some .database
  | other .. => none

def put (draft : Settings.Draft) : Setting → Settings.Draft
  | username value => { draft with username? := some value }
  | password value => { draft with password? := some value }
  | autoCommit value => { draft with autoCommit? := some value }
  | maxRows value => { draft with maxRows? := some value }
  | debug value => { draft with debug? := some value }
  | readOnly value => { draft with readOnly? := some value }
  | useTls value => { draft with useTls? := some value }
  | timeout value => { draft with timeout? := some value }
  | database value => { draft with database? := some value }
  | other name value => draft.addAttribute name value

def ofKey (name value : String) : Locator.Key → Except ConnectionError Setting
  | .username => .ok (username value)
  | .password => .ok (password value)
  | .autoCommit => (Locator.readBool name value).map autoCommit
  | .maxRows => (Locator.readNumber name value "row limit").map maxRows
  | .debug => (Locator.readBool name value).map debug
  | .readOnly => (Locator.readBool name value).map readOnly
  | .useTls => (Locator.readBool name value).map useTls
  | .timeout =>
    (Locator.readNumber name value "timeout value").map fun seconds => timeout (.ofSeconds seconds)
  | .database => .ok (database value)

def ofOption (option : String × String) : Except ConnectionError Setting :=
  match Locator.Key.ofName? option.1 with
  | some key => ofKey option.1 option.2 key
  | none => .ok (other option.1 option.2)

variable {option : String × String} {setting : Setting}

theorem key?_of_ofKey {name value : String} {key : Locator.Key}
    (h : ofKey name value key = .ok setting) : setting.key? = some key := by
  cases key with
  | username | password | database =>
    cases h
    rfl
  | autoCommit | maxRows | debug | readOnly | useTls | timeout =>
    obtain ⟨_, -, rfl⟩ := map_eq_ok_iff.1 h
    rfl

theorem key?_of_ofOption (h : ofOption option = .ok setting) :
    setting.key? = Locator.Key.ofName? option.1 := by
  unfold ofOption at h
  cases hkey : Locator.Key.ofName? option.1 with
  | some key =>
    rw [hkey] at h
    exact key?_of_ofKey h
  | none =>
    rw [hkey] at h
    cases h
    rfl

theorem eq_of_ofOption_other {name value : String} (h : ofOption option = .ok (other name value)) :
    option = (name, value) := by
  have hkey : Locator.Key.ofName? option.1 = none := (key?_of_ofOption h).symm
  unfold ofOption at h
  rw [hkey] at h
  cases h
  rfl

/-- Settings of different parts can be put in either order. -/
theorem put_comm {first second : Setting} (hkey : first.key? = none ∨ first.key? ≠ second.key?)
    (hname : ∀ name value name' value', first = other name value → second = other name' value' →
      name ≠ name') (draft : Settings.Draft) :
    put (put draft first) second = put (put draft second) first := by
  cases first with
  | other name value =>
    cases second with
    | other name' value' =>
      have hne := hname name value name' value' rfl rfl
      exact congrArg (fun attributes => { draft with attributes })
        (draft.attributes.insert_comm hne value value')
    | _ => rfl
  | _ =>
    have hne := hkey.resolve_left nofun
    cases second <;> first | rfl | exact absurd rfl hne

end Setting

namespace Locator

variable {options left : List (String × String)} {option : String × String}

/-- An option is read first, and then what it sets is put into the draft. -/
theorem applyOption_eq (draft : Settings.Draft) (name value : String) :
    applyOption draft name value = (Setting.ofOption (name, value)).map (Setting.put draft) := by
  unfold applyOption Setting.ofOption
  cases Key.ofName? name with
  | none => rfl
  | some key =>
    cases key with
    | username | password | database => rfl
    | autoCommit => exact bind_return_eq_map (readBool name value) .autoCommit (Setting.put draft)
    | debug => exact bind_return_eq_map (readBool name value) .debug (Setting.put draft)
    | readOnly => exact bind_return_eq_map (readBool name value) .readOnly (Setting.put draft)
    | useTls => exact bind_return_eq_map (readBool name value) .useTls (Setting.put draft)
    | maxRows =>
      exact bind_return_eq_map (readNumber name value "row limit") .maxRows (Setting.put draft)
    | timeout =>
      exact bind_return_eq_map (readNumber name value "timeout value")
        (fun seconds => .timeout (.ofSeconds seconds)) (Setting.put draft)

theorem applyOptions_cons_ok {setting : Setting} (hread : Setting.ofOption option = .ok setting)
    (draft : Settings.Draft) (rest : List (String × String)) :
    applyOptions draft (option :: rest) = applyOptions (setting.put draft) rest := by
  obtain ⟨name, value⟩ := option
  rw [applyOptions, applyOption_eq, hread]
  rfl

theorem applyOptions_cons_error {error : ConnectionError}
    (hread : Setting.ofOption option = .error error) (draft : Settings.Draft)
    (rest : List (String × String)) : applyOptions draft (option :: rest) = .error error := by
  obtain ⟨name, value⟩ := option
  rw [applyOptions, applyOption_eq, hread]
  rfl

/-! ## Options in any order -/

/-- The value of the option is one that an option of its name may have. -/
def Accepted (option : String × String) : Prop :=
  ∃ next, applyOption {} option.1 option.2 = .ok next

theorem accepted_iff : Accepted option ↔ ∃ setting, Setting.ofOption option = .ok setting := by
  obtain ⟨name, value⟩ := option
  unfold Accepted
  rw [applyOption_eq]
  constructor
  · rintro ⟨next, h⟩
    obtain ⟨setting, hsetting, -⟩ := map_eq_ok_iff.1 h
    exact ⟨setting, hsetting⟩
  · rintro ⟨setting, h⟩
    exact ⟨setting.put {}, map_eq_ok_iff.2 ⟨setting, h, rfl⟩⟩

/-- Two options do not name the same setting, and one of them at least is accepted. -/
structure Independent (first second : String × String) : Prop where
  name : first.1 ≠ second.1
  key : Key.ofName? first.1 = none ∨ Key.ofName? first.1 ≠ Key.ofName? second.1
  accepted : Accepted first ∨ Accepted second

theorem Independent.symm {first second : String × String} (h : Independent first second) :
    Independent second first where
  name := h.name.symm
  key := by
    rcases h.key with hnone | hne
    · rw [hnone]
      cases Key.ofName? second.1 with
      | none => exact .inl rfl
      | some key => exact .inr nofun
    · exact .inr hne.symm
  accepted := h.accepted.symm

theorem Independent.key_ne {first second : String × String} (h : Independent first second)
    {key : Key} (hkey : Key.ofName? first.1 = some key) : Key.ofName? second.1 ≠ some key := by
  rcases h.key with hnone | hne
  · rw [hkey] at hnone
    cases hnone
  · rw [← hkey]
    exact hne.symm

/-- Two neighbours that do not conflict can be swapped. -/
theorem applyOptions_swap {first second : String × String} (h : Independent first second)
    (draft : Settings.Draft) (rest : List (String × String)) :
    applyOptions draft (first :: second :: rest) =
      applyOptions draft (second :: first :: rest) := by
  cases hfirst : Setting.ofOption first with
  | error error =>
    obtain ⟨setting, hsecond⟩ : ∃ setting, Setting.ofOption second = .ok setting := by
      refine accepted_iff.1 (h.accepted.resolve_left fun hacc => ?_)
      obtain ⟨setting, hok⟩ := accepted_iff.1 hacc
      rw [hfirst] at hok
      cases hok
    rw [applyOptions_cons_error hfirst, applyOptions_cons_ok hsecond,
      applyOptions_cons_error hfirst]
  | ok setting =>
    cases hsecond : Setting.ofOption second with
    | error error =>
      rw [applyOptions_cons_ok hfirst, applyOptions_cons_error hsecond,
        applyOptions_cons_error hsecond]
    | ok setting' =>
      rw [applyOptions_cons_ok hfirst, applyOptions_cons_ok hsecond, applyOptions_cons_ok hsecond,
        applyOptions_cons_ok hfirst]
      have hkey : setting.key? = none ∨ setting.key? ≠ setting'.key? := by
        rw [Setting.key?_of_ofOption hfirst, Setting.key?_of_ofOption hsecond]
        exact h.key
      rw [Setting.put_comm hkey ?_ draft]
      rintro name value name' value' rfl rfl
      rw [Setting.eq_of_ofOption_other hfirst, Setting.eq_of_ofOption_other hsecond] at h
      exact h.name

theorem independent_perm (hperm : options.Perm left) (h : options.Pairwise Independent) :
    left.Pairwise Independent :=
  (hperm.pairwise_iff Independent.symm).1 h

/-- What options make of a draft does not depend on their order. -/
theorem applyOptions_perm (hperm : options.Perm left) (h : options.Pairwise Independent)
    (draft : Settings.Draft) : applyOptions draft options = applyOptions draft left := by
  induction hperm generalizing draft with
  | nil => rfl
  | cons option hperm ih =>
    have hrest := (List.pairwise_cons.1 h).2
    cases hread : Setting.ofOption option with
    | error error => rw [applyOptions_cons_error hread, applyOptions_cons_error hread]
    | ok setting =>
      rw [applyOptions_cons_ok hread, applyOptions_cons_ok hread]
      exact ih hrest (setting.put draft)
  | swap first second rest =>
    exact applyOptions_swap ((List.pairwise_cons.1 h).1 first List.mem_cons_self) draft rest
  | trans hperm _ ih ih' => exact (ih h draft).trans (ih' (independent_perm hperm h) draft)

theorem checkTls_cons (option : String × String) (rest : List (String × String)) :
    checkTls (option :: rest) =
      if Key.ofName? option.1 = some .useTls then do
        if ← readBool option.1 option.2 then checkTls rest
        else .error (.invalidParameter option.1 "TLS cannot be disabled on an https URL")
      else checkTls rest :=
  rfl

/-- Nor does the check for encryption. -/
theorem checkTls_perm (hperm : options.Perm left) (h : options.Pairwise Independent) :
    checkTls options = checkTls left := by
  induction hperm with
  | nil => rfl
  | cons option hperm ih => rw [checkTls_cons, checkTls_cons, ih (List.pairwise_cons.1 h).2]
  | swap first second rest =>
    have hindependent := (List.pairwise_cons.1 h).1 first List.mem_cons_self
    by_cases hkey : Key.ofName? second.1 = some .useTls
    · have hother := hindependent.key_ne hkey
      simp only [checkTls_cons, if_pos hkey, if_neg hother]
    · simp only [checkTls_cons, if_neg hkey]
  | trans hperm _ ih ih' => exact (ih h).trans (ih' (independent_perm hperm h))

/-! ### Options that are taken out -/

theorem takeOption_of_key {key : Key} (hkey : Key.ofName? option.1 = some key)
    (rest : List (String × String)) :
    takeOption key (option :: rest) = (some option.2, rest) :=
  if_pos hkey

theorem takeOption_of_ne {key : Key} (hkey : Key.ofName? option.1 ≠ some key)
    (rest : List (String × String)) :
    takeOption key (option :: rest) =
      ((takeOption key rest).1, option :: (takeOption key rest).2) :=
  if_neg hkey

theorem takeOption_sublist (key : Key) (options : List (String × String)) :
    (takeOption key options).2.Sublist options := by
  induction options with
  | nil => exact List.Sublist.refl []
  | cons option rest ih =>
    by_cases hkey : Key.ofName? option.1 = some key
    · rw [takeOption_of_key hkey]
      exact List.sublist_cons_self option rest
    · rw [takeOption_of_ne hkey]
      exact ih.cons_cons option

/-- Nor does the option that is taken out for a key, or what is left then. -/
theorem takeOption_perm (key : Key) (hperm : options.Perm left)
    (h : options.Pairwise Independent) :
    (takeOption key options).1 = (takeOption key left).1 ∧
      (takeOption key options).2.Perm (takeOption key left).2 := by
  induction hperm with
  | nil => exact ⟨rfl, .nil⟩
  | @cons option rest rest' hperm ih =>
    by_cases hkey : Key.ofName? option.1 = some key
    · rw [takeOption_of_key hkey, takeOption_of_key hkey]
      exact ⟨rfl, hperm⟩
    · rw [takeOption_of_ne hkey, takeOption_of_ne hkey]
      obtain ⟨hvalue, hothers⟩ := ih (List.pairwise_cons.1 h).2
      exact ⟨hvalue, hothers.cons option⟩
  | swap first second rest =>
    have hindependent := (List.pairwise_cons.1 h).1 first List.mem_cons_self
    by_cases hsecond : Key.ofName? second.1 = some key
    · have hfirst := hindependent.key_ne hsecond
      rw [takeOption_of_key hsecond, takeOption_of_ne hfirst, takeOption_of_key hsecond]
      exact ⟨rfl, .refl _⟩
    · by_cases hfirst : Key.ofName? first.1 = some key
      · rw [takeOption_of_ne hsecond, takeOption_of_key hfirst, takeOption_of_key hfirst]
        exact ⟨rfl, .refl _⟩
      · simp only [takeOption_of_ne hsecond, takeOption_of_ne hfirst]
        exact ⟨trivial, .swap first second _⟩
  | trans hperm _ ih ih' =>
    obtain ⟨hvalue, hothers⟩ := ih h
    obtain ⟨hvalue', hothers'⟩ := ih' (independent_perm hperm h)
    exact ⟨hvalue.trans hvalue', hothers.trans hothers'⟩

/-! ### The steps of reading -/

def checkOptions (isHttps : Bool) (options : List (String × String)) :
    Except ConnectionError Unit :=
  if isHttps then checkTls options else .ok ()

def userAndHost (authority : List Char) : Option (List Char) × List Char :=
  match Text.cutLast '@' authority with
  | some (userInfo, hostPort) => (some userInfo, hostPort)
  | none => (none, authority)

def firstDraft (isHttps : Bool) (host : List Char) (port? : Option UInt16)
    (username? : Option String) (password : String) : Settings.Draft where
  host? := some (String.ofList host)
  port?
  useTls? := some isHttps
  username?
  password? := username?.map fun _ => password

def finish (isHttps : Bool) (hostPort : List Char)
    (credentials : Option String × String × List (String × String)) :
    Except ConnectionError Settings := do
  let (username?, password, options) := credentials
  let trimmed := Text.dropEndWhile (· = '/') hostPort
  if '/' ∈ trimmed then
    .error (.malformed ("Unexpected path in connection URL: " ++ String.ofList hostPort))
  let (host, port?) ← readHostPort trimmed
  (← applyOptions (firstDraft isHttps host port? username? password) options).build

/-- The steps by which a locator is read, each as a function of its own. -/
theorem settings_eq (locator : Locator) :
    locator.settings = (do
      checkOptions locator.isHttps locator.options
      let credentials ← readCredentials (userAndHost locator.authority).1 locator.options
      finish locator.isHttps (userAndHost locator.authority).2 credentials) := by
  obtain ⟨isHttps, authority, options⟩ := locator
  unfold settings userAndHost
  cases Text.cutLast '@' authority with
  | none => cases isHttps <;> rfl
  | some parts => cases isHttps <;> rfl

theorem readCredentials_some (userInfo : List Char) (options : List (String × String)) :
    readCredentials (some userInfo) options =
      (readUser userInfo).map fun user => (some user.1, user.2, options) := by
  change (do
    let user ← readUser userInfo
    return (some user.1, user.2, options)) = _
  cases readUser userInfo with
  | error error => rfl
  | ok user => rfl

theorem readCredentials_none (options : List (String × String)) :
    readCredentials none options =
      let named := takeOption .username options
      let rest := takeOption .password named.2
      .ok (named.1, rest.1.getD "", rest.2) :=
  rfl

theorem finish_perm (isHttps : Bool) (hostPort : List Char) (username? : Option String)
    (password : String) (hperm : options.Perm left) (h : options.Pairwise Independent) :
    finish isHttps hostPort (username?, password, options) =
      finish isHttps hostPort (username?, password, left) := by
  unfold finish
  simp only [applyOptions_perm hperm h]

/-- **Options may be taken in any order**, if no two of them name the same setting and no more than
one of them is refused. -/
theorem settings_perm (locator : Locator) (hperm : options.Perm left)
    (h : options.Pairwise Independent) :
    ({ locator with options } : Locator).settings =
      ({ locator with options := left } : Locator).settings := by
  simp only [settings_eq, checkOptions, checkTls_perm hperm h]
  refine congrArg (bind (if locator.isHttps then checkTls left else .ok ())) (funext fun _ => ?_)
  cases (userAndHost locator.authority).1 with
  | some userInfo =>
    rw [readCredentials_some, readCredentials_some]
    cases readUser userInfo with
    | error error => rfl
    | ok user => exact finish_perm _ _ _ _ hperm h
  | none =>
    obtain ⟨husername, hothers⟩ := takeOption_perm .username hperm h
    have hindependent := h.sublist (takeOption_sublist .username options)
    obtain ⟨hpassword, hothers⟩ := takeOption_perm .password hothers hindependent
    have hindependent := hindependent.sublist (takeOption_sublist .password _)
    simp only [readCredentials_none, husername, hpassword]
    exact finish_perm _ _ _ _ hothers hindependent

end Locator

/-! ## What a URL can be read as -/

namespace Settings

/-- What reading a URL can give, when its options are taken in some order. -/
inductive Reads (url : String) : Except ConnectionError Settings → Prop where
  | refused {error : ConnectionError} (h : Locator.ofUrl url = .error error) :
      Reads url (.error error)
  | read {locator : Locator} {options : List (String × String)}
      (h : Locator.ofUrl url = .ok locator) (hperm : options.Perm locator.options) :
      Reads url ({ locator with options } : Locator).settings

variable {url other : String} {result : Except ConnectionError Settings}

theorem reads_of_ofUrl (h : ofUrl url = result) : Reads url result := by
  subst h
  unfold ofUrl
  cases hlocator : Locator.ofUrl url with
  | error error => exact .refused hlocator
  | ok locator => exact .read hlocator (.refl locator.options)

theorem Reads.eq_error {error : ConnectionError} (h : Reads url result)
    (hurl : Locator.ofUrl url = .error error) : result = .error error := by
  cases h with
  | refused hother =>
    cases hurl.symm.trans hother
    rfl
  | read hother => cases hurl.symm.trans hother

/-- If the options do not conflict, there is only one thing to read. -/
theorem Reads.eq_settings {locator : Locator} (h : Reads url result)
    (hurl : Locator.ofUrl url = .ok locator)
    (hindependent : locator.options.Pairwise Locator.Independent) :
    result = locator.settings := by
  cases h with
  | refused hother => cases hurl.symm.trans hother
  | read hother hperm =>
    cases hurl.symm.trans hother
    exact (Locator.settings_perm locator hperm.symm hindependent).symm

/-- If the options do not conflict, a URL is read in one way only. -/
theorem Reads.eq_ofUrl (h : Reads url result) (hindependent : ∀ locator,
    Locator.ofUrl url = .ok locator → locator.options.Pairwise Locator.Independent) :
    result = ofUrl url := by
  unfold ofUrl
  cases hurl : Locator.ofUrl url with
  | error error => exact h.eq_error hurl
  | ok locator => exact h.eq_settings hurl (hindependent locator hurl)

/-- Settings are read off a locator that differs from the one of the URL in the order of the options
alone. -/
theorem Reads.exists_locator {settings : Settings} (h : Reads url (.ok settings)) :
    ∃ locator options, Locator.ofUrl url = .ok locator ∧ options.Perm locator.options ∧
      ({ locator with options } : Locator).settings = .ok settings := by
  generalize hresult : Except.ok settings = result at h
  cases h with
  | refused => cases hresult
  | @read locator options hurl hperm => exact ⟨locator, options, hurl, hperm, rfl⟩

/-- What a URL can be read as depends on its locator alone. -/
theorem Reads.of_ofUrl_eq (hurl : Locator.ofUrl url = Locator.ofUrl other) (h : Reads url result) :
    Reads other result := by
  cases h with
  | refused h => exact .refused (hurl ▸ h)
  | read h hperm => exact .read (hurl ▸ h) hperm

end Settings

end CypherSession

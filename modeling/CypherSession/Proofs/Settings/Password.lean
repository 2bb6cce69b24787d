import CypherSession.Database
import CypherSession.Proofs.Settings.Options

/-!
# Passwords

What a URL says besides the password is read without it. The password is cut out by characters
around it, it is decoded, and from then on it is only carried along, so that without it the result
of reading is the same.
-/

namespace CypherSession

open Result

/-! ## Without the password -/

def Settings.withoutPassword (settings : Settings) : Settings := { settings with password := "" }

def Settings.Draft.withoutPassword (draft : Settings.Draft) : Settings.Draft :=
  { draft with password? := none }

theorem Settings.Draft.build_withoutPassword (draft : Settings.Draft) :
    draft.withoutPassword.build = draft.build.map Settings.withoutPassword := by
  simp only [build, map_bind]
  rfl

namespace Setting

theorem put_password {setting : Setting} (hkey : setting.key? = some .password)
    (draft : Settings.Draft) :
    (setting.put draft).withoutPassword = draft.withoutPassword := by
  cases setting with
  | password value => rfl
  | _ => cases hkey

theorem put_withoutPassword {setting : Setting} (hkey : setting.key? ≠ some .password)
    (draft : Settings.Draft) :
    (setting.put draft).withoutPassword = setting.put draft.withoutPassword := by
  cases setting with
  | password value => exact absurd rfl hkey
  | _ => rfl

end Setting

namespace Locator

def withoutPasswords (options : List (String × String)) : List (String × String) :=
  options.filter fun option => Key.ofName? option.1 ≠ some .password

variable {options left : List (String × String)} {option : String × String}

theorem withoutPasswords_cons_password (hkey : Key.ofName? option.1 = some .password)
    (rest : List (String × String)) :
    withoutPasswords (option :: rest) = withoutPasswords rest :=
  List.filter_cons_of_neg (by simpa using hkey)

theorem withoutPasswords_cons_other (hkey : Key.ofName? option.1 ≠ some .password)
    (rest : List (String × String)) :
    withoutPasswords (option :: rest) = option :: withoutPasswords rest :=
  List.filter_cons_of_pos (by simpa using hkey)

/-- The check for encryption does not look at passwords. -/
theorem checkTls_withoutPasswords (options : List (String × String)) :
    checkTls (withoutPasswords options) = checkTls options := by
  induction options with
  | nil => rfl
  | cons option rest ih =>
    by_cases hkey : Key.ofName? option.1 = some .password
    · have htls : Key.ofName? option.1 ≠ some .useTls := by rw [hkey]; nofun
      rw [withoutPasswords_cons_password hkey, ih, checkTls_cons, if_neg htls]
    · rw [withoutPasswords_cons_other hkey, checkTls_cons, checkTls_cons, ih]

theorem takeOption_username_withoutPasswords (options : List (String × String)) :
    takeOption .username (withoutPasswords options) =
      ((takeOption .username options).1,
        withoutPasswords (takeOption .username options).2) := by
  induction options with
  | nil => rfl
  | cons option rest ih =>
    by_cases hkey : Key.ofName? option.1 = some .password
    · have husername : Key.ofName? option.1 ≠ some .username := by rw [hkey]; nofun
      rw [withoutPasswords_cons_password hkey, ih, takeOption_of_ne husername,
        withoutPasswords_cons_password hkey]
    rw [withoutPasswords_cons_other hkey]
    by_cases husername : Key.ofName? option.1 = some .username
    · rw [takeOption_of_key husername, takeOption_of_key husername]
    · rw [takeOption_of_ne husername, takeOption_of_ne husername, ih,
        withoutPasswords_cons_other hkey]

theorem withoutPasswords_takeOption_password (options : List (String × String)) :
    withoutPasswords (takeOption .password options).2 = withoutPasswords options := by
  induction options with
  | nil => rfl
  | cons option rest ih =>
    by_cases hkey : Key.ofName? option.1 = some .password
    · rw [takeOption_of_key hkey, withoutPasswords_cons_password hkey]
    · rw [takeOption_of_ne hkey, withoutPasswords_cons_other hkey, ih,
        withoutPasswords_cons_other hkey]

/-- Without the password, a draft with options applied is the draft with the other options applied.
-/
theorem applyOptions_withoutPasswords (draft : Settings.Draft)
    (options : List (String × String)) :
    (applyOptions draft options).map Settings.Draft.withoutPassword =
      applyOptions draft.withoutPassword (withoutPasswords options) := by
  induction options generalizing draft with
  | nil => rfl
  | cons option rest ih =>
    by_cases hkey : Key.ofName? option.1 = some .password
    · have hread : Setting.ofOption option = .ok (.password option.2) := by
        simp only [Setting.ofOption, hkey, Setting.ofKey]
      rw [withoutPasswords_cons_password hkey, applyOptions_cons_ok hread, ih,
        Setting.put_password rfl]
    rw [withoutPasswords_cons_other hkey]
    cases hread : Setting.ofOption option with
    | error error =>
      rw [applyOptions_cons_error hread, applyOptions_cons_error hread]
      rfl
    | ok setting =>
      have hother : setting.key? ≠ some .password := by rwa [Setting.key?_of_ofOption hread]
      rw [applyOptions_cons_ok hread, applyOptions_cons_ok hread, ih,
        Setting.put_withoutPassword hother]

/-- Without the password, what options make of a draft does not depend on passwords. -/
theorem build_applyOptions (draft : Settings.Draft) (options : List (String × String)) :
    (applyOptions draft options >>= Settings.Draft.build).map Settings.withoutPassword =
      applyOptions draft.withoutPassword (withoutPasswords options) >>= Settings.Draft.build := by
  rw [← applyOptions_withoutPasswords, map_bind]
  cases applyOptions draft options with
  | error error => rfl
  | ok next => exact next.build_withoutPassword.symm

/-! ## Locators -/

theorem finish_withoutPassword {isHttps : Bool} {hostPort : List Char} {username? : Option String}
    {password other : String} (h : withoutPasswords options = withoutPasswords left) :
    (finish isHttps hostPort (username?, password, options)).map Settings.withoutPassword =
      (finish isHttps hostPort (username?, other, left)).map Settings.withoutPassword := by
  have hbuild (host : List Char) (port? : Option UInt16) :
      (do (← applyOptions (firstDraft isHttps host port? username? password) options).build).map
          Settings.withoutPassword =
        (do (← applyOptions (firstDraft isHttps host port? username? other) left).build).map
          Settings.withoutPassword := by
    rw [build_applyOptions, build_applyOptions, h]
    rfl
  unfold finish
  simp only
  split
  · rfl
  · cases readHostPort (Text.dropEndWhile (· = '/') hostPort) with
    | error error => rfl
    | ok parts => exact hbuild parts.1 parts.2

def publicCredentials (credentials : Option String × String × List (String × String)) :
    Option String × List (String × String) :=
  (credentials.1, withoutPasswords credentials.2.2)

/-- Two locators with the same options, host and user, passwords aside, are read as the same
settings, the password aside. -/
theorem settings_withoutPassword {first second : Locator} (hhttps : first.isHttps = second.isHttps)
    (hoptions : withoutPasswords first.options = withoutPasswords second.options)
    (hhost : (userAndHost first.authority).2 = (userAndHost second.authority).2)
    (hcredentials :
      (readCredentials (userAndHost first.authority).1 first.options).map publicCredentials =
        (readCredentials (userAndHost second.authority).1 second.options).map publicCredentials) :
    first.settings.map Settings.withoutPassword =
      second.settings.map Settings.withoutPassword := by
  have hcheck : checkTls first.options = checkTls second.options := by
    rw [← checkTls_withoutPasswords, hoptions, checkTls_withoutPasswords]
  simp only [settings_eq, map_bind, hhttps, checkOptions, hcheck]
  refine congrArg (bind (if second.isHttps then checkTls second.options else .ok ()))
    (funext fun _ => ?_)
  rw [← hhost]
  rcases map_eq_map_iff.1 hcredentials with
    ⟨error, hfirst, hsecond⟩ | ⟨credentials, credentials', hfirst, hsecond, hpublic⟩
  · rw [hfirst, hsecond]
  · rw [hfirst, hsecond]
    obtain ⟨husername, hleft⟩ := Prod.mk.inj hpublic
    obtain ⟨username?, password, left⟩ := credentials
    obtain ⟨username?', password', left'⟩ := credentials'
    obtain rfl : username? = username?' := husername
    exact finish_withoutPassword hleft

theorem publicCredentials_none (h : withoutPasswords options = withoutPasswords left) :
    (readCredentials none options).map publicCredentials =
      (readCredentials none left).map publicCredentials := by
  have hpublic (options : List (String × String)) :
      (readCredentials none options).map publicCredentials =
        .ok (takeOption .username (withoutPasswords options)) := by
    rw [takeOption_username_withoutPasswords, ← withoutPasswords_takeOption_password]
    rfl
  rw [hpublic, hpublic, h]

theorem publicCredentials_some {userInfo userInfo' : List Char}
    (huser : (readUser userInfo).map Prod.fst = (readUser userInfo').map Prod.fst)
    (h : withoutPasswords options = withoutPasswords left) :
    (readCredentials (some userInfo) options).map publicCredentials =
      (readCredentials (some userInfo') left).map publicCredentials := by
  have hpublic (userInfo : List Char) (options : List (String × String)) :
      (readCredentials (some userInfo) options).map publicCredentials =
        ((readUser userInfo).map Prod.fst).map fun username =>
          (some username, withoutPasswords options) := by
    rw [readCredentials_some]
    cases readUser userInfo <;> rfl
  rw [hpublic, hpublic, huser, h]

/-! ### The password of an option -/

/-- Locators with the same authority say the same without the password if their options do. -/
theorem settings_of_options (locator : Locator)
    (h : withoutPasswords options = withoutPasswords left) :
    ({ locator with options } : Locator).settings.map Settings.withoutPassword =
      ({ locator with options := left } : Locator).settings.map Settings.withoutPassword := by
  refine settings_withoutPassword rfl h rfl ?_
  cases (userAndHost locator.authority).1 with
  | none => exact publicCredentials_none h
  | some userInfo => exact publicCredentials_some rfl h

/-! ### The password of the user information -/

/-- A text that can stand for a password. -/
def Decodes (text : List Char) : Prop := ∃ decoded, Text.Percent.decode text = .ok decoded

theorem exists_decode (part : String) {text : List Char} (h : Decodes text) :
    ∃ decoded, decode part text = .ok decoded := by
  obtain ⟨decoded, hdecoded⟩ := h
  exact ⟨String.ofList decoded, by simp only [decode, hdecoded]⟩

/-- A password may hold a colon: the user ends at the first one. -/
theorem readUser_eq {user password : List Char} (huser : ':' ∉ user)
    (hpassword : Decodes password) :
    (readUser (user ++ ':' :: password)).map Prod.fst = decode "username" user := by
  obtain ⟨decoded, hdecoded⟩ := exists_decode "password" hpassword
  have hcut : Text.cutFirst ':' (user ++ ':' :: password) = some (user, password) :=
    Text.cutFirst_eq_some_iff.2 ⟨rfl, huser⟩
  simp only [readUser, hcut, Option.getD_some, hdecoded]
  cases decode "username" user <;> rfl

/-- A password may hold an `@`: the user information ends at the last one. -/
theorem userAndHost_eq {userInfo hostPort : List Char} (hhost : '@' ∉ hostPort) :
    userAndHost (userInfo ++ '@' :: hostPort) = (some userInfo, hostPort) := by
  unfold userAndHost
  rw [Text.cutLast_eq_some_iff.2 ⟨rfl, hhost⟩]

/-- Locators that differ in the password of the user information say the same without it. -/
theorem settings_of_userInfo (isHttps : Bool) (options : List (String × String))
    {user hostPort password other : List Char} (huser : ':' ∉ user) (hhost : '@' ∉ hostPort)
    (hpassword : Decodes password) (hother : Decodes other) :
    let locator (password : List Char) : Locator :=
      ⟨isHttps, user ++ ':' :: password ++ '@' :: hostPort, options⟩
    (locator password).settings.map Settings.withoutPassword =
      (locator other).settings.map Settings.withoutPassword := by
  intro locator
  have hparts (password : List Char) : userAndHost (locator password).authority =
      (some (user ++ ':' :: password), hostPort) := userAndHost_eq hhost
  refine settings_withoutPassword ?_ ?_ ?_ ?_
  · rfl
  · rfl
  · rw [hparts, hparts]
  · rw [hparts, hparts]
    refine publicCredentials_some ?_ rfl
    rw [readUser_eq huser hpassword, readUser_eq huser hother]

end Locator

end CypherSession

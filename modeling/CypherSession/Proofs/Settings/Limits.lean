import CypherSession.Proofs.Settings.RoundTrip
import CypherSession.Proofs.Settings.OptionEffects

/-!
# Limits of settings

What the checks of a draft let through, on the two ways to settings. The check of the timeout counts
whole seconds, and an endpoint counts whole milliseconds. So a timeout that a URL gives, in whole
seconds, keeps its limits and its length, but one that is given directly may be up to a second too
long and may lose what is below a millisecond.
-/

namespace CypherSession

open Result

namespace Duration

variable {duration : Duration}

theorem le_ofSeconds_of_seconds_le {n m : Nat} (hwhole : duration = ofSeconds n)
    (h : duration.seconds ≤ m) : duration.nanoseconds ≤ (ofSeconds m).nanoseconds := by
  subst hwhole
  simp only [seconds, ofSeconds] at h ⊢
  omega

/-- A length whose whole seconds are within a limit is less than a second over it. -/
theorem lt_ofSeconds_of_seconds_le {n : Nat} (h : duration.seconds ≤ n) :
    duration.nanoseconds < (ofSeconds (n + 1)).nanoseconds := by
  simp only [seconds, ofSeconds] at h ⊢
  omega

/-- An endpoint gets a timeout as it is exactly if this is a number of whole milliseconds. -/
theorem ofMilliseconds_milliseconds_iff :
    ofMilliseconds duration.milliseconds = duration ↔ ∃ n, duration = ofMilliseconds n := by
  constructor
  · intro h
    exact ⟨_, h.symm⟩
  · rintro ⟨n, rfl⟩
    have hdiv : n * 1000000 / 1000000 = n := Nat.mul_div_cancel n (by decide)
    rw [milliseconds, ofMilliseconds, ofMilliseconds, hdiv]

theorem ofSeconds_eq_ofMilliseconds (n : Nat) : ofSeconds n = ofMilliseconds (n * 1000) := by
  rw [ofSeconds, ofMilliseconds, Nat.mul_assoc]

/-- What an endpoint gets falls short of a timeout by less than a millisecond. -/
theorem milliseconds_bounds (duration : Duration) :
    (ofMilliseconds duration.milliseconds).nanoseconds ≤ duration.nanoseconds ∧
      duration.nanoseconds < (ofMilliseconds (duration.milliseconds + 1)).nanoseconds := by
  simp only [milliseconds, ofMilliseconds]
  omega

end Duration

namespace Settings

variable {settings : Settings} {draft : Draft}

structure Checked (settings : Settings) : Prop extends Accepted settings where
  timeout : 0 < settings.timeout.nanoseconds ∧ settings.timeout.seconds ≤ maxTimeoutSeconds
  database : ∀ name ∈ settings.database?, name ≠ "" ∧ '/' ∉ name.toList

theorem checked_of_build (h : draft.build = .ok settings) : settings.Checked := by
  have hbuilds := Draft.builds_of_build h
  exact { accepted_of_build h with timeout := hbuilds.timeout, database := hbuilds.database }

theorem Checked.timeoutMilliseconds_lt (h : settings.Checked) :
    settings.endpoint.timeoutMilliseconds < UInt64.size := by
  have hle := h.timeout.2
  have hlimit : maxTimeoutSeconds = 300 := rfl
  have hsize : UInt64.size = 18446744073709551616 := rfl
  simp only [endpoint, Duration.milliseconds, Duration.seconds] at hle ⊢
  omega

/-- The limits that are documented for settings, and that the session and the endpoint get the
timeout as it is. -/
structure RespectsLimits (settings : Settings) : Prop where
  host : settings.host ≠ ""
  username : ∀ name ∈ settings.username?, name ≠ ""
  port : 1 ≤ settings.port.toNat ∧ settings.port.toNat ≤ 65535
  database : ∀ name ∈ settings.database?, name ≠ "" ∧ '/' ∉ name.toList
  timeout_pos : 0 < settings.timeout.nanoseconds
  timeout_le : settings.timeout.nanoseconds ≤ (Duration.ofSeconds 300).nanoseconds
  session : settings.sessionConfig.timeout = settings.timeout
  exact : Duration.ofMilliseconds settings.endpoint.timeoutMilliseconds = settings.timeout
  milliseconds_pos : 0 < settings.endpoint.timeoutMilliseconds

/-- Of all the limits, only those of the timeout can be missed by settings that pass the checks. -/
theorem Checked.respectsLimits_iff (h : settings.Checked) :
    settings.RespectsLimits ↔
      settings.timeout.nanoseconds ≤ (Duration.ofSeconds 300).nanoseconds ∧
        ∃ n, settings.timeout = .ofMilliseconds n := by
  constructor
  · intro hlimits
    exact ⟨hlimits.timeout_le, _, hlimits.exact.symm⟩
  · rintro ⟨hle, hwhole⟩
    have hexact : Duration.ofMilliseconds settings.timeout.milliseconds = settings.timeout :=
      Duration.ofMilliseconds_milliseconds_iff.2 hwhole
    have hpos : 0 < settings.timeout.milliseconds := by
      have htimeout := h.timeout.1
      rw [← hexact] at htimeout
      exact Nat.pos_of_mul_pos_right htimeout
    have hport : settings.port.toNat ≠ 0 := by
      intro hzero
      exact h.port (UInt16.toNat_inj.1 hzero)
    have hword : settings.port.toNat < UInt16.size := settings.port.toNat_lt
    have hsize : UInt16.size = 65536 := rfl
    exact {
      host := h.host
      username := by
        rintro name hname rfl
        exact h.username hname
      port := by omega
      database := h.database
      timeout_pos := h.timeout.1
      timeout_le := hle
      session := rfl
      exact := hexact
      milliseconds_pos := hpos }

end Settings

/-! ## Timeouts of URLs -/

theorem Setting.exists_seconds_of_ofOption {option : String × String} {value : Duration}
    (h : ofOption option = .ok (.timeout value)) : ∃ n, value = .ofSeconds n := by
  have hkey : Locator.Key.ofName? option.1 = some .timeout := (key?_of_ofOption h).symm
  unfold ofOption at h
  rw [hkey] at h
  cases reads_of_ofKey h with
  | timeout => exact ⟨_, rfl⟩

namespace Locator

/-- Options give timeouts in whole seconds. -/
theorem exists_seconds_of_applyOptions {options : List (String × String)}
    {draft final : Settings.Draft} (happly : applyOptions draft options = .ok final)
    (hdraft : ∀ timeout ∈ draft.timeout?, ∃ n, timeout = .ofSeconds n) :
    ∀ timeout ∈ final.timeout?, ∃ n, timeout = .ofSeconds n := by
  induction options generalizing draft with
  | nil =>
    cases happly
    exact hdraft
  | cons option rest ih =>
    cases hread : Setting.ofOption option with
    | error error =>
      rw [applyOptions_cons_error hread] at happly
      cases happly
    | ok setting =>
      rw [applyOptions_cons_ok hread] at happly
      -- An option gives a timeout in whole seconds or leaves the one that is there.
      refine ih happly fun timeout htimeout => ?_
      cases setting with
      | timeout value =>
        cases htimeout
        exact Setting.exists_seconds_of_ofOption hread
      | _ => exact hdraft timeout htimeout

end Locator

namespace Settings

variable {url : String} {settings : Settings}

theorem Reads.checked (h : Reads url (.ok settings)) : settings.Checked := by
  obtain ⟨locator, options, -, -, hsettings⟩ := h.exists_locator
  obtain ⟨_, _, _, _, _, final, -, -, -, hbuild⟩ := Locator.settings_steps hsettings
  exact checked_of_build hbuild

theorem Reads.exists_seconds (h : Reads url (.ok settings)) :
    ∃ n, settings.timeout = .ofSeconds n := by
  obtain ⟨locator, options, -, -, hsettings⟩ := h.exists_locator
  obtain ⟨_, _, _, _, _, final, -, -, happly, hbuild⟩ := Locator.settings_steps hsettings
  have hfinal : ∀ timeout ∈ final.timeout?, ∃ n, timeout = .ofSeconds n :=
    Locator.exists_seconds_of_applyOptions happly nofun
  have hsetting : some (Setting.timeout settings.timeout) =
      (final.timeout?.map .timeout).or (some (.timeout defaultTimeout)) :=
    (Draft.makes_of_build hbuild).setting? .timeout
  cases htimeout : final.timeout? with
  | none =>
    rw [htimeout] at hsetting
    exact ⟨30, Setting.timeout.inj (Option.some.inj hsetting)⟩
  | some timeout =>
    rw [htimeout] at hsetting
    have heq : settings.timeout = timeout := Setting.timeout.inj (Option.some.inj hsetting)
    rw [heq]
    exact hfinal timeout htimeout

/-- Settings of a URL respect the limits. -/
theorem Reads.respectsLimits (h : Reads url (.ok settings)) : settings.RespectsLimits := by
  have hchecked := h.checked
  obtain ⟨n, hn⟩ := h.exists_seconds
  have hle : settings.timeout.nanoseconds ≤ (Duration.ofSeconds 300).nanoseconds :=
    Duration.le_ofSeconds_of_seconds_le hn hchecked.timeout.2
  have hwhole : settings.timeout = .ofMilliseconds (n * 1000) :=
    hn.trans (Duration.ofSeconds_eq_ofMilliseconds n)
  exact hchecked.respectsLimits_iff.2 ⟨hle, _, hwhole⟩

/-- **Limits of accepted settings.** Settings respect the documented limits exactly if the timeout
is not longer than the limit and is a number of whole milliseconds. That is so for those that a URL
describes, in whatever order its options are taken. A timeout that is given directly may be longer,
by less than a second, and the endpoint gets the whole milliseconds of it; all else is within the
limits. -/
theorem accepted_within_limits {settings : Settings}
    (h : (∃ draft : Draft, draft.build = .ok settings) ∨ ∃ url, Reads url (.ok settings)) :
    settings.Checked ∧
      (settings.RespectsLimits ↔
        settings.timeout.nanoseconds ≤ (Duration.ofSeconds 300).nanoseconds ∧
          ∃ n, settings.timeout = .ofMilliseconds n) ∧
      ((∃ url, Reads url (.ok settings)) → settings.RespectsLimits) ∧
      settings.timeout.nanoseconds < (Duration.ofSeconds 301).nanoseconds ∧
      settings.sessionConfig.timeout = settings.timeout ∧
      let n := settings.endpoint.timeoutMilliseconds
      n < UInt64.size ∧
        (Duration.ofMilliseconds n).nanoseconds ≤ settings.timeout.nanoseconds ∧
        settings.timeout.nanoseconds < (Duration.ofMilliseconds (n + 1)).nanoseconds := by
  have hchecked : settings.Checked := by
    rcases h with ⟨draft, hbuild⟩ | ⟨url, hurl⟩
    · exact checked_of_build hbuild
    · exact hurl.checked
  have hlimits : (∃ url, Reads url (.ok settings)) → settings.RespectsLimits := by
    rintro ⟨url, hurl⟩
    exact hurl.respectsLimits
  exact ⟨hchecked, hchecked.respectsLimits_iff, hlimits,
    Duration.lt_ofSeconds_of_seconds_le hchecked.timeout.2, rfl, hchecked.timeoutMilliseconds_lt,
    settings.timeout.milliseconds_bounds⟩

def timedDraft (timeout : Duration) : Draft := { host? := some "h", timeout? := some timeout }

def longestUrl : String := "neo4j:http://h?timeout=300"

/-- The longest timeout of a URL, and one that is given directly and has a fraction of a second. -/
theorem accepted_within_limits_longest :
    (∃ settings, ofUrl longestUrl = .ok settings ∧ settings.RespectsLimits ∧
      settings.endpoint.timeoutMilliseconds = 300000) ∧
    ∃ settings, (timedDraft (.ofMilliseconds 1500)).build = .ok settings ∧
      settings.RespectsLimits ∧ settings.endpoint.timeoutMilliseconds = 1500 := by
  constructor
  · have hmap : (ofUrl longestUrl).map (fun settings => settings.endpoint.timeoutMilliseconds) =
        .ok 300000 := by decide +kernel
    obtain ⟨settings, hread, hmilliseconds⟩ := map_eq_ok_iff.1 hmap
    have hurl : ∃ url, Reads url (.ok settings) := ⟨longestUrl, reads_of_ofUrl hread⟩
    obtain ⟨-, -, hlimits, -⟩ := accepted_within_limits (.inr hurl)
    exact ⟨settings, hread, hlimits hurl, hmilliseconds⟩
  · obtain ⟨-, hlimits, -⟩ :=
      accepted_within_limits (.inl ⟨timedDraft (.ofMilliseconds 1500), rfl⟩)
    exact ⟨_, rfl, hlimits.2 ⟨by decide, 1500, rfl⟩, rfl⟩

/-- A timeout that is almost a second too long, and one that is no time at all for the endpoint. -/
theorem timeout_beyond_limits :
    (∃ settings, (timedDraft (.ofMilliseconds 300999)).build = .ok settings ∧
      (Duration.ofSeconds 300).nanoseconds < settings.timeout.nanoseconds) ∧
    ∃ settings, (timedDraft ⟨999999⟩).build = .ok settings ∧
      settings.endpoint.timeoutMilliseconds = 0 :=
  ⟨⟨_, rfl, by decide⟩, _, rfl, by decide⟩

end Settings

end CypherSession

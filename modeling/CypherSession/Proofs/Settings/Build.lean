import CypherSession.Proofs.Result
import CypherSession.Settings.Basic

/-!
# What makes settings of a draft

A draft makes settings if it passes five checks, each of a part of it. The settings have the parts of
the draft, and defaults for those that are open.
-/

namespace CypherSession.Settings.Draft

open Result

theorem checkHost_eq_ok_iff {host? : Option String} {host : String} :
    checkHost host? = .ok host ↔ host? = some host ∧ host ≠ "" := by
  cases host? with
  | none => simp [checkHost]
  | some given =>
    by_cases hempty : given = ""
    · rw [checkHost, if_pos hempty]
      refine iff_of_false nofun ?_
      rintro ⟨⟨⟩, hne⟩
      exact hne hempty
    · rw [checkHost, if_neg hempty, Except.ok.injEq, Option.some.injEq]
      constructor
      · rintro rfl
        exact ⟨rfl, hempty⟩
      · rintro ⟨rfl, -⟩
        rfl

theorem checkUsername_eq_ok_iff {username? : Option String} :
    checkUsername username? = .ok () ↔ username? ≠ some "" := by
  unfold checkUsername
  split
  · rename_i hempty
    exact iff_of_false nofun (not_not_intro hempty)
  · rename_i hnonempty
    exact iff_of_true rfl hnonempty

theorem checkPort_eq_ok_iff {port : UInt16} : checkPort port = .ok () ↔ port ≠ 0 := by
  unfold checkPort
  split
  · rename_i hzero
    exact iff_of_false nofun (not_not_intro hzero)
  · rename_i hnonzero
    exact iff_of_true rfl hnonzero

/-- The check lets a timeout through that is too long by less than a second. -/
theorem checkTimeout_eq_ok_iff {timeout : Duration} :
    checkTimeout timeout = .ok () ↔
      0 < timeout.nanoseconds ∧ timeout.seconds ≤ maxTimeoutSeconds := by
  unfold checkTimeout
  split
  · exact iff_of_false nofun (by omega)
  · exact iff_of_true rfl (by omega)

theorem checkDatabase_eq_ok_iff {database? : Option String} :
    checkDatabase database? = .ok () ↔
      ∀ name ∈ database?, name ≠ "" ∧ '/' ∉ name.toList := by
  cases database? with
  | none => exact iff_of_true rfl (by simp)
  | some database =>
    by_cases hinvalid : database = "" ∨ '/' ∈ database.toList
    · rw [checkDatabase, if_pos hinvalid]
      refine iff_of_false nofun fun hall => ?_
      obtain ⟨hne, hslash⟩ := hall database rfl
      exact hinvalid.elim hne hslash
    · rw [checkDatabase, if_neg hinvalid]
      refine iff_of_true rfl fun name hname => ?_
      cases hname
      exact not_or.1 hinvalid

structure Builds (draft : Draft) (settings : Settings) : Prop where
  host : draft.host? = some settings.host ∧ settings.host ≠ ""
  username : settings.username? ≠ some ""
  port : settings.port ≠ 0
  timeout : 0 < settings.timeout.nanoseconds ∧ settings.timeout.seconds ≤ maxTimeoutSeconds
  database : ∀ name ∈ settings.database?, name ≠ "" ∧ '/' ∉ name.toList
  parts : settings = {
    host := settings.host
    port := draft.port?.getD (defaultPort (draft.useTls?.getD false))
    username? := draft.username?
    password := draft.password?.getD ""
    useTls := draft.useTls?.getD false
    autoCommit := draft.autoCommit?.getD true
    maxRows := draft.maxRows?.getD 0
    debug := draft.debug?.getD false
    readOnly := draft.readOnly?.getD false
    timeout := draft.timeout?.getD defaultTimeout
    database? := draft.database?
    attributes := draft.attributes }

/-- Only drafts that pass all checks become settings. -/
theorem builds_of_build {draft : Draft} {settings : Settings} (h : draft.build = .ok settings) :
    draft.Builds settings := by
  obtain ⟨host, hhost, h⟩ := bind_eq_ok_iff.1 h
  obtain ⟨_, husername, h⟩ := bind_eq_ok_iff.1 h
  obtain ⟨_, hport, h⟩ := bind_eq_ok_iff.1 h
  obtain ⟨_, htimeout, h⟩ := bind_eq_ok_iff.1 h
  obtain ⟨_, hdatabase, h⟩ := bind_eq_ok_iff.1 h
  cases h
  exact {
    host := checkHost_eq_ok_iff.1 hhost
    username := checkUsername_eq_ok_iff.1 husername
    port := checkPort_eq_ok_iff.1 hport
    timeout := checkTimeout_eq_ok_iff.1 htimeout
    database := checkDatabase_eq_ok_iff.1 hdatabase
    parts := rfl }

end CypherSession.Settings.Draft

import Mathlib.Data.Option.Basic
import NetworkPortal.Command.Run
import NetworkPortal.Proofs.Command.Options
import NetworkPortal.Proofs.Settings.Effective

/-! # Which settings are served

The portal is served with the settings that count, and only if they pass the check. But the settings
are checked once before the flags of the command line are looked at, so a flag does not make up for an
address that the environment or a file has wrong.
-/
namespace NetworkPortal

namespace Settings

theorem validate_congr {settings settings' : Settings} (h : settings.api = settings'.api) :
    settings.validate = settings'.validate := by
  rw [validate, validate, h]

theorem checked_cases (settings : Settings) :
    settings.validate = .ok () ∧ checked settings = .ok settings ∨
    ∃ fault, settings.validate = .error fault ∧ checked settings = .error (.settings fault) := by
  unfold checked
  cases settings.validate with
  | ok done => exact Or.inl ⟨rfl, rfl⟩
  | error fault => exact Or.inr ⟨fault, rfl, rfl⟩

end Settings

namespace Command

open Settings (Change Flags effective)

variable {storage : Storage} {vars : Settings.Variables} {arguments : List String}
  {path : Option String} {changes : List Change} {given : Settings}

/-! ## The changes that options ask for -/

theorem map_option?_changesOf (settled : Settled) :
    ((changesOf settled).map Change.option?).Sublist (settled.map fun entry => some entry.1) := by
  induction settled with
  | nil => exact .slnil
  | cons entry rest ih =>
    obtain ⟨name, given⟩ := entry
    unfold changesOf at ih ⊢
    rw [List.filterMap_cons]
    split
    · exact ih.cons _
    · next change heq =>
      dsimp only at heq
      -- Each change has the name of the option that asks for it.
      split at heq
      all_goals cases heq
      all_goals exact ih.cons_cons _

theorem foldl_apply_changesOf {settled : Settled} (h : GivenOnce settled) (settings : Settings) :
    (changesOf settled).foldl Settings.apply settings =
      settings.effective none (.ofChanges (changesOf settled)) := by
  have hsub := map_option?_changesOf settled
  refine Settings.foldl_apply_eq settings (fun hnone => ?_) (hsub.nodup ?_)
  · simpa using hsub.subset hnone
  · have hsome := List.Nodup.map (Option.some_injective String) h
    rwa [List.map_map] at hsome

theorem exists_settled_of_readTask {word : String} {changes : List Change}
    (h : readTask word arguments = .ok (.serve changes)) :
    ∃ settled, GivenOnce settled ∧ changes = changesOf settled := by
  unfold readTask at h
  split at h
  · obtain ⟨settled, hscan, heq⟩ := exists_ok_of_map h
    refine ⟨settled, ?_, (Task.serve.inj heq).symm⟩
    unfold scanTask at hscan
    split at hscan
    · next noted hok =>
      obtain rfl := Except.ok.inj hscan
      have hnone : GivenOnce [] := List.nodup_nil
      exact hnone.scan hok
    · cases hscan
    · cases hscan
  · split at h
    · obtain ⟨_, _, heq⟩ := exists_ok_of_map h
      cases heq
    · split at h
      · obtain ⟨_, _, heq⟩ := exists_ok_of_map h
        cases heq
      · split at h <;> cases h

theorem exists_settled_of_parse (h : Line.parse vars arguments = .ok ⟨path, .serve changes⟩) :
    ∃ settled, GivenOnce settled ∧ changes = changesOf settled := by
  unfold Line.parse at h
  split at h
  · cases h
  · cases h
  · split at h
    · cases h
    · next task htask =>
      obtain ⟨_, _, heq⟩ := exists_ok_of_map h
      obtain ⟨-, rfl⟩ := Line.mk.inj heq
      exact exists_settled_of_readTask htask

theorem foldl_apply_of_parse (h : Line.parse vars arguments = .ok ⟨path, .serve changes⟩)
    (given : Settings) (named : Option String) :
    changes.foldl Settings.apply (given.effective named {}) =
      given.effective named (.ofChanges changes) := by
  obtain ⟨settled, honce, rfl⟩ := exists_settled_of_parse h
  rw [foldl_apply_changesOf honce, Settings.effective_effective]

/-! ## The two checks -/

theorem run_cases (hline : Line.parse vars arguments = .ok ⟨path, .serve changes⟩)
    (hgiven : Settings.loadFirst storage vars path = .ok given) :
    let before := given.effective (vars Settings.apiUrlVariable) {}
    let after := given.effective (vars Settings.apiUrlVariable) (.ofChanges changes)
    (before.validate = .ok () ∧ after.validate = .ok () ∧
      run storage vars arguments = .serving after) ∨
    ∃ fault, (before.validate = .error fault ∨
        before.validate = .ok () ∧ after.validate = .error fault) ∧
      run storage vars arguments = .failed "" (.settings fault) := by
  intro before after
  have hresolve : Settings.resolve storage vars path = Settings.checked before := by
    rw [Settings.resolve, hgiven]
    dsimp only
    rw [Settings.withApiUrl_eq]
  have hchanged : before.changed changes = Settings.checked after := by
    rw [Settings.changed, foldl_apply_of_parse hline]
  rw [run, hline]
  dsimp only
  rw [hresolve]
  obtain ⟨hbefore, hok⟩ | ⟨fault, hbefore, herror⟩ := Settings.checked_cases before
  · rw [hok]
    dsimp only [perform]
    rw [hchanged]
    obtain ⟨hafter, hok⟩ | ⟨fault, hafter, herror⟩ := Settings.checked_cases after
    · rw [hok]
      exact .inl ⟨hbefore, hafter, rfl⟩
    · rw [herror]
      exact .inr ⟨fault, .inr ⟨hbefore, hafter⟩, rfl⟩
  · rw [herror]
    exact .inr ⟨fault, .inl hbefore, rfl⟩

/-- The portal is served with the settings that count if they pass the check, and so do those that
count without the flags. What fails first is reported. Only the flag for the address of the backend
makes a difference to the check. -/
theorem serves_iff_valid_before_and_after_flags
    (hline : Line.parse vars arguments = .ok ⟨path, .serve changes⟩)
    (hgiven : Settings.loadFirst storage vars path = .ok given) :
    let named := vars Settings.apiUrlVariable
    let flags := Flags.ofChanges changes
    (∀ settings, run storage vars arguments = .serving settings ↔
      settings = given.effective named flags ∧
        (given.effective named {}).validate = .ok () ∧ settings.validate = .ok ()) ∧
    ((∃ settings, run storage vars arguments = .serving settings) ∨
      ∃ fault, ((given.effective named {}).validate = .error fault ∨
          (given.effective named {}).validate = .ok () ∧
            (given.effective named flags).validate = .error fault) ∧
        run storage vars arguments = .failed "" (.settings fault)) ∧
    (flags.apiUrl = none →
      (given.effective named {}).validate = (given.effective named flags).validate) := by
  intro named flags
  refine ⟨fun settings => ?_, ?_, fun hurl => Settings.validate_congr ?_⟩
  · obtain ⟨hbefore, hafter, hrun⟩ | ⟨fault, hfault, hrun⟩ := run_cases hline hgiven
    · rw [hrun]
      constructor
      · intro hserving
        obtain rfl := Outcome.serving.inj hserving
        exact ⟨rfl, hbefore, hafter⟩
      · rintro ⟨rfl, -, -⟩
        rfl
    · rw [hrun]
      constructor
      · intro hserving
        cases hserving
      · rintro ⟨rfl, hbefore, hafter⟩
        obtain hnot | ⟨-, hnot⟩ := hfault
        · cases hbefore.symm.trans hnot
        · cases hafter.symm.trans hnot
  · obtain ⟨-, -, hrun⟩ | ⟨fault, hfault, hrun⟩ := run_cases hline hgiven
    · exact .inl ⟨_, hrun⟩
    · exact .inr ⟨fault, hfault, hrun⟩
  · rw [Settings.effective, Settings.effective, hurl]

/-! A file whose address of the backend has no scheme: the environment makes up for it, the flag for
the address does not. -/

def misaddressed : Storage where
  root := .directory [("c.toml", .file "[api]\nbase_url = 'nope'\n".toUTF8)]

def misaddressedSettings : Settings :=
  { Settings.defaults "./netfront/plugins" with api := { baseUrl := "nope" } }

def backendFrom (url : Option String) : Settings.Variables :=
  fun name => if name = Settings.apiUrlVariable then url else none

theorem misaddressed_served_by_environment :
    let vars := backendFrom (some "http://nb")
    let arguments := ["-c", "c.toml", "serve", "--port", "8000"]
    Line.parse vars arguments = .ok ⟨some "c.toml", .serve [.port 8000]⟩ ∧
      Settings.loadFirst misaddressed vars (some "c.toml") = .ok misaddressedSettings ∧
      run misaddressed vars arguments =
        .serving (misaddressedSettings.effective (some "http://nb") { port := some 8000 }) := by
  intro vars arguments
  have hline : Line.parse vars arguments = .ok ⟨some "c.toml", .serve [.port 8000]⟩ := by
    decide +kernel
  have hgiven : Settings.loadFirst misaddressed vars (some "c.toml") =
      .ok misaddressedSettings := by
    decide +kernel
  have hserves := (serves_iff_valid_before_and_after_flags hline hgiven).1
  exact ⟨hline, hgiven, (hserves _).mpr ⟨rfl, by decide, by decide⟩⟩

theorem misaddressed_not_served_by_flag :
    let vars := backendFrom none
    let arguments := ["-c", "c.toml", "serve", "--api-url", "http://nb"]
    Line.parse vars arguments = .ok ⟨some "c.toml", .serve [.apiUrl "http://nb"]⟩ ∧
      Settings.loadFirst misaddressed vars (some "c.toml") = .ok misaddressedSettings ∧
      (misaddressedSettings.effective none { apiUrl := some "http://nb" }).validate = .ok () ∧
      run misaddressed vars arguments = .failed "" (.settings (.notHttp "nope")) := by
  intro vars arguments
  have hline : Line.parse vars arguments =
      .ok ⟨some "c.toml", .serve [.apiUrl "http://nb"]⟩ := by
    decide +kernel
  have hgiven : Settings.loadFirst misaddressed vars (some "c.toml") =
      .ok misaddressedSettings := by
    decide +kernel
  exact ⟨hline, hgiven, by decide, by decide +kernel⟩

end Command

end NetworkPortal

import NetworkPortal.Proofs.Command.Serve
import NetworkPortal.Proofs.Plugin.Discovery
import NetworkPortal.Proofs.Settings.Document

/-! # Settings printed, saved and resolved again

Settings that count have passed the check, have their numbers from a document or the defaults, and
have the address of the backend from the environment already. So they come out unchanged when what
is printed of them is saved as a file.
-/
namespace NetworkPortal

variable {storage saved : Storage} {vars : Settings.Variables} {path : Option String}
  {settings given : Settings} {name text : String}

theorem Storage.readText_of_find (h : saved.find name = .ok (.file text.toUTF8)) :
    saved.readText name = .ok text := by
  have htext : String.fromUTF8? text.toUTF8 = some text := by
    rw [String.fromUTF8?, String.toUTF8_eq_toByteArray, dif_pos text.isValidUTF8]
    rfl
  rw [Storage.readText, h]
  simp only [htext]

namespace Settings

theorem exists_of_resolve_eq_ok (h : resolve storage vars path = .ok settings) :
    ∃ given, loadFirst storage vars path = .ok given ∧
      settings = given.withApiUrl (vars apiUrlVariable) ∧ settings.validate = .ok () := by
  unfold resolve at h
  cases hgiven : loadFirst storage vars path with
  | error fault =>
    rw [hgiven] at h
    cases h
  | ok given =>
    rw [hgiven] at h
    obtain ⟨hvalid, hok⟩ | ⟨fault, -, herror⟩ :=
      checked_cases (given.withApiUrl (vars apiUrlVariable))
    · obtain rfl := Except.ok.inj (hok.symm.trans h)
      exact ⟨given, rfl, rfl, hvalid⟩
    · cases herror.symm.trans h

theorem withApiUrl_withApiUrl (given : Settings) (url : Option String) :
    (given.withApiUrl url).withApiUrl url = given.withApiUrl url := by
  cases url with
  | none => rfl
  | some url =>
    by_cases hblank : Text.allBlank url = true
    · simp [withApiUrl, hblank]
    · simp [withApiUrl, hblank]

theorem InRange.withApiUrl (h : given.InRange) (url : Option String) :
    (given.withApiUrl url).InRange := by
  rw [withApiUrl_eq]
  exact ⟨h.port, h.timeout⟩

theorem inRange_of_load (h : load storage vars name = .ok given) : given.InRange := by
  unfold load at h
  split at h
  · cases h
  · split at h
    · next hread => exact Except.ok.inj h ▸ inRange_of_read? hread
    · cases h

theorem inRange_of_loadFirst (h : loadFirst storage vars path = .ok given) : given.InRange := by
  unfold loadFirst at h
  split at h
  · exact inRange_of_load h
  · split at h
    · exact inRange_of_load h
    · exact Except.ok.inj h ▸ inRange_defaults (pluginDirectory vars)

theorem load_written (h : settings.InRange)
    (hsaved : saved.find name = .ok (.file (settings.write ++ "\n").toUTF8)) :
    load saved vars name = .ok settings := by
  rw [load, Storage.readText_of_find hsaved]
  simp only [read?_write h]

end Settings

namespace Command

/-- What is printed of settings that count leads to the same settings, from a named file as well as
from the default place. -/
theorem printed_settings_resolve_again (h : Settings.resolve storage vars path = .ok settings)
    (hsaved : saved.find name =
      .ok (.file (perform storage vars settings (.config false)).standardOutput.toUTF8)) :
    Settings.resolve saved vars (some name) = .ok settings ∧
      (Settings.defaultPath? vars = some name →
        Settings.resolve saved vars none = .ok settings) := by
  obtain ⟨given, hgiven, hsettings, hvalid⟩ := Settings.exists_of_resolve_eq_ok h
  have hrange : settings.InRange := by
    rw [hsettings]
    exact (Settings.inRange_of_loadFirst hgiven).withApiUrl _
  have hload : Settings.load saved vars name = .ok settings :=
    Settings.load_written hrange hsaved
  have hagain : settings.withApiUrl (vars Settings.apiUrlVariable) = settings := by
    rw [hsettings, Settings.withApiUrl_withApiUrl]
  have hchecked : Settings.checked settings = .ok settings := by
    rw [Settings.checked, hvalid]
  have hnamed : Settings.resolve saved vars (some name) = .ok settings := by
    rw [Settings.resolve, Settings.loadFirst, hload]
    simp only [hagain, hchecked]
  refine ⟨hnamed, fun hdefault => ?_⟩
  have hholds : saved.holds name = true :=
    Plugin.holds_of_readText (Storage.readText_of_find hsaved)
  have hfirst : Settings.loadFirst saved vars none = .ok settings := by
    rw [Settings.loadFirst, hdefault, Option.filter_some, if_pos hholds]
    exact hload
  rw [Settings.resolve, hfirst]
  simp only [hagain, hchecked]

/-! Texts with quotes, backslashes, line ends and control characters, the largest numbers, and an
address from the environment; what is printed is saved in the default place. -/

def awkwardUrl : String := "http://\"\"\"'''\\\n"

def awkwardVariables : Settings.Variables := fun name =>
  if name = Settings.apiUrlVariable then some awkwardUrl
  else if name = "HOME" then some "/" else none

def awkward : Storage where
  root := .directory [("c.toml", .file
    ("[server]\nhost = \"\\u0001'\"\nport = 65535\ncors_origins = ['\"', \"a\\nb\"]\n" ++
      "[api]\ntimeout_secs = 0x7fff_ffff_ffff_ffff\n").toUTF8)]

def awkwardSettings : Settings where
  server := { host := "\x01'", port := 65535, origins := ["\"", "a\nb"] }
  api := { baseUrl := awkwardUrl, timeout := 9223372036854775807 }
  plugins := { directory := "/.local/share/netfront/plugins" }

def awkwardSaved : Storage where
  root := .directory [(".config", .directory [("netfront", .directory [("config.toml", .file
    (perform awkward awkwardVariables awkwardSettings (.config false)).standardOutput.toUTF8)])])]

theorem awkward_settings_resolve_again :
    Settings.resolve awkward awkwardVariables (some "c.toml") = .ok awkwardSettings ∧
      Settings.resolve awkwardSaved awkwardVariables (some "/.config/netfront/config.toml") =
        .ok awkwardSettings ∧
      Settings.resolve awkwardSaved awkwardVariables none = .ok awkwardSettings := by
  have hresolve : Settings.resolve awkward awkwardVariables (some "c.toml") =
      .ok awkwardSettings := by
    decide +kernel
  have hsaved : awkwardSaved.find "/.config/netfront/config.toml" =
      .ok (.file (perform awkward awkwardVariables awkwardSettings
        (.config false)).standardOutput.toUTF8) := by
    rfl
  have hdefault : Settings.defaultPath? awkwardVariables = some "/.config/netfront/config.toml" := by
    decide +kernel
  obtain ⟨hnamed, hplace⟩ := printed_settings_resolve_again hresolve hsaved
  exact ⟨hresolve, hnamed, hplace hdefault⟩

end Command

end NetworkPortal

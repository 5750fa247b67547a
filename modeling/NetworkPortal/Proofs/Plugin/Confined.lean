import NetworkPortal.Plugin.Discovery
import NetworkPortal.Proofs.Route.Reachable
import NetworkPortal.Proofs.Storage.Component

/-! # Plugins keep to their places

The page of a plugin whose manifest is valid lies in the directory of the plugin, and it is mounted
at a path of two segments that every reader takes as they are written.
-/
namespace NetworkPortal.Plugin

open Storage.Path (StaysIn isAbsolute join)
open Text (cutAt isDotSegment removeDotSegments)
open Text.Percent (encode encodeByte)

/-- A path of some segments, none of which needs encoding or is taken for a step. -/
structure IsPlainPath (path : String) (segments : List String) : Prop where
  cut : cutAt '/' path = "" :: segments
  plain : ∀ s ∈ segments, s ≠ "" ∧ encode s = s
  settled : removeDotSegments path = path

namespace Manifest

variable {manifest : Manifest} {text : String} {c : Char}

theorem of_validate (h : manifest.validate = .ok ()) : isPathSegment manifest.mountPath = true ∧
    Text.contains ".." manifest.entry = false ∧ isAbsolute manifest.entry = false := by
  rw [validate] at h
  split at h
  · cases h
  · split at h
    · cases h
    · next hsegment =>
      split at h
      · cases h
      · next hentry =>
        rw [Bool.or_eq_true, not_or, Bool.not_eq_true, Bool.not_eq_true] at hentry
        exact ⟨by simpa using hsegment, hentry⟩

theorem not_mem_cutAt_of_not_contains (h : Text.contains ".." text = false) :
    ".." ∉ cutAt '/' text := by
  intro hmem
  rw [Text.contains_iff_isInfix.mpr (Text.infix_of_mem_cutAt hmem)] at h
  cases h

theorem toNat_lt_of_isAlphanum (h : c.isAlphanum = true) : c.toNat < 128 := by
  rcases Bool.or_eq_true_iff.mp h with halpha | hdigit
  · rcases Bool.or_eq_true_iff.mp halpha with hupper | hlower
    · have hlast := (of_decide_eq_true hupper).2
      exact Nat.lt_of_le_of_lt (UInt32.le_iff_toNat_le.mp hlast) (by decide)
    · have hlast := of_decide_eq_true (Bool.and_eq_true_iff.mp hlower).2
      exact Nat.lt_of_le_of_lt (UInt32.le_iff_toNat_le.mp hlast) (by decide)
  · exact Nat.lt_of_le_of_lt (Char.isDigit_iff_toNat.mp hdigit).2 (by decide)

theorem flatMap_encodeByte_of_isSegmentChar (h : isSegmentChar c = true) :
    (String.utf8EncodeChar c).flatMap encodeByte = [c] := by
  have hall : ∀ n < 128, isSegmentChar (.ofNat n) = true →
      (String.utf8EncodeChar (.ofNat n)).flatMap encodeByte = [.ofNat n] := by
    decide +kernel
  have hascii : c.toNat < 128 := by
    simp only [isSegmentChar, Bool.or_eq_true, decide_eq_true_eq] at h
    rcases h with ((halphanum | rfl) | rfl) | rfl
    · exact toNat_lt_of_isAlphanum halphanum
    all_goals decide
  have hc := hall c.toNat hascii
  rw [Char.ofNat_toNat] at hc
  exact hc h

theorem isSegmentChar_of_mem (h : isPathSegment text = true) (hc : c ∈ text.toList) :
    isSegmentChar c = true := by
  simp only [isPathSegment, Bool.and_eq_true, List.all_eq_true] at h
  exact h.1.1.2 c hc

theorem encode_of_isPathSegment (h : isPathSegment text = true) : encode text = text := by
  have hbytes : ∀ c ∈ text.toList, (String.utf8EncodeChar c).flatMap encodeByte = [c] :=
    fun c hc => flatMap_encodeByte_of_isSegmentChar (isSegmentChar_of_mem h hc)
  rw [encode, List.flatMap_assoc, List.flatMap_congr hbytes, List.flatMap_singleton',
    String.ofList_toList]

theorem isDotSegment_of_isPathSegment (h : isPathSegment text = true) :
    isDotSegment text = false := by
  obtain ⟨-, -, hstay, hup⟩ := Route.isPathSegment_iff.mp h
  rw [← Bool.not_eq_true, ← encode_of_isPathSegment h]
  exact fun hdot => (Text.eq_of_isDotSegment_encode hdot).elim hstay hup

theorem isPlainPath_mount (h : isPathSegment text = true) :
    IsPlainPath ("/plugins/" ++ text) ["plugins", text] := by
  have hboth {p : String → Prop} (hplugins : p "plugins") (htext : p text) :
      ∀ s ∈ ["plugins", text], p s :=
    List.forall_mem_cons.mpr ⟨hplugins, List.forall_mem_singleton.mpr htext⟩
  have hslash : ∀ s ∈ ["plugins", text], '/' ∉ s.toList :=
    hboth (by decide) fun hmem => absurd (isSegmentChar_of_mem h hmem) (by decide)
  have hdot : ∀ s ∈ ["plugins", text], isDotSegment s = false :=
    hboth (by decide) (isDotSegment_of_isPathSegment h)
  have hpath : "/plugins/" ++ text = "/".intercalate ["", "plugins", text] := by
    apply String.toList_inj.mp
    simp
  have hempty : '/' ∉ "".toList := by decide
  rw [hpath]
  refine ⟨?_, ?_, Text.removeDotSegments_intercalate hempty hslash hdot⟩
  · exact Text.cutAt_intercalate (List.cons_ne_nil _ _)
      (List.forall_mem_cons.mpr ⟨hempty, hslash⟩)
  · exact hboth ⟨by decide, by decide +kernel⟩
      ⟨(Route.isPathSegment_iff.mp h).1, encode_of_isPathSegment h⟩

end Manifest

/-- A plugin with a valid manifest reads its page from its directory or below and is mounted at a
path of two segments. -/
theorem valid_plugin_confined {manifest : Manifest} {directory : String}
    (hvalid : manifest.validate = .ok ()) (hdirectory : directory ≠ "") :
    let plugin := Registration.ofManifest manifest directory
    (∃ path, plugin.loader = .file path ∧ path = join directory manifest.entry ∧
      StaysIn directory path) ∧
    IsPlainPath ("/plugins/" ++ plugin.mountPath) ["plugins", plugin.mountPath] := by
  obtain ⟨hsegment, hup, hentry⟩ := Manifest.of_validate hvalid
  refine ⟨⟨_, rfl, rfl, ?_⟩, Manifest.isPlainPath_mount hsegment⟩
  exact Storage.Path.staysIn_join hdirectory hentry (Manifest.not_mem_cutAt_of_not_contains hup)

/-- An entry with dots, repeated slashes and a step that stays, in a directory above the start. -/
def scatteredManifest : Manifest := ⟨"one", "golden_config.v2", none, "ui//./v1.5/index.html"⟩

theorem scatteredManifest_confined :
    scatteredManifest.validate = .ok () ∧ "../plugins/one/" ≠ "" ∧
      StaysIn "../plugins/one/" "../plugins/one/ui//./v1.5/index.html" ∧
      IsPlainPath "/plugins/golden_config.v2" ["plugins", "golden_config.v2"] := by
  have hvalid : scatteredManifest.validate = .ok () := by decide
  have hdirectory : "../plugins/one/" ≠ "" := by decide
  obtain ⟨⟨path, -, rfl, hstays⟩, hplain⟩ := valid_plugin_confined hvalid hdirectory
  exact ⟨hvalid, hdirectory, hstays, hplain⟩

end NetworkPortal.Plugin

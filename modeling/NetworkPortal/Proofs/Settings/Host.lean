import Mathlib.Data.List.DropRight
import NetworkPortal.Proofs.Settings.Endpoints

/-! # Addresses with a host

An address leads to a host if a character other than a slash follows its scheme. All addresses of
the backend have a host exactly if the base address has one as it is written. Checking the settings
looks at the base address without the white space around it, and at its scheme alone, so settings
that pass the check may still lack a host.
-/
namespace NetworkPortal.Settings

open Text (isBlank)

def schemes : List String := ["http://", "https://"]

def HasScheme (url : String) : Prop := ∃ scheme ∈ schemes, scheme.toList <+: url.toList

/-- A scheme with a character other than a slash after it. -/
def HasHost (url : String) : Prop :=
  ∃ scheme ∈ schemes, ∃ c, c ≠ '/' ∧ scheme.toList ++ [c] <+: url.toList

def LacksHost (url : String) : Prop :=
  ∃ scheme ∈ schemes, url.toList = scheme.toList ∨ scheme.toList ++ ['/'] <+: url.toList

instance (url : String) : Decidable (LacksHost url) := by
  unfold LacksHost
  infer_instance

theorem schemes_antichain :
    ∀ s ∈ schemes, ∀ s' ∈ schemes, s.toList <+: s'.toList → s = s' := by
  decide

theorem scheme_unique {scheme scheme' : String} {text : List Char}
    (hscheme : scheme ∈ schemes) (hscheme' : scheme' ∈ schemes) (h : scheme.toList <+: text)
    (h' : scheme'.toList <+: text) : scheme = scheme' := by
  rcases List.prefix_or_prefix_of_prefix h h' with hle | hle
  · exact schemes_antichain _ hscheme _ hscheme' hle
  · exact (schemes_antichain _ hscheme' _ hscheme hle).symm

theorem hasHost_iff {url : String} : HasHost url ↔ HasScheme url ∧ ¬ LacksHost url := by
  constructor
  · rintro ⟨scheme, hscheme, c, hc, hurl⟩
    have hstart : scheme.toList <+: url.toList := (List.prefix_append _ _).trans hurl
    refine ⟨⟨scheme, hscheme, hstart⟩, ?_⟩
    rintro ⟨scheme', hscheme', hbare | hslash⟩
    · obtain rfl := scheme_unique hscheme hscheme' hstart (hbare ▸ List.prefix_rfl)
      have hlength := hurl.length_le
      rw [hbare, List.length_append, List.length_singleton] at hlength
      omega
    · have hstart' := (List.prefix_append _ _).trans hslash
      obtain rfl := scheme_unique hscheme hscheme' hstart hstart'
      have hends : scheme.toList ++ [c] = scheme.toList ++ ['/'] :=
        (List.prefix_of_prefix_length_le hurl hslash (by simp)).eq_of_length (by simp)
      exact hc (List.singleton_inj.mp (List.append_cancel_left hends))
  · rintro ⟨⟨scheme, hscheme, rest, hurl⟩, hlacks⟩
    cases rest with
    | nil =>
      rw [List.append_nil] at hurl
      exact absurd ⟨scheme, hscheme, Or.inl hurl.symm⟩ hlacks
    | cons c more =>
      rw [List.append_cons] at hurl
      refine ⟨scheme, hscheme, c, ?_, more, hurl⟩
      rintro rfl
      exact hlacks ⟨scheme, hscheme, Or.inr ⟨more, hurl⟩⟩

theorem HasHost.of_prefix {url url' : String} (h : HasHost url)
    (hle : url.toList <+: url'.toList) : HasHost url' := by
  obtain ⟨scheme, hscheme, c, hc, hurl⟩ := h
  exact ⟨scheme, hscheme, c, hc, hurl.trans hle⟩

theorem HasHost.append {url : String} (h : HasHost url) (more : String) :
    HasHost (url ++ more) :=
  h.of_prefix (by simp)

/-! ## The base address without the slashes at its end -/

variable {p : Char → Bool}

theorem prefix_rdropWhile {front rest : List Char} {c : Char} (hc : p c = false) :
    front ++ [c] <+: (front ++ [c] ++ rest).rdropWhile p := by
  induction rest using List.reverseRecOn with
  | nil =>
    have hkept : (front ++ [c]).rdropWhile p = front ++ [c] :=
      List.rdropWhile_concat_neg p front c (by simp [hc])
    simp only [List.append_nil, hkept, List.prefix_rfl]
  | append_singleton rest d ih =>
    rw [← List.append_assoc, List.rdropWhile_concat]
    split
    · exact ih
    · exact ⟨rest ++ [d], by simp⟩

theorem toList_origin (api : Api) :
    api.origin.toList = api.baseUrl.toList.rdropWhile (· == '/') := by
  rw [Api.origin, Text.trimEnd, String.toList_ofList]
  rfl

theorem origin_prefix_baseUrl (api : Api) : api.origin.toList <+: api.baseUrl.toList := by
  rw [toList_origin]
  exact List.rdropWhile_prefix _ _

theorem getLast?_origin (api : Api) : api.origin.toList.getLast? ≠ some '/' := by
  rw [toList_origin]
  intro hlast
  have hne : api.baseUrl.toList.rdropWhile (· == '/') ≠ [] := by
    intro hnil
    simp [hnil] at hlast
  have hkept := List.rdropWhile_last_not (· == '/') _ hne
  rw [List.getLast?_eq_some_getLast hne, Option.some.injEq] at hlast
  exact hkept (beq_iff_eq.mpr hlast)

theorem hasHost_origin_iff (api : Api) : HasHost api.origin ↔ HasHost api.baseUrl := by
  refine ⟨fun h => h.of_prefix (origin_prefix_baseUrl api), ?_⟩
  rintro ⟨scheme, hscheme, c, hc, rest, hurl⟩
  refine ⟨scheme, hscheme, c, hc, ?_⟩
  rw [toList_origin, ← hurl]
  exact prefix_rdropWhile (beq_eq_false_iff_ne.mpr hc)

theorem scheme_ends_in_slashes {scheme : String} (h : scheme ∈ schemes) :
    'a' ∉ scheme.toList ∧ ∃ front, scheme.toList = front ++ ['/'] ++ ['/'] := by
  rcases List.mem_pair.mp h with rfl | rfl
  · exact ⟨by decide, "http:".toList, rfl⟩
  · exact ⟨by decide, "https:".toList, rfl⟩

/-- The address of the menu has a host only if the base address does: the path that is put after
the base address completes no scheme. -/
theorem hasHost_origin_of_menuUrl {api : Api} (h : HasHost api.menuUrl) : HasHost api.origin := by
  obtain ⟨scheme, hscheme, c, hc, hurl⟩ := h
  obtain ⟨hletter, front, hslashes⟩ := scheme_ends_in_slashes hscheme
  have hpath : api.menuUrl.toList =
      api.origin.toList ++ '/' :: 'a' :: "pi/get-menu/".toList := String.toList_append
  rw [hpath] at hurl
  rcases List.prefix_or_prefix_of_prefix hurl (List.prefix_append _ _) with hshort | ⟨tail, htail⟩
  · exact ⟨scheme, hscheme, c, hc, hshort⟩
  rcases List.eq_nil_or_concat tail with rfl | ⟨middle, d, rfl⟩
  · rw [List.append_nil] at htail
    exact ⟨scheme, hscheme, c, hc, htail ▸ List.prefix_rfl⟩
  -- The scheme is the base address and `middle`, which is read in the path as well.
  rw [List.concat_eq_append, ← List.append_assoc] at htail
  have hmiddle : api.origin.toList ++ middle = scheme.toList := (List.append_inj' htail rfl).1
  rw [← hmiddle, List.append_assoc, List.prefix_append_right_inj] at hurl
  cases middle with
  | nil =>
    rw [List.nil_append, List.cons_prefix_cons] at hurl
    exact absurd hurl.1 hc
  | cons a rest => cases rest with
    | nil =>
      rw [List.cons_append, List.cons_prefix_cons] at hurl
      rw [hurl.1, hslashes] at hmiddle
      have hfront : api.origin.toList = front ++ ['/'] := (List.append_inj' hmiddle rfl).1
      exact absurd (by rw [hfront, List.getLast?_concat]) (getLast?_origin api)
    | cons b more =>
      rw [List.cons_append, List.cons_prefix_cons, List.cons_append, List.cons_prefix_cons] at hurl
      rw [← hmiddle, hurl.2.1] at hletter
      simp at hletter

/-! ## All addresses -/

/-- Every address that is made of the base address has a host. -/
structure AddressesHaveHost (api : Api) : Prop where
  menu : HasHost api.menuUrl
  list : ∀ app resource, HasHost (api.listUrl app resource)
  object : ∀ app resource id, HasHost (api.objectUrl app resource id)
  slugView : ∀ app resource slug, HasHost (api.slugViewUrl app resource slug)
  absolute : ∀ url, ¬ HasScheme url → HasHost (api.absoluteUrl url)

theorem startsWith_iff {start text : String} :
    Text.startsWith start text = true ↔ start.toList <+: text.toList := by
  rw [Text.startsWith, List.isPrefixOf_iff_prefix]

theorem hasScheme_iff {url : String} :
    HasScheme url ↔ (Text.startsWith "http://" url || Text.startsWith "https://" url) = true := by
  rw [Bool.or_eq_true, startsWith_iff, startsWith_iff]
  simp [HasScheme, schemes]

theorem absoluteUrl_of_hasScheme (api : Api) {url : String} (h : HasScheme url) :
    api.absoluteUrl url = url :=
  if_pos (hasScheme_iff.mp h)

theorem absoluteUrl_of_not_hasScheme (api : Api) {url : String} (h : ¬ HasScheme url) :
    ∃ more, api.absoluteUrl url = api.origin ++ more := by
  rw [hasScheme_iff] at h
  rw [Api.absoluteUrl, if_neg h]
  split
  · exact ⟨url, rfl⟩
  · exact ⟨"/" ++ url, String.append_assoc⟩

theorem addressesHaveHost_iff (api : Api) : AddressesHaveHost api ↔ HasHost api.baseUrl := by
  rw [← hasHost_origin_iff]
  refine ⟨fun h => hasHost_origin_of_menuUrl h.menu, fun h => ⟨h.append _, ?_, ?_, ?_, ?_⟩⟩
  · intro app resource
    rw [listUrl_eq]
    exact h.append _
  · intro app resource id
    rw [objectUrl_eq]
    exact h.append _
  · intro app resource slug
    rw [slugViewUrl_eq]
    exact h.append _
  · intro url hurl
    obtain ⟨more, hmore⟩ := absoluteUrl_of_not_hasScheme api hurl
    rw [hmore]
    exact h.append more

/-! ## What the check of the settings leaves open -/

def beginsBlank (text : String) : Bool := text.toList.head?.any isBlank

theorem hasScheme_of_trim {text : String} (hblank : beginsBlank text = false)
    (h : HasScheme (Text.trim text)) : HasScheme text := by
  have hstart : text.toList.dropWhile isBlank = text.toList := by
    unfold beginsBlank at hblank
    cases htext : text.toList with
    | nil => rfl
    | cons c rest =>
      rw [htext, List.head?_cons, Option.any_some] at hblank
      rw [List.dropWhile_cons_of_neg (by simp [hblank])]
  have htrim : (Text.trim text).toList = text.toList.rdropWhile isBlank := by
    rw [Text.trim, String.toList_ofList, hstart]
    rfl
  obtain ⟨scheme, hscheme, hle⟩ := h
  rw [htrim] at hle
  exact ⟨scheme, hscheme, hle.trans (List.rdropWhile_prefix _ _)⟩

theorem hasScheme_of_validate {settings : Settings} (h : settings.validate = .ok ()) :
    HasScheme (Text.trim settings.api.baseUrl) := by
  rw [hasScheme_iff]
  by_contra hscheme
  rw [Bool.not_eq_true] at hscheme
  simp [validate, hscheme] at h

theorem HasHost.not_beginsBlank {url : String} (h : HasHost url) : beginsBlank url = false := by
  obtain ⟨scheme, hscheme, c, _, rest, hurl⟩ := h
  rw [beginsBlank, ← hurl]
  rcases List.mem_pair.mp hscheme with rfl | rfl <;> rfl

/-- Among settings that pass the check, those whose base address begins with white space, or has
nothing or a slash after its scheme, are the ones that make addresses without a host. -/
theorem addresses_have_host_iff (settings : Settings) (h : settings.validate = .ok ()) :
    AddressesHaveHost settings.api ↔
      beginsBlank settings.api.baseUrl = false ∧ ¬ LacksHost settings.api.baseUrl := by
  rw [addressesHaveHost_iff]
  constructor
  · intro hhost
    exact ⟨hhost.not_beginsBlank, (hasHost_iff.mp hhost).2⟩
  · rintro ⟨hblank, hlacks⟩
    exact hasHost_iff.mpr ⟨hasScheme_of_trim hblank (hasScheme_of_validate h), hlacks⟩

def withBaseUrl (url : String) : Settings :=
  { Settings.defaults "plugins" with api := { baseUrl := url } }

theorem addresses_have_host_slashes :
    (withBaseUrl "https://nb//").validate = .ok () ∧
      AddressesHaveHost (withBaseUrl "https://nb//").api := by
  have hvalid : (withBaseUrl "https://nb//").validate = .ok () := by decide
  exact ⟨hvalid, (addresses_have_host_iff _ hvalid).mpr (by decide)⟩

/-- A scheme alone passes the check, and so does white space before the scheme. -/
theorem hostless_base_passes :
    (withBaseUrl "http://").validate = .ok () ∧
      (withBaseUrl "http://").api.menuUrl = "http:/api/get-menu/" ∧
      ¬ HasHost (withBaseUrl "http://").api.menuUrl ∧
    (withBaseUrl " http://nb").validate = .ok () ∧
      ¬ HasHost (withBaseUrl " http://nb").api.menuUrl := by
  have hmenu (api : Api) (h : HasHost api.menuUrl) : HasHost api.baseUrl :=
    (hasHost_origin_iff api).mp (hasHost_origin_of_menuUrl h)
  refine ⟨by decide, by decide, fun h => ?_, by decide, fun h => ?_⟩
  · exact absurd (hasHost_iff.mp (hmenu _ h)).2 (by decide)
  · exact absurd (hmenu _ h).not_beginsBlank (by decide)

end NetworkPortal.Settings

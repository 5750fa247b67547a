import NetworkPortal.Proofs.Settings.Endpoints

/-! # The address of the menu stands alone

Encoded segments hold no slash, so the slashes of an address tell how many segments it was made of.
The menu has fewer than any list, resource, fragment or slug view, whatever these are named.
-/
namespace NetworkPortal.Settings

open Text.Percent (encode)

def slashes (url : String) : Nat := url.toList.count '/'

@[simp] theorem slashes_append (url more : String) :
    slashes (url ++ more) = slashes url + slashes more := by
  rw [slashes, String.toList_append, List.count_append]
  rfl

@[simp] theorem slashes_encode (name : String) : slashes (encode name) = 0 := by
  refine List.count_eq_zero.mpr fun hmem => ?_
  exact absurd (Text.Percent.isEncodedChar_of_mem_encode hmem) (by decide)

variable (api : Api) (app resource id slug : String)

theorem slashes_menuUrl : slashes api.menuUrl = slashes api.origin + 3 :=
  slashes_append _ _

theorem slashes_listUrl : slashes (api.listUrl app resource) = slashes api.origin + 4 := by
  have hapi : slashes "/api/" = 2 := rfl
  have hslash : slashes "/" = 1 := rfl
  simp only [Api.listUrl, slashes_append, slashes_encode, hapi, hslash]

theorem slashes_objectUrl : slashes (api.objectUrl app resource id) = slashes api.origin + 5 := by
  have hapi : slashes "/api/" = 2 := rfl
  have hslash : slashes "/" = 1 := rfl
  simp only [Api.objectUrl, slashes_append, slashes_encode, hapi, hslash]

theorem slashes_slugViewUrl :
    slashes (api.slugViewUrl app resource slug) = slashes api.origin + 4 := by
  have hslash : slashes "/" = 1 := rfl
  simp only [Api.slugViewUrl, slashes_append, slashes_encode, hslash]

/-! ## Addresses other than that of the menu -/

variable {api}

theorem ne_menuUrl {url : String} (h : slashes api.origin + 3 < slashes url) :
    url ≠ api.menuUrl := by
  rintro rfl
  rw [slashes_menuUrl] at h
  omega

theorem listUrl_ne_menuUrl : api.listUrl app resource ≠ api.menuUrl :=
  ne_menuUrl (by rw [slashes_listUrl]; omega)

theorem objectUrl_ne_menuUrl : api.objectUrl app resource id ≠ api.menuUrl :=
  ne_menuUrl (by rw [slashes_objectUrl]; omega)

theorem objectUrl_append_ne_menuUrl (more : String) :
    api.objectUrl app resource id ++ more ≠ api.menuUrl :=
  ne_menuUrl (by rw [slashes_append, slashes_objectUrl]; omega)

theorem slugViewUrl_append_ne_menuUrl (more : String) :
    api.slugViewUrl app resource slug ++ more ≠ api.menuUrl :=
  ne_menuUrl (by rw [slashes_append, slashes_slugViewUrl]; omega)

end NetworkPortal.Settings

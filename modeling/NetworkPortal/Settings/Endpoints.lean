import NetworkPortal.Settings.Basic
import NetworkPortal.Text.Percent

/-! # Addresses of the backend

Every address is the base address of the backend followed by encoded path segments. A segment is
safe if no reader of the address takes it for a step in the directory tree.
-/
namespace NetworkPortal.Settings

def plainDots : List Char → List Char
  | '%' :: '2' :: 'e' :: rest => '.' :: plainDots rest
  | c :: rest => c :: plainDots rest
  | [] => []

/-- Neither empty nor a spelling of `.` or `..`. -/
def isSafeSegment (segment : String) : Bool :=
  let plain := plainDots (segment.toList.map Char.toLower)
  !(plain == [] || plain == ['.'] || plain == ['.', '.'])

/-- The address of the part of a page that plugins add to a resource. -/
def fragmentUrl (resourceUrl : String) : String :=
  if Text.endsWithChar '/' resourceUrl then resourceUrl ++ "plugin_full_width_fragment/"
  else resourceUrl ++ "/" ++ "plugin_full_width_fragment/"

namespace Api

open Text.Percent (encode)

variable (api : Api)

def origin : String := Text.trimEnd '/' api.baseUrl

def menuUrl : String := api.origin ++ "/api/get-menu/"

def listUrl (app resource : String) : String :=
  api.origin ++ "/api/" ++ encode app ++ "/" ++ encode resource ++ "/"

def objectUrl (app resource id : String) : String :=
  api.origin ++ "/api/" ++ encode app ++ "/" ++ encode resource ++ "/" ++ encode id ++ "/"

def slugViewUrl (app resource slug : String) : String :=
  api.origin ++ "/" ++ encode app ++ "/" ++ encode resource ++ "/" ++ encode slug ++ "/"

/-- An address from the backend, completed if it has no scheme. -/
def absoluteUrl (url : String) : String :=
  if Text.startsWith "http://" url || Text.startsWith "https://" url then url
  else if Text.startsWith "/" url then api.origin ++ url
  else api.origin ++ "/" ++ url

def usesSlugView (app resource : String) : Bool :=
  api.slugViews.any fun view => Text.trimBoth '/' view == app ++ "/" ++ resource

end Api

end NetworkPortal.Settings

import NetworkPortal.Settings.Resolution

/-! # The settings that count

What is asked for by hand comes before the environment, the environment before a file, and a file
before the defaults. Changes made one after the other lead to these settings as long as no two of them
are of the same kind.
-/
namespace NetworkPortal.Settings

namespace Change

def host? : Change → Option String
  | .host name => some name
  | _ => none

def port? : Change → Option Nat
  | .port number => some number
  | _ => none

def apiUrl? : Change → Option String
  | .apiUrl url => some url
  | _ => none

def option? : Change → Option String
  | .host _ => some "host"
  | .port _ => some "port"
  | .apiUrl _ => some "api-url"
  | .replace _ => none

end Change

structure Flags where
  host : Option String := none
  port : Option Nat := none
  apiUrl : Option String := none

def Flags.ofChanges (changes : List Change) : Flags where
  host := changes.findSome? Change.host?
  port := changes.findSome? Change.port?
  apiUrl := changes.findSome? Change.apiUrl?

/-- The settings that count: a flag before what the environment names, unless that is blank, before
what was given otherwise. -/
def effective (given : Settings) (named : Option String) (flags : Flags) : Settings where
  server := { given.server with
    host := flags.host.getD given.server.host
    port := flags.port.getD given.server.port }
  api := { given.api with
    baseUrl := (flags.apiUrl.or (named.filter fun url => !Text.allBlank url)).getD
      given.api.baseUrl }
  plugins := given.plugins

variable {given settings : Settings} {named : Option String} {flags : Flags}
  {changes : List Change}

theorem withApiUrl_eq (given : Settings) (named : Option String) :
    given.withApiUrl named = given.effective named {} := by
  cases named with
  | none => rfl
  | some url =>
    by_cases hblank : Text.allBlank url = true
    · simp [withApiUrl, effective, Option.filter, hblank]
    · simp [withApiUrl, effective, Option.filter, hblank]

theorem effective_effective (given : Settings) (named : Option String) (flags : Flags) :
    (given.effective named {}).effective none flags = given.effective named flags := by
  cases hurl : flags.apiUrl with
  | none => simp [effective, hurl]
  | some url => simp [effective, hurl]

theorem findSome?_eq_none {α : Type} {find : Change → Option α} {name : String}
    (hfind : ∀ change, change.option? ≠ some name → find change = none)
    (h : some name ∉ changes.map Change.option?) : changes.findSome? find = none := by
  refine List.findSome?_eq_none_iff.mpr fun change hchange => hfind change fun heq => ?_
  exact h (heq ▸ List.mem_map_of_mem hchange)

theorem host?_eq_none {change : Change} (h : change.option? ≠ some "host") :
    change.host? = none := by
  cases change with
  | host name => exact absurd rfl h
  | _ => rfl

theorem port?_eq_none {change : Change} (h : change.option? ≠ some "port") :
    change.port? = none := by
  cases change with
  | port number => exact absurd rfl h
  | _ => rfl

theorem apiUrl?_eq_none {change : Change} (h : change.option? ≠ some "api-url") :
    change.apiUrl? = none := by
  cases change with
  | apiUrl url => exact absurd rfl h
  | _ => rfl

theorem foldl_apply_eq (settings : Settings) (hoption : none ∉ changes.map Change.option?)
    (honce : (changes.map Change.option?).Nodup) :
    changes.foldl apply settings = settings.effective none (.ofChanges changes) := by
  induction changes generalizing settings with
  | nil => rfl
  | cons change rest ih =>
    rw [List.map_cons, List.mem_cons, not_or] at hoption
    rw [List.map_cons, List.nodup_cons] at honce
    rw [List.foldl_cons, ih _ hoption.2 honce.2]
    -- No later change is of the kind of the first, so what the first asks for stays.
    cases change with
    | host name =>
      have hrest := findSome?_eq_none (fun _ => host?_eq_none) honce.1
      simp [effective, apply, Flags.ofChanges, List.findSome?_cons, hrest, Change.host?,
        Change.port?, Change.apiUrl?]
    | port number =>
      have hrest := findSome?_eq_none (fun _ => port?_eq_none) honce.1
      simp [effective, apply, Flags.ofChanges, List.findSome?_cons, hrest, Change.host?,
        Change.port?, Change.apiUrl?]
    | apiUrl url =>
      have hrest := findSome?_eq_none (fun _ => apiUrl?_eq_none) honce.1
      simp [effective, apply, Flags.ofChanges, List.findSome?_cons, hrest, Change.host?,
        Change.port?, Change.apiUrl?]
    | replace settings => exact absurd rfl hoption.1

end NetworkPortal.Settings

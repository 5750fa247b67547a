import Mathlib.Data.List.Basic
import NetworkPortal.Proofs.Storage.Place
import NetworkPortal.Proofs.Text.DotSegment
import NetworkPortal.Proofs.Text.Pieces

/-! # Components of a path

A path starts at the root or where it is, and goes on by names and by steps up. Repeated slashes and
dots between them make no components. A path that goes on from a directory by names only never
leaves that directory, neither on paper nor in a file tree.
-/
namespace NetworkPortal.Storage

open Text (cutAt)

inductive Component where
  | root
  | here
  | up
  | name (text : String)
  deriving DecidableEq

namespace Component

def isSkipped (piece : String) : Bool := piece = "" || piece = "."

def ofPiece? (piece : String) : Option Component :=
  if isSkipped piece then none else if piece = ".." then some .up else some (.name piece)

/-- Where a component leads if no name is a link. -/
def follow (location : Location) : Component → Location
  | .root => []
  | .here => location
  | .up => location.dropLast
  | .name text => location ++ [text]

end Component

namespace Path

/-- A dot counts only at the beginning of a path. -/
def beginning (path : String) : List Component :=
  if isAbsolute path then [.root]
  else if (cutAt '/' path).head? = some "." then [.here]
  else []

def components (path : String) : List Component :=
  beginning path ++ (cutAt '/' path).filterMap Component.ofPiece?

def resolve (start : Location) (way : List Component) : Location :=
  way.foldl Component.follow start

end Path

structure IsName (text : String) : Prop where
  ne_empty : text ≠ ""
  ne_here : text ≠ "."
  ne_up : text ≠ ".."
  no_slash : '/' ∉ text.toList

variable {root : Node} {here home there : Location} {way : List String}

/-! ## In a file tree -/

theorem advance_append (root : Node) (here : Location) (front more : List String) :
    advance root here (front ++ more) =
      match advance root here front with
      | .arrived there => advance root there more
      | .missing there name rest => .missing there name (rest ++ more)
      | .stopped fault => .stopped fault
      | .met there target rest => .met there target (rest ++ more) := by
  induction front generalizing here with
  | nil => rfl
  | cons step rest ih =>
    rw [List.cons_append, advance_cons, advance_cons]
    split
    · split
      · exact ih here
      · split
        · exact ih here.dropLast
        · split
          · rfl
          · split
            · rfl
            · rfl
            · exact ih _
    · rfl

/-- Without steps up, nothing outside the first location is reached. -/
theorem prefix_of_advance (hup : ".." ∉ way)
    (hthere : there ∈ (advance root home way).location?) : home <+: there := by
  induction way generalizing home with
  | nil =>
    obtain rfl := Option.some.inj hthere
    exact List.prefix_rfl
  | cons step rest ih =>
    obtain ⟨hstep, hrest⟩ := not_or.mp (mt List.mem_cons.mpr hup)
    rw [advance_cons] at hthere
    split at hthere
    · split at hthere
      · exact ih hrest hthere
      · rw [if_neg (Ne.symm hstep)] at hthere
        split at hthere
        · cases hthere
        · split at hthere
          · obtain rfl := Option.some.inj hthere
            exact List.prefix_rfl
          · obtain rfl := Option.some.inj hthere
            exact List.prefix_rfl
          · exact (List.prefix_append _ _).trans (ih hrest hthere)
    · cases hthere

/-! ## Joined paths -/

namespace Path

/-- A path that goes on from a directory by names, so that whoever follows it from there, component
by component or in a file tree, stays in the directory. -/
structure StaysIn (directory path : String) : Prop where
  components : ∃ names : List String,
    components path = components directory ++ names.map .name ∧
    ∀ name ∈ names, IsName name
  resolve : ∀ start way, Path.components directory <+: way → way <+: Path.components path →
    resolve start (Path.components directory) <+: resolve start way
  advance : ∀ root here home, advance root here (steps directory) = .arrived home →
    ∀ count, (steps directory).length ≤ count →
      ∀ there ∈ (advance root here ((steps path).take count)).location?, home <+: there

variable {directory entry front path : String}

theorem isAbsolute_append (h : directory ≠ "") (more : String) :
    isAbsolute (directory ++ more) = isAbsolute directory := by
  obtain ⟨c, rest, hchars⟩ := List.exists_cons_of_ne_nil (mt String.toList_eq_nil_iff.mp h)
  simp [isAbsolute, Text.startsWith, hchars, List.isPrefixOf]

theorem endsWithChar_iff {c : Char} : Text.endsWithChar c path = true ↔
    ∃ front : String, path = front ++ .ofList [c] := by
  rw [Text.endsWithChar, beq_iff_eq, List.getLast?_eq_some_iff]
  constructor
  · rintro ⟨front, hchars⟩
    exact ⟨.ofList front, String.toList_inj.mp (by simp [hchars])⟩
  · rintro ⟨front, rfl⟩
    exact ⟨front.toList, by simp⟩

theorem exists_join_eq (hdirectory : directory ≠ "") (hentry : isAbsolute entry = false) :
    ∃ front, join directory entry = front ++ "/" ++ entry ∧
      (directory = front ∧ Text.endsWithChar '/' directory = false ∨ directory = front ++ "/") := by
  rw [join, hentry, if_neg Bool.false_ne_true]
  cases hslash : Text.endsWithChar '/' directory with
  | false =>
    have hempty : directory.isEmpty = false := by simpa using hdirectory
    rw [hempty, Bool.or_false, if_neg Bool.false_ne_true]
    exact ⟨directory, rfl, .inl ⟨rfl, rfl⟩⟩
  | true =>
    obtain ⟨front, hfront⟩ := endsWithChar_iff.mp hslash
    rw [Bool.or_true, if_pos rfl]
    exact ⟨front, congrArg (· ++ entry) hfront, .inr hfront⟩

theorem filterMap_ofPiece? {pieces : List String} (hup : ".." ∉ pieces) :
    pieces.filterMap Component.ofPiece? =
      (pieces.filter (!Component.isSkipped ·)).map .name := by
  induction pieces with
  | nil => rfl
  | cons piece rest ih =>
    obtain ⟨hpiece, hrest⟩ := not_or.mp (mt List.mem_cons.mpr hup)
    cases hskip : Component.isSkipped piece with
    | true => simp [Component.ofPiece?, hskip, ih hrest]
    | false => simp [Component.ofPiece?, hskip, Ne.symm hpiece, ih hrest]

theorem beginning_join (hdirectory : directory ≠ "") (hentry : isAbsolute entry = false) :
    beginning (join directory entry) = beginning directory := by
  obtain ⟨front, hjoin, hfront⟩ := exists_join_eq hdirectory hentry
  have habsolute : isAbsolute (join directory entry) = isAbsolute directory := by
    rcases hfront with ⟨rfl, _⟩ | rfl
    · rw [hjoin, String.append_assoc, isAbsolute_append hdirectory]
    · rw [hjoin, isAbsolute_append hdirectory]
  have hhead : (cutAt '/' (join directory entry)).head? = (cutAt '/' directory).head? := by
    rw [hjoin, Text.cutAt_slash_append, List.head?_append_of_ne_nil _ (Text.cutAt_ne_nil '/' front)]
    rcases hfront with ⟨rfl, _⟩ | rfl
    · rfl
    · rw [Text.cutAt_append_slash, List.head?_append_of_ne_nil _ (Text.cutAt_ne_nil '/' front)]
  rw [beginning, beginning, habsolute, hhead]

def names (path : String) : List String := (cutAt '/' path).filter (!Component.isSkipped ·)

theorem isName_of_mem_names {name : String} (hup : ".." ∉ cutAt '/' path) (h : name ∈ names path) :
    IsName name := by
  obtain ⟨hmem, hkept⟩ := List.mem_filter.mp h
  obtain ⟨hempty, hhere⟩ : name ≠ "" ∧ name ≠ "." := by simpa [Component.isSkipped] using hkept
  exact ⟨hempty, hhere, fun heq => hup (heq ▸ hmem), Text.not_mem_of_mem_cutAt hmem⟩

theorem components_join (hdirectory : directory ≠ "") (hentry : isAbsolute entry = false)
    (hup : ".." ∉ cutAt '/' entry) :
    components (join directory entry) = components directory ++ (names entry).map .name := by
  obtain ⟨front, hjoin, hfront⟩ := exists_join_eq hdirectory hentry
  have hcut : (cutAt '/' directory).filterMap Component.ofPiece? =
      (cutAt '/' front).filterMap Component.ofPiece? := by
    rcases hfront with ⟨rfl, _⟩ | rfl
    · rfl
    · rw [Text.cutAt_append_slash, List.filterMap_append]
      exact List.append_nil _
  rw [components, components, beginning_join hdirectory hentry, hcut, hjoin,
    Text.cutAt_slash_append, List.filterMap_append, filterMap_ofPiece? hup, names,
    List.append_assoc]

theorem resolve_names (start : Location) (names : List String) :
    resolve start (names.map .name) = start ++ names := by
  induction names generalizing start with
  | nil => exact (List.append_nil start).symm
  | cons name rest ih => exact (ih (start ++ [name])).trans (List.append_assoc _ _ _)

theorem exists_steps_join (hdirectory : directory ≠ "") (hentry : isAbsolute entry = false)
    (hup : ".." ∉ cutAt '/' entry) :
    ∃ front more, steps (join directory entry) = front ++ more ∧
      (steps directory = front ∨ steps directory = front ++ ["."]) ∧ ".." ∉ more := by
  obtain ⟨front, hjoin, hfront⟩ := exists_join_eq hdirectory hentry
  let last := if Text.endsWithChar '/' (join directory entry) then ["."] else []
  refine ⟨(cutAt '/' front).filter (· != ""), (cutAt '/' entry).filter (· != "") ++ last,
    ?_, ?_, ?_⟩
  · rw [steps, hjoin, Text.cutAt_slash_append, List.filter_append, List.append_assoc, ← hjoin]
  · rcases hfront with ⟨rfl, hslash⟩ | rfl
    · rw [steps, hslash]
      exact .inl (List.append_nil _)
    · have hslash : Text.endsWithChar '/' (front ++ "/") = true := endsWithChar_iff.mpr ⟨front, rfl⟩
      rw [steps, hslash, Text.cutAt_append_slash, List.filter_append]
      exact .inr (congrArg (· ++ ["."]) (List.append_nil _))
  · intro hmem
    rcases List.mem_append.mp hmem with hmem | hmem
    · exact hup (List.mem_filter.mp hmem).1
    · dsimp only [last] at hmem
      split at hmem
      · exact absurd (List.mem_singleton.mp hmem) (by decide)
      · cases hmem

theorem eq_of_advance_here {there : Location}
    (h : Storage.advance root there ["."] = .arrived home) : there = home := by
  rw [advance_cons] at h
  split at h
  · exact Progress.arrived.inj h
  · cases h

theorem advance_front {front : List String}
    (hsteps : steps directory = front ∨ steps directory = front ++ ["."])
    (h : Storage.advance root here (steps directory) = .arrived home) :
    Storage.advance root here front = .arrived home := by
  rcases hsteps with hsteps | hsteps
  · rwa [hsteps] at h
  · rw [hsteps, advance_append] at h
    cases hfront : Storage.advance root here front with
    | arrived there =>
      rw [hfront] at h
      rw [eq_of_advance_here h]
    | _ =>
      rw [hfront] at h
      cases h

theorem staysIn_join (hdirectory : directory ≠ "") (hentry : isAbsolute entry = false)
    (hup : ".." ∉ cutAt '/' entry) : StaysIn directory (join directory entry) := by
  have hcomponents := components_join hdirectory hentry hup
  refine ⟨⟨names entry, hcomponents, fun name => isName_of_mem_names hup⟩, ?_, ?_⟩
  · rintro start way ⟨taken, rfl⟩ hway
    rw [hcomponents, List.prefix_append_right_inj] at hway
    obtain ⟨shown, _, rfl⟩ := List.prefix_map_iff.mp hway
    rw [resolve, resolve, List.foldl_append]
    exact ⟨shown, (resolve_names _ shown).symm⟩
  · intro root here home hhome count hcount there hthere
    obtain ⟨front, more, hjoin, hsteps, hmore⟩ := exists_steps_join hdirectory hentry hup
    have hlength : front.length ≤ count := by
      rcases hsteps with hsteps | hsteps
      · rwa [hsteps] at hcount
      · rw [hsteps, List.length_append] at hcount
        omega
    rw [hjoin, List.take_append, List.take_of_length_le hlength, advance_append,
      advance_front hsteps hhome] at hthere
    exact prefix_of_advance (fun hmem => hmore (List.mem_of_mem_take hmem)) hthere

end Path

end NetworkPortal.Storage

import NetworkPortal.Route.Table
import NetworkPortal.Text.Percent

/-! # Routing

A path pattern is cut at its slashes into literal segments and parameters. A request path is cut
in the same way. A literal segment matches itself, letter for letter, and a parameter matches any
segment, though not an empty one at the end. Where a wholly literal pattern matches, it wins.
-/
namespace NetworkPortal.Route

inductive Segment where
  | literal (text : String)
  | parameter (name : String)
  deriving DecidableEq

abbrev Pattern := List Segment

/-- A segment that begins with a colon is a parameter. Colons elsewhere and asterisks are
malformed. -/
def Segment.ofText? (text : String) : Option Segment :=
  match text.toList with
  | ':' :: name =>
    if name.isEmpty || name.any (fun c => c = ':' || c = '*') then none
    else some (.parameter (.ofList name))
  | chars => if chars.any (fun c => c = ':' || c = '*') then none else some (.literal text)

/-- The segments of a path; nothing if it does not begin with a slash. -/
def segments? (path : String) : Option (List String) :=
  match Text.cutAt '/' path with
  | first :: rest => if first.isEmpty && !rest.isEmpty then some rest else none
  | [] => none

namespace Pattern

def ofPath? (path : String) : Option Pattern :=
  (segments? path).bind fun segments => segments.mapM Segment.ofText?

def isLiteral (pattern : Pattern) : Bool :=
  pattern.all fun segment => match segment with
    | .literal _ => true
    | .parameter _ => false

def overlaps : Pattern → Pattern → Bool
  | [], [] => true
  | .literal a :: rest, .literal b :: rest' => a == b && overlaps rest rest'
  | .parameter _ :: rest, .parameter _ :: rest' => overlaps rest rest'
  | _, _ => false

def match? : Pattern → List String → Option (List (String × String))
  | [], [] => some []
  | .literal text :: rest, raw :: more => if raw = text then match? rest more else none
  | [.parameter name], [raw] => if raw.isEmpty then none else some [(name, raw)]
  | .parameter name :: rest, raw :: more => (match? rest more).map ((name, raw) :: ·)
  | _, _ => none

end Pattern

inductive RouterFault where
  | malformed (path : String)
  | overlapping (path : String)
  deriving DecidableEq

abbrev Router (α : Type) := List (Pattern × α)

namespace Router

variable {α : Type}

def add (router : Router α) (path : String) (action : α) : Except RouterFault (Router α) :=
  match Pattern.ofPath? path with
  | none => .error (.malformed path)
  | some pattern =>
    if router.any fun (other, _) => pattern.overlaps other then .error (.overlapping path)
    else .ok (router ++ [(pattern, action)])

/-- The router of a list of paths, none of them malformed and no two of them for the same
requests. -/
def build (routes : List (String × α)) : Except RouterFault (Router α) :=
  routes.foldlM (fun router (path, action) => router.add path action) []

def matching (router : Router α) (segments : List String) :
    List (Pattern × α × List (String × String)) :=
  router.filterMap fun (pattern, action) =>
    (pattern.match? segments).map fun values => (pattern, action, values)

def dispatch? (router : Router α) (path : String) : Option (α × List (String × String)) :=
  (segments? path).bind fun segments =>
    let found := router.matching segments
    ((found.find? (·.1.isLiteral)).or found.head?).map (·.2)

end Router

/-- The decoded values of parameters, or the name of the first whose bytes are not UTF-8. -/
def decodeParameters : List (String × String) → Except String (List String)
  | [] => .ok []
  | (name, raw) :: rest =>
    match Text.Percent.decode? raw with
    | none => .error name
    | some value => (decodeParameters rest).map (value :: ·)

end NetworkPortal.Route

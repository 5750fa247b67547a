/-! # Requests and responses -/
namespace NetworkPortal.Http

structure Request where
  method : String
  /-- A path, with a query or a fragment after it, or a whole address. -/
  target : String
  headers : List (String × String)

def isSchemeChar (c : Char) : Bool :=
  c.isAlphanum || c == '+' || c == '-' || c == '.' || c == '~'

/-- What follows the host in a whole address. -/
def afterHost? (target : List Char) : Option (List Char) :=
  match target.dropWhile isSchemeChar with
  | ':' :: '/' :: '/' :: rest => some (rest.dropWhile fun c => c != '/' && c != '?' && c != '#')
  | _ => none

def beforeQuery (target : List Char) : List Char := target.takeWhile fun c => c != '?' && c != '#'

/-- The raw path of a request, before any question mark or number sign. A whole address without a
path stands for that of the root. -/
def Request.path (request : Request) : String :=
  let target := request.target.toList
  match afterHost? target with
  | some rest =>
    let path := beforeQuery rest
    if path.isEmpty then "/" else .ofList path
  | none => .ofList (beforeQuery target)

/-- The first value of a header, whose name is compared without regard to case. -/
def Request.header? (request : Request) (name : String) : Option String :=
  (request.headers.find? fun (key, _) => key.toList.map Char.toLower == name.toList).map (·.2)

structure Response where
  status : Nat
  headers : List (String × String)
  body : String
  deriving DecidableEq

structure Content where
  mediaType : String
  body : String
  deriving DecidableEq

namespace Content

def html (body : String) : Content := ⟨"text/html; charset=utf-8", body⟩

def json (body : String) : Content := ⟨"application/json", body⟩

def plain (body : String) : Content := ⟨"text/plain; charset=utf-8", body⟩

end Content

/-- A response with some content or none. The length of the body is announced also where the body
itself is left out. -/
def Response.ofContent (status : Nat) (content : Option Content) (extra : List (String × String))
    (withBody : Bool) : Response :=
  let body := (content.map Content.body).getD ""
  { status
    headers := (content.toList.map fun c => ("content-type", c.mediaType)) ++
      ("content-length", toString body.utf8ByteSize) :: extra
    body := if withBody then body else "" }

end NetworkPortal.Http

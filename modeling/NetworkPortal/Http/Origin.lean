import NetworkPortal.Http.Message

/-! # Access from other origins

Pages may be read from any origin unless origins are listed; then only from those. A listed text
that cannot be the value of a header is dropped, and the wildcard cannot be listed.
-/
namespace NetworkPortal.Http

inductive OriginPolicy where
  | any
  | listed (origins : List String)
  deriving DecidableEq

/-- Whether a text can be the value of a header: no control characters but the tab. -/
def isHeaderValue (text : String) : Bool :=
  text.toList.all fun c => (32 ≤ c.toNat && c.toNat != 127) || c = '\t'

namespace OriginPolicy

/-- The policy of a list of origins; nothing if the wildcard is among them. -/
def ofOrigins? (origins : List String) : Option OriginPolicy :=
  if origins.isEmpty then some .any
  else
    let usable := origins.filter isHeaderValue
    if "*" ∈ usable then none else some (.listed usable)

def allowed? (policy : OriginPolicy) (request : Request) : Option String :=
  match policy with
  | .any => some "*"
  | .listed origins => (request.header? "origin").filter (· ∈ origins)

def headers (policy : OriginPolicy) (request : Request) : List (String × String) :=
  ("vary", "origin, access-control-request-method, access-control-request-headers") ::
    ((policy.allowed? request).toList.map fun origin => ("access-control-allow-origin", origin))

def preflightHeaders : List (String × String) :=
  [("access-control-allow-methods", "GET,HEAD,OPTIONS"),
    ("access-control-allow-headers", "content-type,accept")]

end OriginPolicy

end NetworkPortal.Http

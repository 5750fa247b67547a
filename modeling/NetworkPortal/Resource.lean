import NetworkPortal.Field.Rendered
import NetworkPortal.Text.Uppercase

/-! # Resources

A resource is a JSON object whose members have been classified, in the order of the object. Its
keys fall into two tiers: the keys the backend itself needs, and all others. A table shows the
rows of one tier.
-/
namespace NetworkPortal

/-- Who a field is for: `basic` fields are the backend's own, `advanced` ones the user's. -/
inductive Tier where
  | basic
  | advanced
  deriving DecidableEq

namespace Tier

def systemKeys : List String := ["id", "url", "display", "slug", "notes_url"]

def ofKey (key : String) : Tier := if key ∈ systemKeys then .basic else .advanced

def name : Tier → String
  | .basic => "basic"
  | .advanced => "advanced"

end Tier

structure Resource where
  fields : List (String × Field)

structure Row where
  key : String
  label : String
  rendered : Rendered
  tier : Tier
  deriving DecidableEq

namespace Resource

def ofMembers (members : List (String × Json)) : Resource :=
  ⟨members.map fun (key, value) => (key, .ofJson value)⟩

def ofJson? (value : Json) : Option Resource := value.object?.map ofMembers

def get? (resource : Resource) (key : String) : Option Field := Keyed.get? key resource.fields

def scalar? (resource : Resource) (key : String) : Option String :=
  (resource.get? key).bind Field.scalar?

def name? (resource : Resource) : Option String := resource.scalar? "name"

def display? (resource : Resource) : Option String := resource.scalar? "display"

def slug? (resource : Resource) : Option String := resource.scalar? "slug"

def url? (resource : Resource) : Option String := resource.scalar? "url"

def created? (resource : Resource) : Option String := resource.scalar? "created"

def lastUpdated? (resource : Resource) : Option String := resource.scalar? "last_updated"

/-- The heading of the resource: its name, else its display text, else nothing. -/
def title (resource : Resource) : String :=
  (resource.name?.or resource.display?).getD ""

def rows (resource : Resource) (tier : Tier) : List Row :=
  (resource.fields.filter fun (key, _) => Tier.ofKey key = tier).map fun (key, field) =>
    ⟨key, Text.humanize key, field.render, tier⟩

end Resource

end NetworkPortal

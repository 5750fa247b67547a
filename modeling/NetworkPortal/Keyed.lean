/-! # Keyed lists

Values under text keys, in the order in which the keys first appeared.
-/
namespace NetworkPortal.Keyed

variable {α : Type}

def get? (key : String) : List (String × α) → Option α
  | [] => none
  | (k, value) :: rest => if k = key then some value else get? key rest

/-- Puts a value under a key: in the place of the value it had, else at the end. -/
def put (key : String) (value : α) : List (String × α) → List (String × α)
  | [] => [(key, value)]
  | (k, old) :: rest => if k = key then (k, value) :: rest else (k, old) :: put key value rest

/-- The pairs in order, a later value taking the place of an earlier one under its key. -/
def ofList (pairs : List (String × α)) : List (String × α) :=
  pairs.foldl (fun entries pair => put pair.1 pair.2 entries) []

end NetworkPortal.Keyed

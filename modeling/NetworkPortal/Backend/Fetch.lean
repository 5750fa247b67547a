import NetworkPortal.Error
import NetworkPortal.Json.Reader

/-! # Asking the backend

A backend answers every address with a body or a refusal. A `Fetch` is a value that depends on the
answers, together with the addresses that are asked for to get it.
-/
namespace NetworkPortal

inductive Reply where
  | body (text : String)
  | refused (status : Nat)
  deriving DecidableEq

abbrev Backend := String → Reply

def Fetch (α : Type) : Type := Backend → α × List String

namespace Fetch

variable {α β : Type}

def pure (value : α) : Fetch α := fun _ => (value, [])

def bind (first : Fetch α) (next : α → Fetch β) : Fetch β := fun backend =>
  let (value, asked) := first backend
  let (result, more) := next value backend
  (result, asked ++ more)

instance : Monad Fetch where
  pure := pure
  bind := bind

def text (url : String) : Fetch (Except Error String) := fun backend =>
  (match backend url with
    | .body text => .ok text
    | .refused status => .error (.fetch url status), [url])

def readJson (text : String) : Except Error Json :=
  match Json.read? text with
  | some value => .ok value
  | none => .error .serialization

def json (url : String) : Fetch (Except Error Json) := do
  return (← text url).bind readJson

def each (fetch : α → Fetch β) : List α → Fetch (List β)
  | [] => return []
  | a :: rest => do
    let b ← fetch a
    let more ← each fetch rest
    return b :: more

end Fetch

end NetworkPortal

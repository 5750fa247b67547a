import NetworkPortal.Backend.Fragment

/-! # What a fetch gives and what it asks for

The value of a fetch and the addresses it asks for are read off its parts, and a single answer of
the backend decides the value at an address.
-/
namespace NetworkPortal.Fetch

variable {α β : Type} {backend backend' : Backend}

/-- What a fetch gives with the answers of a backend. -/
def value (fetch : Fetch α) (backend : Backend) : α := (fetch backend).1

@[simp] theorem value_pure (a : α) : (Pure.pure a : Fetch α).value backend = a := rfl

@[simp] theorem value_bind (fetch : Fetch α) (next : α → Fetch β) :
    (fetch >>= next).value backend = (next (fetch.value backend)).value backend := rfl

theorem value_text_congr {url : String} (h : backend url = backend' url) :
    (text url).value backend = (text url).value backend' := by
  simp only [value, text, h]

theorem value_json_congr {url : String} (h : backend url = backend' url) :
    (json url).value backend = (json url).value backend' := by
  rw [json, value_bind, value_bind, value_text_congr h]
  rfl

/-- The addresses that a fetch asks for, in their order, with the answers of a backend. -/
def asked (fetch : Fetch α) (backend : Backend) : List String := (fetch backend).2

@[simp] theorem asked_pure (a : α) : (Pure.pure a : Fetch α).asked backend = [] := rfl

@[simp] theorem asked_bind (fetch : Fetch α) (next : α → Fetch β) :
    (fetch >>= next).asked backend =
      fetch.asked backend ++ (next (fetch.value backend)).asked backend := rfl

@[simp] theorem asked_json (url : String) : (json url).asked backend = [url] := rfl

@[simp] theorem asked_markup (url : String) : (markup url).asked backend = [url] := rfl

theorem asked_each (fetch : α → Fetch β) (as : List α) :
    (each fetch as).asked backend = as.flatMap fun a => (fetch a).asked backend := by
  induction as with
  | nil => rfl
  | cons a rest ih =>
    simp only [each, asked_bind, asked_pure, ih, List.append_nil, List.flatMap_cons]

end NetworkPortal.Fetch

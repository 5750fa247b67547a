import NetworkPortal.Proofs.Backend.Fetch

/-! # A fetch depends on what it asks for

Two backends that give the same answers to all that a fetch asks for give it the same value, and make
it ask for the same. This holds of a single address, and of fetches put together.
-/
namespace NetworkPortal.Fetch

variable {α β : Type} {backend backend' : Backend}

/-- The two backends cannot be told apart by what a fetch asks the first for. -/
def SameAnswers (fetch : Fetch α) (backend backend' : Backend) : Prop :=
  ∀ url ∈ fetch.asked backend, backend url = backend' url

def IsLocal (fetch : Fetch α) : Prop :=
  ∀ backend backend', fetch.SameAnswers backend backend' →
    fetch.value backend = fetch.value backend' ∧ fetch.asked backend = fetch.asked backend'

theorem isLocal_pure (a : α) : IsLocal (Pure.pure a : Fetch α) :=
  fun _ _ _ => ⟨rfl, rfl⟩

theorem isLocal_text (url : String) : (text url).IsLocal := by
  intro backend backend' h
  exact ⟨value_text_congr (h url List.mem_cons_self), rfl⟩

theorem IsLocal.bind {first : Fetch α} {next : α → Fetch β} (hfirst : first.IsLocal)
    (hnext : ∀ a, (next a).IsLocal) : (first >>= next).IsLocal := by
  intro backend backend' h
  obtain ⟨hvalue, hasked⟩ := hfirst backend backend' fun url hurl =>
    h url (List.mem_append_left _ hurl)
  obtain ⟨hvalue', hasked'⟩ := hnext (first.value backend) backend backend' fun url hurl =>
    h url (List.mem_append_right _ hurl)
  rw [value_bind, value_bind, asked_bind, asked_bind, ← hvalue, ← hasked]
  exact ⟨hvalue', by rw [hasked']⟩

theorem isLocal_json (url : String) : (json url).IsLocal :=
  (isLocal_text url).bind fun _ => isLocal_pure _

theorem isLocal_markup (url : String) : (markup url).IsLocal :=
  (isLocal_text url).bind fun _ => isLocal_pure _

theorem isLocal_each {fetch : α → Fetch β} (h : ∀ a, (fetch a).IsLocal) (as : List α) :
    (each fetch as).IsLocal := by
  induction as with
  | nil => exact isLocal_pure []
  | cons a rest ih => exact (h a).bind fun b => ih.bind fun more => isLocal_pure (b :: more)

end NetworkPortal.Fetch

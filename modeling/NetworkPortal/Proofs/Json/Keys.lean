import NetworkPortal.Json.Reader
import NetworkPortal.Proofs.Keyed

/-! # Keys of objects

In a value that was read every object has each of its keys once, at whatever depth it lies.
-/
namespace NetworkPortal.Json

/-- Every object in the value has each of its keys once. -/
inductive DistinctKeys : Json → Prop
  | null : DistinctKeys .null
  | boolean (value : Bool) : DistinctKeys (.boolean value)
  | number (value : Number) : DistinctKeys (.number value)
  | string (text : String) : DistinctKeys (.string text)
  | array {items : List Json} (h : ∀ item ∈ items, DistinctKeys item) : DistinctKeys (.array items)
  | object {members : List (String × Json)} (hkeys : (members.map Prod.fst).Nodup)
      (h : ∀ member ∈ members, DistinctKeys member.2) : DistinctKeys (.object members)

mutual

theorem distinctKeys_of_ofSyntax? {room : ℕ} {tree : Syntax} {value : Json}
    (h : ofSyntax? room tree = some value) : DistinctKeys value := by
  match tree, room with
  | .null, _ => cases h; exact .null
  | .boolean _, _ => cases h; exact .boolean _
  | .number _, _ =>
    obtain ⟨number, _, rfl⟩ := Option.map_eq_some_iff.mp h
    exact .number number
  | .string _, _ =>
    obtain ⟨text, _, rfl⟩ := Option.map_eq_some_iff.mp h
    exact .string text
  | .array items, room + 2 =>
    obtain ⟨values, hvalues, rfl⟩ := Option.map_eq_some_iff.mp h
    exact .array (distinctKeys_of_items? hvalues)
  | .object members, room + 2 =>
    obtain ⟨pairs, hpairs, rfl⟩ := Option.map_eq_some_iff.mp h
    refine .object (Keyed.nodup_ofList pairs) fun member hmember => ?_
    exact distinctKeys_of_members? hpairs member (Keyed.mem_of_mem_ofList hmember)

theorem distinctKeys_of_items? {room : ℕ} {items : List Syntax} {values : List Json}
    (h : items? room items = some values) : ∀ value ∈ values, DistinctKeys value := by
  match items with
  | [] => cases h; simp
  | item :: rest =>
    rw [items?] at h
    split at h
    · next value more hitem hrest =>
      cases h
      exact List.forall_mem_cons.mpr ⟨distinctKeys_of_ofSyntax? hitem, distinctKeys_of_items? hrest⟩
    · cases h

theorem distinctKeys_of_members? {room : ℕ} {members : List (List Piece × Syntax)}
    {pairs : List (String × Json)} (h : members? room members = some pairs) :
    ∀ pair ∈ pairs, DistinctKeys pair.2 := by
  match members with
  | [] => cases h; simp
  | (key, item) :: rest =>
    rw [members?] at h
    split at h
    · next text value more _ hitem hrest =>
      cases h
      exact List.forall_mem_cons.mpr
        ⟨distinctKeys_of_ofSyntax? hitem, distinctKeys_of_members? hrest⟩
    · cases h

end

theorem distinctKeys_of_read? {text : String} {value : Json} (h : read? text = some value) :
    DistinctKeys value := by
  obtain ⟨tree, _, hvalue⟩ := Option.bind_eq_some_iff.mp h
  exact distinctKeys_of_ofSyntax? hvalue

theorem DistinctKeys.nodup {members : List (String × Json)}
    (h : (Json.object members).DistinctKeys) : (members.map Prod.fst).Nodup := by
  cases h with
  | object hkeys _ => exact hkeys

theorem DistinctKeys.of_get? {value inner : Json} {key : String} (h : value.DistinctKeys)
    (hinner : value.get? key = some inner) : inner.DistinctKeys := by
  cases h with
  | object _ h => exact h _ (Keyed.mem_of_get?_eq_some hinner)
  | _ => cases hinner

end NetworkPortal.Json

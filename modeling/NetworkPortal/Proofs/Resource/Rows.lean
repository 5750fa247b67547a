import Mathlib.Logic.Basic
import NetworkPortal.Proofs.Json.Keys
import NetworkPortal.Resource

/-! # Rows of the two tiers

The keys of the rows of a tier are the keys of the resource that belong to the tier, in their order.
So the tiers share out the members of a JSON object between them, and an object that was read has
each key once.
-/
namespace NetworkPortal

theorem Json.nodup_keys_of_read? {text : String} {members : List (String × Json)}
    (h : read? text = some (.object members)) : (members.map Prod.fst).Nodup :=
  (distinctKeys_of_read? h).nodup

theorem Tier.ofKey_eq_basic_iff {key : String} : ofKey key = .basic ↔ key ∈ systemKeys := by
  rw [ofKey]
  by_cases hkey : key ∈ systemKeys
  · rw [if_pos hkey]
    exact iff_of_true rfl hkey
  · rw [if_neg hkey]
    exact iff_of_false (by decide) hkey

namespace Resource

variable {members : List (String × Json)} {tier : Tier}

theorem map_key_fields (members : List (String × Json)) :
    (ofMembers members).fields.map Prod.fst = members.map Prod.fst := by
  rw [ofMembers, List.map_map]
  rfl

theorem map_key_rows (members : List (String × Json)) (tier : Tier) :
    ((ofMembers members).rows tier).map Row.key =
      (members.map Prod.fst).filter (Tier.ofKey · = tier) := by
  rw [← map_key_fields, List.filter_map, rows, List.map_map]
  rfl

theorem mem_key_rows_iff {key : String} :
    key ∈ ((ofMembers members).rows tier).map Row.key ↔
      key ∈ members.map Prod.fst ∧ Tier.ofKey key = tier := by
  rw [map_key_rows, List.mem_filter, decide_eq_true_iff]

theorem exists_member_of_mem_rows {row : Row} (h : row ∈ (ofMembers members).rows tier) :
    ∃ value, (row.key, value) ∈ members ∧
      row = ⟨row.key, Text.humanize row.key, (Field.ofJson value).render, tier⟩ := by
  obtain ⟨⟨key, field⟩, hfield, rfl⟩ := List.mem_map.mp h
  obtain ⟨⟨key', value⟩, hmember, hpair⟩ := List.mem_map.mp (List.mem_filter.mp hfield).1
  obtain ⟨rfl, rfl⟩ := Prod.mk.inj hpair
  exact ⟨value, hmember, rfl⟩

/-- The rows of the tiers show the members of an object: each member in one of the tiers, in the
order of the object, under its label and with its value. -/
structure ShareOut (members : List (String × Json)) (rows : Tier → List Row) : Prop where
  nodup : ∀ tier, ((rows tier).map Row.key).Nodup
  disjoint : ((rows .advanced).map Row.key).Disjoint ((rows .basic).map Row.key)
  complete : ∀ key ∈ members.map Prod.fst,
    Xor (key ∈ (rows .advanced).map Row.key) (key ∈ (rows .basic).map Row.key)
  ordered : ∀ tier, ((rows tier).map Row.key).Sublist (members.map Prod.fst)
  basic_iff : ∀ key, key ∈ (rows .basic).map Row.key ↔
    key ∈ members.map Prod.fst ∧ key ∈ ["id", "url", "display", "slug", "notes_url"]
  shown : ∀ tier, ∀ row ∈ rows tier, row.tier = tier ∧ row.label = Text.humanize row.key ∧
    ∃ value, Keyed.get? row.key members = some value ∧ row.rendered = (Field.ofJson value).render

theorem shareOut_rows (hkeys : (members.map Prod.fst).Nodup) :
    ShareOut members (ofMembers members).rows where
  nodup tier := by
    rw [map_key_rows]
    exact hkeys.filter _
  disjoint key hadvanced hbasic := by
    have hne := (mem_key_rows_iff.mp hadvanced).2.symm.trans (mem_key_rows_iff.mp hbasic).2
    cases hne
  complete key hkey := by
    simp only [mem_key_rows_iff, hkey, true_and]
    cases Tier.ofKey key with
    | basic => exact Or.inr ⟨rfl, by decide⟩
    | advanced => exact Or.inl ⟨rfl, by decide⟩
  ordered tier := by
    rw [map_key_rows]
    exact List.filter_sublist
  basic_iff key := by
    rw [mem_key_rows_iff, Tier.ofKey_eq_basic_iff, Tier.systemKeys]
  shown tier row hrow := by
    obtain ⟨value, hmember, heq⟩ := exists_member_of_mem_rows hrow
    rw [heq]
    exact ⟨rfl, rfl, value, Keyed.get?_of_mem hkeys hmember, rfl⟩

end Resource

end NetworkPortal

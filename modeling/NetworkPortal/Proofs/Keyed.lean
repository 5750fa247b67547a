import Mathlib.Data.List.Nodup
import NetworkPortal.Keyed

/-! # Looking up in keyed lists -/
namespace NetworkPortal.Keyed

variable {α β : Type} {key key' : String} {entries : List (String × α)}

theorem get?_map_snd (change : String → α → β) :
    get? key (entries.map fun (key, value) => (key, change key value)) =
      (get? key entries).map (change key) := by
  induction entries with
  | nil => rfl
  | cons entry rest ih =>
    obtain ⟨k, value⟩ := entry
    rw [List.map_cons, get?, get?]
    by_cases hkey : k = key
    · subst hkey
      rw [if_pos rfl, if_pos rfl, Option.map_some]
    · rw [if_neg hkey, if_neg hkey, ih]

theorem get?_put_of_ne (value : α) (h : key ≠ key') :
    get? key (put key' value entries) = get? key entries := by
  induction entries with
  | nil => exact if_neg h.symm
  | cons entry rest ih =>
    obtain ⟨k, old⟩ := entry
    rw [put]
    split
    · next hkey => rw [get?, get?, hkey, if_neg h.symm, if_neg h.symm]
    · rw [get?, get?, ih]

theorem get?_filter_of_ne (h : key ≠ key') :
    get? key (entries.filter (·.1 != key')) = get? key entries := by
  induction entries with
  | nil => rfl
  | cons entry rest ih =>
    obtain ⟨k, value⟩ := entry
    by_cases hkey : k = key'
    · rw [List.filter_cons_of_neg (by simpa using hkey), ih, get?, hkey, if_neg h.symm]
    · rw [List.filter_cons_of_pos (by simpa using hkey), get?, get?, ih]

theorem get?_filter_self : get? key (entries.filter (·.1 != key)) = none := by
  induction entries with
  | nil => rfl
  | cons entry rest ih =>
    obtain ⟨k, value⟩ := entry
    by_cases hkey : k = key
    · rw [List.filter_cons_of_neg (by simpa using hkey), ih]
    · rw [List.filter_cons_of_pos (by simpa using hkey), get?, if_neg hkey, ih]

theorem get?_append (front back : List (String × α)) :
    get? key (front ++ back) = (get? key front).or (get? key back) := by
  induction front with
  | nil => rfl
  | cons entry rest ih =>
    rw [List.cons_append, get?, get?]
    split
    · rfl
    · exact ih

theorem put_append (value : α) {front : List (String × α)} (h : get? key front = none)
    (back : List (String × α)) : put key value (front ++ back) = front ++ put key value back := by
  induction front with
  | nil => rfl
  | cons entry rest ih =>
    rw [get?] at h
    split at h
    · cases h
    · next hkey => rw [List.cons_append, put, if_neg hkey, ih h, List.cons_append]

theorem put_of_get?_eq_none (value : α) (h : get? key entries = none) :
    put key value entries = entries ++ [(key, value)] := by
  have happend := put_append value h []
  rwa [List.append_nil] at happend

theorem isSome_get?_iff : (get? key entries).isSome = true ↔ key ∈ entries.map Prod.fst := by
  induction entries with
  | nil => simp [get?]
  | cons entry rest ih =>
    obtain ⟨k, value⟩ := entry
    rw [get?, List.map_cons, List.mem_cons]
    by_cases hkey : k = key
    · simp [hkey]
    · rw [if_neg hkey, ih]
      simp [Ne.symm hkey]

theorem mem_of_get?_eq_some {value : α} (h : get? key entries = some value) :
    (key, value) ∈ entries := by
  induction entries with
  | nil => cases h
  | cons entry rest ih =>
    obtain ⟨k, first⟩ := entry
    rw [get?] at h
    split at h
    · next hkey =>
      obtain rfl := Option.some.inj h
      exact hkey ▸ List.mem_cons_self
    · exact List.mem_cons_of_mem _ (ih h)

theorem mem_of_mem_put {value : α} {entry : String × α} (h : entry ∈ put key value entries) :
    entry = (key, value) ∨ entry ∈ entries := by
  induction entries with
  | nil => exact .inl (List.mem_singleton.mp h)
  | cons first rest ih =>
    obtain ⟨k, old⟩ := first
    rw [put] at h
    split at h
    · next hkey =>
      subst hkey
      exact (List.mem_cons.mp h).imp_right (List.mem_cons_of_mem _)
    · rcases List.mem_cons.mp h with rfl | h
      · exact .inr List.mem_cons_self
      · exact (ih h).imp_right (List.mem_cons_of_mem _)

theorem mem_of_mem_foldl_put {pairs : List (String × α)} {entry : String × α}
    (h : entry ∈ pairs.foldl (fun entries pair => put pair.1 pair.2 entries) entries) :
    entry ∈ entries ∨ entry ∈ pairs := by
  induction pairs generalizing entries with
  | nil => exact .inl h
  | cons pair rest ih =>
    rcases ih h with h | h
    · rcases mem_of_mem_put h with rfl | h
      · exact .inr List.mem_cons_self
      · exact .inl h
    · exact .inr (List.mem_cons_of_mem _ h)

theorem mem_of_mem_ofList {pairs : List (String × α)} {entry : String × α}
    (h : entry ∈ ofList pairs) : entry ∈ pairs :=
  (mem_of_mem_foldl_put h).resolve_left List.not_mem_nil

/-! ## Keys of their own -/

theorem get?_of_mem {value : α} (hkeys : (entries.map Prod.fst).Nodup)
    (hmem : (key, value) ∈ entries) : get? key entries = some value := by
  induction entries with
  | nil => cases hmem
  | cons entry rest ih =>
    obtain ⟨k, other⟩ := entry
    rw [List.map_cons, List.nodup_cons] at hkeys
    obtain ⟨habsent, hrest⟩ := hkeys
    rcases List.mem_cons.mp hmem with heq | hmem
    · obtain ⟨rfl, rfl⟩ := Prod.mk.inj heq
      exact if_pos rfl
    · have hne : k ≠ key := by
        rintro rfl
        exact habsent (List.mem_map.mpr ⟨_, hmem, rfl⟩)
      rw [get?, if_neg hne]
      exact ih hrest hmem

theorem map_fst_put (key : String) (value : α) (entries : List (String × α)) :
    (put key value entries).map Prod.fst =
      if key ∈ entries.map Prod.fst then entries.map Prod.fst
      else entries.map Prod.fst ++ [key] := by
  induction entries with
  | nil => rfl
  | cons entry rest ih =>
    obtain ⟨k, old⟩ := entry
    rw [put]
    by_cases hkey : k = key
    · simp [hkey]
    · by_cases hmem : key ∈ rest.map Prod.fst
      · simp only [if_neg hkey, List.map_cons, ih, List.mem_cons, hmem, or_true, if_true]
      · simp only [if_neg hkey, List.map_cons, ih, List.mem_cons, hmem, or_false,
          Ne.symm hkey, if_false, List.cons_append]

theorem nodup_put (value : α) (hkeys : (entries.map Prod.fst).Nodup) :
    ((put key value entries).map Prod.fst).Nodup := by
  rw [map_fst_put]
  split
  · exact hkeys
  · next hmem =>
    rw [← List.concat_eq_append]
    exact hkeys.concat hmem

theorem nodup_ofList (pairs : List (String × α)) : ((ofList pairs).map Prod.fst).Nodup := by
  have hfold (entries : List (String × α)) (hkeys : (entries.map Prod.fst).Nodup) :
      ((pairs.foldl (fun entries pair => put pair.1 pair.2 entries) entries).map Prod.fst).Nodup := by
    induction pairs generalizing entries with
    | nil => exact hkeys
    | cons pair rest ih => exact ih _ (nodup_put pair.2 hkeys)
  exact hfold [] List.nodup_nil

end NetworkPortal.Keyed

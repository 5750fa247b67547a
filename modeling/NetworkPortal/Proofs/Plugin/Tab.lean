import Mathlib.Data.List.Nodup
import Mathlib.Data.List.Perm.Subperm
import Mathlib.Logic.Function.Basic
import NetworkPortal.Plugin.Tab

/-! # Keys of tabs

The spellings of a key are pairwise different, so among one more of them than there are taken keys
one is free. The tabs of a document therefore have keys of their own.
-/
namespace NetworkPortal.Plugin.Tab

theorem toString_injective : Function.Injective (toString : Nat → String) := by
  intro m n h
  have hdigits : Nat.toDigits 10 m = Nat.toDigits 10 n := by
    simpa only [Nat.toString_eq_repr, Nat.toList_repr] using congrArg String.toList h
  have hread := congrArg (Nat.ofDigitChars 10 · 0) hdigits
  simpa using hread

theorem spelling_zero (key : String) : spelling key 0 = key := if_pos rfl

theorem spelling_of_pos (key : String) {n : Nat} (h : 0 < n) :
    spelling key n = key ++ ("-" ++ toString (n + 1)) := by
  rw [spelling, if_neg (by omega), String.append_assoc]

theorem spelling_ne_key (key : String) {n : Nat} (h : 0 < n) : spelling key n ≠ key := by
  intro heq
  have hlength := congrArg (fun text => text.toList.length) heq
  have hdash : "-".toList.length = 1 := by decide
  simp only [spelling_of_pos key h, String.toList_append, List.length_append, hdash] at hlength
  omega

theorem spelling_injective (key : String) : Function.Injective (spelling key) := by
  intro m n h
  rcases Nat.eq_zero_or_pos m with rfl | hm
  · rcases Nat.eq_zero_or_pos n with rfl | hn
    · rfl
    · rw [spelling_zero] at h
      exact absurd h.symm (spelling_ne_key key hn)
  · rcases Nat.eq_zero_or_pos n with rfl | hn
    · rw [spelling_zero] at h
      exact absurd h (spelling_ne_key key hm)
    · rw [spelling_of_pos key hm, spelling_of_pos key hn, String.append_right_inj,
        String.append_right_inj] at h
      have hnumber := toString_injective h
      omega

theorem firstFree_eq (taken : List String) (key : String) (n tries : Nat) :
    ∃ m, n ≤ m ∧ m ≤ n + tries ∧ firstFree taken key n tries = spelling key m ∧
      (∀ i, n ≤ i → i < m → spelling key i ∈ taken) ∧
      (m < n + tries → spelling key m ∉ taken) := by
  induction tries generalizing n with
  | zero => exact ⟨n, Nat.le_refl n, Nat.le_refl n, rfl, fun i _ _ => by omega, fun _ => by omega⟩
  | succ tries ih =>
    rw [firstFree]
    by_cases hmem : spelling key n ∈ taken
    · rw [if_pos hmem]
      obtain ⟨m, hle, hbound, heq, hbefore, hfree⟩ := ih (n + 1)
      refine ⟨m, by omega, by omega, heq, ?_, fun hm => hfree (by omega)⟩
      intro i hi him
      rcases Nat.eq_or_lt_of_le hi with rfl | hlt
      · exact hmem
      · exact hbefore i hlt him
    · rw [if_neg hmem]
      exact ⟨n, Nat.le_refl n, by omega, rfl, fun i _ _ => by omega, fun _ => hmem⟩

theorem exists_spelling_not_mem (taken : List String) (key : String) :
    ∃ i ≤ taken.length, spelling key i ∉ taken := by
  by_contra hall
  push Not at hall
  have hnodup : ((List.range (taken.length + 1)).map (spelling key)).Nodup :=
    List.nodup_range.map (spelling_injective key)
  have hsubset : (List.range (taken.length + 1)).map (spelling key) ⊆ taken := by
    intro text htext
    obtain ⟨i, hi, rfl⟩ := List.mem_map.mp htext
    exact hall i (by have := List.mem_range.mp hi; omega)
  have hlength := (hnodup.subperm hsubset).length_le
  rw [List.length_map, List.length_range] at hlength
  omega

/-- A fresh key is the first spelling that is not taken, found after as many tries as there are
taken keys at most. -/
theorem freshKey_eq (taken : List String) (key : String) :
    ∃ n ≤ taken.length, freshKey taken key = spelling key n ∧ spelling key n ∉ taken ∧
      ∀ i < n, spelling key i ∈ taken := by
  obtain ⟨n, _, hbound, heq, hbefore, hfree⟩ := firstFree_eq taken key 0 taken.length
  rw [Nat.zero_add] at hbound hfree
  refine ⟨n, hbound, heq, ?_, fun i hi => hbefore i (Nat.zero_le i) hi⟩
  rcases Nat.lt_or_eq_of_le hbound with hlt | rfl
  · exact hfree hlt
  · -- All spellings before the last are taken, so the last is the free one.
    obtain ⟨i, hi, hnot⟩ := exists_spelling_not_mem taken key
    rcases Nat.lt_or_eq_of_le hi with hlt | rfl
    · exact absurd (hbefore i (Nat.zero_le i) hlt) hnot
    · exact hnot

theorem freshKey_not_mem (taken : List String) (key : String) : freshKey taken key ∉ taken := by
  obtain ⟨n, _, heq, hnot, _⟩ := freshKey_eq taken key
  rw [heq]
  exact hnot

theorem nodup_collect (taken : List String) (candidates : List (String × Json)) :
    ((collect taken candidates).map key).Nodup ∧
      ∀ name ∈ (collect taken candidates).map key, name ∉ taken := by
  induction candidates generalizing taken with
  | nil => exact ⟨List.nodup_nil, fun _ h => absurd h List.not_mem_nil⟩
  | cons candidate rest ih =>
    obtain ⟨name, tab⟩ := candidate
    rw [collect]
    cases titleAndUrl? tab with
    | none => exact ih taken
    | some found =>
      obtain ⟨hnodup, hfresh⟩ := ih (freshKey taken name :: taken)
      have hnot : freshKey taken name ∉
          (collect (freshKey taken name :: taken) rest).map key :=
        fun hmem => hfresh _ hmem List.mem_cons_self
      refine ⟨List.nodup_cons.mpr ⟨hnot, hnodup⟩, ?_⟩
      refine List.forall_mem_cons.mpr ⟨freshKey_not_mem taken name, fun other hother => ?_⟩
      exact fun hmem => hfresh other hother (List.mem_cons_of_mem _ hmem)

theorem nodup_ofDocument (document : Json) : ((ofDocument document).map key).Nodup :=
  (nodup_collect [] (candidates document)).1

end NetworkPortal.Plugin.Tab

import Mathlib.Data.List.Basic
import NetworkPortal.Text.Uppercase

/-! # Upper case is final

What a character becomes in upper case stays as it is when put in upper case again, also where one
character becomes several. No character but the underscore becomes one.
-/
namespace NetworkPortal.Text

namespace Uppercase

variable {code n : ℕ} {run : Run}

def Run.imageLast (run : Run) : ℕ := run.image + (run.last - run.first)

def Run.images (run : Run) : List ℕ :=
  List.range' run.image ((run.last - run.first) / run.stride + 1) run.stride

def Run.isOutside (run : Run) (first last : ℕ) : Bool :=
  last.blt run.first || run.last.blt first

/-! ## What the table holds -/

/-- No run is sent to codes that are sent on. Most runs are told apart by their ends. -/
theorem images_fixed_by_runs :
    (runs.all fun run =>
      (expansions.all fun entry => entry.1.blt run.image || run.imageLast.blt entry.1) &&
        runs.all fun next => next.isOutside run.image run.imageLast ||
          run.images.all fun n => (next.imageOf? n).isNone) = true := by
  decide +kernel

theorem expansions_fixed_by_runs :
    (expansions.all fun entry => entry.2.all fun n =>
      (expansions.all fun other => !n.beq other.1) &&
        runs.all fun run => run.isOutside n n || (run.imageOf? n).isNone) = true := by
  decide +kernel

theorem underscore_not_reached :
    (runs.all fun run => Nat.blt 95 run.image || run.imageLast.blt 95) = true ∧
      (expansions.all fun entry => entry.2.all fun n => !n.beq 95) = true := by
  decide +kernel

/-! ## Single codes -/

theorem Run.mem_images_of_imageOf? (h : run.imageOf? code = some n) : n ∈ run.images := by
  rw [imageOf?] at h
  split at h
  · next hcode =>
    simp only [Bool.and_eq_true, decide_eq_true_eq, beq_iff_eq] at hcode
    obtain ⟨⟨hfirst, hlast⟩, hstride⟩ := hcode
    obtain rfl := Option.some.inj h
    refine List.mem_range'.mpr ⟨(code - run.first) / run.stride, ?_, ?_⟩
    · exact Nat.lt_succ_of_le (Nat.div_le_div_right (Nat.sub_le_sub_right hlast run.first))
    · rw [Nat.mul_div_cancel' (Nat.dvd_of_mod_eq_zero hstride)]
  · cases h

theorem Run.mem_images_bounds (h : n ∈ run.images) : run.image ≤ n ∧ n ≤ run.imageLast := by
  obtain ⟨i, hi, rfl⟩ := List.mem_range'.mp h
  have hle : run.stride * i ≤ run.last - run.first :=
    Nat.le_trans (Nat.mul_le_mul_left _ (Nat.le_of_lt_succ hi)) (Nat.mul_div_le _ _)
  exact ⟨Nat.le_add_right _ _, Nat.add_le_add_left hle _⟩

theorem Run.imageOf?_of_isOutside {first last : ℕ} (h : run.isOutside first last = true)
    (hfirst : first ≤ n) (hlast : n ≤ last) : run.imageOf? n = none := by
  rw [isOutside, Bool.or_eq_true, Nat.blt_eq, Nat.blt_eq] at h
  rw [imageOf?, if_neg]
  simp only [Bool.and_eq_true, decide_eq_true_eq, not_and]
  omega

theorem codes_eq_self (hexpansions : ∀ entry ∈ expansions, n ≠ entry.1)
    (hruns : ∀ run ∈ runs, run.imageOf? n = none) : codes n = [n] := by
  have hlookup : expansions.lookup n = none := by
    rw [List.lookup_eq_none_iff]
    intro entry hentry
    exact bne_iff_ne.mpr (hexpansions entry hentry)
  have hfound : runs.findSome? (·.imageOf? n) = none := List.findSome?_eq_none_iff.mpr hruns
  simp only [codes, hlookup, hfound, Option.getD_none]

theorem codes_of_mem_images (hrun : run ∈ runs) (h : n ∈ run.images) : codes n = [n] := by
  obtain ⟨hfirst, hlast⟩ := Run.mem_images_bounds h
  obtain ⟨hexpansions, hruns⟩ :=
    Bool.and_eq_true_iff.mp (List.all_eq_true.mp images_fixed_by_runs run hrun)
  apply codes_eq_self
  · intro entry hentry
    have hapart := List.all_eq_true.mp hexpansions entry hentry
    rw [Bool.or_eq_true, Nat.blt_eq, Nat.blt_eq] at hapart
    omega
  · intro next hnext
    rcases Bool.or_eq_true_iff.mp (List.all_eq_true.mp hruns next hnext) with houtside | hnone
    · exact Run.imageOf?_of_isOutside houtside hfirst hlast
    · exact Option.isNone_iff_eq_none.mp (List.all_eq_true.mp hnone n h)

theorem codes_of_mem_expansion {entry : ℕ × List ℕ} (hentry : entry ∈ expansions)
    (h : n ∈ entry.2) : codes n = [n] := by
  have hfixed := List.all_eq_true.mp (List.all_eq_true.mp expansions_fixed_by_runs entry hentry) n h
  obtain ⟨hexpansions, hruns⟩ := Bool.and_eq_true_iff.mp hfixed
  apply codes_eq_self
  · intro other hother
    have hne := List.all_eq_true.mp hexpansions other hother
    rintro rfl
    simp at hne
  · intro run hrun
    rcases Bool.or_eq_true_iff.mp (List.all_eq_true.mp hruns run hrun) with houtside | hnone
    · exact Run.imageOf?_of_isOutside houtside (Nat.le_refl n) (Nat.le_refl n)
    · exact Option.isNone_iff_eq_none.mp hnone

theorem codes_cases (code : ℕ) :
    codes code = [code] ∨ (∃ run ∈ runs, ∃ n ∈ run.images, codes code = [n]) ∨
      ∃ entry ∈ expansions, codes code = entry.2 := by
  cases hlookup : expansions.lookup code with
  | some image =>
    obtain ⟨front, back, hsplit, _⟩ := List.lookup_eq_some_iff.mp hlookup
    have hentry : (code, image) ∈ expansions := hsplit ▸ List.mem_append_cons_self
    refine .inr (.inr ⟨_, hentry, ?_⟩)
    simp only [codes, hlookup]
  | none =>
    cases hfound : runs.findSome? (·.imageOf? code) with
    | some n =>
      obtain ⟨run, hrun, himage⟩ := List.exists_of_findSome?_eq_some hfound
      refine .inr (.inl ⟨run, hrun, n, Run.mem_images_of_imageOf? himage, ?_⟩)
      simp only [codes, hlookup, hfound, Option.getD_some]
    | none =>
      left
      simp only [codes, hlookup, hfound, Option.getD_none]

theorem codes_of_mem_codes (h : n ∈ codes code) : codes n = [n] := by
  rcases codes_cases code with hself | ⟨run, hrun, image, himage, heq⟩ | ⟨entry, hentry, heq⟩
  · rw [hself, List.mem_singleton] at h
    rw [h, hself]
  · rw [heq, List.mem_singleton] at h
    rw [h, codes_of_mem_images hrun himage]
  · rw [heq] at h
    exact codes_of_mem_expansion hentry h

theorem eq_of_underscore_mem_codes (h : 95 ∈ codes code) : code = 95 := by
  rcases codes_cases code with hself | ⟨run, hrun, image, himage, heq⟩ | ⟨entry, hentry, heq⟩
  · rw [hself, List.mem_singleton] at h
    exact h.symm
  · rw [heq, List.mem_singleton] at h
    have hbounds := Run.mem_images_bounds himage
    have hapart := List.all_eq_true.mp underscore_not_reached.1 run hrun
    rw [Bool.or_eq_true, Nat.blt_eq, Nat.blt_eq] at hapart
    omega
  · rw [heq] at h
    have hentries := List.all_eq_true.mp underscore_not_reached.2 entry hentry
    cases List.all_eq_true.mp hentries 95 h

theorem codes_ne_nil (code : ℕ) : codes code ≠ [] := by
  rcases codes_cases code with hself | ⟨run, hrun, image, himage, heq⟩ | ⟨entry, hentry, heq⟩
  · rw [hself]
    exact List.cons_ne_nil _ _
  · rw [heq]
    exact List.cons_ne_nil _ _
  · have hfilled : ∀ entry ∈ expansions, entry.2 ≠ [] := by decide +kernel
    rw [heq]
    exact hfilled entry hentry

end Uppercase

/-! ## Characters -/

variable {c d : Char}

theorem upper_ne_nil (c : Char) : upper c ≠ [] :=
  mt List.map_eq_nil_iff.mp (Uppercase.codes_ne_nil c.toNat)

theorem toNat_ofNat_or (n : ℕ) : (Char.ofNat n).toNat = n ∨ Char.ofNat n = '\x00' := by
  by_cases hvalid : n.isValidChar
  · left
    rw [Char.ofNat, dif_pos hvalid]
    rfl
  · exact .inr (dif_neg hvalid)

/-- Each character of an upper case is its own upper case. -/
theorem upper_of_mem_upper (h : d ∈ upper c) : upper d = [d] := by
  obtain ⟨n, hn, rfl⟩ := List.mem_map.mp h
  rcases toNat_ofNat_or n with hcode | hnull
  · rw [upper, hcode, Uppercase.codes_of_mem_codes hn, List.map_singleton]
  -- The table sends nothing to a code that is no character, but this need not be known.
  · rw [hnull]
    decide +kernel

theorem eq_of_underscore_mem_upper (h : '_' ∈ upper c) : c = '_' := by
  obtain ⟨n, hn, hchar⟩ := List.mem_map.mp h
  rcases toNat_ofNat_or n with hcode | hnull
  · rw [hchar] at hcode
    rw [← hcode] at hn
    exact Char.toNat_inj.mp (Uppercase.eq_of_underscore_mem_codes hn)
  · cases hnull.symm.trans hchar

end NetworkPortal.Text

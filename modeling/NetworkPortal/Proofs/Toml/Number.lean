import NetworkPortal.Toml.Scalar

/-! # Reading numbers back

A number written in decimal, with a line end after it, is read as an integer: dates, times and
reals all need a character that comes neither among its digits nor at the end of its line.
-/
namespace NetworkPortal.Toml

theorem ne_of_holds {p : Char → Bool} {c d : Char} (hc : p c = true) (hd : p d = false) : c ≠ d :=
  ne_of_apply_ne p (by simp [hc, hd])

namespace Scalar

inductive DigitLine : List Char → Prop where
  | lineEnd (more : List Char) : DigitLine ('\n' :: more)
  | digit {c : Char} {rest : List Char} (hdigit : c.isDigit = true) (hrest : DigitLine rest) :
      DigitLine (c :: rest)

variable {c : Char} {n : Nat} {text rest more digits : List Char}

theorem digitLine_append (h : ∀ c ∈ digits, c.isDigit = true) (more : List Char) :
    DigitLine (digits ++ '\n' :: more) := by
  induction digits with
  | nil => exact .lineEnd more
  | cons c digits ih =>
    rw [List.forall_mem_cons] at h
    exact .digit h.1 (ih h.2)

/-! ## No date, no time, no real number -/

theorem DigitLine.two? {limit : Nat} (h : DigitLine text)
    (hread : two? limit text = some (n, rest)) : DigitLine rest := by
  match text, h with
  | _, .lineEnd more => cases more <;> cases hread
  | _, .digit _ (.lineEnd more) =>
    have hline : '\n'.isDigit = false := rfl
    simp [Scalar.two?, hline] at hread
  | _, .digit _ (.digit _ hrest) =>
    rw [Scalar.two?] at hread
    simp only [Option.ite_none_right_eq_some, Option.some.injEq, Prod.mk.injEq] at hread
    rw [← hread.2.2.2]
    exact hrest

theorem DigitLine.char?_eq_none (h : DigitLine text) (hdigit : c.isDigit = false)
    (hline : c ≠ '\n') : char? c text = none := by
  cases h with
  | lineEnd more => exact if_neg (Ne.symm hline)
  | digit hd hrest => exact if_neg (ne_of_holds hd hdigit)

theorem DigitLine.date?_eq_none (h : DigitLine text) : date? text = none := by
  rw [Option.eq_none_iff_forall_ne_some]
  intro after hafter
  simp only [date?, Option.bind_eq_bind, Option.bind_eq_some_iff] at hafter
  obtain ⟨⟨century, rest⟩, hcentury, ⟨year, rest'⟩, hyear, rest'', hdash, -⟩ := hafter
  rw [((h.two? hcentury).two? hyear).char?_eq_none rfl (by decide)] at hdash
  cases hdash

theorem DigitLine.time?_eq_none (h : DigitLine text) : time? text = none := by
  rw [Option.eq_none_iff_forall_ne_some]
  intro after hafter
  simp only [time?, Option.bind_eq_bind, Option.bind_eq_some_iff] at hafter
  obtain ⟨⟨hour, rest⟩, hhour, rest', hcolon, -⟩ := hafter
  rw [(h.two? hhour).char?_eq_none rfl (by decide)] at hcolon
  cases hcolon

theorem DigitLine.moment?_eq_none (h : DigitLine text) : moment? text = none := by
  rw [moment?, h.date?_eq_none, h.time?_eq_none]
  rfl

theorem DigitLine.sign_eq (h : DigitLine text) : sign text = (false, text) := by
  cases h with
  | lineEnd more => rfl
  | @digit c rest hdigit hrest =>
    rw [sign]
    · exact fun tail heq => ne_of_holds hdigit rfl (List.head_eq_of_cons_eq heq)
    · exact fun tail heq => ne_of_holds hdigit rfl (List.head_eq_of_cons_eq heq)

theorem DigitLine.special?_eq_none (h : DigitLine text) : special? text = none := by
  rw [special?, h.sign_eq]
  cases h with
  | lineEnd more => rfl
  | @digit c rest hdigit hrest =>
    split
    · next heq => exact absurd (List.head_eq_of_cons_eq heq) (ne_of_holds hdigit rfl)
    · next heq => exact absurd (List.head_eq_of_cons_eq heq) (ne_of_holds hdigit rfl)
    · rfl

/-! ## Whole numbers -/

/-- Digits of a number as it is written, without leading zeros. -/
structure IsWhole (digits : List Char) : Prop where
  ne_nil : digits ≠ []
  isDigit : ∀ c ∈ digits, c.isDigit = true
  eq_zero : digits.head? = some '0' → digits = ['0']

theorem head?_toDigits (h : 0 < n) : (Nat.toDigits 10 n).head? ≠ some '0' := by
  induction n using Nat.strongRecOn with
  | ind n ih =>
    rw [Nat.toDigits_eq_if (by decide)]
    split
    · next hlt =>
      have hall : ∀ n < 10, 0 < n → [n.digitChar].head? ≠ some '0' := by decide
      exact hall n hlt h
    · next hge =>
      have hfront := ih (n / 10) (by omega) (by omega)
      cases hdigits : Nat.toDigits 10 (n / 10) with
      | nil => exact absurd hdigits Nat.toDigits_ne_nil
      | cons c digits =>
        rw [hdigits] at hfront
        exact hfront

theorem isWhole_toDigits (n : Nat) : IsWhole (Nat.toDigits 10 n) where
  ne_nil := Nat.toDigits_ne_nil
  isDigit := fun c hc => Nat.isDigit_of_mem_toDigits (by decide) (by decide) hc
  eq_zero := by
    intro hhead
    rcases Nat.eq_zero_or_pos n with rfl | hpos
    · rfl
    · exact absurd hhead (head?_toDigits hpos)

theorem toString_head (n : Nat) :
    ∃ d digits, (toString n).toList = d :: digits ∧ d.isDigit = true := by
  have hwhole := isWhole_toDigits n
  rw [Nat.toString_eq_repr, Nat.toList_repr]
  cases hdigits : Nat.toDigits 10 n with
  | nil => exact absurd hdigits hwhole.ne_nil
  | cons d digits =>
    exact ⟨d, digits, rfl, hwhole.isDigit d (by rw [hdigits]; exact List.mem_cons_self)⟩

theorem moreDigits_append (h : ∀ c ∈ digits, c.isDigit = true) (more : List Char) :
    moreDigits Char.isDigit (digits ++ '\n' :: more) = (digits, '\n' :: more) := by
  induction digits with
  | nil =>
    have hline : '\n'.isDigit = false := rfl
    cases more <;> simp [moreDigits, hline]
  | cons c digits ih =>
    rw [List.forall_mem_cons] at h
    have htail := ih h.2
    cases heq : digits ++ '\n' :: more with
    | nil => simp at heq
    | cons d tail =>
      rw [heq] at htail
      rw [List.cons_append, heq, moreDigits, if_pos h.1, htail]

theorem IsWhole.whole?_append (h : IsWhole digits) (more : List Char) :
    whole? (digits ++ '\n' :: more) = some (digits, '\n' :: more) := by
  cases digits with
  | nil => exact absurd rfl h.ne_nil
  | cons c digits =>
    by_cases hzero : c = '0'
    · subst hzero
      rw [h.eq_zero rfl]
      rfl
    · have hdigits := h.isDigit
      rw [List.forall_mem_cons] at hdigits
      rw [List.cons_append, whole?, digits?, if_pos hdigits.1, moreDigits_append hdigits.2]
      rintro tail heq
      exact hzero (List.head_eq_of_cons_eq heq)

theorem IsWhole.decimal?_eq_none (h : IsWhole digits) (more : List Char) :
    decimal? (digits ++ '\n' :: more) = none := by
  have hline := digitLine_append h.isDigit more
  simp only [decimal?, hline.sign_eq, h.whole?_append]
  rfl

theorem hexValue?_of_isDigit (h : c.isDigit = true) :
    Text.Percent.hexValue? c = some (c.toNat - '0'.toNat) := by
  have hrange := Char.isDigit_iff_toNat.mp h
  simp only [Text.Percent.hexValue?]
  rw [if_pos (by simpa using hrange)]
  rfl

theorem foldl_eq_ofDigitChars (h : ∀ c ∈ digits, c.isDigit = true) (start : Nat) :
    digits.foldl (fun n c => 10 * n + (Text.Percent.hexValue? c).getD 0) start =
      Nat.ofDigitChars 10 digits start := by
  induction digits generalizing start with
  | nil => rfl
  | cons c digits ih =>
    rw [List.forall_mem_cons] at h
    rw [List.foldl_cons, hexValue?_of_isDigit h.1, Option.getD_some, ih h.2]
    rfl

theorem IsWhole.integer?_append (h : IsWhole digits) (more : List Char) :
    integer? (digits ++ '\n' :: more) =
      checked? (Nat.ofDigitChars 10 digits 0) ('\n' :: more) := by
  have hline := digitLine_append h.isDigit more
  have hvalue : ofDigits 10 digits = Nat.ofDigitChars 10 digits 0 :=
    foldl_eq_ofDigitChars h.isDigit 0
  -- A zero at the beginning is the only digit, so that no base comes after it.
  have hbase : ∀ d tail, digits ++ '\n' :: more = '0' :: d :: tail → d = '\n' := by
    intro d tail heq
    have hzero : digits = ['0'] := by
      refine h.eq_zero ?_
      cases digits with
      | nil => exact absurd rfl h.ne_nil
      | cons c digits => rw [List.head_eq_of_cons_eq heq]; rfl
    rw [hzero] at heq
    exact (List.head_eq_of_cons_eq (List.tail_eq_of_cons_eq heq)).symm
  rw [integer?]
  · simp only [hline.sign_eq, h.whole?_append, hvalue, Bool.false_eq_true, if_false]
  all_goals
    intro tail heq
    cases hbase _ tail heq

theorem number?_toString (h : n < Nat.pow 2 63) (more : List Char) :
    number? ((toString n).toList ++ '\n' :: more) =
      some (.integer (Int64.ofInt n), '\n' :: more) := by
  rw [Nat.toString_eq_repr, Nat.toList_repr]
  have hwhole := isWhole_toDigits n
  have hline := digitLine_append hwhole.isDigit more
  have hfits : fits n = true := by
    simp only [fits, Bool.and_eq_true, decide_eq_true_iff]
    omega
  rw [number?, hline.moment?_eq_none, hwhole.decimal?_eq_none, hline.special?_eq_none,
    hwhole.integer?_append, Nat.ofDigitChars_toDigits (by decide) (by decide), checked?,
    if_pos hfits]
  rfl

end Scalar

end NetworkPortal.Toml

import NetworkPortal.Proofs.Text.Percent
import NetworkPortal.Toml.Quoted.Reader
import NetworkPortal.Toml.Quoted.Writer

/-! # Reading quoted text back

Whatever form is taken for a text, reading what is written gives the text back, as long as no quote
comes right after it.
-/
namespace NetworkPortal.Toml.Quoted

open Text.Percent (hexDigit hexValue?_hexDigit)

variable {c quote : Char} {rest text after spelling : List Char} {run : ℕ}

/-! ## Escapes -/

/-- How a character stands between double quotes. -/
inductive Spells (c : Char) : List Char → Prop where
  | plain (hplain : isPlain c = true) (hquote : c ≠ '"') (hbackslash : c ≠ '\\')
      (hline : c ≠ '\n') : Spells c [c]
  | letter (e : Char) (hletter : e ∈ ['b', 't', 'n', 'f', 'r', '"', '\\'])
      (hvalue : escapeChar? e = some c) : Spells c ['\\', e]
  | code (a b : Char) (hvalue : codeChar? ['0', '0', a, b] = some c) :
      Spells c ['\\', 'u', '0', '0', a, b]

theorem eq_ofNat_of_toNat_eq {n : ℕ} (h : c.toNat = n) : c = .ofNat n := by
  rw [← h, Char.ofNat_toNat]

theorem codeChar?_hexDigit (hc : c.toNat < 128) :
    codeChar? ['0', '0', hexDigit (c.toNat / 16), hexDigit (c.toNat % 16)] = some c := by
  have hhigh := hexValue?_hexDigit (n := c.toNat / 16) (by omega)
  have hlow := hexValue?_hexDigit (n := c.toNat % 16) (by omega)
  have hzero : Text.Percent.hexValue? '0' = some 0 := rfl
  have hnumber : hexNumber? ['0', '0', hexDigit (c.toNat / 16), hexDigit (c.toNat % 16)]
      = some c.toNat := by
    have hsum : 16 * (c.toNat / 16) + c.toNat % 16 = c.toNat := by omega
    simp [hexNumber?, hhigh, hlow, hzero, hsum]
  rw [codeChar?, hnumber, Option.bind_some, if_pos (by simp; omega), Char.ofNat_toNat]

theorem isPlain_of_needsEscape_eq_false (h : needsEscape c = false) (hline : c ≠ '\n') :
    isPlain c = true := by
  by_cases htab : c = '\t'
  · simp [isPlain, htab]
  have hrange : 32 ≤ c.toNat ∧ c.toNat ≠ 127 := by simpa [needsEscape, htab, hline] using h
  simp [isPlain, hrange]

theorem spells_escaped (c : Char) : Spells c (escaped c) := by
  unfold escaped
  split
  · next h => exact .letter 'b' (by decide) (by rw [eq_ofNat_of_toNat_eq h]; rfl)
  split
  · next h => exact .letter 't' (by decide) (by rw [h]; rfl)
  split
  · next h => exact .letter 'n' (by decide) (by rw [h]; rfl)
  split
  · next h => exact .letter 'f' (by decide) (by rw [eq_ofNat_of_toNat_eq h]; rfl)
  split
  · next h => exact .letter 'r' (by decide) (by rw [h]; rfl)
  split
  · next h => exact .letter '"' (by decide) (by rw [h]; rfl)
  split
  · next h => exact .letter '\\' (by decide) (by rw [h]; rfl)
  next hline _ _ hquote hbackslash =>
  split
  · next h =>
    refine .code _ _ (codeChar?_hexDigit ?_)
    simp only [needsEscape, Bool.or_eq_true, Bool.and_eq_true, decide_eq_true_eq, beq_iff_eq] at h
    omega
  · next h =>
    have hplain := isPlain_of_needsEscape_eq_false (eq_false_of_ne_true h) hline
    exact .plain hplain hquote hbackslash hline

theorem Spells.exists_cons (h : Spells c spelling) :
    ∃ d more, spelling = d :: more ∧ d ≠ '"' ∧ d ≠ '\n' ∧ d ≠ '\r' := by
  cases h with
  | plain hplain hquote hbackslash hline =>
    refine ⟨c, [], rfl, hquote, hline, ?_⟩
    rintro rfl
    cases hplain
  | letter e hletter hvalue => exact ⟨'\\', _, rfl, by decide, by decide, by decide⟩
  | code a b hvalue => exact ⟨'\\', _, rfl, by decide, by decide, by decide⟩

/-! ## One line -/

theorem basic?_spelled (h : Spells c spelling) (rest : List Char) :
    basic? (spelling ++ rest) = prepend (some c) (basic? rest) := by
  cases h with
  | plain hplain hquote hbackslash hline =>
    rw [List.singleton_append, basic?, if_pos (by simp [hbackslash, hplain])]
    · exact hquote
    all_goals
      intros
      contradiction
  | letter e hletter hvalue =>
    rw [← hvalue]
    simp only [List.mem_cons, List.not_mem_nil, or_false] at hletter
    rcases hletter with rfl | rfl | rfl | rfl | rfl | rfl | rfl <;> rfl
  | code a b hvalue =>
    rw [← hvalue]
    rfl

theorem basic?_flatMap_escaped (text rest : List Char) :
    basic? (text.flatMap escaped ++ '"' :: rest) = some (text, rest) := by
  induction text with
  | nil => rfl
  | cons c text ih =>
    rw [List.flatMap_cons, List.append_assoc, basic?_spelled (spells_escaped c), ih]
    rfl

theorem literal?_append (hplain : ∀ c ∈ text, isPlain c = true) (hquote : '\x27' ∉ text)
    (rest : List Char) : literal? (text ++ '\x27' :: rest) = some (text, rest) := by
  induction text with
  | nil => rfl
  | cons c text ih =>
    rw [List.forall_mem_cons] at hplain
    rw [List.mem_cons, not_or] at hquote
    rw [List.cons_append, literal?, if_neg (Ne.symm hquote.1), if_pos hplain.1,
      ih hplain.2 hquote.2]
    rfl

/-! ## Several lines

A reader of several lines takes up to two quotes for themselves and three for the end.
-/

theorem closing_replicate_append (hrun : run ≤ 2) (hrest : rest.head? ≠ some quote) :
    closing quote (List.replicate run quote ++ rest) = (List.replicate run quote, rest) := by
  cases rest with
  | nil =>
    match run, hrun with
    | 0, _ => rfl
    | 1, _ => simp [closing]
    | 2, _ => simp [closing]
  | cons a more =>
    have ha : a ≠ quote := fun h => hrest (by rw [h]; rfl)
    match run, hrun with
    | 0, _ => cases more <;> simp [closing, ha]
    | 1, _ => simp [closing, ha]
    | 2, _ => simp [closing]

section Quotes

variable {read : List Char → Option (List Char × List Char)} {next : List Char}
  (hone : ∀ next, (∀ more, next ≠ quote :: quote :: more) →
    read (quote :: next) = prepend (some quote) (read next))
  (hthree : ∀ rest, read (quote :: quote :: quote :: rest) = some (closing quote rest))

include hone in
theorem read_replicate_append (hrun : run ≤ 2) (hnext : next.head? ≠ some quote)
    (h : read next = some (text, after)) :
    read (List.replicate run quote ++ next) = some (List.replicate run quote ++ text, after) := by
  have hfirst : read (quote :: next) = some (quote :: text, after) := by
    rw [hone, h]
    · rfl
    · rintro more rfl
      exact hnext rfl
  match run, hrun with
  | 0, _ => exact h
  | 1, _ => exact hfirst
  | 2, _ =>
    change read (quote :: quote :: next) = some (quote :: quote :: text, after)
    rw [hone, hfirst]
    · rfl
    · rintro more hmore
      rw [List.cons.injEq] at hmore
      exact hnext (by rw [hmore.2]; rfl)

include hthree in
theorem read_replicate_closing (hrun : run ≤ 2) (hrest : rest.head? ≠ some quote) :
    read (List.replicate run quote ++ quote :: quote :: quote :: rest) =
      some (List.replicate run quote, rest) := by
  have hcomm : List.replicate run quote ++ quote :: quote :: quote :: rest =
      quote :: quote :: quote :: (List.replicate run quote ++ rest) := by
    match run, hrun with
    | 0, _ => rfl
    | 1, _ => rfl
    | 2, _ => rfl
  rw [hcomm, hthree, closing_replicate_append hrun hrest]

end Quotes

theorem replicate_append_cons (run : ℕ) (quote : Char) (text : List Char) :
    List.replicate run quote ++ quote :: text = List.replicate (run + 1) quote ++ text := by
  rw [List.replicate_succ', List.append_assoc, List.singleton_append]

theorem basicLines?_quote (rest : List Char) (h : ∀ more, rest ≠ '"' :: '"' :: more) :
    basicLines? false ('"' :: rest) = prepend (some '"') (basicLines? false rest) := by
  rw [basicLines?]
  exact h

theorem basicLines?_line (rest : List Char) :
    basicLines? false ('\n' :: rest) = prepend (some '\n') (basicLines? false rest) := by
  rfl

theorem basicLines?_spelled (h : Spells c spelling) (rest : List Char) :
    basicLines? false (spelling ++ rest) = prepend (some c) (basicLines? false rest) := by
  cases h with
  | plain hplain hquote hbackslash hline =>
    have hreturn : c ≠ '\r' := by
      rintro rfl
      cases hplain
    rw [List.singleton_append, basicLines?, if_neg hline, if_neg (by simp),
      if_pos (by simp [hbackslash, hplain])]
    all_goals
      intros
      contradiction
  | letter e hletter hvalue =>
    rw [← hvalue]
    simp only [List.mem_cons, List.not_mem_nil, or_false] at hletter
    rcases hletter with rfl | rfl | rfl | rfl | rfl | rfl | rfl <;> rfl
  | code a b hvalue =>
    rw [← hvalue]
    rfl

theorem basicLines?_escapedLines (hrun : run ≤ 2) (hrest : rest.head? ≠ some '"') :
    basicLines? false (List.replicate run '"' ++
      (escapedLines run text ++ '"' :: '"' :: '"' :: rest)) =
      some (List.replicate run '"' ++ text, rest) := by
  -- `run` quotes have been passed that may still turn out to begin the end.
  induction text generalizing run with
  | nil =>
    rw [escapedLines, List.nil_append, List.append_nil]
    exact read_replicate_closing (fun _ => rfl) hrun hrest
  | cons c text ih =>
    have hbody : basicLines? false (escapedLines 0 text ++ '"' :: '"' :: '"' :: rest) =
        some (text, rest) := ih (Nat.zero_le 2)
    have hspelled : ∀ {spelling}, Spells c spelling →
        basicLines? false (spelling ++ (escapedLines 0 text ++ '"' :: '"' :: '"' :: rest)) =
          some (c :: text, rest) := by
      intro spelling hspells
      rw [basicLines?_spelled hspells, hbody]
      rfl
    rw [escapedLines]
    split
    · next hquote =>
      subst hquote
      split
      · next htwo =>
        exact read_replicate_append basicLines?_quote hrun (by simp)
          (hspelled (spells_escaped '"'))
      · next htwo =>
        rw [List.cons_append, replicate_append_cons, replicate_append_cons]
        exact ih (by omega)
    split
    · next hline =>
      subst hline
      refine read_replicate_append basicLines?_quote hrun (by simp) ?_
      rw [List.cons_append, basicLines?_line, hbody]
      rfl
    · next hquote hline =>
      obtain ⟨d, more, heq, hd, -⟩ := (spells_escaped c).exists_cons
      rw [List.append_assoc]
      refine read_replicate_append basicLines?_quote hrun ?_ (hspelled (spells_escaped c))
      rw [heq]
      simpa using hd

theorem literalLines?_quote (rest : List Char) (h : ∀ more, rest ≠ '\x27' :: '\x27' :: more) :
    literalLines? ('\x27' :: rest) = prepend (some '\x27') (literalLines? rest) := by
  rw [literalLines?]
  · rfl
  · exact fun more _ => h more
  · intros
    contradiction

theorem literalLines?_cons (hquote : c ≠ '\x27') (hreturn : c ≠ '\r')
    (hplain : c = '\n' ∨ isPlain c = true) (rest : List Char) :
    literalLines? (c :: rest) = prepend (some c) (literalLines? rest) := by
  rw [literalLines?, if_pos (by simpa using hplain)]
  all_goals
    intros
    contradiction

theorem le_longestRun (quote : Char) (run : ℕ) (text : List Char) :
    run ≤ longestRun quote run text := by
  induction text generalizing run with
  | nil => exact Nat.le_refl run
  | cons c text ih =>
    rw [longestRun]
    split
    · exact Nat.le_of_succ_le (ih (run + 1))
    · exact Nat.le_max_left _ _

theorem not_mem_of_longestRun_eq_zero (h : longestRun quote 0 text = 0) : quote ∉ text := by
  induction text with
  | nil => simp
  | cons c text ih =>
    rw [longestRun] at h
    split at h
    · have hle := le_longestRun quote (0 + 1) text
      omega
    · next hne =>
      rw [List.mem_cons, not_or]
      exact ⟨Ne.symm hne, ih (by omega)⟩

theorem literalLines?_append (hescape : ∀ c ∈ text, needsEscape c = false)
    (htext : longestRun '\x27' run text ≤ 2) (hrest : rest.head? ≠ some '\x27') :
    literalLines? (List.replicate run '\x27' ++
      (text ++ '\x27' :: '\x27' :: '\x27' :: rest)) =
      some (List.replicate run '\x27' ++ text, rest) := by
  have hrun := (le_longestRun _ _ _).trans htext
  induction text generalizing run with
  | nil =>
    rw [List.nil_append, List.append_nil]
    exact read_replicate_closing (fun _ => rfl) hrun hrest
  | cons c text ih =>
    rw [List.forall_mem_cons] at hescape
    rw [longestRun] at htext
    split at htext
    · next hquote =>
      subst hquote
      rw [List.cons_append, replicate_append_cons, replicate_append_cons]
      exact ih hescape.2 htext ((le_longestRun _ _ _).trans htext)
    · next hquote =>
      have hbody : literalLines? (text ++ '\x27' :: '\x27' :: '\x27' :: rest) =
          some (text, rest) := ih hescape.2 (by omega) (Nat.zero_le 2)
      have hreturn : c ≠ '\r' := by
        rintro rfl
        cases hescape.1
      have hplain : c = '\n' ∨ isPlain c = true :=
        or_iff_not_imp_left.mpr (isPlain_of_needsEscape_eq_false hescape.1)
      refine read_replicate_append literalLines?_quote hrun (by simpa using hquote) ?_
      rw [List.cons_append, literalLines?_cons hquote hreturn hplain, hbody]
      rfl

/-! ## The form taken for a text -/

/-- The line end that the opening delimiter is given is dropped, and no other one comes there. -/
theorem dropLineEnd_opening {body : List Char}
    (hbody : '\n' ∉ text → ∃ c more, body = c :: more ∧ c ≠ '\n' ∧ c ≠ '\r') :
    dropLineEnd ((if text.any (· = '\n') then ['\n'] else []) ++ body) = body := by
  split
  · rfl
  · next hlines =>
    obtain ⟨c, more, rfl, hline, hreturn⟩ := hbody (by simpa using hlines)
    rw [List.nil_append, dropLineEnd]
    · rintro tail heq
      exact hline (List.head_eq_of_cons_eq heq)
    · rintro tail heq
      exact hreturn (List.head_eq_of_cons_eq heq)

theorem escapedLines_head (hlines : '\n' ∉ text) (rest : List Char) :
    ∃ c more, escapedLines 0 text ++ '"' :: '"' :: '"' :: rest = c :: more ∧
      c ≠ '\n' ∧ c ≠ '\r' := by
  cases text with
  | nil => exact ⟨'"', _, rfl, by decide, by decide⟩
  | cons c text =>
    rw [List.mem_cons, not_or] at hlines
    rw [escapedLines]
    split
    · exact ⟨'"', _, rfl, by decide, by decide⟩
    · obtain ⟨d, more, heq, -, hline, hreturn⟩ := (spells_escaped c).exists_cons
      rw [if_neg (Ne.symm hlines.1), heq]
      exact ⟨d, _, rfl, hline, hreturn⟩

def Form.Takes (text : List Char) : Form → Prop
  | .literal =>
    (∀ c ∈ text, needsEscape c = false) ∧ longestRun '\x27' 0 text = 0 ∧ '\n' ∉ text
  | .literalLines => (∀ c ∈ text, needsEscape c = false) ∧ longestRun '\x27' 0 text ≤ 2
  | _ => True

theorem takes_ofText (text : List Char) : (Form.ofText text).Takes text := by
  unfold Form.ofText
  simp only
  split
  · trivial
  split
  · next h =>
    simp only [Bool.and_eq_true, Bool.not_eq_true', List.any_eq_false, beq_iff_eq,
      decide_eq_true_iff, Bool.not_eq_true] at h
    exact ⟨h.1.1, h.1.2, fun hline => h.2 _ hline rfl⟩
  split
  · trivial
  split
  · next h =>
    simp only [Bool.and_eq_true, Bool.not_eq_true', List.any_eq_false, Bool.not_eq_true,
      decide_eq_true_iff] at h
    exact h
  split
  · trivial
  · trivial

theorem read?_writeAs {form : Form} (htext : form.Takes text) (hdouble : rest.head? ≠ some '"')
    (hsingle : rest.head? ≠ some '\x27') :
    read? (writeAs form text ++ rest) = some (text, rest) := by
  cases form with
  | basic =>
    have hread := basic?_flatMap_escaped text rest
    rw [writeAs, List.append_assoc, List.singleton_append, List.cons_append, read?, hread]
    -- The text begins with no quote, so that three of them do not stand at the beginning.
    rintro more heq
    cases text with
    | nil => exact hdouble (by rw [(List.cons.inj heq).2]; rfl)
    | cons c text =>
      obtain ⟨d, spelling, hspelling, hd, -⟩ := (spells_escaped c).exists_cons
      rw [List.flatMap_cons, hspelling] at heq
      exact hd (List.head_eq_of_cons_eq heq)
  | literal =>
    obtain ⟨hescape, hrun, hlines⟩ := htext
    have hquote := not_mem_of_longestRun_eq_zero hrun
    have hplain : ∀ c ∈ text, isPlain c = true := fun c hc =>
      isPlain_of_needsEscape_eq_false (hescape c hc) (ne_of_mem_of_not_mem hc hlines)
    rw [writeAs, List.append_assoc, List.singleton_append, List.cons_append, read?,
      literal?_append hplain hquote]
    rintro more heq
    cases text with
    | nil => exact hsingle (by rw [(List.cons.inj heq).2]; rfl)
    | cons c text =>
      rw [List.mem_cons, not_or] at hquote
      exact hquote.1 (List.head_eq_of_cons_eq heq).symm
  | basicLines =>
    rw [writeAs, opening, List.append_assoc, List.append_assoc, List.append_assoc]
    change basicLines? false (dropLineEnd (_ ++ (escapedLines 0 text ++ '"' :: '"' :: '"' :: rest)))
      = _
    rw [dropLineEnd_opening fun hlines => escapedLines_head hlines rest]
    exact basicLines?_escapedLines (Nat.zero_le 2) hdouble
  | literalLines =>
    obtain ⟨hescape, hrun⟩ := htext
    have hread := literalLines?_append hescape hrun hsingle
    rw [writeAs, opening, List.append_assoc, List.append_assoc, List.append_assoc]
    change literalLines? (dropLineEnd (_ ++ (text ++ '\x27' :: '\x27' :: '\x27' :: rest))) = _
    rw [dropLineEnd_opening]
    · exact hread
    · intro hlines
      cases text with
      | nil => exact ⟨'\x27', _, rfl, by decide, by decide⟩
      | cons c text =>
        rw [List.mem_cons, not_or] at hlines
        refine ⟨c, _, rfl, Ne.symm hlines.1, ?_⟩
        rintro rfl
        cases hescape '\r' List.mem_cons_self

/-- A written text is read back, whatever comes after it but a quote. -/
theorem read?_write_append (text : String) (hdouble : rest.head? ≠ some '"')
    (hsingle : rest.head? ≠ some '\x27') :
    read? ((write text).toList ++ rest) = some (text.toList, rest) := by
  rw [write, String.toList_ofList]
  exact read?_writeAs (takes_ofText text.toList) hdouble hsingle

end NetworkPortal.Toml.Quoted

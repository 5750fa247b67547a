import NetworkPortal.Proofs.Toml.Setting

/-! # Reading written lines back

A written line is a header with a bare name, or a bare key and a value. Reading takes each of them
for the line it was written for and stops at its end.
-/
namespace NetworkPortal.Toml

variable {c : Char} {rest more : List Char} {fuel : Nat}

/-! ## Keys -/

structure IsBare (name : String) : Prop where
  ne_nil : name.toList ≠ []
  isBareChar : ∀ c ∈ name.toList, isBareChar c = true

instance (name : String) : Decidable (IsBare name) :=
  decidable_of_iff ((!name.toList.isEmpty && name.toList.all isBareChar) = true) <| by
    rw [Bool.and_eq_true, Bool.not_eq_true', List.isEmpty_eq_false_iff, List.all_eq_true]
    exact ⟨fun h => ⟨h.1, h.2⟩, fun h => ⟨h.1, h.2⟩⟩

theorem IsBare.exists_cons {name : String} (h : IsBare name) :
    ∃ c more, name.toList = c :: more ∧ Toml.isBareChar c = true := by
  cases hname : name.toList with
  | nil => exact absurd hname h.ne_nil
  | cons c more => exact ⟨c, more, rfl, h.isBareChar c (by rw [hname]; exact List.mem_cons_self)⟩

theorem IsBare.skipBlank_append {name : String} (h : IsBare name) (rest : List Char) :
    skipBlank (name.toList ++ rest) = name.toList ++ rest := by
  obtain ⟨d, more, heq, hd⟩ := h.exists_cons
  have hspace := ne_of_holds (d := ' ') hd rfl
  have htab := ne_of_holds (d := '\t') hd rfl
  rw [heq, List.cons_append, skipBlank_cons (by simp [isBlank, hspace, htab])]

theorem IsBare.keyPart?_append {name : String} (h : IsBare name)
    (hc : Toml.isBareChar c = false) (rest : List Char) :
    keyPart? (name.toList ++ c :: rest) = some (name, c :: rest) := by
  have htake : (name.toList ++ c :: rest).takeWhile Toml.isBareChar = name.toList := by
    rw [List.takeWhile_append_of_pos h.isBareChar, List.takeWhile_cons_of_neg (by simp [hc]),
      List.append_nil]
  have hdrop : (name.toList ++ c :: rest).dropWhile Toml.isBareChar = c :: rest := by
    rw [List.dropWhile_append_of_pos h.isBareChar, List.dropWhile_cons_of_neg (by simp [hc])]
  obtain ⟨d, more, heq, hd⟩ := h.exists_cons
  have hdouble := ne_of_holds (d := '"') hd rfl
  have hsingle := ne_of_holds (d := '\x27') hd rfl
  rw [heq, List.cons_append] at htake hdrop ⊢
  rw [keyPart?, if_neg (by simp [hdouble, hsingle]), htake, hdrop]
  simp only
  rw [if_neg (by simp), ← heq, String.ofList_toList]

theorem IsBare.keyPath?_append {name : String} (h : IsBare name)
    (hc : Toml.isBareChar c = false) (hskip : ∀ rest', skipBlank (c :: rest) ≠ '.' :: rest') :
    keyPath? (name.toList ++ c :: rest) = some (([], name), skipBlank (c :: rest)) := by
  rw [keyPath?, nestingLimit, keyParts?, h.skipBlank_append, h.keyPart?_append hc]
  simp only
  rfl

/-! ## Lines -/

theorem IsBare.lineEnd?_append {name : String} (h : IsBare name) (rest : List Char) :
    lineEnd? (name.toList ++ rest) = none := by
  rw [lineEnd?, h.skipBlank_append]
  obtain ⟨d, more, heq, hd⟩ := h.exists_cons
  have hcomment := ne_of_holds (d := '#') hd rfl
  have hline := ne_of_holds (d := '\n') hd rfl
  have hreturn := ne_of_holds (d := '\r') hd rfl
  rw [heq, List.cons_append]
  simp [hcomment, hline, hreturn]

def entryLine (key : String) (setting : Setting) : List Char :=
  key.toList ++ ' ' :: '=' :: ' ' :: (setting.write.toList ++ ['\n'])

theorem line?_entry {key : String} {setting : Setting} (hkey : IsBare key)
    (hfits : setting.Fits) (rest : List Char) :
    line? (entryLine key setting ++ rest) = some (.entry ([], key) setting.value, rest) := by
  have hshape : entryLine key setting ++ rest =
      key.toList ++ ' ' :: '=' :: ' ' :: (setting.write.toList ++ '\n' :: rest) := by
    simp [entryLine]
  have hpath : keyPath? (entryLine key setting ++ rest) =
      some (([], key), '=' :: ' ' :: (setting.write.toList ++ '\n' :: rest)) := by
    rw [hshape, hkey.keyPath?_append rfl]
    · rfl
    · intro rest' heq
      cases heq
  have hvalue : value? (2 * (' ' :: (setting.write.toList ++ '\n' :: rest)).length + 1) 0
      (skipBlank (' ' :: (setting.write.toList ++ '\n' :: rest))) =
        some (setting.value, '\n' :: rest) := by
    have hskip : skipBlank (' ' :: (setting.write.toList ++ '\n' :: rest)) =
        setting.write.toList ++ '\n' :: rest := setting.skipBlank_write ('\n' :: rest)
    rw [hskip]
    refine value?_write hfits rest ?_
    simp only [List.length_cons, List.length_append]
    omega
  have hbracket : ∀ tail, entryLine key setting ++ rest ≠ '[' :: tail := by
    intro tail heq
    obtain ⟨d, more, hname, hd⟩ := hkey.exists_cons
    rw [hshape, hname] at heq
    exact ne_of_holds (d := '[') hd rfl (List.head_eq_of_cons_eq heq)
  rw [line?]
  · simp only [hpath, hvalue]
    rfl
  · exact fun tail => hbracket ('[' :: tail)
  · exact hbracket

theorem line?_header {name : String} (h : IsBare name) (rest : List Char) :
    line? ('[' :: (name.toList ++ ']' :: '\n' :: rest)) = some (.table ([], name), rest) := by
  have hpath : keyPath? (name.toList ++ ']' :: '\n' :: rest) =
      some (([], name), ']' :: '\n' :: rest) := by
    rw [h.keyPath?_append rfl]
    · rfl
    · intro rest' heq
      cases heq
  rw [line?]
  · simp only [hpath]
    rfl
  · intro tail heq
    obtain ⟨d, more, hname, hd⟩ := h.exists_cons
    rw [hname] at heq
    exact ne_of_holds (d := '[') hd rfl (List.head_eq_of_cons_eq heq)

/-- A text that is read line by line. -/
inductive ReadsAs : List Char → List Line → Prop where
  | done : ReadsAs [] []
  | blank {rest lines} (hrest : ReadsAs rest lines) : ReadsAs ('\n' :: rest) lines
  | line {text rest line lines} (hskip : skipBlank text = text) (hend : lineEnd? text = none)
      (hline : line? text = some (line, rest)) (hlength : rest.length < text.length)
      (hrest : ReadsAs rest lines) : ReadsAs text (line :: lines)

theorem ReadsAs.lines?_eq {text : List Char} {lines : List Line} (h : ReadsAs text lines)
    (hfuel : text.length ≤ fuel) : lines? fuel text = some lines := by
  induction h generalizing fuel with
  | done => cases fuel <;> rfl
  | blank hrest ih =>
    obtain ⟨extra, rfl⟩ := Nat.exists_eq_add_of_le' hfuel
    rw [← ih (Nat.le_add_left _ extra)]
    rfl
  | @line text rest line lines hskip hend hline hlength hrest ih =>
    obtain ⟨extra, rfl⟩ := Nat.exists_eq_add_of_le' (Nat.lt_of_lt_of_le hlength hfuel)
    have hrest' := ih (Nat.le_add_left rest.length extra)
    cases text with
    | nil => cases hlength
    | cons c text =>
      change lines? (extra + rest.length + 1) (c :: text) = _
      rw [lines?, hskip]
      simp only [hend, hline, hrest', Option.map_some]

end NetworkPortal.Toml

import NetworkPortal.Proofs.Toml.Number
import NetworkPortal.Proofs.Toml.Quoted
import NetworkPortal.Toml.Printer
import NetworkPortal.Toml.Reader

/-! # Reading written values back

A written value is read as the value of the setting it was written for, whatever comes on the next
line.
-/
namespace NetworkPortal.Toml

variable {c : Char} {rest more : List Char} {fuel depth : Nat}

def Setting.value : Setting → Value
  | .text content => .text content
  | .natural value => .integer (Int64.ofInt value)
  | .boolean value => .boolean value
  | .texts items => .array (items.map .text)

/-- Integers of a document have a sign and 64 bits. -/
def Setting.Fits : Setting → Prop
  | .natural value => value < Nat.pow 2 63
  | _ => True

theorem Quoted.write_head (text : String) :
    ∃ c more, (Quoted.write text).toList = c :: more ∧ (c = '"' ∨ c = '\x27') := by
  rw [Quoted.write, String.toList_ofList]
  cases Quoted.Form.ofText text.toList with
  | basic => exact ⟨'"', _, rfl, .inl rfl⟩
  | literal => exact ⟨'\x27', _, rfl, .inr rfl⟩
  | basicLines => exact ⟨'"', _, rfl, .inl rfl⟩
  | literalLines => exact ⟨'\x27', _, rfl, .inr rfl⟩

theorem value?_text (text : String) (hdouble : c ≠ '"') (hsingle : c ≠ '\x27') :
    value? (fuel + 1) depth ((Quoted.write text).toList ++ c :: rest) =
      some (.text text, c :: rest) := by
  have hread : Quoted.read? ((Quoted.write text).toList ++ c :: rest) =
      some (text.toList, c :: rest) :=
    Quoted.read?_write_append text (by simpa using hdouble) (by simpa using hsingle)
  obtain ⟨quote, more, heq, hquote⟩ := Quoted.write_head text
  rw [heq, List.cons_append] at hread
  rw [heq, List.cons_append, value?, if_pos (by simpa using hquote), hread]
  simp

theorem skipLines_write (text : String) (rest : List Char) :
    skipLines false ((Quoted.write text).toList ++ rest) = (Quoted.write text).toList ++ rest := by
  obtain ⟨quote, more, heq, hquote⟩ := Quoted.write_head text
  rw [heq]
  rcases hquote with rfl | rfl <;> rfl

theorem write_append_ne_bracket (text : String) (rest after : List Char) :
    (Quoted.write text).toList ++ rest ≠ ']' :: after := by
  intro heq
  obtain ⟨quote, more, hwrite, hquote⟩ := Quoted.write_head text
  rw [hwrite] at heq
  have hbracket := List.head_eq_of_cons_eq heq
  rcases hquote with rfl | rfl <;> cases hbracket

def itemLine (item : String) : List Char :=
  "    ".toList ++ (Quoted.write item).toList ++ ",\n".toList

theorem items?_lines (items : List String) (rest : List Char) :
    items? (fuel + items.length + 1) depth
        (skipLines false (items.flatMap itemLine ++ ']' :: rest)) =
      some (items.map .text, rest) := by
  induction items with
  | nil => rfl
  | cons item items ih =>
    have hshape : (item :: items).flatMap itemLine ++ ']' :: rest = "    ".toList ++
        ((Quoted.write item).toList ++ ',' :: '\n' :: (items.flatMap itemLine ++ ']' :: rest)) := by
      simp [itemLine]
    have hskip : ∀ text, skipLines false ("    ".toList ++ text) = skipLines false text :=
      fun _ => rfl
    rw [hshape, hskip, skipLines_write]
    change items? (fuel + items.length + 1 + 1) depth _ = _
    rw [items?, value?_text item (by decide) (by decide)]
    · change (items? (fuel + items.length + 1) depth
        (skipLines false (items.flatMap itemLine ++ ']' :: rest))).map _ = _
      rw [ih]
      rfl
    · exact fun after => write_append_ne_bracket item _ after

theorem toList_join_map (items : List String) :
    (String.join (items.map fun item => "    " ++ Quoted.write item ++ ",\n")).toList =
      items.flatMap itemLine := by
  have hline : itemLine = fun item => ("    " ++ Quoted.write item ++ ",\n").toList := by
    funext item
    rw [String.toList_append, String.toList_append]
    rfl
  rw [hline, String.toList_join, List.flatMap_map]

theorem length_le_flatMap_itemLine (items : List String) :
    items.length ≤ (items.flatMap itemLine).length := by
  induction items with
  | nil => exact Nat.le_refl 0
  | cons item items ih =>
    have hitem : 1 ≤ (itemLine item).length := by simp [itemLine]
    rw [List.flatMap_cons, List.length_append, List.length_cons]
    omega

theorem toList_writeTexts (first second : String) (more : List String) :
    (Setting.writeTexts (first :: second :: more)).toList =
      '[' :: '\n' :: ((first :: second :: more).flatMap itemLine ++ [']']) := by
  rw [Setting.writeTexts, String.toList_append, String.toList_append, toList_join_map]
  · rfl
  all_goals simp

theorem length_lt_writeTexts (items : List String) :
    items.length < (Setting.writeTexts items).toList.length := by
  match items with
  | [] => decide
  | [item] => simp [Setting.writeTexts]
  | first :: second :: more =>
    have hlines := length_le_flatMap_itemLine (first :: second :: more)
    rw [toList_writeTexts]
    simp only [List.length_cons, List.length_append] at hlines ⊢
    omega

theorem value?_texts (items : List String) (rest : List Char) :
    value? (fuel + items.length + 2) 0 ((Setting.writeTexts items).toList ++ rest) =
      some (.array (items.map .text), rest) := by
  match items with
  | [] => rfl
  | [item] =>
    have hshape : (Setting.writeTexts [item]).toList ++ rest =
        '[' :: ((Quoted.write item).toList ++ ']' :: rest) := by
      simp [Setting.writeTexts]
    have hitem : items? (fuel + 2) 1 ((Quoted.write item).toList ++ ']' :: rest) =
        some ([.text item], rest) := by
      rw [items?, value?_text item (by decide) (by decide)]
      · rfl
      · exact fun after => write_append_ne_bracket item _ after
    rw [hshape, value?, if_neg (by decide), if_pos rfl, if_neg (by decide), skipLines_write]
    change (items? (fuel + 2) 1 _).map _ = _
    rw [hitem]
    rfl
  | first :: second :: more =>
    have hshape : (Setting.writeTexts (first :: second :: more)).toList ++ rest =
        '[' :: '\n' :: ((first :: second :: more).flatMap itemLine ++ ']' :: rest) := by
      rw [toList_writeTexts]
      simp
    have hskip : ∀ text, skipLines false ('\n' :: text) = skipLines false text := fun _ => rfl
    rw [hshape, value?, if_neg (by decide), if_pos rfl, if_neg (by decide), hskip, items?_lines]
    rfl

theorem value?_natural {n : Nat} (h : n < Nat.pow 2 63) :
    value? (fuel + 1) depth ((toString n).toList ++ '\n' :: rest) =
      some (.integer (Int64.ofInt n), '\n' :: rest) := by
  have hread := Scalar.number?_toString h rest
  obtain ⟨d, digits, heq, hdigit⟩ := Scalar.toString_head n
  have hne : ∀ c : Char, c.isDigit = false → d ≠ c := fun c => ne_of_holds hdigit
  rw [heq, List.cons_append] at hread ⊢
  rw [value?, if_neg, if_neg (hne '[' rfl), if_neg (hne '\x7b' rfl), if_neg, hread]
  · simp [hne 't' rfl, hne 'f' rfl]
  · simp [hne '"' rfl, hne '\x27' rfl]

theorem value?_write {setting : Setting} (hfits : setting.Fits) (rest : List Char)
    (hfuel : setting.write.toList.length < fuel) :
    value? fuel 0 (setting.write.toList ++ '\n' :: rest) = some (setting.value, '\n' :: rest) := by
  obtain ⟨extra, rfl⟩ : ∃ extra, fuel = extra + 1 := ⟨fuel - 1, by omega⟩
  cases setting with
  | text content => exact value?_text content (by decide) (by decide)
  | natural value => exact value?_natural hfits
  | boolean value => cases value <;> rfl
  | texts items =>
    have hlength := length_lt_writeTexts items
    rw [Setting.write] at hfuel ⊢
    obtain ⟨more, rfl⟩ : ∃ more, extra = more + items.length + 1 :=
      ⟨extra - items.length - 1, by omega⟩
    exact value?_texts items ('\n' :: rest)

theorem skipBlank_cons (h : isBlank c = false) (rest : List Char) :
    skipBlank (c :: rest) = c :: rest :=
  List.dropWhile_cons_of_neg (by simp [h])

theorem Setting.skipBlank_write (setting : Setting) (rest : List Char) :
    skipBlank (setting.write.toList ++ rest) = setting.write.toList ++ rest := by
  cases setting with
  | text content =>
    obtain ⟨quote, more, heq, hquote⟩ := Quoted.write_head content
    rw [write, heq]
    rcases hquote with rfl | rfl <;> rfl
  | natural value =>
    obtain ⟨d, digits, heq, hdigit⟩ := Scalar.toString_head value
    have hspace : d ≠ ' ' := ne_of_holds hdigit rfl
    have htab : d ≠ '\t' := ne_of_holds hdigit rfl
    rw [write, heq, List.cons_append, skipBlank_cons (by simp [isBlank, hspace, htab])]
  | boolean value => cases value <;> rfl
  | texts items =>
    match items with
    | [] => rfl
    | [item] =>
      rw [write, writeTexts, String.append_assoc, String.toList_append]
      rfl
    | first :: second :: more =>
      rw [write, toList_writeTexts]
      rfl

end NetworkPortal.Toml

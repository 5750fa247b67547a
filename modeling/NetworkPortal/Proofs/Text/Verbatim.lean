import NetworkPortal.Proofs.Text.Percent

/-! # Texts that are read as they stand

Reading shortens a text by every percent code in it and leaves all else alone. So a text that is
read as itself holds no code, and a text is never longer than one it is read from.
-/
namespace NetworkPortal.Text.Percent

/-- Whether two hexadecimal digits follow a percent sign somewhere. -/
def hasCode : List Char → Bool
  | c :: a :: b :: rest => (c == '%' && (byte? a b).isSome) || hasCode (a :: b :: rest)
  | _ => false

theorem hasCode_of_not_mem {l : List Char} (h : '%' ∉ l) : hasCode l = false := by
  fun_induction hasCode l with
  | case1 c a b rest ih =>
    rw [List.mem_cons, not_or] at h
    have hc : (c == '%') = false := beq_eq_false_iff_ne.mpr (Ne.symm h.1)
    rw [ih h.2, hc]
    rfl
  | case2 => rfl

theorem bytes_of_not_hasCode {l : List Char} (h : hasCode l = false) :
    bytes l = l.flatMap String.utf8EncodeChar := by
  fun_induction hasCode l with
  | case1 c a b rest ih =>
    obtain ⟨hcode, hrest⟩ := Bool.or_eq_false_iff.mp h
    have hbyte : (if c = '%' then byte? a b else none) = none := by
      by_cases hc : c = '%'
      · simpa [hc] using hcode
      · exact if_neg hc
    rw [bytes, hbyte, List.flatMap_cons, ih hrest]
  | case2 l hshort =>
    rcases l with _ | ⟨c, _ | ⟨a, _ | ⟨b, rest⟩⟩⟩
    · rfl
    · rfl
    · simp [bytes]
    · exact absurd rfl (hshort c a b rest)

theorem length_bytes_le (l : List Char) :
    (bytes l).length ≤ (l.flatMap String.utf8EncodeChar).length := by
  fun_induction bytes l with
  | case1 c a b rest byte hbyte ih =>
    have ha := Char.utf8Size_pos a
    simp only [List.flatMap_cons, List.length_append, String.length_utf8EncodeChar,
      List.length_cons] at ih ⊢
    omega
  | case2 c a b rest hbyte ih =>
    rw [List.flatMap_cons, List.length_append, List.length_append]
    exact Nat.add_le_add_left ih _
  | case3 c rest hshort ih =>
    rw [List.flatMap_cons, List.length_append, List.length_append]
    exact Nat.add_le_add_left ih _
  | case4 => exact Nat.le_refl _

theorem length_bytes_lt {l : List Char} (h : hasCode l = true) :
    (bytes l).length < (l.flatMap String.utf8EncodeChar).length := by
  fun_induction hasCode l with
  | case1 c a b rest ih =>
    rw [bytes]
    split
    · next byte _ =>
      -- One byte stands for three characters, and what follows them never grows.
      have hrest := length_bytes_le rest
      have hc := Char.utf8Size_pos c
      have ha := Char.utf8Size_pos a
      simp only [List.flatMap_cons, List.length_append, String.length_utf8EncodeChar,
        List.length_cons]
      omega
    · next hbyte =>
      have hcode : (c == '%' && (byte? a b).isSome) = false := by
        by_cases hc : c = '%'
        · simpa [hc] using hbyte
        · simp [hc]
      rw [hcode, Bool.false_or] at h
      rw [List.flatMap_cons, List.length_append, List.length_append]
      exact Nat.add_lt_add_left (ih h) _
  | case2 => cases h

theorem toByteArray_of_fromUTF8? {a : ByteArray} {text : String}
    (h : String.fromUTF8? a = some text) : a = text.toByteArray := by
  unfold String.fromUTF8? at h
  split at h
  · rw [← Option.some.inj h]
    rfl
  · cases h

theorem decode?_eq_some_iff {raw text : String} :
    decode? raw = some text ↔ bytes raw.toList = text.toList.flatMap String.utf8EncodeChar := by
  constructor
  · intro h
    have hraw := toByteArray_of_fromUTF8? h
    have htext := toByteArray_of_fromUTF8? (fromUTF8?_utf8Encode text)
    exact congrArg (fun a => a.data.toList) (hraw.trans htext.symm)
  · intro h
    rw [decode?, h]
    exact fromUTF8?_utf8Encode text

theorem length_utf8Encode (text : String) :
    (text.toList.flatMap String.utf8EncodeChar).length = text.utf8ByteSize := by
  have htext := toByteArray_of_fromUTF8? (fromUTF8?_utf8Encode text)
  exact congrArg ByteArray.size htext

theorem decode?_of_not_hasCode {text : String} (h : hasCode text.toList = false) :
    decode? text = some text :=
  decode?_eq_some_iff.mpr (bytes_of_not_hasCode h)

/-- A text is at most as long as one it is read from, and if it is as long then the two are the
same and hold no code. -/
theorem utf8ByteSize_of_decode? {raw text : String} (h : decode? raw = some text) :
    text.utf8ByteSize ≤ raw.utf8ByteSize ∧
      (text.utf8ByteSize = raw.utf8ByteSize → text = raw ∧ hasCode raw.toList = false) := by
  have hbytes := congrArg List.length (decode?_eq_some_iff.mp h)
  rw [length_utf8Encode] at hbytes
  rw [← hbytes, ← length_utf8Encode raw]
  refine ⟨length_bytes_le _, fun hlength => ?_⟩
  have hcode : hasCode raw.toList = false := by
    by_contra hcode
    exact absurd hlength (length_bytes_lt (Bool.not_eq_false _ ▸ hcode)).ne
  have hraw := decode?_of_not_hasCode hcode
  rw [h] at hraw
  exact ⟨Option.some.inj hraw, hcode⟩

end NetworkPortal.Text.Percent

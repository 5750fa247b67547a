import Mathlib.Tactic.IntervalCases
import NetworkPortal.Text.Percent

/-! # Reading percent-encoded text back

Encoding writes every byte in a form that reading takes for that byte, whatever follows it. So
reading an encoded text gives the text back, and nothing but unreserved characters and percent
signs stands in it.
-/
namespace NetworkPortal.Text.Percent

theorem hexValue?_hexDigit {n : ℕ} (hn : n < 16) : hexValue? (hexDigit n) = some n := by
  interval_cases n <;> decide

theorem byte?_hexDigit (b : UInt8) :
    byte? (hexDigit (b.toNat / 16)) (hexDigit (b.toNat % 16)) = some b := by
  have hb : b.toNat < 256 := b.toNat_lt
  have hhigh := hexValue?_hexDigit (n := b.toNat / 16) (by omega)
  have hlow := hexValue?_hexDigit (n := b.toNat % 16) (by omega)
  simp only [byte?, hhigh, hlow]
  rw [show 16 * (b.toNat / 16) + b.toNat % 16 = b.toNat by omega, UInt8.ofNat_toNat]

theorem ofNat_of_isUnreserved {b : UInt8} (hb : isUnreserved b = true) :
    Char.ofNat b.toNat ≠ '%' ∧ String.utf8EncodeChar (Char.ofNat b.toNat) = [b] := by
  have hall : ∀ n < 256, isUnreserved (.ofNat n) = true →
      Char.ofNat n ≠ '%' ∧ String.utf8EncodeChar (Char.ofNat n) = [.ofNat n] := by
    decide +kernel
  have h := hall b.toNat b.toNat_lt
  rw [UInt8.ofNat_toNat] at h
  exact h hb

theorem bytes_cons_of_ne {c : Char} (hc : c ≠ '%') (rest : List Char) :
    bytes (c :: rest) = String.utf8EncodeChar c ++ bytes rest := by
  match rest with
  | [] => rfl
  | [_] => rfl
  | a :: b :: rest => rw [bytes, if_neg hc]

/-- Reading takes the form of a byte for that byte and goes on after it. -/
theorem bytes_encodeByte_append (b : UInt8) (rest : List Char) :
    bytes (encodeByte b ++ rest) = b :: bytes rest := by
  by_cases hb : isUnreserved b = true
  · obtain ⟨hne, hutf⟩ := ofNat_of_isUnreserved hb
    rw [encodeByte, if_pos hb, List.singleton_append, bytes_cons_of_ne hne, hutf,
      List.singleton_append]
  · rw [encodeByte, if_neg hb, List.cons_append, List.cons_append, List.cons_append,
      List.nil_append, bytes, if_pos rfl, byte?_hexDigit]

theorem bytes_flatMap_encodeByte (bs : List UInt8) : bytes (bs.flatMap encodeByte) = bs := by
  induction bs with
  | nil => rfl
  | cons b bs ih => rw [List.flatMap_cons, bytes_encodeByte_append, ih]

theorem fromUTF8?_utf8Encode (text : String) :
    String.fromUTF8? ⟨(text.toList.flatMap String.utf8EncodeChar).toArray⟩ = some text := by
  have hbytes : (⟨(text.toList.flatMap String.utf8EncodeChar).toArray⟩ : ByteArray)
      = text.toByteArray := by
    rw [← String.utf8Encode_toList]
    exact ByteArray.ext List.data_toByteArray.symm
  rw [hbytes, String.fromUTF8?, dif_pos text.isValidUTF8]
  rfl

theorem decode?_encode (text : String) : decode? (encode text) = some text := by
  rw [decode?, encode, String.toList_ofList, bytes_flatMap_encodeByte]
  exact fromUTF8?_utf8Encode text

def IsEncodedChar (c : Char) : Prop :=
  c.isAlphanum = true ∨ c ∈ ['%', '-', '_', '.', '~']

instance (c : Char) : Decidable (IsEncodedChar c) := by unfold IsEncodedChar; infer_instance

theorem isEncodedChar_of_mem_encodeByte {b : UInt8} {c : Char} (hc : c ∈ encodeByte b) :
    IsEncodedChar c := by
  have hall : ∀ n < 256, (encodeByte (.ofNat n)).all (fun c => IsEncodedChar c) = true := by
    decide +kernel
  have h := hall b.toNat b.toNat_lt
  rw [UInt8.ofNat_toNat] at h
  exact of_decide_eq_true (List.all_eq_true.mp h c hc)

theorem isEncodedChar_of_mem_encode {text : String} {c : Char}
    (hc : c ∈ (encode text).toList) : IsEncodedChar c := by
  rw [encode, String.toList_ofList] at hc
  obtain ⟨b, _, hb⟩ := List.mem_flatMap.mp hc
  exact isEncodedChar_of_mem_encodeByte hb

end NetworkPortal.Text.Percent

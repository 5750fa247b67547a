import Mathlib.Data.Nat.Notation
import Mathlib.Data.Int.Notation
import Mathlib.Data.List.Induction
import Mathlib.Data.List.TakeWhile
import Mathlib.Logic.Relation
import NetworkPortal.Time.Timestamp

/-! # Spellings of a timestamp

A timestamp is a clock of nineteen characters, a fraction of a second and an offset. The character
between date and time and the zeros at the end of the fraction can be chosen freely.
-/
namespace NetworkPortal.Time.Timestamp

/-! ## Readers of a fixed number of characters -/

variable {α β : Type} {count more : ℕ} {reader : List Char → Option (α × List Char)}
  {next : α → List Char → Option (β × List Char)}

/-- The reader takes this many characters, whatever follows them. -/
def Takes (count : ℕ) (reader : List Char → Option (α × List Char)) : Prop :=
  ∀ front rest, front.length = count →
    reader (front ++ rest) = (reader front).map fun read => (read.1, rest)

theorem takes_some (a : α) : Takes 0 fun rest => some (a, rest) := by
  intro front rest h
  rw [List.length_eq_zero_iff.1 h]
  rfl

theorem takes_number (count value : ℕ) : Takes count (number? count value) := by
  induction count generalizing value with
  | zero => exact takes_some value
  | succ count ih =>
    intro front rest h
    match front with
    | [] => simp at h
    | c :: front =>
      rw [List.cons_append, number?, number?]
      cases digit? c with
      | none => rfl
      | some d => exact ih _ front rest (by simpa using h)

theorem Takes.bind (h : Takes count reader) (hnext : ∀ a, Takes more (next a)) :
    Takes (count + more) fun text => (reader text).bind fun read => next read.1 read.2 := by
  intro front rest hfront
  have hsplit : (front.take count).length = count := by rw [List.length_take]; omega
  have hmore : (front.drop count).length = more := by rw [List.length_drop]; omega
  rw [← List.take_append_drop count front, List.append_assoc]
  dsimp only
  rw [h _ _ hsplit, h _ _ hsplit]
  cases reader (front.take count) with
  | none => rfl
  | some read => exact hnext read.1 _ rest hmore

theorem Takes.after {skip : List Char → Option (List Char)} (ok : Char → Bool)
    (hskip : ∀ c rest, skip (c :: rest) = if ok c then some rest else none)
    (h : Takes count reader) : Takes (1 + count) fun text => (skip text).bind reader := by
  intro front rest hfront
  match front with
  | [] => simp at hfront; omega
  | c :: front =>
    have hrest : front.length = count := by simpa [Nat.add_comm 1] using hfront
    simp only [List.cons_append, hskip]
    split
    · exact h front rest hrest
    · rfl

theorem Takes.expect (c : Char) (h : Takes count reader) :
    Takes (1 + count) fun text => (expect? c text).bind reader :=
  h.after (· = c) fun d rest => by simp only [expect?, decide_eq_true_eq]

/-! ## The clock -/

def date? (text : List Char) : Option ((ℕ × ℕ × ℕ) × List Char) := do
  let (year, rest) ← number? 4 0 text
  let rest ← expect? '-' rest
  let (month, rest) ← number? 2 0 rest
  let rest ← expect? '-' rest
  let (day, rest) ← number? 2 0 rest
  some ((year, month, day), rest)

def isSeparator (c : Char) : Bool := c = 'T' || c = 't' || c = ' '

def separator? : List Char → Option (List Char)
  | c :: rest => if isSeparator c then some rest else none
  | [] => none

def time? (text : List Char) : Option ((ℕ × ℕ × ℕ) × List Char) := do
  let (hour, rest) ← number? 2 0 text
  let rest ← expect? ':' rest
  let (minute, rest) ← number? 2 0 rest
  let rest ← expect? ':' rest
  let (second, rest) ← number? 2 0 rest
  some ((hour, minute, second), rest)

theorem takes_date : Takes 10 date? :=
  .bind (takes_number 4 0) fun year => .expect '-' <|
    .bind (takes_number 2 0) fun month => .expect '-' <|
    .bind (takes_number 2 0) fun day => takes_some (year, month, day)

theorem takes_time : Takes 8 time? :=
  .bind (takes_number 2 0) fun hour => .expect ':' <|
    .bind (takes_number 2 0) fun minute => .expect ':' <|
    .bind (takes_number 2 0) fun second => takes_some (hour, minute, second)

def clock? (text : List Char) : Option (((ℕ × ℕ × ℕ) × ℕ × ℕ × ℕ) × List Char) := do
  let (date, rest) ← date? text
  let rest ← separator? rest
  let (time, rest) ← time? rest
  some ((date, time), rest)

theorem takes_clock : Takes 19 clock? :=
  .bind takes_date fun date => .after isSeparator (fun _ _ => rfl) <|
    .bind takes_time fun time => takes_some (date, time)

def zone? (text : List Char) : Option (ℕ × ℤ) := do
  let (nanos, rest) ← fraction? text
  let offset ← offset? rest
  some (nanos, offset)

theorem bind_date (text : List Char) (next : (ℕ × ℕ × ℕ) × List Char → Option α) :
    (date? text).bind next = (number? 4 0 text).bind fun year =>
      (expect? '-' year.2).bind fun rest => (number? 2 0 rest).bind fun month =>
        (expect? '-' month.2).bind fun rest => (number? 2 0 rest).bind fun day =>
          next ((year.1, month.1, day.1), day.2) := by
  simp only [date?, Option.bind_eq_bind, Option.bind_assoc, Option.bind_some]

theorem bind_time (text : List Char) (next : (ℕ × ℕ × ℕ) × List Char → Option α) :
    (time? text).bind next = (number? 2 0 text).bind fun hour =>
      (expect? ':' hour.2).bind fun rest => (number? 2 0 rest).bind fun minute =>
        (expect? ':' minute.2).bind fun rest => (number? 2 0 rest).bind fun second =>
          next ((hour.1, minute.1, second.1), second.2) := by
  simp only [time?, Option.bind_eq_bind, Option.bind_assoc, Option.bind_some]

theorem bind_clock (text : List Char) (next : ((ℕ × ℕ × ℕ) × ℕ × ℕ × ℕ) × List Char → Option α) :
    (clock? text).bind next = (date? text).bind fun date => (separator? date.2).bind fun rest =>
      (time? rest).bind fun time => next ((date.1, time.1), time.2) := by
  simp only [clock?, Option.bind_eq_bind, Option.bind_assoc, Option.bind_some]

theorem bind_zone (text : List Char) (next : ℕ × ℤ → Option α) :
    (zone? text).bind next = (fraction? text).bind fun fraction =>
      (offset? fraction.2).bind fun offset => next (fraction.1, offset) := by
  simp only [zone?, Option.bind_eq_bind, Option.bind_assoc, Option.bind_some]

def assemble? (clock : (ℕ × ℕ × ℕ) × ℕ × ℕ × ℕ) (zone : ℕ × ℤ) : Option Timestamp :=
  let ((year, month, day), hour, minute, second) := clock
  let t : Timestamp := ⟨year, month, day, hour, minute, second, zone.1, zone.2⟩
  if t.isValid then some t else none

theorem ofChars?_eq (text : List Char) : ofChars? text = (clock? text).bind fun clock =>
    (zone? clock.2).bind (assemble? clock.1) := by
  rw [bind_clock, bind_date]
  -- Both sides read the same up to the day; from there on the separator decides.
  iterate 4 refine Option.bind_congr fun _ _ => ?_
  refine Option.bind_congr fun read _ => ?_
  obtain ⟨day, rest⟩ := read
  cases rest with
  | nil => rfl
  | cons c rest =>
    by_cases hseparator : isSeparator c = true
    · simp only [separator?, if_pos hseparator, Option.bind_some, bind_time, bind_zone]
      exact if_pos hseparator
    · rw [separator?, if_neg hseparator]
      exact if_neg hseparator

/-! ## The fraction -/

variable {digits rest : List Char} {c : Char} {nanos : ℕ}

def fractionNanos (digits : List Char) : ℕ :=
  Text.ofDigits (digits.take 9) * Nat.pow 10 (9 - digits.length)

theorem ofDigits_append_singleton (digits : List Char) (c : Char) :
    Text.ofDigits (digits ++ [c]) = 10 * Text.ofDigits digits + Text.digitValue c := by
  rw [Text.ofDigits, Text.ofDigits, List.foldl_append]
  rfl

theorem fractionNanos_zero (digits : List Char) :
    fractionNanos (digits ++ ['0']) = fractionNanos digits := by
  unfold fractionNanos
  rw [List.length_append, List.length_singleton]
  obtain hshort | hlong := Nat.lt_or_ge digits.length 9
  · have hpower : 9 - digits.length = 9 - (digits.length + 1) + 1 := by omega
    have hzero : Text.digitValue '0' = 0 := rfl
    rw [List.take_of_length_le (Nat.le_of_lt hshort), List.take_of_length_le (by simp; omega),
      ofDigits_append_singleton, hpower, hzero, Nat.pow_eq, Nat.pow_eq, Nat.pow_succ]
    rw [Nat.add_zero, Nat.mul_comm 10, Nat.mul_assoc, Nat.mul_comm 10]
  · rw [List.take_append_of_le_length hlong, Nat.sub_eq_zero_of_le hlong,
      Nat.sub_eq_zero_of_le (Nat.le_succ_of_le hlong)]

theorem digitValue_lt (h : c.isDigit = true) : Text.digitValue c < 10 := by
  have hlast : '9'.toNat = 57 := rfl
  have hvalue := (Char.isDigit_iff_toNat.1 h).2
  unfold Text.digitValue
  omega

theorem ofDigits_lt (h : ∀ c ∈ digits, c.isDigit = true) :
    Text.ofDigits digits < Nat.pow 10 digits.length := by
  induction digits using List.reverseRecOn with
  | nil => decide
  | append_singleton digits c ih =>
    rw [List.forall_mem_append, List.forall_mem_singleton] at h
    have hvalue := digitValue_lt h.2
    have hdigits := ih h.1
    rw [ofDigits_append_singleton, List.length_append, List.length_singleton]
    change _ < Nat.pow 10 digits.length * 10
    omega

theorem fractionNanos_lt (h : ∀ c ∈ digits, c.isDigit = true) :
    fractionNanos digits < 1000000000 := by
  have htake : Text.ofDigits (digits.take 9) < Nat.pow 10 (min 9 digits.length) := by
    rw [← List.length_take]
    exact ofDigits_lt fun c hc => h c (List.mem_of_mem_take hc)
  calc fractionNanos digits
    _ < Nat.pow 10 (min 9 digits.length) * Nat.pow 10 (9 - digits.length) :=
      Nat.mul_lt_mul_of_pos_right htake (Nat.pow_pos (by decide))
    _ = Nat.pow 10 9 := by
      rw [Nat.pow_eq, Nat.pow_eq, Nat.pow_eq, ← Nat.pow_add]
      congr 1
      omega

def DigitsEnd (rest : List Char) : Prop := ∀ c ∈ rest.head?, c.isDigit = false

theorem fraction?_digits (hdigits : ∀ c ∈ digits, c.isDigit = true) (hne : digits ≠ [])
    (hrest : DigitsEnd rest) :
    fraction? ('.' :: (digits ++ rest)) = some (fractionNanos digits, rest) := by
  have htake : rest.takeWhile Char.isDigit = [] ∧ rest.dropWhile Char.isDigit = rest := by
    cases rest with
    | nil => exact ⟨rfl, rfl⟩
    | cons c rest => simp [hrest c rfl]
  rw [fraction?, List.takeWhile_append_of_pos hdigits, List.dropWhile_append_of_pos hdigits,
    htake.1, htake.2, List.append_nil]
  exact if_neg (by simpa using hne)

theorem fraction?_of_ne (h : rest.head? ≠ some '.') : fraction? rest = some (0, rest) := by
  unfold fraction?
  split
  · exact absurd rfl h
  · rfl

theorem fraction?_lt {text : List Char} (h : fraction? text = some (nanos, rest)) :
    nanos < 1000000000 := by
  unfold fraction? at h
  split at h
  · rename_i text
    dsimp only at h
    split at h
    · cases h
    · cases h
      exact fractionNanos_lt fun c hc => List.mem_takeWhile_imp hc
  · cases h
    decide

theorem zone?_lt {text : List Char} {offset : ℤ} (h : zone? text = some (nanos, offset)) :
    nanos < 1000000000 := by
  simp only [zone?, Option.bind_eq_bind, Option.bind_eq_some_iff] at h
  obtain ⟨⟨nanos', rest⟩, hfraction, offset', -, hsame⟩ := h
  cases hsame
  exact fraction?_lt hfraction

theorem nanos_of_assemble {clock : (ℕ × ℕ × ℕ) × ℕ × ℕ × ℕ} {zone : ℕ × ℤ} {t : Timestamp}
    (h : assemble? clock zone = some t) : t.nanos = zone.1 := by
  obtain ⟨-, hsame⟩ := Option.ite_none_right_eq_some.1 h
  cases hsame
  rfl

theorem nanos_lt {text : List Char} {t : Timestamp} (h : ofChars? text = some t) :
    t.nanos < 1000000000 := by
  simp only [ofChars?_eq, Option.bind_eq_some_iff] at h
  obtain ⟨clock, -, zone, hzone, ht⟩ := h
  rw [nanos_of_assemble ht]
  exact zone?_lt hzone

/-! ## Respelling -/

/-- Another separator between date and time, or one zero more at the end of the fraction. -/
inductive Respelling : List Char → List Char → Prop where
  | separator {date more : List Char} {c c' : Char} (hdate : date.length = 10)
      (h : c ∈ ['T', 't', ' ']) (h' : c' ∈ ['T', 't', ' ']) :
      Respelling (date ++ c :: more) (date ++ c' :: more)
  | zero {clock digits more : List Char} (hclock : clock.length = 19)
      (hdigits : ∀ c ∈ digits, c.isDigit = true) (hne : digits ≠ []) (hmore : DigitsEnd more) :
      Respelling (clock ++ '.' :: (digits ++ more)) (clock ++ '.' :: (digits ++ '0' :: more))
  | fraction {clock more : List Char} (hclock : clock.length = 19) (hmore : DigitsEnd more)
      (hpoint : more.head? ≠ some '.') :
      Respelling (clock ++ more) (clock ++ '.' :: '0' :: more)

theorem clock?_separator {date more : List Char} {c c' : Char} (hdate : date.length = 10)
    (h : isSeparator c = true) (h' : isSeparator c' = true) :
    clock? (date ++ c :: more) = clock? (date ++ c' :: more) := by
  rw [clock?, clock?, takes_date _ _ hdate, takes_date _ _ hdate]
  cases date? date with
  | none => rfl
  | some read => simp [separator?, h, h']

theorem ofChars?_of_zone {clock more more' : List Char} (hclock : clock.length = 19)
    (h : zone? more = zone? more') : ofChars? (clock ++ more) = ofChars? (clock ++ more') := by
  rw [ofChars?_eq, ofChars?_eq, takes_clock _ _ hclock, takes_clock _ _ hclock]
  cases clock? clock with
  | none => rfl
  | some read => simp [h]

theorem Respelling.ofChars?_eq {text text' : List Char} (h : Respelling text text') :
    ofChars? text = ofChars? text' := by
  cases h with
  | separator hdate h h' =>
    rw [Timestamp.ofChars?_eq, Timestamp.ofChars?_eq,
      clock?_separator hdate (by simpa [isSeparator, or_assoc] using h)
        (by simpa [isSeparator, or_assoc] using h')]
  | @zero clock digits more hclock hdigits hne hmore =>
    have hzero : '.' :: (digits ++ '0' :: more) = '.' :: ((digits ++ ['0']) ++ more) := by simp
    have hmoreDigits : ∀ c ∈ digits ++ ['0'], c.isDigit = true :=
      List.forall_mem_append.2 ⟨hdigits, List.forall_mem_singleton.2 rfl⟩
    refine ofChars?_of_zone hclock ?_
    rw [zone?, zone?, hzero, fraction?_digits hdigits hne hmore,
      fraction?_digits hmoreDigits (by simp) hmore, fractionNanos_zero]
  | @fraction clock more hclock hmore hpoint =>
    refine ofChars?_of_zone hclock ?_
    have hzero : fraction? ('.' :: (['0'] ++ more)) = some (0, more) :=
      fraction?_digits (List.forall_mem_singleton.2 rfl) (List.cons_ne_nil _ _) hmore
    rw [zone?, zone?, fraction?_of_ne hpoint, ← hzero]
    rfl

theorem ofChars?_of_eqvGen {text text' : List Char} (h : Relation.EqvGen Respelling text text') :
    ofChars? text = ofChars? text' := by
  induction h with
  | rel text text' h => exact h.ofChars?_eq
  | refl text => rfl
  | symm text text' h ih => exact ih.symm
  | trans text text' text'' h h' ih ih' => exact ih.trans ih'

end NetworkPortal.Time.Timestamp

import NetworkPortal.Proofs.Plugin.Tab
import NetworkPortal.Proofs.Time.Instant
import NetworkPortal.Proofs.Time.Spelling
import NetworkPortal.Time.Age

/-! # Ages cover the time elapsed

The largest unit that fits is counted, rounding down. Timestamps of one instant have one age, and
the age only grows with the time that has passed.
-/
namespace NetworkPortal.Time

namespace Age

variable {age age' : Age} {seconds seconds' : ℕ} {shown : String}

def span (age : Age) : ℕ := age.count * age.unit.seconds

/-- So many seconds have this age: they reach its count, not the next one, and no other unit fits. -/
structure Covers (age : Age) (seconds : ℕ) : Prop where
  reached : age.span ≤ seconds
  next : seconds < (age.count + 1) * age.unit.seconds
  second_lt : age.unit = .second → age.count < 60
  minute_lt : age.unit = .minute → age.count < 60
  hour_lt : age.unit = .hour → age.count < 24
  count_pos : age.unit ≠ .second → 1 ≤ age.count

theorem covers_ofSeconds (seconds : ℕ) : (ofSeconds seconds).Covers seconds := by
  unfold ofSeconds
  split_ifs <;> constructor <;> simp [span, AgeUnit.seconds] <;> omega

theorem Covers.span_le (h : age.Covers seconds) (h' : age'.Covers seconds')
    (hle : seconds ≤ seconds') : age.span ≤ age'.span := by
  obtain ⟨count, unit⟩ := age
  obtain ⟨count', unit'⟩ := age'
  obtain ⟨hreached, -, hsecond, hminute, hhour, -⟩ := h
  obtain ⟨-, hnext, -, -, -, hpos⟩ := h'
  -- A smaller unit ends below one of a larger unit.
  cases unit <;> cases unit' <;> simp [span, AgeUnit.seconds] at * <;> omega

/-- The words for an age: the unit is in the singular for a count of one only. -/
structure Tells (shown : String) (age : Age) : Prop where
  singular : age.count = 1 → shown = toString age.count ++ " " ++ age.unit.name
  plural : age.count ≠ 1 → shown = toString age.count ++ " " ++ age.unit.name ++ "s"

theorem tells_iff : Tells shown age ↔ shown = age.text := by
  unfold text
  constructor
  · rintro ⟨hsingular, hplural⟩
    split_ifs with hone
    · simpa using hsingular hone
    · exact hplural hone
  · rintro rfl
    exact ⟨fun hone => by simp [hone], fun hmany => by rw [if_neg hmany]⟩

def word (age : Age) : String := age.unit.name ++ (if age.count = 1 then "" else "s")

theorem toList_text (age : Age) :
    age.text.toList = (toString age.count).toList ++ ' ' :: age.word.toList := by
  simp [text, word, String.append_assoc]

theorem blank_notMem_count (n : ℕ) : ' ' ∉ (toString n).toList := by
  rw [Nat.toString_eq_repr, Nat.toList_repr]
  intro hmem
  cases Nat.isDigit_of_mem_toDigits (by decide) (by decide) hmem

theorem blank_notMem_word (age : Age) : ' ' ∉ age.word.toList := by
  unfold word
  cases age.unit <;> split_ifs <;> decide

theorem name_injective : Function.Injective AgeUnit.name := by
  intro unit unit' h
  cases unit <;> cases unit' <;> first | rfl | exact absurd h (by decide)

theorem text_injective : Function.Injective text := by
  intro age age' h
  have hsplit := congrArg String.toList h
  rw [toList_text, toList_text,
    List.append_cons_inj_of_notMem (blank_notMem_count _) (blank_notMem_word _)] at hsplit
  obtain ⟨hdigits, -, hword⟩ := hsplit
  have hcount := Plugin.Tab.toString_injective (String.toList_inj.1 hdigits)
  have hname := String.toList_inj.1 hword
  rw [word, word, hcount, String.append_left_inj] at hname
  cases age
  cases age'
  cases hcount
  cases name_injective hname
  rfl

theorem tells_text_iff : Tells age.text age' ↔ age' = age := by
  rw [tells_iff, text_injective.eq_iff, eq_comm]

end Age

/-! ## The age shown -/

open Timestamp

theorem ago?_eq {text : String} {t : Timestamp} (hread : read? text = some t) (now : Instant) :
    ago? text now = some (Age.ofSeconds (t.elapsed now)).text := by
  rw [ago?, hread]
  rfl

/-- The age shown covers the time elapsed, the same for every spelling of the timestamp and for
every timestamp of its instant. Where the time is measured exactly, as it is unless the present is
in a leap second inside a day, this is the distance of the instants, and the age shown for an
earlier one is no less. -/
theorem ago_tells_elapsed (now : Instant) {text : String} {t : Timestamp}
    (hread : read? text = some t) (hsecond : t.second < 60) :
    (now.LeapEndsDay → t.IsMeasuredAt now) ∧
    ∃ shown age, ago? text now = some shown ∧ (∀ age', Age.Tells shown age' ↔ age' = age) ∧
      age.Covers (t.elapsed now) ∧
      (t.IsMeasuredAt now →
        t.elapsed now = ((now.position - t.position) / 1000000000).toNat) ∧
      (∀ text' : String, Relation.EqvGen Respelling text.toList text'.toList →
        ago? text' now = some shown) ∧
      ∀ text' t', read? text' = some t' → t'.second < 60 →
        (t'.position = t.position → ago? text' now = some shown) ∧
        (t.IsMeasuredAt now → t'.IsMeasuredAt now → t'.position ≤ t.position →
          ∃ shown', ago? text' now = some shown' ∧
            ∀ age', Age.Tells shown' age' → age.span ≤ age'.span) := by
  have hnanos := nanos_lt hread
  refine ⟨isMeasuredAt_of_leapEndsDay hsecond hnanos, _, _, ago?_eq hread now,
    fun age' => Age.tells_text_iff, Age.covers_ofSeconds _, elapsed_eq, fun text' hrespelled => ?_,
    fun text' t' hread' hsecond' => ⟨fun hsame => ?_, fun hmeasured hmeasured' hearlier => ?_⟩⟩
  · rw [ago?, read?, ← ofChars?_of_eqvGen hrespelled, ← ago?_eq hread now]
    rfl
  · rw [ago?_eq hread', elapsed_of_position hsecond hsecond' hnanos (nanos_lt hread') hsame]
  · have hlonger : t.elapsed now ≤ t'.elapsed now := elapsed_le hmeasured hmeasured' hearlier
    refine ⟨_, ago?_eq hread' now, fun age' htells => ?_⟩
    rw [Age.tells_text_iff.1 htells]
    exact (Age.covers_ofSeconds _).span_le (Age.covers_ofSeconds _) hlonger

/-- Half an hour before midnight on a leap day, in an hour behind universal time. -/
def leapEvening : Timestamp := ⟨2024, 2, 29, 23, 30, 0, 500000000, -3600⟩

theorem ago_leapEvening : read? "2024-02-29T23:30:00.5-01:00" = some leapEvening ∧
    leapEvening.second < 60 ∧ ∃ shown age,
      ago? "2024-02-29T23:30:00.5-01:00" ⟨19783, 43200, 0⟩ = some shown ∧ Age.Tells shown age ∧
      age.Covers 41399 ∧ ago? "2024-03-01t00:30:00.50Z" ⟨19783, 43200, 0⟩ = some shown := by
  have hread : read? "2024-02-29T23:30:00.5-01:00" = some leapEvening := by decide
  have hsecond : leapEvening.second < 60 := by decide
  obtain ⟨-, shown, age, hshown, htells, hcovers, -, -, hothers⟩ :=
    ago_tells_elapsed ⟨19783, 43200, 0⟩ hread hsecond
  have hsame := (hothers "2024-03-01t00:30:00.50Z" ⟨2024, 3, 1, 0, 30, 0, 500000000, 0⟩ (by decide)
    (by decide)).1 (by decide)
  have helapsed : leapEvening.elapsed ⟨19783, 43200, 0⟩ = 41399 := by decide
  exact ⟨hread, hsecond, shown, age, hshown, (htells age).2 rfl, helapsed ▸ hcovers, hsame⟩

end NetworkPortal.Time

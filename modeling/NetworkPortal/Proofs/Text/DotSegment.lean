import NetworkPortal.Proofs.Text.Percent
import NetworkPortal.Text.Basic

/-! # Dot segments

A reader of an address carries out the steps `.` and `..` that stand between its slashes, and takes
a percent-encoded dot for a dot. A path without such steps is left as it is, and no text that is
encoded as one segment turns into a step.
-/
namespace NetworkPortal.Text

open Percent (bytes decode? encode)

/-- The spellings of `n` dots in lower case, each dot written as it is or percent-encoded. -/
def dotSpellings : ℕ → List (List Char)
  | 0 => [[]]
  | n + 1 => ((dotSpellings n).map ('.' :: ·)) ++
      (dotSpellings n).map fun dots => '%' :: '2' :: 'e' :: dots

/-- A step that stays in a directory. -/
def isStay (segment : String) : Bool := segment.toList.map Char.toLower ∈ dotSpellings 1

/-- A step up by one directory. -/
def isUp (segment : String) : Bool := segment.toList.map Char.toLower ∈ dotSpellings 2

def isDotSegment (segment : String) : Bool := isStay segment || isUp segment

/-- What is left of segments when the steps among them are carried out. A step up drops the last
segment of `done`, which holds what came before in reverse order, and a step at the end leaves a
directory. -/
def walkSegments (done : List String) : List String → List String
  | [] => done.reverse
  | segment :: rest =>
    if isDotSegment segment then
      let left := if isUp segment then done.tail else done
      walkSegments (if rest.isEmpty then "" :: left else left) rest
    else walkSegments (segment :: done) rest

def removeDotSegments (path : String) : String :=
  match cutAt '/' path with
  | [] => path
  | first :: segments => "/".intercalate (first :: walkSegments [] segments)

theorem walkSegments_of_forall {segments : List String} (done : List String)
    (h : ∀ s ∈ segments, isDotSegment s = false) :
    walkSegments done segments = done.reverse ++ segments := by
  induction segments generalizing done with
  | nil => rw [walkSegments, List.append_nil]
  | cons s rest ih =>
    have hs : ¬ isDotSegment s = true := by simp [h s List.mem_cons_self]
    have hrest := ih (s :: done) (fun t ht => h t (List.mem_cons_of_mem s ht))
    rw [walkSegments, if_neg hs, hrest, List.reverse_cons, List.append_assoc,
      List.singleton_append]

theorem cutAt_intercalate {pieces : List String} (hne : pieces ≠ [])
    (h : ∀ p ∈ pieces, '/' ∉ p.toList) : cutAt '/' ("/".intercalate pieces) = pieces := by
  have hsplit : (['/'].intercalate (pieces.map String.toList)).splitOn '/' =
      pieces.map String.toList :=
    List.splitOn_intercalate '/' (by simpa using h) (by simpa using hne)
  rw [cutAt, String.toList_intercalate, show "/".toList = ['/'] from rfl, hsplit, List.map_map]
  simp

theorem intercalate_cutAt (text : String) : "/".intercalate (cutAt '/' text) = text := by
  apply String.toList_inj.mp
  rw [String.toList_intercalate, cutAt, List.map_map, show "/".toList = ['/'] from rfl]
  simp [Function.comp_def, List.intercalate_splitOn]

theorem not_mem_of_mem_splitOn {c : Char} {chars piece : List Char}
    (h : piece ∈ chars.splitOn c) : c ∉ piece := by
  induction chars generalizing piece with
  | nil =>
    rw [List.splitOn_nil, List.mem_singleton] at h
    exact h ▸ List.not_mem_nil
  | cons d rest ih =>
    rw [List.splitOn_cons_eq_if_modifyHead] at h
    split at h
    · rcases List.mem_cons.mp h with rfl | h
      · exact List.not_mem_nil
      · exact ih h
    · next hne =>
      obtain ⟨first, more, hsplit⟩ := List.exists_cons_of_ne_nil (List.splitOn_ne_nil c rest)
      rw [hsplit] at h ih
      rcases List.mem_cons.mp h with rfl | h
      · rw [List.mem_cons, not_or]
        exact ⟨fun heq => hne (beq_iff_eq.mpr heq.symm), ih List.mem_cons_self⟩
      · exact ih (List.mem_cons_of_mem first h)

theorem not_mem_of_mem_cutAt {c : Char} {text piece : String} (h : piece ∈ cutAt c text) :
    c ∉ piece.toList := by
  obtain ⟨chars, hchars, rfl⟩ := List.mem_map.mp h
  rw [String.toList_ofList]
  exact not_mem_of_mem_splitOn hchars

theorem removeDotSegments_intercalate {first : String} {segments : List String}
    (hfirst : '/' ∉ first.toList) (h : ∀ s ∈ segments, '/' ∉ s.toList)
    (hdot : ∀ s ∈ segments, isDotSegment s = false) :
    removeDotSegments ("/".intercalate (first :: segments))
      = "/".intercalate (first :: segments) := by
  have hcut : cutAt '/' ("/".intercalate (first :: segments)) = first :: segments :=
    cutAt_intercalate (List.cons_ne_nil _ _) (List.forall_mem_cons.mpr ⟨hfirst, h⟩)
  simp only [removeDotSegments, hcut, walkSegments_of_forall [] hdot, List.reverse_nil,
    List.nil_append]

theorem eq_or_of_toLower_eq {c d : Char} (h : c.toLower = d) :
    c = d ∨ 65 ≤ c.toNat ∧ c.toNat ≤ 90 ∧ c.toNat + 32 = d.toNat := by
  unfold Char.toLower at h
  split at h
  · next hc =>
    have hlow : 65 ≤ c.toNat := hc.1
    have hhigh : c.toNat ≤ 90 := hc.2
    refine Or.inr ⟨hlow, hhigh, ?_⟩
    rw [← h]
    change c.toNat + 32 = (c.val + 32).toNat
    rw [UInt32.toNat_add]
    change c.toNat + 32 = (c.toNat + 32) % 2 ^ 32
    omega
  · exact Or.inl h

theorem eq_of_toLower_eq {c d : Char} (hd : d.toNat < 97) (h : c.toLower = d) : c = d := by
  rcases eq_or_of_toLower_eq h with h | ⟨hlow, _, hsum⟩
  · exact h
  · omega

theorem bytes_of_toLower_dot {l dots : List Char} (h : l.map Char.toLower = '.' :: dots) :
    ∃ l', l'.map Char.toLower = dots ∧ bytes l = 46 :: bytes l' := by
  obtain ⟨c, l', rfl, hc, hl⟩ := List.map_eq_cons_iff.mp h
  obtain rfl : c = '.' := eq_of_toLower_eq (by decide) hc
  exact ⟨l', hl, Percent.bytes_encodeByte_append 46 l'⟩

theorem bytes_of_toLower_escape {l dots : List Char}
    (h : l.map Char.toLower = '%' :: '2' :: 'e' :: dots) :
    ∃ l', l'.map Char.toLower = dots ∧ bytes l = 46 :: bytes l' := by
  obtain ⟨c, l₁, rfl, hc, h₁⟩ := List.map_eq_cons_iff.mp h
  obtain ⟨t, l₂, rfl, ht, h₂⟩ := List.map_eq_cons_iff.mp h₁
  obtain ⟨e, l', rfl, he, hl⟩ := List.map_eq_cons_iff.mp h₂
  obtain rfl : c = '%' := eq_of_toLower_eq (by decide) hc
  obtain rfl : t = '2' := eq_of_toLower_eq (by decide) ht
  have hbyte : Percent.byte? '2' e = some 46 := by
    rcases eq_or_of_toLower_eq he with rfl | ⟨_, _, hsum⟩
    · rfl
    · obtain rfl : e = 'E' := Char.toNat_inj.mp (Nat.add_right_cancel (m := 32) hsum)
      rfl
  exact ⟨l', hl, by rw [bytes, if_pos rfl, hbyte]⟩

theorem bytes_of_mem_dotSpellings {n : ℕ} {l : List Char}
    (h : l.map Char.toLower ∈ dotSpellings n) : bytes l = List.replicate n 46 := by
  induction n generalizing l with
  | zero =>
    have hl : l = [] := List.map_eq_nil_iff.mp (List.mem_singleton.mp h)
    rw [hl, bytes, List.replicate_zero]
  | succ n ih =>
    have hstep : ∃ l', l'.map Char.toLower ∈ dotSpellings n ∧ bytes l = 46 :: bytes l' := by
      rcases List.mem_append.mp h with h | h
      · obtain ⟨dots, hdots, hl⟩ := List.mem_map.mp h
        obtain ⟨l', hl', hbytes⟩ := bytes_of_toLower_dot hl.symm
        exact ⟨l', hl' ▸ hdots, hbytes⟩
      · obtain ⟨dots, hdots, hl⟩ := List.mem_map.mp h
        obtain ⟨l', hl', hbytes⟩ := bytes_of_toLower_escape hl.symm
        exact ⟨l', hl' ▸ hdots, hbytes⟩
    obtain ⟨l', hl', hbytes⟩ := hstep
    rw [hbytes, ih hl', List.replicate_succ]

theorem eq_of_bytes_encode {text plain : String} (hplain : encode plain = plain)
    (h : bytes (encode text).toList = bytes plain.toList) : text = plain := by
  have hdecode : decode? (encode text) = decode? (encode plain) := by
    rw [hplain, decode?, decode?, h]
  rw [Percent.decode?_encode, Percent.decode?_encode] at hdecode
  exact Option.some.inj hdecode

/-- The only texts that are encoded as a step are the steps written with plain dots. -/
theorem eq_of_isDotSegment_encode {text : String} (h : isDotSegment (encode text) = true) :
    text = "." ∨ text = ".." := by
  rw [isDotSegment, Bool.or_eq_true, isStay, isUp, decide_eq_true_eq, decide_eq_true_eq] at h
  rcases h with h | h
  · exact Or.inl (eq_of_bytes_encode (by decide +kernel) (bytes_of_mem_dotSpellings h))
  · exact Or.inr (eq_of_bytes_encode (by decide +kernel) (bytes_of_mem_dotSpellings h))

end NetworkPortal.Text

import Mathlib.Data.List.Nodup
import NetworkPortal.Command.Options

/-! # Options are given once

A command line that gives an option twice is refused, however the two are spelled. So the options of
a command line that is read have names of their own.
-/
namespace NetworkPortal.Command

variable {choices : List Choice} {choice : Choice} {settled settled' : Settled}
  {pending pending' : Pending} {rest : List String}

theorem exists_ok_of_map {ε α β : Type} {result : Except ε α} {f : α → β} {b : β}
    (h : result.map f = .ok b) : ∃ a, result = .ok a ∧ f a = b := by
  cases result with
  | error refusal => cases h
  | ok a => exact ⟨a, rfl, Except.ok.inj h⟩

def GivenOnce (settled : Settled) : Prop := (settled.map Prod.fst).Nodup

theorem GivenOnce.settle {given : Option Given} (h : GivenOnce settled)
    (hok : settle choice given settled = .ok settled') : GivenOnce settled' := by
  unfold Command.settle at hok
  cases given with
  | none => cases hok
  | some given =>
    dsimp only at hok
    by_cases htaken : settled.any (·.1 == choice.name) = true
    · rw [if_pos htaken] at hok
      cases hok
    · rw [if_neg htaken] at hok
      obtain rfl := Except.ok.inj hok
      have hnot : choice.name ∉ settled.map Prod.fst := by
        simpa using htaken
      rw [GivenOnce, List.map_append, List.map_singleton]
      exact h.append (List.nodup_singleton _) (List.disjoint_singleton.mpr hnot)

theorem GivenOnce.settleFlag (h : GivenOnce settled)
    (hok : settleFlag choice settled = .ok settled') : GivenOnce settled' := by
  unfold Command.settleFlag at hok
  split at hok
  · exact h.settle hok
  all_goals cases hok

theorem GivenOnce.settleShort {chars : List Char} (h : GivenOnce settled)
    (hok : settleShort choices chars settled = .ok (settled', pending)) : GivenOnce settled' := by
  induction chars generalizing settled with
  | nil =>
    obtain ⟨rfl, -⟩ := Prod.mk.inj (Except.ok.inj hok)
    exact h
  | cons c chars ih =>
    unfold Command.settleShort at hok
    cases hfind : choices.find? (·.short == some c) with
    | none =>
      rw [hfind] at hok
      cases hok
    | some choice =>
      simp only [hfind] at hok
      by_cases htakes : choice.kind.takesValue = true
      · rw [if_pos htakes] at hok
        split at hok
        · obtain ⟨rfl, -⟩ := Prod.mk.inj (Except.ok.inj hok)
          exact h
        all_goals
          obtain ⟨given, hgiven, heq⟩ := exists_ok_of_map hok
          obtain ⟨rfl, -⟩ := Prod.mk.inj heq
          exact h.settle hgiven
      · rw [if_neg htakes] at hok
        cases hflag : Command.settleFlag choice settled with
        | error refusal =>
          rw [hflag] at hok
          cases hok
        | ok noted =>
          rw [hflag] at hok
          exact ih (h.settleFlag hflag) hok

theorem GivenOnce.settleLong {text : List Char} (h : GivenOnce settled)
    (hok : settleLong choices text settled = .ok (settled', pending)) : GivenOnce settled' := by
  unfold Command.settleLong at hok
  dsimp only at hok
  split at hok
  · cases hok
  all_goals
    split at hok
  · obtain ⟨rfl, -⟩ := Prod.mk.inj (Except.ok.inj hok)
    exact h
  · obtain ⟨given, hgiven, heq⟩ := exists_ok_of_map hok
    obtain ⟨rfl, -⟩ := Prod.mk.inj heq
    exact h.settleFlag hgiven
  · obtain ⟨given, hgiven, heq⟩ := exists_ok_of_map hok
    obtain ⟨rfl, -⟩ := Prod.mk.inj heq
    exact h.settle hgiven
  · cases hok

theorem GivenOnce.scan {arguments : List String} (h : GivenOnce settled)
    (hok : scan choices pending settled arguments = .ok (settled', rest)) :
    GivenOnce settled' := by
  induction arguments generalizing pending settled with
  | nil =>
    cases pending with
    | some choice => cases hok
    | none =>
      obtain ⟨rfl, -⟩ := Prod.mk.inj (Except.ok.inj hok)
      exact h
  | cons text arguments ih =>
    cases pending with
    | some choice =>
      unfold Command.scan at hok
      split at hok
      · cases hok
      · split at hok
        · next noted hsettle => exact ih (h.settle hsettle) hok
        · cases hok
    | none =>
      unfold Command.scan at hok
      split at hok
      · split at hok
        · obtain ⟨rfl, -⟩ := Prod.mk.inj (Except.ok.inj hok)
          exact h
        · cases hok
      · split at hok
        · next noted waiting hlong => exact ih (h.settleLong hlong) hok
        · cases hok
      · split at hok
        · next noted waiting hshort => exact ih (h.settleShort hshort) hok
        · cases hok
      · obtain ⟨rfl, -⟩ := Prod.mk.inj (Except.ok.inj hok)
        exact h

end NetworkPortal.Command

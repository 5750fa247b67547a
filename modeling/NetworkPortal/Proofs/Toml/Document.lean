import NetworkPortal.Proofs.Keyed
import NetworkPortal.Proofs.Toml.Line

/-! # Reading written documents back

The lines of a document are headers of sections and their entries. A section is opened at the end
of the root table and filled there, since no name and no key comes twice.
-/
namespace NetworkPortal.Toml

variable {root front sub : Entries} {name : String} {entries : List (String × Setting)}

/-! ## Lines of a document -/

def entryLines (entries : List (String × Setting)) : List Line :=
  entries.map fun (key, setting) => .entry ([], key) setting.value

def Section.lines (s : Section) : List Line := .table ([], s.name) :: entryLines s.entries

/-- A section whose names need no quotes, whose keys are distinct and whose numbers are not too
large. -/
structure Section.WellFormed (s : Section) : Prop where
  isBare : ∀ name ∈ s.name :: s.entries.map Prod.fst, IsBare name
  nodup : (s.entries.map Prod.fst).Nodup
  fits : ∀ setting ∈ s.entries.map Prod.snd, setting.Fits

def writtenEntries (entries : List (String × Setting)) : List Char :=
  entries.flatMap fun entry => entryLine entry.1 entry.2

theorem toList_join_entries (entries : List (String × Setting)) :
    (String.join (entries.map fun (key, setting) => key ++ " = " ++ setting.write ++ "\n")).toList =
      writtenEntries entries := by
  rw [String.toList_join, List.flatMap_map]
  simp [writtenEntries, entryLine]

theorem readsAs_entries {rest : List Char} {lines : List Line}
    (hkeys : ∀ key ∈ entries.map Prod.fst, IsBare key)
    (hfits : ∀ setting ∈ entries.map Prod.snd, setting.Fits)
    (hrest : ReadsAs rest lines) :
    ReadsAs (writtenEntries entries ++ rest) (entryLines entries ++ lines) := by
  induction entries with
  | nil => exact hrest
  | cons entry entries ih =>
    rw [List.map_cons, List.forall_mem_cons] at hkeys hfits
    have hline := line?_entry hkeys.1 hfits.1 (writtenEntries entries ++ rest)
    rw [writtenEntries, List.flatMap_cons, List.append_assoc]
    refine .line ?_ ?_ hline ?_ (ih hkeys.2 hfits.2)
    · rw [entryLine, List.append_assoc, hkeys.1.skipBlank_append]
    · rw [entryLine, List.append_assoc, hkeys.1.lineEnd?_append]
    · simp only [entryLine, writtenEntries, List.length_append, List.length_cons]
      omega

theorem readsAs_section {s : Section} {rest : List Char} {lines : List Line} (h : s.WellFormed)
    (hrest : ReadsAs rest lines) :
    ReadsAs (s.write.toList ++ rest) (s.lines ++ lines) := by
  have hshape : s.write.toList ++ rest =
      '[' :: (s.name.toList ++ ']' :: '\n' :: (writtenEntries s.entries ++ rest)) := by
    rw [Section.write, String.toList_append, toList_join_entries]
    simp
  obtain ⟨hname, hkeys⟩ := List.forall_mem_cons.mp h.isBare
  rw [hshape]
  refine .line rfl rfl (line?_header hname _) ?_ (readsAs_entries hkeys h.fits hrest)
  simp only [List.length_append, List.length_cons]
  omega

theorem readsAs_sections {sections : List Section} (h : ∀ s ∈ sections, s.WellFormed) :
    ReadsAs ((writeSections sections).toList ++ ['\n']) (sections.flatMap Section.lines) := by
  induction sections with
  | nil => exact .blank .done
  | cons s sections ih =>
    rw [List.forall_mem_cons] at h
    rw [List.flatMap_cons]
    cases sections with
    | nil =>
      rw [writeSections, List.map_cons, List.map_nil, String.intercalate_singleton]
      exact readsAs_section h.1 (.blank .done)
    | cons t sections =>
      have hshape : (writeSections (s :: t :: sections)).toList ++ ['\n'] =
          s.write.toList ++ '\n' :: ((writeSections (t :: sections)).toList ++ ['\n']) := by
        simp [writeSections]
      rw [hshape]
      exact readsAs_section h.1 (.blank (ih h.2))

/-! ## Filling the root table -/

def Section.entry (s : Section) : String × Value :=
  (s.name, .table .header (s.entries.map fun (key, setting) => (key, setting.value)))

theorem add_header (current : List String) (h : Keyed.get? name root = none) :
    Draft.add ⟨root, current⟩ (.table ([], name)) =
      some ⟨root ++ [(name, .table .header [])], [name]⟩ := by
  have hopen : root.openTable name = some (root ++ [(name, .table .header [])]) := by
    rw [Entries.openTable, h, ← Keyed.put_of_get?_eq_none _ h]
  rw [Draft.add, Entries.within, hopen]
  rfl

theorem add_entry {key : String} {value : Value} (hfront : Keyed.get? name front = none)
    (hsub : Keyed.get? key sub = none) :
    Draft.add ⟨front ++ [(name, .table .header sub)], [name]⟩ (.entry ([], key) value) =
      some ⟨front ++ [(name, .table .header (sub ++ [(key, value)]))], [name]⟩ := by
  have hadd : Entries.assign value key true [] sub = some (sub ++ [(key, value)]) := by
    rw [Entries.assign, if_pos rfl, Entries.add, hsub, ← Keyed.put_of_get?_eq_none _ hsub]
  have hsection : Keyed.get? name (front ++ [(name, .table .header sub)]) =
      some (.table .header sub) := by
    rw [Keyed.get?_append, hfront, Keyed.get?, if_pos rfl]
    rfl
  rw [Draft.add, Entries.within, hsection]
  simp only [Entries.within, hadd, Option.map_some]
  rw [Keyed.put_append _ hfront, Keyed.put, if_pos rfl]

theorem foldlM_entryLines (hfront : Keyed.get? name front = none)
    (hnodup : (entries.map Prod.fst).Nodup)
    (habsent : ∀ entry ∈ entries, Keyed.get? entry.1 sub = none) :
    (entryLines entries).foldlM Draft.add ⟨front ++ [(name, .table .header sub)], [name]⟩ =
      some ⟨front ++ [(name, .table .header
        (sub ++ entries.map fun (key, setting) => (key, setting.value)))], [name]⟩ := by
  induction entries generalizing sub with
  | nil => simp [entryLines]
  | cons entry entries ih =>
    obtain ⟨key, setting⟩ := entry
    rw [List.map_cons, List.nodup_cons] at hnodup
    rw [List.forall_mem_cons] at habsent
    have hrest : ∀ entry ∈ entries,
        Keyed.get? entry.1 (sub ++ [(key, setting.value)]) = none := by
      intro entry hentry
      have hmem : entry.1 ∈ entries.map Prod.fst := List.mem_map_of_mem hentry
      have hne : key ≠ entry.1 := fun heq => hnodup.1 (heq ▸ hmem)
      rw [Keyed.get?_append, habsent.2 entry hentry, Keyed.get?, if_neg hne]
      rfl
    change (Draft.add _ _).bind _ = _
    rw [add_entry hfront habsent.1, Option.bind_some]
    change (entryLines entries).foldlM Draft.add _ = _
    rw [ih hnodup.2 hrest, List.append_assoc]
    rfl

theorem foldlM_section {s : Section} (h : s.WellFormed) (current : List String)
    (hname : Keyed.get? s.name root = none) :
    s.lines.foldlM Draft.add ⟨root, current⟩ = some ⟨root ++ [s.entry], [s.name]⟩ := by
  change (Draft.add _ _).bind _ = _
  rw [add_header current hname, Option.bind_some]
  exact foldlM_entryLines hname h.nodup fun _ _ => rfl

theorem foldlM_sections {sections : List Section} (h : ∀ s ∈ sections, s.WellFormed)
    (hnodup : (sections.map Section.name).Nodup) (current : List String)
    (habsent : ∀ s ∈ sections, Keyed.get? s.name root = none) :
    ((sections.flatMap Section.lines).foldlM Draft.add ⟨root, current⟩).map Draft.root =
      some (root ++ sections.map Section.entry) := by
  induction sections generalizing root current with
  | nil => simp
  | cons s sections ih =>
    rw [List.map_cons, List.nodup_cons] at hnodup
    rw [List.forall_mem_cons] at h habsent
    have hrest : ∀ t ∈ sections, Keyed.get? t.name (root ++ [s.entry]) = none := by
      intro t ht
      have hmem : t.name ∈ sections.map Section.name := List.mem_map_of_mem ht
      have hne : s.name ≠ t.name := fun heq => hnodup.1 (heq ▸ hmem)
      rw [Keyed.get?_append, habsent.2 t ht, Section.entry, Keyed.get?, if_neg hne]
      rfl
    rw [List.flatMap_cons, List.foldlM_append, foldlM_section h.1 current habsent.1]
    change Option.map Draft.root (List.foldlM Draft.add _ _) = _
    rw [ih h.2 hnodup.2 [s.name] hrest, List.append_assoc]
    rfl

theorem read?_writeSections {sections : List Section} (h : ∀ s ∈ sections, s.WellFormed)
    (hnodup : (sections.map Section.name).Nodup) :
    read? (writeSections sections ++ "\n") = some (sections.map Section.entry) := by
  have hlines := (readsAs_sections h).lines?_eq (Nat.le_refl _)
  have hfold : ((sections.flatMap Section.lines).foldlM Draft.add {}).map Draft.root =
      some (sections.map Section.entry) := foldlM_sections h hnodup [] fun _ _ => rfl
  have hmark : ∀ tail, (writeSections sections).toList ++ ['\n'] ≠ '\ufeff' :: tail := by
    intro tail heq
    match sections with
    | [] => cases List.head_eq_of_cons_eq heq
    | [s] =>
      simp [writeSections, Section.write] at heq
    | s :: t :: sections =>
      simp [writeSections, Section.write] at heq
  unfold read?
  extract_lets body
  have hbody : body = (writeSections sections).toList ++ ['\n'] := by
    simp only [body, String.toList_append]
    split
    · next heq => exact absurd heq (hmark _)
    · rfl
  rw [hbody, hlines]
  exact hfold

end NetworkPortal.Toml

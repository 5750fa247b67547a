import Mathlib.Data.List.Forall2
import NetworkPortal.Proofs.Html.Escape
import NetworkPortal.Proofs.Html.Skeleton

/-! # The parts of written HTML

A reader of HTML sees characters, and elements with their attributes and the parts within them. Where
one text ends and the next begins it cannot see. What is written determines these parts as long as the
elements have proper names and no trusted markup stands among them.
-/
namespace NetworkPortal.Html

/-- What a reader of HTML sees, or would see if it knew trusted markup apart. -/
inductive Part where
  | char (c : Char)
  | trusted (markup : Markup)
  | element (name : String) (attributes : List (String × String)) (parts : List Part)

def chars (text : String) : List Part := text.toList.map .char

mutual

def parts : Html → List Part
  | .text content => chars content
  | .trusted markup => [.trusted markup]
  | .element name attributes children => [.element name attributes (partsAll children)]

def partsAll : List Html → List Part
  | [] => []
  | node :: rest => node.parts ++ partsAll rest

end

@[simp] theorem parts_text (content : String) : parts (.text content) = chars content := by
  rw [parts]

@[simp] theorem parts_element (name : String) (attributes : List (String × String))
    (children : List Html) :
    parts (.element name attributes children) = [.element name attributes (partsAll children)] := by
  rw [parts]

@[simp] theorem partsAll_nil : partsAll [] = [] := by
  rw [partsAll]

@[simp] theorem partsAll_cons (node : Html) (rest : List Html) :
    partsAll (node :: rest) = node.parts ++ partsAll rest := by
  rw [partsAll]

@[simp] theorem chars_inj {a b : String} : chars a = chars b ↔ a = b := by
  rw [chars, chars, List.map_inj_right fun _ _ => Part.char.inj, String.toList_inj]

@[simp] theorem chars_ne_element (text name : String) (attributes : List (String × String))
    (inside rest : List Part) : chars text ≠ .element name attributes inside :: rest := by
  rw [chars]
  cases text.toList <;> simp

namespace Part

mutual

def write : Part → List Char
  | .char c => escapeChar c
  | .trusted markup => markup.html.toList
  | .element name attributes parts =>
    '<' :: (name.toList ++ ((writeAttributes attributes).toList ++
      '>' :: (writeAll parts ++ '<' :: '/' :: (name.toList ++ ['>']))))

def writeAll : List Part → List Char
  | [] => []
  | part :: rest => part.write ++ writeAll rest

end

theorem writeAll_append (a b : List Part) : writeAll (a ++ b) = writeAll a ++ writeAll b := by
  induction a with
  | nil => rfl
  | cons part rest ih => rw [List.cons_append, writeAll, writeAll, ih, List.append_assoc]

theorem writeAll_chars (text : String) : writeAll (chars text) = (escape text).toList := by
  rw [chars, escape, String.toList_ofList]
  induction text.toList with
  | nil => rfl
  | cons c rest ih => rw [List.map_cons, writeAll, write, ih, List.flatMap_cons]

end Part

mutual

theorem toList_write : (node : Html) → node.write.toList = Part.writeAll node.parts
  | .text content => by
    rw [write, parts, Part.writeAll_chars]
  | .trusted markup => by
    rw [write, parts, Part.writeAll, Part.writeAll, Part.write, List.append_nil]
  | .element name attributes children => by
    rw [write, parts, Part.writeAll, Part.writeAll, Part.write, List.append_nil]
    simp only [String.toList_append, toList_writeAll children]
    simp

theorem toList_writeAll : (nodes : List Html) →
    (writeAll nodes).toList = Part.writeAll (partsAll nodes)
  | [] => rfl
  | node :: rest => by
    rw [writeAll, partsAll, String.toList_append, toList_write node, toList_writeAll rest,
      Part.writeAll_append]

end

/-! ## Reading one thing after the other -/

theorem eq_of_append_eq {p : Char → Prop} {a b r s : List Char} (ha : ∀ c ∈ a, p c)
    (hb : ∀ c ∈ b, p c) (hr : ∀ c ∈ r.head?, ¬ p c) (hs : ∀ c ∈ s.head?, ¬ p c)
    (h : a ++ r = b ++ s) : a = b ∧ r = s := by
  induction a generalizing b with
  | nil =>
    cases b with
    | nil => exact ⟨rfl, h⟩
    | cons d b =>
      rw [List.nil_append, List.cons_append] at h
      exact absurd (hb d List.mem_cons_self) (hr d (by rw [h]; rfl))
  | cons c a ih =>
    cases b with
    | nil =>
      rw [List.nil_append, List.cons_append] at h
      exact absurd (ha c List.mem_cons_self) (hs c (by rw [← h]; rfl))
    | cons d b =>
      rw [List.cons_append, List.cons_append, List.cons.injEq] at h
      obtain ⟨rfl, rfl⟩ := ih (fun e he => ha e (List.mem_cons_of_mem _ he))
        (fun e he => hb e (List.mem_cons_of_mem _ he)) h.2
      exact ⟨by rw [h.1], rfl⟩

def isNameChar (c : Char) : Bool := c.isAlphanum || c = '-'

def isName (name : String) : Bool := name != "" && name.toList.all isNameChar

theorem isNameChar_of_isName {name : String} (h : isName name = true) :
    ∀ c ∈ name.toList, isNameChar c = true := by
  rw [isName, Bool.and_eq_true, List.all_eq_true] at h
  exact h.2

theorem exists_cons_of_isName {name : String} (h : isName name = true) :
    ∃ c rest, name.toList = c :: rest ∧ isNameChar c = true := by
  have hne : name.toList ≠ [] := by
    intro hnil
    rw [String.toList_eq_nil_iff] at hnil
    simp [isName, hnil] at h
  obtain ⟨c, rest, hcons⟩ := List.exists_cons_of_ne_nil hne
  exact ⟨c, rest, hcons, isNameChar_of_isName h c (hcons ▸ List.mem_cons_self)⟩

theorem attributes_inj {a b : List (String × String)} {r s : List Char}
    (ha : a.all (isName ·.1) = true) (hb : b.all (isName ·.1) = true)
    (h : (writeAttributes a).toList ++ '>' :: r = (writeAttributes b).toList ++ '>' :: s) :
    a = b ∧ r = s := by
  induction a generalizing b with
  | nil =>
    cases b with
    | nil => exact ⟨rfl, (List.cons.inj h).2⟩
    | cons named b => simp [writeAttributes] at h
  | cons named a ih =>
    cases b with
    | nil => simp [writeAttributes] at h
    | cons named' b =>
      obtain ⟨name, value⟩ := named
      obtain ⟨name', value'⟩ := named'
      rw [List.all_cons, Bool.and_eq_true] at ha hb
      simp only [writeAttributes, String.toList_append, List.append_assoc] at h
      obtain ⟨hname, hrest⟩ := eq_of_append_eq (isNameChar_of_isName ha.1)
        (isNameChar_of_isName hb.1) (by simp [isNameChar]) (by simp [isNameChar])
        (List.append_cancel_left h)
      obtain ⟨hvalue, hmore⟩ := eq_of_append_eq (p := (isMark · = false))
        (fun _ => isMark_of_mem_escape) (fun _ => isMark_of_mem_escape) (by simp [isMark])
        (by simp [isMark]) (List.append_cancel_left hrest)
      obtain ⟨rfl, hend⟩ := ih ha.2 hb.2 (List.append_cancel_left hmore)
      obtain rfl := String.toList_inj.mp hname
      obtain rfl := escape_injective (String.toList_inj.mp hvalue)
      exact ⟨rfl, hend⟩

theorem escapeChar_inj {c d : Char} {r s : List Char}
    (h : escapeChar c ++ r = escapeChar d ++ s) : c = d ∧ r = s := by
  have hchar := congrArg unescape h
  rw [unescape_escapeChar_append, unescape_escapeChar_append, List.cons.injEq] at hchar
  obtain rfl := hchar.1
  exact ⟨rfl, List.append_cancel_left h⟩

theorem exists_cons_escapeChar (c : Char) :
    ∃ d rest, escapeChar c = d :: rest ∧ isMark d = false := by
  have hmarks := any_isMark_escapeChar c
  obtain ⟨d, rest, hc⟩ := List.exists_cons_of_ne_nil (escapeChar_ne_nil c)
  rw [hc, List.any_cons, Bool.or_eq_false_iff] at hmarks
  exact ⟨d, rest, hc, hmarks.1⟩

theorem escapeChar_append_ne (c : Char) (r s : List Char) : escapeChar c ++ r ≠ '<' :: s := by
  obtain ⟨d, rest, hc, hmark⟩ := exists_cons_escapeChar c
  rw [hc, List.cons_append]
  intro h
  rw [(List.cons.inj h).1] at hmark
  cases hmark

namespace Part

mutual

def isReadable : Part → Bool
  | .char _ => true
  | .trusted _ => false
  | .element name attributes parts =>
    isName name && attributes.all (isName ·.1) && areReadable parts

def areReadable : List Part → Bool
  | [] => true
  | part :: rest => part.isReadable && areReadable rest

end

/-- Where parts end: with the text, or where the element around them is closed. -/
def Ends (text : List Char) : Prop := text = [] ∨ ∃ more, text = '<' :: '/' :: more

theorem ends_close (more : List Char) : Ends ('<' :: '/' :: more) := .inr ⟨more, rfl⟩

/-- A part is no end: an element begins with a name, not with a slash. -/
theorem not_ends_write {part : Part} (h : part.isReadable = true) (more : List Char) :
    ¬ Ends (part.write ++ more) := by
  cases part with
  | char c =>
    rintro (hnil | ⟨rest, hclose⟩)
    · obtain ⟨d, rest, hc, _⟩ := exists_cons_escapeChar c
      simp [write, hc] at hnil
    · exact escapeChar_append_ne c more _ hclose
  | trusted markup => cases h
  | element name attributes parts =>
    rw [isReadable, Bool.and_eq_true, Bool.and_eq_true] at h
    obtain ⟨c, rest, hname, hc⟩ := exists_cons_of_isName h.1.1
    rintro (hnil | ⟨rest', hclose⟩)
    · cases hnil
    · simp only [write, hname, List.cons_append, List.cons.injEq] at hclose
      rw [hclose.2.1] at hc
      cases hc

theorem name_inj {name name' : String} {attributes attributes' : List (String × String)}
    {r s : List Char} (hname : isName name = true) (hname' : isName name' = true)
    (h : name.toList ++ ((writeAttributes attributes).toList ++ '>' :: r) =
      name'.toList ++ ((writeAttributes attributes').toList ++ '>' :: s)) :
    name = name' ∧ (writeAttributes attributes).toList ++ '>' :: r =
      (writeAttributes attributes').toList ++ '>' :: s := by
  have hend (attributes : List (String × String)) (r : List Char) :
      ∀ c ∈ ((writeAttributes attributes).toList ++ '>' :: r).head?, ¬ isNameChar c = true := by
    cases attributes with
    | nil => simp [writeAttributes, isNameChar]
    | cons named rest => simp [writeAttributes, isNameChar]
  obtain ⟨heq, hrest⟩ := eq_of_append_eq (isNameChar_of_isName hname)
    (isNameChar_of_isName hname') (hend attributes r) (hend attributes' s) h
  exact ⟨String.toList_inj.mp heq, hrest⟩

mutual

theorem write_inj : (a b : Part) → a.isReadable = true → b.isReadable = true →
    ∀ {r s : List Char}, a.write ++ r = b.write ++ s → a = b ∧ r = s
  | .char c, .char d, _, _, r, s, h => by
    rw [write, write] at h
    obtain ⟨rfl, hrest⟩ := escapeChar_inj h
    exact ⟨rfl, hrest⟩
  | .char c, .element name attributes parts, _, _, r, s, h => by
    rw [write, write] at h
    exact absurd h (escapeChar_append_ne c r _)
  | .element name attributes parts, .char c, _, _, r, s, h => by
    rw [write, write] at h
    exact absurd h.symm (escapeChar_append_ne c s _)
  | .element name attributes parts, .element name' attributes' parts', ha, hb, r, s, h => by
    rw [isReadable, Bool.and_eq_true, Bool.and_eq_true] at ha hb
    simp only [write, List.cons_append, List.append_assoc, List.cons.injEq, true_and] at h
    obtain ⟨rfl, htag⟩ := name_inj ha.1.1 hb.1.1 h
    obtain ⟨rfl, hinside⟩ := attributes_inj ha.1.2 hb.1.2 htag
    obtain ⟨rfl, hclose⟩ := writeAll_inj parts parts' ha.2 hb.2 (ends_close _) (ends_close _) hinside
    rw [List.cons.injEq, List.cons.injEq] at hclose
    exact ⟨rfl, (List.cons.inj (List.append_cancel_left hclose.2.2)).2⟩
  | .trusted _, _, ha, _, _, _, _ => by cases ha
  | _, .trusted _, _, hb, _, _, _ => by cases hb

theorem writeAll_inj : (a b : List Part) → areReadable a = true → areReadable b = true →
    ∀ {r s : List Char}, Ends r → Ends s → writeAll a ++ r = writeAll b ++ s → a = b ∧ r = s
  | [], [], _, _, r, s, _, _, h => ⟨rfl, h⟩
  | [], part :: b, _, hb, r, s, hr, _, h => by
    rw [areReadable, Bool.and_eq_true] at hb
    rw [writeAll, writeAll, List.nil_append, List.append_assoc] at h
    exact absurd (h ▸ hr) (not_ends_write hb.1 _)
  | part :: a, [], ha, _, r, s, _, hs, h => by
    rw [areReadable, Bool.and_eq_true] at ha
    rw [writeAll, writeAll, List.nil_append, List.append_assoc] at h
    exact absurd (h ▸ hs) (not_ends_write ha.1 _)
  | part :: a, part' :: b, ha, hb, r, s, hr, hs, h => by
    rw [areReadable, Bool.and_eq_true] at ha hb
    rw [writeAll, writeAll, List.append_assoc, List.append_assoc] at h
    obtain ⟨rfl, hrest⟩ := write_inj part part' ha.1 hb.1 h
    obtain ⟨rfl, hend⟩ := writeAll_inj a b ha.2 hb.2 hr hs hrest
    exact ⟨rfl, hend⟩

end

end Part

/-! ## Trees that are read back -/

theorem areReadable_append (a b : List Part) :
    Part.areReadable (a ++ b) = (Part.areReadable a && Part.areReadable b) := by
  induction a with
  | nil => rfl
  | cons part rest ih => rw [List.cons_append, Part.areReadable, Part.areReadable, ih, Bool.and_assoc]

theorem areReadable_chars (text : String) : Part.areReadable (chars text) = true := by
  rw [chars]
  induction text.toList with
  | nil => rfl
  | cons c rest ih => rw [List.map_cons, Part.areReadable, ih, Part.isReadable, Bool.and_self]

def IsReadable (node : Html) : Prop := Part.areReadable node.parts = true

@[simp] theorem isReadable_text (content : String) : IsReadable (.text content) := by
  rw [IsReadable, parts_text, areReadable_chars]

theorem areReadable_partsAll_iff {nodes : List Html} :
    Part.areReadable (partsAll nodes) = true ↔ ∀ node ∈ nodes, node.IsReadable := by
  induction nodes with
  | nil => simp [Part.areReadable]
  | cons node rest ih =>
    rw [partsAll_cons, areReadable_append, Bool.and_eq_true, ih, List.forall_mem_cons]
    rfl

@[simp] theorem isReadable_element_iff {name : String} {attributes : List (String × String)}
    {children : List Html} :
    IsReadable (.element name attributes children) ↔
      (isName name = true ∧ attributes.all (isName ·.1) = true) ∧
        ∀ child ∈ children, child.IsReadable := by
  rw [IsReadable, parts_element, Part.areReadable, Part.areReadable, Part.isReadable,
    Bool.and_true, Bool.and_eq_true, Bool.and_eq_true, areReadable_partsAll_iff]

theorem partsAll_eq_of_writeAll_eq {a b : List Html} (ha : ∀ node ∈ a, node.IsReadable)
    (hb : ∀ node ∈ b, node.IsReadable) (h : writeAll a = writeAll b) :
    partsAll a = partsAll b := by
  have hwritten : Part.writeAll (partsAll a) ++ [] = Part.writeAll (partsAll b) ++ [] := by
    rw [← toList_writeAll, ← toList_writeAll, h]
  exact (Part.writeAll_inj _ _ (areReadable_partsAll_iff.mpr ha) (areReadable_partsAll_iff.mpr hb)
    (.inl rfl) (.inl rfl) hwritten).1

theorem parts_eq_of_write_eq {a b : Html} (ha : a.IsReadable) (hb : b.IsReadable)
    (h : a.write = b.write) : a.parts = b.parts := by
  have hwritten : Part.writeAll a.parts ++ [] = Part.writeAll b.parts ++ [] := by
    rw [← toList_write, ← toList_write, h]
  exact (Part.writeAll_inj _ _ ha hb (.inl rfl) (.inl rfl) hwritten).1

theorem forall₂_of_partsAll_map_eq {α : Type} {f : α → Html} {R : α → α → Prop}
    (hone : ∀ a, ∃ part, (f a).parts = [part])
    (htold : ∀ a b, (f a).parts = (f b).parts → R a b) {as bs : List α}
    (h : partsAll (as.map f) = partsAll (bs.map f)) : List.Forall₂ R as bs := by
  induction as generalizing bs with
  | nil =>
    cases bs with
    | nil => exact .nil
    | cons b bs =>
      obtain ⟨part, hpart⟩ := hone b
      simp [hpart] at h
  | cons a as ih =>
    obtain ⟨part, hpart⟩ := hone a
    cases bs with
    | nil => simp [hpart] at h
    | cons b bs =>
      obtain ⟨part', hpart'⟩ := hone b
      simp only [List.map_cons, partsAll_cons, hpart, hpart', List.singleton_append,
        List.cons.injEq] at h
      exact .cons (htold a b (by rw [hpart, hpart', h.1])) (ih h.2)

theorem eq_of_partsAll_map_eq {α : Type} {f : α → Html} (hone : ∀ a, ∃ part, (f a).parts = [part])
    (htold : ∀ a b, (f a).parts = (f b).parts → a = b) {as bs : List α}
    (h : partsAll (as.map f) = partsAll (bs.map f)) : as = bs := by
  have hsame := forall₂_of_partsAll_map_eq hone htold h
  rwa [List.forall₂_eq_eq_eq] at hsame

end NetworkPortal.Html

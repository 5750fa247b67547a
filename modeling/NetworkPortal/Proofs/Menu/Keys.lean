import Mathlib.Data.List.Nodup
import Mathlib.Data.List.Pairwise
import Mathlib.Data.List.Permutation
import NetworkPortal.Proofs.Json.Keys
import NetworkPortal.Proofs.Menu.Tree

/-! # Keys of groups

A group is known in the tree by the name of its entry and its own header with a slash between them.
Both may hold slashes themselves, so the key does not always tell where the one ends and the other
begins. Entries with names of their own have groups with one key exactly if the name of one entry
begins with that of the other and a slash, and what then follows in it begins a header of the other.
-/
namespace NetworkPortal.Menu

def headers (entry : Entry) : List String := entry.groups.map Prod.fst

def keys (entry : Entry) : List String := (headers entry).map (entry.name ++ "/" ++ ·)

def groupKeys (menu : List Dropdown) : List String :=
  menu.flatMap fun dropdown => dropdown.sections.map Section.key

/-- The name of the other entry begins with the name of the entry and a slash, and what follows
there begins a header of the entry that ends, behind a slash, in a header of the other entry. -/
def Straddles (entry other : Entry) : Prop :=
  ∃ between header, other.name = entry.name ++ "/" ++ between ∧
    between ++ "/" ++ header ∈ headers entry ∧ header ∈ headers other

variable {entries : List Entry} {entry other : Entry} {document element : Json}

theorem groupKeys_tree (entries : List Entry) : groupKeys (tree entries) = entries.flatMap keys := by
  rw [groupKeys, tree, List.flatMap_map]
  refine congrArg (List.flatMap · entries) ?_
  funext entry
  rw [Dropdown.ofEntry, keys, headers, List.map_map, List.map_map]
  rfl

/-! ## Headers of a document -/

theorem nodup_groupMembers (h : element.DistinctKeys) :
    ((groupMembers element).map Prod.fst).Nodup := by
  generalize hgroups : groupMembers element = groups
  cases groupsAt_iff.mpr hgroups with
  | own hown => exact (h.of_get? hown).nodup
  | ofProperties _ hproperties =>
    cases hproperties with
    | object hobject =>
      obtain ⟨properties, hfound, hinner⟩ := Option.bind_eq_some_iff.mp hobject
      exact ((h.of_get? hfound).of_get? hinner).nodup
    | absent => exact List.nodup_nil

/-- No header stands twice in an entry of a document whose objects have each key once. -/
theorem nodup_headers_ofJson (h : document.DistinctKeys) :
    ∀ entry ∈ ofJson document, (headers entry).Nodup := by
  cases h with
  | array helements =>
    intro entry hentry
    obtain ⟨element, helement, hread⟩ := List.mem_filterMap.mp hentry
    obtain ⟨name, _, rfl⟩ := Option.map_eq_some_iff.mp hread
    rw [headers, List.map_map]
    exact nodup_groupMembers (helements element helement)
  | _ =>
    intro entry hentry
    cases hentry

/-! ## Texts around a slash -/

theorem eq_or_of_slash_after {a b x y : String} {more : List Char}
    (hb : b.toList = a.toList ++ more) (hx : '/' :: x.toList = more ++ '/' :: y.toList) :
    a = b ∨ ∃ between, b = a ++ "/" ++ between ∧ x = between ++ "/" ++ y := by
  cases more with
  | nil =>
    left
    apply String.toList_inj.mp
    rw [hb, List.append_nil]
  | cons c between =>
    obtain ⟨rfl, hx⟩ := List.cons.inj hx
    refine .inr ⟨.ofList between, ?_, ?_⟩
    · apply String.toList_inj.mp
      simpa using hb
    · apply String.toList_inj.mp
      simpa using hx

theorem append_slash_cases {a b x y : String} (h : a ++ "/" ++ x = b ++ "/" ++ y) :
    a = b ∨ (∃ between, b = a ++ "/" ++ between ∧ x = between ++ "/" ++ y) ∨
      ∃ between, a = b ++ "/" ++ between ∧ y = between ++ "/" ++ x := by
  have hchars : a.toList ++ '/' :: x.toList = b.toList ++ '/' :: y.toList := by
    simpa using congrArg String.toList h
  rcases List.append_eq_append_iff.mp hchars with ⟨more, hb, hx⟩ | ⟨more, ha, hy⟩
  · exact (eq_or_of_slash_after hb hx).imp_right .inl
  · exact (eq_or_of_slash_after ha hy).imp Eq.symm .inr

/-! ## Which keys are shared -/

theorem nodup_keys (h : (headers entry).Nodup) : (keys entry).Nodup :=
  h.map fun _ _ heq => (String.append_right_inj _).mp heq

theorem Straddles.name_ne (h : Straddles entry other) : entry.name ≠ other.name := by
  obtain ⟨between, _, hname, _⟩ := h
  intro heq
  have hlength := congrArg String.length (heq.trans hname)
  simp only [String.length_append] at hlength
  have hslash : "/".length = 1 := rfl
  omega

theorem Straddles.not_disjoint (h : Straddles entry other) :
    ¬ (keys entry).Disjoint (keys other) := by
  obtain ⟨between, header, hname, hentry, hother⟩ := h
  intro hdisjoint
  refine hdisjoint (List.mem_map_of_mem hentry) (List.mem_map.mpr ⟨header, hother, ?_⟩)
  rw [hname]
  simp only [String.append_assoc]

theorem disjoint_keys (hname : entry.name ≠ other.name) (h : ¬ Straddles entry other)
    (h' : ¬ Straddles other entry) : (keys entry).Disjoint (keys other) := by
  intro key hentry hother
  obtain ⟨x, hx, rfl⟩ := List.mem_map.mp hentry
  obtain ⟨y, hy, hkey⟩ := List.mem_map.mp hother
  rcases append_slash_cases hkey.symm with heq | ⟨between, hbegins, rfl⟩ | ⟨between, hbegins, rfl⟩
  · exact hname heq
  · exact h ⟨between, y, hbegins, hx, hy⟩
  · exact h' ⟨between, x, hbegins, hy, hx⟩

theorem nodup_groupKeys_tree_iff (hnames : (entries.map Entry.name).Nodup)
    (hheaders : ∀ entry ∈ entries, (headers entry).Nodup) :
    (groupKeys (tree entries)).Nodup ↔
      ∀ entry ∈ entries, ∀ other ∈ entries, ¬ Straddles entry other := by
  rw [groupKeys_tree, List.nodup_flatMap]
  constructor
  · rintro ⟨_, hdisjoint⟩ entry hentry other hother hstraddles
    have hne : entry ≠ other := fun heq => hstraddles.name_ne (congrArg Entry.name heq)
    -- Lists without a common key are given in the order of the entries, which may be the other one.
    have hsymm : Std.Symm (Function.onFun List.Disjoint keys) :=
      ⟨fun _ _ h _ hother hentry => h hentry hother⟩
    exact hstraddles.not_disjoint (hdisjoint.forall hentry hother hne)
  · intro h
    refine ⟨fun entry hentry => nodup_keys (hheaders entry hentry), ?_⟩
    refine (List.pairwise_map.mp hnames).imp_of_mem ?_
    intro entry other hentry hother hname
    exact disjoint_keys hname (h entry hentry other hother) (h other hother entry hentry)

/-- Groups of entries with names of their own, each with headers of its own, have keys of their own
exactly if no two entries straddle a slash. So they have if no name holds a slash. -/
theorem group_keys_distinct_iff (hnames : (entries.map Entry.name).Nodup)
    (hheaders : ∀ entry ∈ entries, (headers entry).Nodup) :
    ((groupKeys (tree entries)).Nodup ↔
      ∀ entry ∈ entries, ∀ other ∈ entries, ¬ Straddles entry other) ∧
    ((∀ entry ∈ entries, '/' ∉ entry.name.toList) → (groupKeys (tree entries)).Nodup) := by
  have hiff := nodup_groupKeys_tree_iff hnames hheaders
  refine ⟨hiff, fun hslash => hiff.mpr ?_⟩
  rintro entry _ other hother ⟨between, _, hname, _⟩
  refine hslash other hother ?_
  rw [hname]
  simp

/-- A header that holds a slash below a name that holds none. -/
def plainText : String :=
  "[\x7b\"name\":\"A\",\"groups\":\x7b\"B/C\":\x7b\x7d\x7d\x7d," ++
    "\x7b\"name\":\"B\",\"groups\":\x7b\"C\":\x7b\x7d\x7d\x7d]"

def menuDocument (first header second header' : String) : Json :=
  .array [.object [("name", .string first), ("groups", .object [(header, .object [])])],
    .object [("name", .string second), ("groups", .object [(header', .object [])])]]

theorem plain_group_keys_distinct :
    Json.read? plainText = some (menuDocument "A" "B/C" "B" "C") ∧
    groupKeys (tree (ofJson (menuDocument "A" "B/C" "B" "C"))) = ["A/B/C", "B/C"] ∧
    ∀ entry ∈ ofJson (menuDocument "A" "B/C" "B" "C"),
      ∀ other ∈ ofJson (menuDocument "A" "B/C" "B" "C"), ¬ Straddles entry other := by
  have hread : Json.read? plainText = some (menuDocument "A" "B/C" "B" "C") := by cbv
  have hheaders := nodup_headers_ofJson (Json.distinctKeys_of_read? hread)
  obtain ⟨hiff, hplain⟩ := group_keys_distinct_iff (by decide +kernel) hheaders
  exact ⟨hread, by decide +kernel, hiff.mp (hplain (by decide +kernel))⟩

/-- The group `B/C` of the entry `A`, and the group `C` of the entry `A/B`. -/
def slashedText : String :=
  "[\x7b\"name\":\"A\",\"groups\":\x7b\"B/C\":\x7b\x7d\x7d\x7d," ++
    "\x7b\"name\":\"A/B\",\"groups\":\x7b\"C\":\x7b\x7d\x7d\x7d]"

theorem slashed_groups_share_key :
    Json.read? slashedText = some (menuDocument "A" "B/C" "A/B" "C") ∧
    ((ofJson (menuDocument "A" "B/C" "A/B" "C")).map Entry.name).Nodup ∧
    groupKeys (tree (ofJson (menuDocument "A" "B/C" "A/B" "C"))) = ["A/B/C", "A/B/C"] ∧
    ¬ (groupKeys (tree (ofJson (menuDocument "A" "B/C" "A/B" "C")))).Nodup := by
  have hread : Json.read? slashedText = some (menuDocument "A" "B/C" "A/B" "C") := by cbv
  exact ⟨hread, by decide +kernel, by decide +kernel, by decide +kernel⟩

end NetworkPortal.Menu

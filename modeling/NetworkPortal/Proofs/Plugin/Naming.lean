import NetworkPortal.Proofs.Plugin.Tab

/-! # How tabs are named

A tab document describes tabs under keys of its own choice. The tabs are kept in the order of the
document, and each is named by the first spelling of its key that no tab before it bears.
-/
namespace NetworkPortal.Plugin.Tab

def described? (entry : String × Json) : Option Tab :=
  match entry.2.get? "title", entry.2.get? "url" with
  | some (.string title), some (.string url) => some ⟨entry.1, title, url⟩
  | _, _ => none

def describedIn : Json → List Tab
  | .object members => members.filterMap described?
  | _ => []

/-- The tabs that a document describes, under the keys that it gives them. -/
def described (document : Json) : List Tab :=
  match document.get? "tabs" with
  | some (.array elements) => elements.flatMap describedIn
  | _ => []

/-- A search through the spellings of a key from the `n`-th on, without a bound, that ends after
some more tries with the first spelling that is not taken. -/
inductive SearchEnds (taken : List String) (key : String) : ℕ → ℕ → String → Prop
  | free {n : ℕ} (h : spelling key n ∉ taken) : SearchEnds taken key n 0 (spelling key n)
  | next {n tries : ℕ} {name : String} (h : spelling key n ∈ taken)
      (hrest : SearchEnds taken key (n + 1) tries name) :
      SearchEnds taken key n (tries + 1) name

/-- A name is the first free spelling of a key, after some spellings that are taken. -/
structure NamesFirst (taken : List String) (key : String) (tries : ℕ) (name : String) : Prop where
  spelled : name = spelling key tries
  free : name ∉ taken
  first : ∀ i < tries, spelling key i ∈ taken

variable {taken : List String} {key : String}

theorem searchEnds_of_first {n tries : ℕ} (hfree : spelling key (n + tries) ∉ taken)
    (hfirst : ∀ i < tries, spelling key (n + i) ∈ taken) :
    SearchEnds taken key n tries (spelling key (n + tries)) := by
  induction tries generalizing n with
  | zero => exact .free hfree
  | succ tries ih =>
    have hshift (i : ℕ) : n + (i + 1) = n + 1 + i := by omega
    rw [hshift] at hfree ⊢
    apply SearchEnds.next (hfirst 0 (by omega))
    apply ih hfree
    intro i hi
    rw [← hshift]
    exact hfirst (i + 1) (by omega)

theorem NamesFirst.searchEnds {tries : ℕ} {name : String} (h : NamesFirst taken key tries name) :
    SearchEnds taken key 0 tries name := by
  have hends : SearchEnds taken key 0 tries (spelling key (0 + tries)) := by
    apply searchEnds_of_first
    · rw [Nat.zero_add, ← h.spelled]
      exact h.free
    · intro i hi
      rw [Nat.zero_add]
      exact h.first i hi
  rwa [Nat.zero_add, ← h.spelled] at hends

theorem NamesFirst.congr {taken' : List String} {tries : ℕ} {name : String}
    (hsame : ∀ text, text ∈ taken ↔ text ∈ taken') (h : NamesFirst taken key tries name) :
    NamesFirst taken' key tries name where
  spelled := h.spelled
  free := mt (hsame name).mpr h.free
  first i hi := (hsame _).mp (h.first i hi)

theorem exists_namesFirst (taken : List String) (key : String) :
    ∃ tries ≤ taken.length, NamesFirst taken key tries (freshKey taken key) := by
  obtain ⟨tries, hbound, hfresh, hfree, hfirst⟩ := freshKey_eq taken key
  rw [hfresh]
  exact ⟨tries, hbound, rfl, hfree, hfirst⟩

/-! ## Naming one tab after the other -/

/-- Tabs under fresh keys when the keys in `taken` are used already. -/
def rename (taken : List String) : List Tab → List Tab
  | [] => []
  | tab :: rest =>
    ⟨freshKey taken tab.key, tab.title, tab.url⟩ :: rename (freshKey taken tab.key :: taken) rest

theorem described?_eq (entry : String × Json) :
    described? entry = (titleAndUrl? entry.2).map fun found => ⟨entry.1, found.1, found.2⟩ := by
  rw [described?, titleAndUrl?]
  cases entry.2.get? "title" with
  | none => rfl
  | some title =>
    cases entry.2.get? "url" with
    | none => cases title <;> rfl
    | some url => cases title <;> cases url <;> rfl

theorem collect_eq (taken : List String) (candidates : List (String × Json)) :
    collect taken candidates = rename taken (candidates.filterMap described?) := by
  induction candidates generalizing taken with
  | nil => rfl
  | cons entry rest ih =>
    obtain ⟨key, tab⟩ := entry
    rw [collect, List.filterMap_cons, described?_eq]
    cases titleAndUrl? tab with
    | none => exact ih taken
    | some found =>
      rw [Option.map_some]
      simp only [rename, ih]

theorem describedIn_eq (element : Json) :
    describedIn element = (element.object?.getD []).filterMap described? := by
  cases element <;> rfl

theorem described_eq (document : Json) :
    described document = (candidates document).filterMap described? := by
  rw [described, candidates, List.filterMap_flatMap]
  cases document.get? "tabs" with
  | none => rfl
  | some tabs =>
    cases tabs with
    | array elements => exact List.flatMap_congr fun element _ => describedIn_eq element
    | _ => rfl

theorem ofDocument_eq (document : Json) : ofDocument document = rename [] (described document) := by
  rw [ofDocument, collect_eq, described_eq]

theorem map_rename (taken : List String) (tabs : List Tab) :
    (rename taken tabs).map (fun tab => (tab.title, tab.url)) =
      tabs.map fun tab => (tab.title, tab.url) := by
  induction tabs generalizing taken with
  | nil => rfl
  | cons tab rest ih => simp only [rename, List.map_cons, ih]

theorem rename_append (taken : List String) (front back : List Tab) :
    rename taken (front ++ back) = rename taken front ++
      rename (((rename taken front).map Tab.key).reverse ++ taken) back := by
  induction front generalizing taken with
  | nil => rfl
  | cons tab rest ih =>
    simp only [List.cons_append, rename, ih, List.map_cons, List.reverse_cons, List.append_assoc,
      List.nil_append]

theorem exists_of_rename_eq {tabs earlier later : List Tab} {tab : Tab}
    (h : rename taken tabs = earlier ++ tab :: later) :
    ∃ original, tabs[earlier.length]? = some original ∧
      tab.key = freshKey ((earlier.map Tab.key).reverse ++ taken) original.key := by
  -- Each of the tabs before it takes its name before the next one is looked at.
  induction earlier generalizing taken tabs with
  | nil =>
    cases tabs with
    | nil => cases h
    | cons original rest =>
      obtain ⟨rfl, _⟩ := List.cons.inj h
      exact ⟨original, rfl, rfl⟩
  | cons first earlier ih =>
    cases tabs with
    | nil => cases h
    | cons original rest =>
      obtain ⟨rfl, hrest⟩ := List.cons.inj h
      obtain ⟨found, hfound, hkey⟩ := ih hrest
      refine ⟨found, hfound, ?_⟩
      rw [hkey, List.map_cons, List.reverse_cons, List.append_assoc, List.singleton_append]

theorem described_append {document document' : Json} {elements more : List Json}
    (h : document.get? "tabs" = some (.array elements))
    (h' : document'.get? "tabs" = some (.array (elements ++ more))) :
    described document' = described document ++ more.flatMap describedIn := by
  rw [described, described, h, h']
  exact List.flatMap_append

/-- There is one tab for each tab that a document describes, in the order of the document. It is
named by the first spelling of its key that no tab before it bears, and a search for this name ends
after as many extra tries as there are tabs before it at most. So no two tabs bear one name, and
more elements in the document leave the tabs of the others as they are. -/
theorem tabs_named_in_order (document : Json) :
    ((ofDocument document).map fun tab => (tab.title, tab.url)) =
      ((described document).map fun tab => (tab.title, tab.url)) ∧
    (∀ earlier tab later, ofDocument document = earlier ++ tab :: later →
      ∃ original tries, (described document)[earlier.length]? = some original ∧
        tries ≤ earlier.length ∧ NamesFirst (earlier.map Tab.key) original.key tries tab.key ∧
        SearchEnds (earlier.map Tab.key) original.key 0 tries tab.key) ∧
    ((ofDocument document).map Tab.key).Nodup ∧
    ∀ document' elements more, document.get? "tabs" = some (.array elements) →
      document'.get? "tabs" = some (.array (elements ++ more)) →
      ∃ later, ofDocument document' = ofDocument document ++ later := by
  refine ⟨?_, ?_, nodup_ofDocument document, ?_⟩
  · rw [ofDocument_eq, map_rename]
  · intro earlier tab later h
    rw [ofDocument_eq] at h
    obtain ⟨original, horiginal, hkey⟩ := exists_of_rename_eq h
    rw [List.append_nil] at hkey
    -- The names that are taken stand in reverse, the last one first.
    obtain ⟨tries, hbound, hnames⟩ := exists_namesFirst (earlier.map Tab.key).reverse original.key
    rw [← hkey] at hnames
    rw [List.length_reverse, List.length_map] at hbound
    have hfirst := hnames.congr fun _ => List.mem_reverse
    exact ⟨original, tries, horiginal, hbound, hfirst, hfirst.searchEnds⟩
  · intro document' elements more h h'
    rw [ofDocument_eq, ofDocument_eq, described_append h h', rename_append]
    exact ⟨_, rfl⟩

def describing (title : String) : Json := .object [("title", .string title), ("url", .string "/t")]

def pushingElements : List Json :=
  [.object [("info", describing "A")], .null, .object [("info", describing "B"), ("bad", .null)],
    .object [("info-2", describing "C")]]

theorem pushed_tab_named_in_order :
    ofDocument (.object [("tabs", .array pushingElements)]) =
      [⟨"info", "A", "/t"⟩, ⟨"info-2", "B", "/t"⟩] ++ ⟨"info-2-2", "C", "/t"⟩ :: [] ∧
    (∃ original tries,
      (described (.object [("tabs", .array pushingElements)]))[2]? = some original ∧ tries ≤ 2 ∧
        NamesFirst ["info", "info-2"] original.key tries "info-2-2") ∧
    ∃ later, ofDocument
        (.object [("tabs", .array (pushingElements ++ [.object [("info", describing "D")]]))]) =
      ofDocument (.object [("tabs", .array pushingElements)]) ++ later := by
  have htabs : ofDocument (.object [("tabs", .array pushingElements)]) =
      [⟨"info", "A", "/t"⟩, ⟨"info-2", "B", "/t"⟩] ++ ⟨"info-2-2", "C", "/t"⟩ :: [] := by
    decide +kernel
  obtain ⟨_, hnamed, _, hmore⟩ :=
    tabs_named_in_order (.object [("tabs", .array pushingElements)])
  obtain ⟨original, tries, horiginal, hbound, hfirst, _⟩ := hnamed _ _ _ htabs
  exact ⟨htabs, ⟨original, tries, horiginal, hbound, hfirst⟩, hmore _ _ _ rfl rfl⟩

end NetworkPortal.Plugin.Tab

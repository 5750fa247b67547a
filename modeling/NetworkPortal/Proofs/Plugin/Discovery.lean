import Mathlib.Data.List.Sort
import NetworkPortal.Plugin.Discovery
import NetworkPortal.Proofs.Storage.Place

/-! # What is discovered

The plugins of a directory are those of its sub-directories with a valid manifest, by the bytes of
their names. The order in which the names are listed does not matter, and what happens to one
sub-directory does not change what is found in the others.
-/
namespace NetworkPortal.Plugin

variable {storage storage' : Storage} {directory : String} {names names' : List String}
  {plugin : Registration} {found found' : List (String × Registration)}

/-- The plugin that the manifest in a directory presents. -/
def InstalledAs (storage : Storage) (directory : String) (plugin : Registration) : Prop :=
  storage.holdsDirectory directory = true ∧
    ∃ text manifest, storage.readText (Storage.Path.join directory Manifest.fileName) = .ok text ∧
      Manifest.read? text = some manifest ∧ manifest.validate = .ok () ∧
      plugin = {
        identifier := manifest.identifier
        mountPath := manifest.mountPath
        title := manifest.title.getD manifest.identifier
        loader := .file (Storage.Path.join directory manifest.entry) }

def Precedes (earlier later : String) : Prop :=
  earlier.toUTF8.data.toList < later.toUTF8.data.toList

instance : DecidableRel Precedes := fun _ _ => inferInstanceAs (Decidable (_ < _))

def ByBytes (earlier later : String × Registration) : Prop := Precedes earlier.1 later.1

/-- The plugins of a directory that lists these names, each with the name of its sub-directory. -/
structure Finds (storage : Storage) (directory : String) (names : List String)
    (found : List (String × Registration)) : Prop where
  discover_eq : discover storage directory = .ok (found.map Prod.snd)
  ascending : found.Pairwise ByBytes
  mem_iff : ∀ name plugin, (name, plugin) ∈ found ↔
    name ∈ names ∧ InstalledAs storage (Storage.Path.join directory name) plugin

/-! ## One sub-directory -/

def installed? (storage : Storage) (directory : String) : Option Registration :=
  if isPluginDirectory storage directory then Registration.inDirectory? storage directory else none

theorem holds_of_readText {path text : String} (h : storage.readText path = .ok text) :
    storage.holds path = true := by
  rw [Storage.holds]
  cases hfind : storage.find path with
  | ok node => rfl
  | error fault =>
    rw [Storage.readText, hfind] at h
    cases h

theorem inDirectory?_eq_some_iff : Registration.inDirectory? storage directory = some plugin ↔
    ∃ text manifest, storage.readText (Storage.Path.join directory Manifest.fileName) = .ok text ∧
      Manifest.read? text = some manifest ∧ manifest.validate = .ok () ∧
      plugin = .ofManifest manifest directory := by
  rw [Registration.inDirectory?]
  cases storage.readText (Storage.Path.join directory Manifest.fileName) with
  | error fault => simp
  | ok text =>
    cases hread : Manifest.read? text with
    | none => simp [hread]
    | some manifest =>
      cases hvalid : manifest.validate with
      | error fault => simp [hread, hvalid]
      | ok done => simp [hread, hvalid, eq_comm]

theorem InstalledAs.isPluginDirectory (h : InstalledAs storage directory plugin) :
    isPluginDirectory storage directory = true := by
  obtain ⟨hdirectory, text, -, htext, -⟩ := h
  rw [Plugin.isPluginDirectory, hdirectory, holds_of_readText htext, Bool.and_true]

theorem installed?_eq_some_iff :
    installed? storage directory = some plugin ↔ InstalledAs storage directory plugin := by
  constructor
  · intro h
    rw [installed?] at h
    split at h
    · next hthere =>
      rw [isPluginDirectory, Bool.and_eq_true] at hthere
      exact ⟨hthere.1, inDirectory?_eq_some_iff.mp h⟩
    · cases h
  · intro h
    rw [installed?, if_pos h.isPluginDirectory]
    exact inDirectory?_eq_some_iff.mpr h.2

/-! ## All sub-directories -/

theorem discover_eq (hnames : storage.names directory = .ok names) :
    discover storage directory = .ok ((names.mergeSort bytesLe).filterMap fun name =>
      installed? storage (Storage.Path.join directory name)) := by
  have hholds : storage.holds directory = true := by
    rw [Storage.holds]
    cases hfind : storage.find directory with
    | ok node => rfl
    | error fault =>
      rw [Storage.names, hfind] at hnames
      cases hnames
  rw [discover, if_pos hholds, hnames]
  dsimp only
  rw [List.filterMap_filter, List.filterMap_map]
  rfl

theorem eq_of_bytes {a b : String} (h : a.toUTF8.data.toList = b.toUTF8.data.toList) : a = b :=
  String.toByteArray_inj.mp (ByteArray.ext (Array.toList_inj.mp h))

theorem ascending_mergeSort (honce : names.Nodup) :
    (names.mergeSort bytesLe).Pairwise Precedes := by
  have hsorted : (names.mergeSort bytesLe).Pairwise fun a b => bytesLe a b = true := by
    refine List.pairwise_mergeSort (fun a b c hab hbc => ?_) (fun a b => ?_) names
    · exact decide_eq_true (List.le_trans (of_decide_eq_true hab) (of_decide_eq_true hbc))
    · rw [Bool.or_eq_true, bytesLe, bytesLe, decide_eq_true_iff, decide_eq_true_iff]
      exact List.le_total _ _
  have hnodup : (names.mergeSort bytesLe).Nodup :=
    (List.mergeSort_perm names bytesLe).nodup_iff.mpr honce
  refine (hsorted.and hnodup).imp fun {a b} hab => ?_
  obtain ⟨hle, hne⟩ := hab
  refine List.not_le.mp fun hge => hne (eq_of_bytes ?_)
  exact List.le_antisymm (of_decide_eq_true hle) hge

def lookUp (storage : Storage) (directory : String) (names : List String) :
    List (String × Registration) :=
  names.filterMap fun name => (installed? storage (Storage.Path.join directory name)).map (name, ·)

theorem map_installed?_eq_some_iff {name : String} {entry : String × Registration} :
    (installed? storage (Storage.Path.join directory name)).map (name, ·) = some entry ↔
      entry.1 = name ∧ InstalledAs storage (Storage.Path.join directory name) entry.2 := by
  rw [← installed?_eq_some_iff, Option.map_eq_some_iff]
  constructor
  · rintro ⟨plugin, hplugin, rfl⟩
    exact ⟨rfl, hplugin⟩
  · rintro ⟨rfl, hplugin⟩
    exact ⟨entry.2, hplugin, rfl⟩

theorem mem_lookUp_iff {name : String} : (name, plugin) ∈ lookUp storage directory names ↔
    name ∈ names ∧ InstalledAs storage (Storage.Path.join directory name) plugin := by
  simp only [lookUp, List.mem_filterMap, map_installed?_eq_some_iff]
  constructor
  · rintro ⟨_, hname, rfl, hplugin⟩
    exact ⟨hname, hplugin⟩
  · rintro ⟨hname, hplugin⟩
    exact ⟨name, hname, rfl, hplugin⟩

theorem ascending_lookUp (h : names.Pairwise Precedes) :
    (lookUp storage directory names).Pairwise ByBytes := by
  refine h.filterMap _ ?_
  intro earlier later hlt entry hentry entry' hentry'
  rw [ByBytes, (map_installed?_eq_some_iff.mp hentry).1, (map_installed?_eq_some_iff.mp hentry').1]
  exact hlt

theorem finds_lookUp (hnames : storage.names directory = .ok names) (honce : names.Nodup) :
    Finds storage directory names (lookUp storage directory (names.mergeSort bytesLe)) where
  discover_eq := by
    rw [Plugin.discover_eq hnames, lookUp, List.map_filterMap]
    refine congrArg Except.ok (List.filterMap_congr fun name _ => ?_)
    rw [Option.map_map]
    exact Option.map_id'.symm
  ascending := ascending_lookUp (ascending_mergeSort honce)
  mem_iff name plugin := by
    rw [mem_lookUp_iff, List.mem_mergeSort]

theorem eq_of_ascending (h : found.Pairwise ByBytes) (h' : found'.Pairwise ByBytes)
    (hmem : ∀ plugin, plugin ∈ found' ↔ plugin ∈ found) : found' = found := by
  have hirrefl : Std.Irrefl ByBytes := ⟨fun _ => List.lt_irrefl _⟩
  have hantisymm : Std.Antisymm ByBytes :=
    ⟨fun _ _ hlt hgt => absurd (List.lt_trans hlt hgt) (List.lt_irrefl _)⟩
  exact h'.eq_of_mem_iff h hmem

/-- What is found can be looked up in any list of the names that is in order. -/
theorem Finds.eq_lookUp (h : Finds storage directory names found) (hperm : names'.Perm names)
    (hsorted : names'.Pairwise Precedes) : found = lookUp storage directory names' := by
  refine eq_of_ascending (ascending_lookUp hsorted) h.ascending fun entry => ?_
  obtain ⟨name, plugin⟩ := entry
  rw [h.mem_iff, mem_lookUp_iff, hperm.mem_iff]

theorem Finds.filter_eq (h : Finds storage directory names found)
    (h' : Finds storage' directory names' found') (keep : String → Bool)
    (hnames : ∀ name, keep name = true → (name ∈ names' ↔ name ∈ names))
    (hinstalled : ∀ name ∈ names, keep name = true → ∀ plugin,
      InstalledAs storage' (Storage.Path.join directory name) plugin ↔
        InstalledAs storage (Storage.Path.join directory name) plugin) :
    found'.filter (keep ·.1) = found.filter (keep ·.1) := by
  refine eq_of_ascending (h.ascending.filter _) (h'.ascending.filter _) fun entry => ?_
  obtain ⟨name, plugin⟩ := entry
  rw [List.mem_filter, List.mem_filter, h.mem_iff, h'.mem_iff]
  refine and_congr_left fun hkeep => ?_
  rw [hnames name hkeep]
  exact and_congr_right fun hname => hinstalled name hname hkeep plugin

/-! ## One sub-directory changes -/

/-- The ways to a directory and to its manifest avoid a place. -/
def ManifestAvoids (storage : Storage) (location : Storage.Location) (name directory : String) :
    Prop :=
  storage.Avoids location name directory ∧
    storage.Avoids location name (Storage.Path.join directory Manifest.fileName)

instance (storage : Storage) (location : Storage.Location) (name directory : String) :
    Decidable (ManifestAvoids storage location name directory) :=
  inferInstanceAs (Decidable (_ ∧ _))

theorem installedAs_congr (hdirectory : storage'.shapeOf directory = storage.shapeOf directory)
    (hmanifest : storage'.shapeOf (Storage.Path.join directory Manifest.fileName) =
      storage.shapeOf (Storage.Path.join directory Manifest.fileName)) :
    InstalledAs storage' directory plugin ↔ InstalledAs storage directory plugin := by
  rw [InstalledAs, InstalledAs, Storage.holdsDirectory_eq, Storage.holdsDirectory_eq,
    Storage.readText_eq, Storage.readText_eq, hdirectory, hmanifest]

variable {location : Storage.Location} {name : String}

theorem mem_names_of_sameBeside (hnames : storage.names directory = .ok names)
    (hnames' : storage'.names directory = .ok names')
    (hlocation : storage.locate directory = .ok location)
    (hsame : storage.SameBeside location name storage')
    (hdirectory : storage.Avoids location name directory) {other : String} (hother : other ≠ name) :
    other ∈ names' ↔ other ∈ names := by
  have hlocation' : storage'.locate directory = .ok location :=
    (Storage.locate_of_avoids hsame hdirectory).1.trans hlocation
  have hbeside : ¬ location ++ [name] <+: location ++ [other] := fun hbelow => by
    rw [List.prefix_append_right_inj] at hbelow
    simp [hother.symm] at hbelow
  rw [Storage.mem_names_iff hnames hlocation, Storage.mem_names_iff hnames' hlocation',
    hsame.shape _ hbeside]

/-- In a directory that can be listed, the plugins of its sub-directories are discovered, whatever
the order of the names. A change to one of them does not reach those that are not behind a link into
it. -/
theorem discover_finds_installed (hnames : storage.names directory = .ok names)
    (honce : names.Nodup) :
    ∃ found, Finds storage directory names found ∧
      ∀ storage' names', storage'.names directory = .ok names' → names'.Nodup →
        ∃ found', Finds storage' directory names' found' ∧
          ((∀ path, storage'.shapeOf path = storage.shapeOf path) → names'.Perm names →
            found' = found) ∧
          ∀ location name, storage.locate directory = .ok location →
            storage.SameBeside location name storage' →
            storage.Avoids location name directory →
            ∀ keep : String → Bool, keep name = false →
              (∀ other ∈ names, keep other = true →
                ManifestAvoids storage location name (Storage.Path.join directory other)) →
              found'.filter (keep ·.1) = found.filter (keep ·.1) := by
  have hfound := finds_lookUp hnames honce
  refine ⟨_, hfound, fun storage' names' hnames' honce' => ?_⟩
  have hfound' := finds_lookUp hnames' honce'
  refine ⟨_, hfound', fun hshape hperm => ?_, ?_⟩
  · have hall := hfound.filter_eq hfound' (fun _ => true) (fun _ _ => hperm.mem_iff)
      fun _ _ _ _ => installedAs_congr (hshape _) (hshape _)
    rwa [List.filter_true, List.filter_true] at hall
  · intro location name hlocation hsame hdirectory keep hname hkeep
    refine hfound.filter_eq hfound' keep (fun other hother => ?_) fun other hmem hother plugin => ?_
    · refine mem_names_of_sameBeside hnames hnames' hlocation hsame hdirectory fun heq => ?_
      rw [heq, hname] at hother
      cases hother
    · obtain ⟨havoid, havoid'⟩ := hkeep other hmem hother
      exact installedAs_congr (Storage.shapeOf_of_avoids hsame havoid)
        (Storage.shapeOf_of_avoids hsame havoid')

/-! A shelf of plugins, one of them behind a link, before and after another is taken away. -/

def presenting (manifest : String) : Storage.Node :=
  .directory [("manifest.json", .file manifest.toUTF8)]

def shelf : Storage where
  root := .directory [
    ("plugins", .directory [
      ("b", presenting "[\"beta\",\"b\"]"),
      ("c", .link "../shared"),
      ("a", presenting "[\"alpha\",\"a\"]"),
      ("notes.txt", .file .empty)]),
    ("shared", presenting "[\"gamma\",\"c\",\"Gamma\"]")]

def summary (entry : String × Registration) : String × String × String × Loader.Key :=
  (entry.2.identifier, entry.2.mountPath, entry.2.title, entry.2.loader.key)

theorem shelf_without_one :
    let shelf' := { shelf with root := shelf.root.set "a" none ["plugins"] }
    ∃ found found', Finds shelf "plugins" ["b", "c", "a", "notes.txt"] found ∧
      Finds shelf' "plugins" ["b", "c", "notes.txt"] found' ∧
      found.map summary = [
        ("alpha", "a", "alpha", .file "plugins/a/index.html"),
        ("beta", "b", "beta", .file "plugins/b/index.html"),
        ("gamma", "c", "Gamma", .file "plugins/c/index.html")] ∧
      found'.map summary = [
        ("beta", "b", "beta", .file "plugins/b/index.html"),
        ("gamma", "c", "Gamma", .file "plugins/c/index.html")] ∧
      found'.filter (·.1 != "a") = found.filter (·.1 != "a") := by
  intro shelf'
  have hnames : shelf.names "plugins" = .ok ["b", "c", "a", "notes.txt"] := by decide +kernel
  have hnames' : shelf'.names "plugins" = .ok ["b", "c", "notes.txt"] := by decide +kernel
  have havoids : ∀ other ∈ ["b", "c", "a", "notes.txt"], (other != "a") = true →
      ManifestAvoids shelf ["plugins"] "a" (Storage.Path.join "plugins" other) := by
    decide +kernel
  obtain ⟨found, hfound, hchange⟩ := discover_finds_installed hnames (by decide)
  obtain ⟨found', hfound', -, hbeside⟩ := hchange shelf' _ hnames' (by decide)
  have hsorted : ["a", "b", "c", "notes.txt"].Perm ["b", "c", "a", "notes.txt"] := by decide
  refine ⟨found, found', hfound, hfound', ?_, ?_, hbeside _ _ (by decide +kernel)
    (shelf.sameBeside_set ["plugins"] "a" none) (by decide +kernel) _ (by decide) havoids⟩
  · rw [hfound.eq_lookUp hsorted (by decide +kernel)]
    decide +kernel
  · rw [hfound'.eq_lookUp (.refl _) (by decide +kernel)]
    decide +kernel

/-! A shelf where one plugin is a link to another: what happens to the other happens to both. A shelf
that is reached through a plugin is lost with it. -/

def linkedShelf : Storage where
  root := .directory [
    ("plugins", .directory [("a", presenting "[\"alpha\",\"a\"]"), ("b", .link "a")])]

theorem linked_plugin_goes_with_its_target :
    let removed := { linkedShelf with root := linkedShelf.root.set "a" none ["plugins"] }
    let broken :=
      { linkedShelf with root := linkedShelf.root.set "a" (some (presenting "")) ["plugins"] }
    linkedShelf.SameBeside ["plugins"] "a" removed ∧
    linkedShelf.SameBeside ["plugins"] "a" broken ∧
    (∃ found foundRemoved foundBroken, Finds linkedShelf "plugins" ["a", "b"] found ∧
      Finds removed "plugins" ["b"] foundRemoved ∧ Finds broken "plugins" ["a", "b"] foundBroken ∧
      (found.filter (·.1 != "a")).map summary =
        [("alpha", "a", "alpha", .file "plugins/b/index.html")] ∧
      (foundRemoved.filter (·.1 != "a")).map summary = [] ∧
      (foundBroken.filter (·.1 != "a")).map summary = []) ∧
    ∃ found, Finds shelf "plugins/a/.." ["b", "c", "a", "notes.txt"] found ∧
      (found.filter (·.1 != "a")).map summary = [
        ("beta", "b", "beta", .file "plugins/a/../b/index.html"),
        ("gamma", "c", "Gamma", .file "plugins/a/../c/index.html")] ∧
      discover { shelf with root := shelf.root.set "a" none ["plugins"] } "plugins/a/.." =
        .ok [] := by
  intro removed broken
  have hfound : Finds linkedShelf "plugins" ["a", "b"] _ :=
    finds_lookUp (by decide +kernel) (by decide)
  have hremoved : Finds removed "plugins" ["b"] _ := finds_lookUp (by decide +kernel) (by decide)
  have hbroken : Finds broken "plugins" ["a", "b"] _ :=
    finds_lookUp (by decide +kernel) (by decide)
  have hthrough : Finds shelf "plugins/a/.." ["b", "c", "a", "notes.txt"] _ :=
    finds_lookUp (by decide +kernel) (by decide)
  refine ⟨linkedShelf.sameBeside_set ["plugins"] "a" none,
    linkedShelf.sameBeside_set ["plugins"] "a" (some (presenting "")),
    ⟨_, _, _, hfound, hremoved, hbroken, ?_, ?_, ?_⟩, _, hthrough, ?_, ?_⟩
  · rw [hfound.eq_lookUp (.refl _) (by decide +kernel)]
    decide +kernel
  · rw [hremoved.eq_lookUp (.refl _) (by decide +kernel)]
    decide +kernel
  · rw [hbroken.eq_lookUp (.refl _) (by decide +kernel)]
    decide +kernel
  · have hsorted : ["a", "b", "c", "notes.txt"].Perm ["b", "c", "a", "notes.txt"] := by decide
    rw [hthrough.eq_lookUp hsorted (by decide +kernel)]
    decide +kernel
  · rw [discover, if_neg (by decide +kernel)]

end NetworkPortal.Plugin

import NetworkPortal.Proofs.Keyed
import NetworkPortal.Storage.Tree

/-! # One place in the file tree

What is put at a place, or taken from it, makes no difference to a path that does not lead there. A
path leads to a place if it would end there were the place empty.
-/
namespace NetworkPortal.Storage

/-- What is at a place, without what a directory holds. -/
inductive Shape where
  | file (bytes : ByteArray)
  | directory
  | link (target : String)

namespace Node

def shape : Node → Shape
  | .file bytes => .file bytes
  | .directory _ => .directory
  | .link target => .link target

def shapeAt? (root : Node) (location : Location) : Option Shape :=
  (root.atLocation? location).map shape

variable {root : Node} {here location : Location} {name : String}
  {entries : List (String × Node)}

theorem shapeAt?_nil : root.shapeAt? [] = some root.shape := rfl

theorem shapeAt?_cons : root.shapeAt? (name :: location) =
    (root.child? name).bind (shapeAt? · location) := by
  rw [shapeAt?, atLocation?, Option.map_bind]
  rfl

theorem atLocation?_append : root.atLocation? (here ++ location) =
    (root.atLocation? here).bind (atLocation? location) := by
  induction here generalizing root with
  | nil => rfl
  | cons step rest ih =>
    rw [List.cons_append, atLocation?, atLocation?, Option.bind_assoc]
    exact Option.bind_congr fun child _ => ih

theorem shapeAt?_concat (h : root.atLocation? here = some (.directory entries)) :
    root.shapeAt? (here ++ [name]) = (Keyed.get? name entries).map shape := by
  rw [shapeAt?, atLocation?_append, h, Option.bind_some, atLocation?]
  cases hget : Keyed.get? name entries <;> simp [child?, hget, atLocation?]

theorem child?_set_of_ne {other : String} (node : Option Node) (h : other ≠ name) :
    (root.set name node []).child? other = root.child? other := by
  cases root with
  | directory entries =>
    cases node with
    | none => exact Keyed.get?_filter_of_ne h
    | some node => exact Keyed.get?_put_of_ne node h
  | _ => rfl

theorem shape_set (node : Option Node) (location : Location) :
    (root.set name node location).shape = root.shape := by
  cases location <;> cases root <;> rfl

theorem child?_set_cons (node : Option Node) (step other : String) :
    (root.set name node (step :: location)).child? other =
      (root.child? other).map fun child =>
        if other = step then child.set name node location else child := by
  cases root with
  | directory entries =>
    exact Keyed.get?_map_snd fun key (child : Node) =>
      if key = step then child.set name node location else child
  | _ => rfl

/-- Below a place that is changed, and there, anything may have changed, but nothing elsewhere. -/
theorem shapeAt?_set (node : Option Node) {other : Location}
    (h : ¬ location ++ [name] <+: other) :
    (root.set name node location).shapeAt? other = root.shapeAt? other := by
  induction location generalizing root other with
  | nil =>
    cases other with
    | nil => rw [shapeAt?_nil, shapeAt?_nil, shape_set]
    | cons step rest =>
      have hne : step ≠ name := fun heq => h (by simp [heq])
      rw [shapeAt?_cons, shapeAt?_cons, child?_set_of_ne node hne]
  | cons step location ih =>
    cases other with
    | nil => rw [shapeAt?_nil, shapeAt?_nil, shape_set]
    | cons step' rest =>
      rw [shapeAt?_cons, shapeAt?_cons, child?_set_cons, Option.bind_map]
      refine Option.bind_congr fun child _ => ?_
      by_cases hstep : step' = step
      · have hrest : ¬ location ++ [name] <+: rest := fun hbelow =>
          h (by simpa [hstep] using hbelow)
        simp only [Function.comp_apply, if_pos hstep, ih hrest]
      · simp only [Function.comp_apply, if_neg hstep]

theorem shapeAt?_set_none :
    (root.set name none location).shapeAt? (location ++ [name]) = none := by
  induction location generalizing root with
  | nil =>
    rw [List.nil_append, shapeAt?_cons]
    cases root with
    | directory entries =>
      have hgone : (set name none [] (.directory entries)).child? name = none :=
        Keyed.get?_filter_self
      rw [hgone, Option.bind_none]
    | _ => rfl
  | cons step location ih =>
    rw [List.cons_append, shapeAt?_cons, child?_set_cons]
    cases root.child? step with
    | none => rfl
    | some child =>
      rw [Option.map_some, if_pos rfl, Option.bind_some, ih]

end Node

variable {root root' : Node} {here location : Location} {name : String} {links : Nat}
  {steps : List String}

/-- The next step is decided by what is here and what is under the next name. -/
theorem advance_cons (root : Node) (here : Location) (step : String) (rest : List String) :
    advance root here (step :: rest) =
      match root.shapeAt? here with
      | some .directory =>
        if step = "." then advance root here rest
        else if step = ".." then advance root here.dropLast rest
        else if nameLimit < step.utf8ByteSize then .stopped .nameTooLong
        else
          match root.shapeAt? (here ++ [step]) with
          | none => .missing here step rest
          | some (.link target) => .met here target rest
          | some _ => advance root (here ++ [step]) rest
      | _ => .stopped .notDirectory := by
  rw [advance]
  cases hhere : root.atLocation? here with
  | none => rw [Node.shapeAt?, hhere, Option.map_none]
  | some node =>
    cases node with
    | directory entries =>
      rw [Node.shapeAt?_concat hhere, Node.shapeAt?, hhere]
      dsimp only [Option.map_some, Node.shape]
      cases Keyed.get? step entries with
      | none => rfl
      | some child => cases child <;> rfl
    | file bytes => rw [Node.shapeAt?, hhere, Option.map_some, Node.shape]
    | link target => rw [Node.shapeAt?, hhere, Option.map_some, Node.shape]

def Progress.location? : Progress → Option Location
  | .arrived location => some location
  | .missing location _ _ => some location
  | .stopped _ => none
  | .met location _ _ => some location

/-- Trees look the same apart from one place and what is below it, and there the second has
nothing. -/
structure EmptiedAt (location : Location) (name : String) (root root' : Node) : Prop where
  beside : ∀ other, ¬ location ++ [name] <+: other → root.shapeAt? other = root'.shapeAt? other
  empty : root'.shapeAt? (location ++ [name]) = none

theorem advance_of_emptiedAt (hroots : EmptiedAt location name root root')
    (hhere : ¬ location ++ [name] <+: here) (steps : List String) :
    (∃ rest, advance root' here steps = .missing location name rest) ∨
      advance root here steps = advance root' here steps ∧
        ∀ there ∈ (advance root' here steps).location?, ¬ location ++ [name] <+: there := by
  induction steps generalizing here with
  | nil =>
    refine .inr ⟨rfl, fun there hthere => ?_⟩
    obtain rfl := Option.some.inj hthere
    exact hhere
  | cons step rest ih =>
    rw [advance_cons root, advance_cons root', hroots.beside here hhere]
    split
    · split
      -- Staying and going up keep out of the place.
      · exact ih hhere
      · split
        · exact ih fun hbelow => hhere (hbelow.trans (List.dropLast_prefix here))
        · split
          · exact .inr ⟨rfl, fun there hthere => nomatch hthere⟩
          -- The next name is that of the empty place, or the two trees look the same under it.
          · by_cases hplace : here ++ [step] = location ++ [name]
            · obtain ⟨rfl, hstep⟩ := List.append_inj' hplace rfl
              obtain rfl := List.singleton_inj.mp hstep
              rw [hroots.empty]
              exact .inl ⟨rest, rfl⟩
            · have hnext : ¬ location ++ [name] <+: here ++ [step] := fun hbelow =>
                (List.prefix_concat_iff.mp hbelow).elim (fun heq => hplace heq.symm) hhere
              rw [hroots.beside _ hnext]
              split
              · refine .inr ⟨rfl, fun there hthere => ?_⟩
                obtain rfl := Option.some.inj hthere
                exact hhere
              · refine .inr ⟨rfl, fun there hthere => ?_⟩
                obtain rfl := Option.some.inj hthere
                exact hhere
              · exact ih hnext
    · exact .inr ⟨rfl, fun there hthere => nomatch hthere⟩

theorem trace_of_emptiedAt (hroots : EmptiedAt location name root root') :
    ∀ {links : Nat} {here : Location} {steps : List String}, ¬ location ++ [name] <+: here →
      (∀ rest, trace root' links here steps ≠ .ok (.gap location name rest)) →
      trace root links here steps = trace root' links here steps ∧
        ∀ there, trace root' links here steps = .ok (.node there) →
          ¬ location ++ [name] <+: there := by
  intro links here steps hhere hmiss
  obtain ⟨rest, hmissing⟩ | ⟨hsame, hnot⟩ := advance_of_emptiedAt hroots hhere steps
  · exact absurd (by rw [trace, hmissing]) (hmiss rest)
  · rw [trace] at hmiss
    rw [trace, trace, hsame]
    cases hprogress : advance root' here steps with
    | arrived there =>
      refine ⟨rfl, fun there' hthere => ?_⟩
      obtain rfl := Destination.node.inj (Except.ok.inj hthere)
      exact hnot there (by rw [hprogress]; rfl)
    | missing there name' rest => exact ⟨rfl, fun _ hthere => nomatch hthere⟩
    | stopped fault => exact ⟨rfl, fun _ hthere => nomatch hthere⟩
    | met there target rest =>
      rw [hprogress] at hmiss hnot
      cases links with
      | zero => exact ⟨rfl, fun _ hthere => nomatch hthere⟩
      | succ links =>
        have hgoOn : ¬ location ++ [name] <+: if Path.isAbsolute target then [] else there := by
          split
          · simp
          · exact hnot there rfl
        exact trace_of_emptiedAt hroots hgoOn hmiss

/-! ## Paths that avoid a place -/

def origin (storage : Storage) (path : String) : Location :=
  if Path.isAbsolute path then [] else storage.start

/-- Two storages look the same apart from one place and what is below it. -/
structure SameBeside (location : Location) (name : String) (storage storage' : Storage) : Prop where
  start : storage.start = storage'.start
  shape : ∀ other, ¬ location ++ [name] <+: other →
    storage.root.shapeAt? other = storage'.root.shapeAt? other

/-- A path avoids a place if it neither starts there nor would end there were the place empty. An
empty place ends any way that comes to it, so the way to what the path leads to never does. -/
def Avoids (storage : Storage) (location : Location) (name path : String) : Prop :=
  ¬ location ++ [name] <+: storage.origin path ∧
    ∀ rest, trace (storage.root.set name none location) linkLimit (storage.origin path)
      (Path.steps path) ≠ .ok (.gap location name rest)

def isGapAt (location : Location) (name : String) : Except Fault Destination → Bool
  | .ok (.gap there missing _) => there = location && missing = name
  | _ => false

theorem isGapAt_eq_false_iff {result : Except Fault Destination} :
    isGapAt location name result = false ↔ ∀ rest, result ≠ .ok (.gap location name rest) := by
  cases result with
  | error fault => simp [isGapAt]
  | ok destination => cases destination <;> simp [isGapAt]

instance (storage : Storage) (location : Location) (name path : String) :
    Decidable (storage.Avoids location name path) :=
  decidable_of_iff
    (¬ location ++ [name] <+: storage.origin path ∧
      isGapAt location name (trace (storage.root.set name none location) linkLimit
        (storage.origin path) (Path.steps path)) = false)
    (and_congr_right fun _ => isGapAt_eq_false_iff)

variable {storage storage' : Storage} {path : String} {names : List String}

theorem sameBeside_set (storage : Storage) (location : Location) (name : String)
    (node : Option Node) :
    storage.SameBeside location name
      { storage with root := storage.root.set name node location } where
  start := rfl
  shape _ h := (Node.shapeAt?_set node h).symm

theorem emptiedAt_set (root : Node) (location : Location) (name : String) :
    EmptiedAt location name root (root.set name none location) where
  beside _ h := (Node.shapeAt?_set none h).symm
  empty := Node.shapeAt?_set_none

theorem trace_of_avoids (hsame : storage.SameBeside location name storage')
    (hpath : storage.Avoids location name path) :
    trace storage'.root linkLimit (storage.origin path) (Path.steps path) =
        trace storage.root linkLimit (storage.origin path) (Path.steps path) ∧
      ∀ there, trace storage.root linkLimit (storage.origin path) (Path.steps path) =
        .ok (.node there) → ¬ location ++ [name] <+: there := by
  have hempty := emptiedAt_set storage.root location name
  have hempty' : EmptiedAt location name storage'.root (storage.root.set name none location) :=
    ⟨fun other h => (hsame.shape other h).symm.trans (hempty.beside other h), hempty.empty⟩
  obtain ⟨htrace, hnot⟩ := trace_of_emptiedAt hempty hpath.1 hpath.2
  obtain ⟨htrace', -⟩ := trace_of_emptiedAt hempty' hpath.1 hpath.2
  rw [htrace, htrace']
  exact ⟨rfl, hnot⟩

theorem locate_eq (storage : Storage) (path : String) :
    storage.locate path =
      if '\x00' ∈ path.toList then .error .badName
      else if path.isEmpty then .error .notFound
      else if pathLimit ≤ path.utf8ByteSize then .error .nameTooLong
      else follow storage.root (storage.origin path) (Path.steps path) := rfl

theorem trace_of_locate {there : Location} (h : storage.locate path = .ok there) :
    trace storage.root linkLimit (storage.origin path) (Path.steps path) = .ok (.node there) := by
  rw [locate_eq] at h
  split at h
  · cases h
  · split at h
    · cases h
    · split at h
      · cases h
      · rw [follow] at h
        split at h
        · next htrace =>
          obtain rfl := Except.ok.inj h
          exact htrace
        · cases h
        · cases h

theorem locate_of_avoids (hsame : storage.SameBeside location name storage')
    (hpath : storage.Avoids location name path) :
    storage'.locate path = storage.locate path ∧
      ∀ there, storage.locate path = .ok there → ¬ location ++ [name] <+: there := by
  obtain ⟨htrace, hnot⟩ := trace_of_avoids hsame hpath
  have horigin : storage'.origin path = storage.origin path := by
    rw [origin, origin, hsame.start]
  refine ⟨?_, fun there hthere => hnot there (trace_of_locate hthere)⟩
  rw [locate_eq, locate_eq, follow, follow, horigin, htrace]

def shapeOf (storage : Storage) (path : String) : Except Fault Shape :=
  (storage.find path).map Node.shape

theorem shapeOf_of_avoids (hsame : storage.SameBeside location name storage')
    (hpath : storage.Avoids location name path) :
    storage'.shapeOf path = storage.shapeOf path := by
  obtain ⟨hlocate, hnot⟩ := locate_of_avoids hsame hpath
  rw [shapeOf, shapeOf, find, find, hlocate]
  cases hthere : storage.locate path with
  | error fault => rfl
  | ok there =>
    have hshape := hsame.shape there (hnot there hthere)
    rw [Node.shapeAt?, Node.shapeAt?] at hshape
    dsimp only
    cases hnode : storage.root.atLocation? there with
    | none =>
      rw [hnode] at hshape
      rw [Option.map_eq_none_iff.mp hshape.symm]
    | some node =>
      rw [hnode] at hshape
      obtain ⟨node', hnode', hnode'_shape⟩ := Option.map_eq_some_iff.mp hshape.symm
      rw [hnode']
      exact congrArg Except.ok hnode'_shape

theorem holdsDirectory_eq (storage : Storage) (path : String) :
    storage.holdsDirectory path =
      match storage.shapeOf path with
      | .ok .directory => true
      | _ => false := by
  rw [holdsDirectory, shapeOf]
  cases storage.find path with
  | error fault => rfl
  | ok node => cases node <;> rfl

theorem readText_eq (storage : Storage) (path : String) :
    storage.readText path =
      match storage.shapeOf path with
      | .ok (.file bytes) =>
        match String.fromUTF8? bytes with
        | some text => .ok text
        | none => .error .badText
      | .ok _ => .error .isDirectory
      | .error fault => .error fault := by
  rw [readText, shapeOf]
  cases storage.find path with
  | error fault => rfl
  | ok node => cases node <;> rfl

/-! ## The names in a directory -/

theorem exists_entries_of_names (hnames : storage.names path = .ok names) :
    ∃ location entries, storage.locate path = .ok location ∧
      storage.root.atLocation? location = some (.directory entries) ∧
      names = entries.map Prod.fst := by
  rw [Storage.names, find] at hnames
  cases hlocate : storage.locate path with
  | error fault =>
    rw [hlocate] at hnames
    cases hnames
  | ok location =>
    rw [hlocate] at hnames
    dsimp only at hnames
    cases hnode : storage.root.atLocation? location with
    | none =>
      rw [hnode] at hnames
      cases hnames
    | some node =>
      rw [hnode] at hnames
      cases node with
      | directory entries => exact ⟨location, entries, rfl, hnode, (Except.ok.inj hnames).symm⟩
      | _ => cases hnames

theorem mem_names_iff (hnames : storage.names path = .ok names)
    (hlocation : storage.locate path = .ok location) :
    name ∈ names ↔ (storage.root.shapeAt? (location ++ [name])).isSome := by
  obtain ⟨_, entries, hlocation', hentries, rfl⟩ := exists_entries_of_names hnames
  obtain rfl := Except.ok.inj (hlocation.symm.trans hlocation')
  rw [Node.shapeAt?_concat hentries, Option.isSome_map, Keyed.isSome_get?_iff]

end NetworkPortal.Storage

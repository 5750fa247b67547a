import NetworkPortal.Proofs.View.Title

/-! # The lines of a list response

A list response holds an array: it is one, or is an object with one under `results`. It has a line
for each element of the array that is an object, in the order of the array. What a line says is told
member by member: by what name the resource goes, and where the line leads. A response that holds
no array has no lines.
-/
namespace NetworkPortal.Page.ListItem

variable {app model : String} {members : List (String × Json)} {item : ListItem}
variable {listing element : Json} {elements : List Json} {items : List ListItem}

/-! ## What a response says -/

/-- The text of the first key whose member names the resource, the dash if there is none. -/
inductive NamedFirst (members : List (String × Json)) : List String → String → Prop
  | here {key text : String} {keys : List String} (h : NamedUnder members key text) :
    NamedFirst members (key :: keys) text
  | later {key text : String} {keys : List String} (h : ∀ other, ¬ NamedUnder members key other)
      (hkeys : NamedFirst members keys text) : NamedFirst members (key :: keys) text
  | nowhere : NamedFirst members [] "—"

/-- A line leads to the resource if the resource has an identifier. -/
structure ShowsObject (app model : String) (members : List (String × Json)) (item : ListItem) :
    Prop where
  label : NamedFirst members ["display", "name", "id"] item.label
  href : ∀ address, item.href = some address ↔
    ∃ id, NamedUnder members "id" id ∧ address = "/" ++ app ++ "/" ++ model ++ "/" ++ id

/-- An element that is no object is passed over. -/
inductive ShowsElements (app model : String) : List Json → List ListItem → Prop
  | nil : ShowsElements app model [] []
  | object {members : List (String × Json)} {item : ListItem} {elements : List Json}
      {items : List ListItem} (h : ShowsObject app model members item)
      (hrest : ShowsElements app model elements items) :
      ShowsElements app model (.object members :: elements) (item :: items)
  | other {element : Json} {elements : List Json} {items : List ListItem}
      (h : ∀ members, element ≠ .object members)
      (hrest : ShowsElements app model elements items) :
      ShowsElements app model (element :: elements) items

/-- A response holds the array that it is, or that it has under `results`. -/
inductive Holds : Json → List Json → Prop
  | array (elements : List Json) : Holds (.array elements) elements
  | results {members : List (String × Json)} {elements : List Json}
      (h : Keyed.get? "results" members = some (.array elements)) :
      Holds (.object members) elements

/-! ## What is read from it -/

theorem namedFirst_iff {keys : List String} {text : String} :
    NamedFirst members keys text ↔
      (keys.findSome? (memberText? members)).getD Rendered.dash = text := by
  constructor
  · intro h
    induction h with
    | here h => rw [List.findSome?_cons, memberText?_eq_some_iff.mpr h, Option.getD_some]
    | later h _ ih => rwa [List.findSome?_cons, memberText?_eq_none_iff.mpr h]
    | nowhere => rfl
  · rintro rfl
    induction keys with
    | nil => exact .nowhere
    | cons key rest ih =>
      rw [List.findSome?_cons]
      cases htext : memberText? members key with
      | some text => exact .here (memberText?_eq_some_iff.mp htext)
      | none => exact .later (memberText?_eq_none_iff.mp htext) ih

theorem label_ofMembers (app model : String) (members : List (String × Json)) :
    (ofMembers app model members).label =
      (["display", "name", "id"].findSome? (memberText? members)).getD Rendered.dash := by
  rw [ofMembers]
  cases hdisplay : memberText? members "display" <;> cases hname : memberText? members "name" <;>
    cases hid : memberText? members "id" <;> simp [hdisplay, hname, hid]

theorem href_ofMembers_eq_some_iff {address : String} :
    (ofMembers app model members).href = some address ↔
      ∃ id, NamedUnder members "id" id ∧ address = "/" ++ app ++ "/" ++ model ++ "/" ++ id := by
  rw [ofMembers, Option.map_eq_some_iff]
  exact exists_congr fun id => and_congr memberText?_eq_some_iff eq_comm

theorem showsObject_iff :
    ShowsObject app model members item ↔ ofMembers app model members = item := by
  constructor
  · rintro ⟨hlabel, hhref⟩
    have htext := namedFirst_iff.mp hlabel
    rw [← label_ofMembers app model] at htext
    have haddress : (ofMembers app model members).href = item.href := by
      apply Option.ext
      intro address
      rw [href_ofMembers_eq_some_iff, hhref]
    exact congr (congrArg ListItem.mk htext) haddress
  · rintro rfl
    refine ⟨?_, fun _ => href_ofMembers_eq_some_iff⟩
    rw [label_ofMembers]
    exact namedFirst_iff.mpr rfl

theorem object?_eq_none_iff : element.object? = none ↔ ∀ members, element ≠ .object members := by
  cases element <;> simp [Json.object?]

theorem showsElements_iff :
    ShowsElements app model elements items ↔
      (elements.filterMap Json.object?).map (ofMembers app model) = items := by
  constructor
  · intro h
    induction h with
    | nil => rfl
    | @object members _ _ _ h _ ih =>
      have hobject : (Json.object members).object? = some members := rfl
      rw [List.filterMap_cons_some hobject, List.map_cons, ih, showsObject_iff.mp h]
    | other h _ ih => rw [List.filterMap_cons_none (object?_eq_none_iff.mpr h), ih]
  · rintro rfl
    induction elements with
    | nil => exact .nil
    | cons element rest ih =>
      cases hobject : element.object? with
      | none =>
        rw [List.filterMap_cons_none hobject]
        exact .other (object?_eq_none_iff.mp hobject) ih
      | some members =>
        rw [List.filterMap_cons_some hobject, List.map_cons]
        cases element with
        | object own =>
          obtain rfl := Option.some.inj hobject
          exact .object (showsObject_iff.mpr rfl) ih
        | _ => cases hobject

theorem ofListing_of_holds (h : Holds listing elements) :
    ofListing listing app model =
      (elements.filterMap Json.object?).map (ofMembers app model) := by
  have helements : ListItem.elements listing = elements := by
    cases h with
    | array => rfl
    | results h => simp only [ListItem.elements, Json.get?, h]; rfl
  rw [ofListing, helements]

theorem ofListing_of_not_holds (h : ∀ elements, ¬ Holds listing elements) :
    ofListing listing app model = [] := by
  have helements : ListItem.elements listing = [] := by
    cases listing with
    | array elements => exact absurd (.array elements) (h elements)
    | object members =>
      have hresults : (Keyed.get? "results" members).bind Json.array? = none := by
        rw [Option.bind_eq_none_iff]
        rintro (_ | _ | _ | _ | elements | _) hfound
        case array => exact absurd (.results hfound) (h elements)
        all_goals rfl
      simp only [ListItem.elements, Json.get?, hresults]
      rfl
    | _ => rfl
  rw [ofListing, helements]
  rfl

/-- A response that holds an array has the lines of the objects in the array, in their order, no
matter what else the response says. It has the lines of the array alone, and these are the lines of
the parts of the array one after the other. Every other response has none. -/
theorem lines_of_response (app model : String) :
    (∀ listing elements items, Holds listing elements →
      (ofListing listing app model = items ↔ ShowsElements app model elements items)) ∧
    (∀ listing elements, Holds listing elements →
      ofListing listing app model = ofListing (.array elements) app model) ∧
    (∀ listing front back, Holds listing (front ++ back) →
      ofListing listing app model =
        ofListing (.array front) app model ++ ofListing (.array back) app model) ∧
    ∀ listing, (∀ elements, ¬ Holds listing elements) → ofListing listing app model = [] := by
  refine ⟨?_, ?_, ?_, ?_⟩
  · intro listing elements items h
    rw [ofListing_of_holds h]
    exact showsElements_iff.symm
  · intro listing elements h
    rw [ofListing_of_holds h, ofListing_of_holds (.array elements)]
  · intro listing front back h
    rw [ofListing_of_holds h, ofListing_of_holds (.array front), ofListing_of_holds (.array back),
      List.filterMap_append, List.map_append]
  · intro listing h
    exact ofListing_of_not_holds h

def deviceElements : List Json :=
  [.object [("id", .string "b7c1"), ("display", .boolean true), ("name", .string "edge")],
    .null, .object [("name", .string ""), ("id", .null)]]

def deviceMembers : List (String × Json) :=
  [("count", .number (.integer 2)), ("results", .array deviceElements)]

theorem device_lines_of_response :
    Holds (.object deviceMembers) deviceElements ∧
    (∀ elements, ¬ Holds (.string "results") elements) ∧
    ShowsElements "dcim" "devices" deviceElements
      [⟨"edge", some "/dcim/devices/b7c1"⟩, ⟨"—", none⟩] ∧
    ofListing (.object deviceMembers) "dcim" "devices" =
      ofListing (.array deviceElements) "dcim" "devices" ∧
    ofListing (.object deviceMembers) "dcim" "devices" =
      ofListing (.array (deviceElements.take 1)) "dcim" "devices" ++
        ofListing (.array (deviceElements.drop 1)) "dcim" "devices" ∧
    ofListing (.string "results") "dcim" "devices" = [] := by
  have hholds : Holds (.object deviceMembers) deviceElements := .results rfl
  have hnot : ∀ elements, ¬ Holds (.string "results") elements := by
    intro elements h
    cases h
  obtain ⟨hlines, hsame, hparts, hnone⟩ := lines_of_response "dcim" "devices"
  refine ⟨hholds, hnot, ?_, hsame _ _ hholds, hparts _ _ _ hholds, hnone _ hnot⟩
  exact (hlines _ _ _ hholds).mp (by decide +kernel)

end NetworkPortal.Page.ListItem

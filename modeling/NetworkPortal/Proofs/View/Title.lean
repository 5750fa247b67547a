import Mathlib.Data.List.Permutation
import NetworkPortal.Proofs.Keyed
import NetworkPortal.Proofs.View.Status

/-! # The name of a resource in a list and on its page

A list names a resource by its display text, else by its name, and so does the page of the resource.
The page takes an object for a display text where the list does not: an object without a display
text of its own is a scalar of the page, with its JSON text. There the two names come apart.
-/
namespace NetworkPortal

/-- A value that can name a resource: a string that is not empty, or a number. -/
inductive Json.Names : Json → String → Prop
  | string {text : String} (h : text ≠ "") : Names (.string text) text
  | number (value : Json.Number) : Names (.number value) value.text

def NamedUnder (members : List (String × Json)) (key text : String) : Prop :=
  ∃ value, Keyed.get? key members = some value ∧ value.Names text

/-- The member under a key is an object without a display text, with `text` as its JSON text. -/
def UnlabelledUnder (members : List (String × Json)) (key text : String) : Prop :=
  ∃ inner, Keyed.get? key members = some (.object inner) ∧ Keyed.get? "display" inner = none ∧
    text = (Json.object inner).compact

variable {members : List (String × Json)} {key text text' : String}

theorem usableText?_eq_some_iff {value : Json} :
    Page.ListItem.usableText? value = some text ↔ value.Names text := by
  constructor
  · intro h
    cases value with
    | string content =>
      rw [Page.ListItem.usableText?] at h
      split at h
      · cases h
      · next hempty =>
        obtain rfl := Option.some.inj h
        exact .string (mt String.isEmpty_iff.mpr hempty)
    | number value =>
      obtain rfl := Option.some.inj h
      exact .number value
    | _ => cases h
  · intro h
    cases h with
    | string h => exact if_neg (mt String.isEmpty_iff.mp h)
    | number value => rfl

theorem memberText?_eq_some_iff :
    Page.ListItem.memberText? members key = some text ↔ NamedUnder members key text := by
  rw [Page.ListItem.memberText?, Option.bind_eq_some_iff]
  exact exists_congr fun value => and_congr_right fun _ => usableText?_eq_some_iff

theorem memberText?_eq_none_iff :
    Page.ListItem.memberText? members key = none ↔ ∀ text, ¬ NamedUnder members key text := by
  rw [Option.eq_none_iff_forall_ne_some]
  exact forall_congr' fun text => not_congr memberText?_eq_some_iff

theorem NamedUnder.unique (h : NamedUnder members key text) (h' : NamedUnder members key text') :
    text = text' :=
  Option.some.inj ((memberText?_eq_some_iff.mpr h).symm.trans (memberText?_eq_some_iff.mpr h'))

theorem UnlabelledUnder.unique (h : UnlabelledUnder members key text)
    (h' : UnlabelledUnder members key text') : text = text' := by
  obtain ⟨inner, hinner, _, rfl⟩ := h
  obtain ⟨inner', hinner', _, rfl⟩ := h'
  cases hinner.symm.trans hinner'
  rfl

theorem NamedUnder.not_unlabelled (h : NamedUnder members key text) :
    ¬ UnlabelledUnder members key text' := by
  rintro ⟨inner, hinner, _, _⟩
  obtain ⟨value, hvalue, hnames⟩ := h
  obtain rfl := Option.some.inj (hinner.symm.trans hvalue)
  cases hnames

theorem scalar?_ofMembers_eq_some_iff {inner : List (String × Json)} :
    (Field.ofMembers inner).scalar? = some text ↔
      Keyed.get? "display" inner = none ∧ text = (Json.object inner).compact := by
  rw [Field.ofMembers]
  cases Keyed.get? "display" inner with
  | none => simp [Field.scalar?, eq_comm]
  | some label => simp [Field.scalar?]

theorem scalar?_ofJson_eq_some_iff {value : Json} :
    (Field.ofJson value).scalar? = some text ↔
      value.Names text ∨ ∃ inner, value = .object inner ∧ Keyed.get? "display" inner = none ∧
        text = (Json.object inner).compact := by
  rw [← usableText?_eq_some_iff]
  cases value with
  | object inner =>
    rw [Field.ofJson, scalar?_ofMembers_eq_some_iff]
    simp [Page.ListItem.usableText?]
  | string content =>
    rw [Field.ofJson, Page.ListItem.usableText?]
    split <;> simp [Field.scalar?]
  | _ => simp [Field.ofJson, Field.scalar?, Page.ListItem.usableText?]

theorem scalar?_eq_some_iff :
    (Resource.ofMembers members).scalar? key = some text ↔
      NamedUnder members key text ∨ UnlabelledUnder members key text := by
  have hfield : (Resource.ofMembers members).get? key =
      (Keyed.get? key members).map Field.ofJson := Keyed.get?_map_snd fun _ => Field.ofJson
  rw [Resource.scalar?, hfield, NamedUnder, UnlabelledUnder]
  cases hvalue : Keyed.get? key members with
  | none => simp
  | some value => simp [scalar?_ofJson_eq_some_iff]

namespace View

open Page (ListItem)
open Settings (Api AllSafe)

theorem label_eq_of_display (app model : String) (h : NamedUnder members "display" text) :
    (ListItem.ofMembers app model members).label = text ∧
      detailTitle (.ofMembers members) = text := by
  have hdisplay : (Resource.ofMembers members).display? = some text :=
    scalar?_eq_some_iff.mpr (.inl h)
  rw [detailTitle, hdisplay]
  simp [ListItem.ofMembers, memberText?_eq_some_iff.mpr h]

theorem detailTitle_of_unlabelled (h : UnlabelledUnder members "display" text) :
    detailTitle (.ofMembers members) = text := by
  have hdisplay : (Resource.ofMembers members).display? = some text :=
    scalar?_eq_some_iff.mpr (.inr h)
  rw [detailTitle, hdisplay, Option.getD_some]

theorem label_of_name (app model : String) (hdisplay : ∀ text, ¬ NamedUnder members "display" text)
    (h : NamedUnder members "name" text) :
    (ListItem.ofMembers app model members).label = text := by
  have hnone : ListItem.memberText? members "display" = none :=
    memberText?_eq_none_iff.mpr hdisplay
  simp [ListItem.ofMembers, hnone, memberText?_eq_some_iff.mpr h]

theorem detailTitle_of_name (hdisplay : ∀ text, ¬ NamedUnder members "display" text)
    (hunlabelled : ∀ text, ¬ UnlabelledUnder members "display" text)
    (h : NamedUnder members "name" text) : detailTitle (.ofMembers members) = text := by
  have hnone : (Resource.ofMembers members).display? = none := by
    rw [Option.eq_none_iff_forall_ne_some]
    intro text hsome
    exact (scalar?_eq_some_iff.mp hsome).elim (hdisplay text) (hunlabelled text)
  have hname : (Resource.ofMembers members).name? = some text :=
    scalar?_eq_some_iff.mpr (.inl h)
  rw [detailTitle, hnone, Option.getD_none, Resource.title, hname]
  rfl

theorem label_eq_detailTitle_iff (app model : String)
    (hnamed : ∃ key ∈ ["display", "name"], ∃ text, NamedUnder members key text) :
    (ListItem.ofMembers app model members).label = detailTitle (.ofMembers members) ↔
      ∀ text, UnlabelledUnder members "display" text → NamedUnder members "name" text := by
  by_cases hdisplay : ∃ text, NamedUnder members "display" text
  · obtain ⟨text, hdisplay⟩ := hdisplay
    obtain ⟨hlabel, htitle⟩ := label_eq_of_display app model hdisplay
    rw [hlabel, htitle]
    exact iff_of_true rfl fun _ hunlabelled => absurd hunlabelled hdisplay.not_unlabelled
  · have hnot := not_exists.mp hdisplay
    obtain ⟨name, hname⟩ : ∃ text, NamedUnder members "name" text := by
      obtain ⟨key, hkey, htext⟩ := hnamed
      rcases List.mem_pair.mp hkey with rfl | rfl
      · exact absurd htext hdisplay
      · exact htext
    rw [label_of_name app model hnot hname]
    by_cases hunlabelled : ∃ text, UnlabelledUnder members "display" text
    · obtain ⟨text, hunlabelled⟩ := hunlabelled
      rw [detailTitle_of_unlabelled hunlabelled]
      constructor
      · rintro rfl other hother
        rwa [← hunlabelled.unique hother]
      · intro h
        exact hname.unique (h text hunlabelled)
    · rw [detailTitle_of_name hnot (not_exists.mp hunlabelled) hname]
      exact iff_of_true rfl fun text htext => absurd ⟨text, htext⟩ hunlabelled

theorem mem_ofListing {listing : Json} (app model : String)
    (h : .object members ∈ ListItem.elements listing) :
    ListItem.ofMembers app model members ∈ ListItem.ofListing listing app model :=
  List.mem_map_of_mem (List.mem_filterMap.mpr ⟨_, h, rfl⟩)

theorem title_detail {api : Api} {backend : Backend} {app model id : String} (now : Time.Instant)
    (hsafe : AllSafe [app, model, id])
    (hobject : objectAt (api.objectUrl app model id) backend = some members) :
    ((detail api now app model id).value backend).title = detailTitle (.ofMembers members) := by
  have hresource : resourceAt (api.objectUrl app model id) backend =
      some (.ofMembers members) := by
    rw [resourceAt_eq, hobject, Option.map_some]
  obtain ⟨added, hview⟩ := detail_of_some now (List.all_eq_true.mpr hsafe) hresource
  rw [hview]
  rfl

/-- A resource that has a display text or a name is named alike in its line of a list and in the
title of its page, unless its display text is an object without a display text and its name is not
the JSON text of this object. -/
theorem named_alike_iff (members : List (String × Json))
    (hnamed : ∃ key ∈ ["display", "name"], ∃ text, NamedUnder members key text) :
    (∀ app model,
      (ListItem.ofMembers app model members).label = detailTitle (.ofMembers members) ↔
        ∀ text, UnlabelledUnder members "display" text → NamedUnder members "name" text) ∧
    (∀ listing app model, .object members ∈ ListItem.elements listing →
      ListItem.ofMembers app model members ∈ ListItem.ofListing listing app model) ∧
    ∀ (api : Api) (now : Time.Instant) (app model id : String) (backend : Backend),
      AllSafe [app, model, id] →
      objectAt (api.objectUrl app model id) backend = some members →
      ((detail api now app model id).value backend).title = detailTitle (.ofMembers members) := by
  refine ⟨?_, ?_, ?_⟩
  · intro app model
    exact label_eq_detailTitle_iff app model hnamed
  · intro listing app model h
    exact mem_ofListing app model h
  · intro api now app model id backend hsafe hobject
    exact title_detail now hsafe hobject

def rackMembers (display : Json) : List (String × Json) :=
  [("id", .string "7"), ("display", display), ("name", .string "R1")]

def rackBackend (display : String) : Backend := fun url =>
  if url = "http://localhost:8080/api/dcim/racks/7/" then
    .body ("\x7b\"id\":\"7\",\"display\":" ++ display ++ ",\"name\":\"R1\"\x7d")
  else .refused 404

theorem namedUnder_rackMembers (display : Json) : NamedUnder (rackMembers display) "name" "R1" :=
  ⟨_, rfl, .string (by decide)⟩

/-- A rack whose display text is a list goes by its name in both places. -/
theorem rack_named_alike :
    NamedUnder (rackMembers (.array [])) "name" "R1" ∧ AllSafe ["dcim", "racks", "7"] ∧
    objectAt "http://localhost:8080/api/dcim/racks/7/" (rackBackend "[]") =
      some (rackMembers (.array [])) ∧
    ∃ item ∈ ListItem.ofListing (.array [.null, .object (rackMembers (.array []))]) "dcim" "racks",
      item.label =
        ((detail (Settings.defaults "plugins").api ⟨0, 0, 0⟩ "dcim" "racks" "7").value
          (rackBackend "[]")).title := by
  have hname := namedUnder_rackMembers (.array [])
  have hsafe : AllSafe ["dcim", "racks", "7"] := by decide +kernel
  have hurl : (Settings.defaults "plugins").api.objectUrl "dcim" "racks" "7" =
      "http://localhost:8080/api/dcim/racks/7/" := by decide +kernel
  have hobject : objectAt "http://localhost:8080/api/dcim/racks/7/" (rackBackend "[]") =
      some (rackMembers (.array [])) := by cbv
  have hlabelled : ∀ text, ¬ UnlabelledUnder (rackMembers (.array [])) "display" text := by
    rintro text ⟨inner, hinner, _⟩
    cases hinner
  obtain ⟨halike, hlisted, hpage⟩ :=
    named_alike_iff (rackMembers (.array [])) ⟨"name", by decide, "R1", hname⟩
  refine ⟨hname, hsafe, hobject, _, hlisted _ _ _ (.tail _ (.head _)), ?_⟩
  rw [hpage _ _ _ _ _ _ hsafe (by rw [hurl, hobject])]
  exact (halike _ _).mpr fun text h => absurd h (hlabelled text)

/-- A rack whose display text is an object without a label: the list shows its name, the title of
its page the JSON text of the object. -/
theorem unlabelled_rack_named_twice :
    NamedUnder (rackMembers (.object [("unit", .string "U")])) "name" "R1" ∧
    (ListItem.ofMembers "dcim" "racks" (rackMembers (.object [("unit", .string "U")]))).label =
      "R1" ∧
    detailTitle (.ofMembers (rackMembers (.object [("unit", .string "U")]))) =
      "\x7b\"unit\":\"U\"\x7d" ∧
    ((detail (Settings.defaults "plugins").api ⟨0, 0, 0⟩ "dcim" "racks" "7").value
      (rackBackend "\x7b\"unit\":\"U\"\x7d")).title = "\x7b\"unit\":\"U\"\x7d" ∧
    "R1" ≠ "\x7b\"unit\":\"U\"\x7d" := by
  refine ⟨namedUnder_rackMembers _, ?_, ?_, ?_, ?_⟩
  all_goals decide +kernel

end View

end NetworkPortal

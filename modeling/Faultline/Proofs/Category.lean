import Faultline.Category
import Faultline.Proofs.Json.Members

/-!
# Categories come back by their tags

A category goes out into JSON as its tag, and what comes back is the category of that tag.  The
two are the same unless a custom category has taken the name of a fixed one: no text is turned
into such a category, so it does not come back as what it was.

## Main definitions

* `Category.fixedTags` — the names of the fixed categories.
* `Category.Disguised` — a custom category has the name of a fixed one.
* `Category.Obtained` — a category comes from a text or out of JSON.

## Main results

* `Category.ofTag_tag_eq_iff` — a category is found again by its tag unless it is disguised.
* `Category.ofJson_of_spells` — what comes out of JSON, however it is spelled.
* `Category.obtained_iff` — what comes from a text or out of JSON is never disguised, and
  everything else does.
* `Category.tags_survive_json` — **a category keeps its tag on the way through JSON**, and it is
  the same category afterwards unless it was disguised.
-/

namespace Faultline.Category

open Json

/-! ### The names of the fixed categories -/

/-- The names of the fixed categories. -/
def fixedTags : List String :=
  ["NotFoundError", "InternalError", "IllegalParamError", "ParseError", "BusinessError"]

/-- A custom category has the name of a fixed one. -/
def Disguised (c : Category) : Prop := ∃ name ∈ fixedTags, c = custom name

@[simp] theorem toString_eq_tag (c : Category) : toString c = c.tag := rfl

/-- What a category leaves behind is its tag. -/
@[simp] theorem intoText_eq_tag (c : Category) : c.intoText = c.tag := by
  cases c <;> rfl

theorem tag_mem_fixedTags {c : Category} (h : c.isFixed = true) : c.tag ∈ fixedTags := by
  cases c with
  | custom t => cases h
  | _ => decide

/-- A text that is none of the names is taken for a tag of its own. -/
theorem ofTag_of_notMem {s : String} (h : s ∉ fixedTags) : ofTag s = custom s := by
  simp only [fixedTags, List.mem_cons, List.not_mem_nil, or_false, not_or] at h
  obtain ⟨notFound, internal, illegalParam, parse, business⟩ := h
  simp only [ofTag, notFound, internal, illegalParam, parse, business, ↓reduceIte]

/-- The category of a text is a fixed one exactly if the text is its name. -/
theorem isFixed_ofTag_iff (s : String) : (ofTag s).isFixed = true ↔ s ∈ fixedTags := by
  constructor
  · intro h
    have named := tag_mem_fixedTags h
    rwa [tag_ofTag] at named
  · intro h
    simp only [fixedTags, List.mem_cons, List.not_mem_nil, or_false] at h
    rcases h with rfl | rfl | rfl | rfl | rfl <;> rfl

theorem isNotFound_iff (c : Category) : c.isNotFound = true ↔ c = notFound := by
  cases c <;> simp [isNotFound]

theorem isNotFound_ofTag_iff (s : String) :
    (ofTag s).isNotFound = true ↔ s = "NotFoundError" := by
  rw [isNotFound_iff]
  constructor
  · intro h
    have same := congrArg tag h
    rwa [tag_ofTag] at same
  · rintro rfl
    rfl

/-! ### Disguises -/

/-- No text is turned into a disguised category. -/
theorem not_disguised_ofTag (s : String) : ¬ (ofTag s).Disguised := by
  rintro ⟨name, hname, h⟩
  have same : s = name := by
    have := congrArg tag h
    rwa [tag_ofTag] at this
  have fixed : (ofTag s).isFixed = true := (isFixed_ofTag_iff s).mpr (same ▸ hname)
  rw [h] at fixed
  cases fixed

/-- A category is found again by its tag unless it is disguised. -/
theorem ofTag_tag_eq_iff (c : Category) : ofTag c.tag = c ↔ ¬ c.Disguised := by
  constructor
  · intro h
    rw [← h]
    exact not_disguised_ofTag c.tag
  · intro h
    cases c with
    | custom t =>
      -- Only here can the name of a fixed category be taken by another one.
      have unknown : t ∉ fixedTags := fun ht => h ⟨t, ht, rfl⟩
      exact ofTag_of_notMem unknown
    | _ => exact ofTag_tag_of_isFixed rfl

/-! ### Through JSON -/

/-- A category is read out of any spelling of a text. -/
theorem judges_read : Judges read fun v => (v.asText "a string").map ofTag :=
  Judges.map (judges_wantText "a string") ofTag

/-- What comes out of a document is the category of the text that it is. -/
theorem ofJson_of_spells {text : String} {v : Value} (spelled : Spells text v) :
    ofJson text = (v.asText "a string").map ofTag :=
  Judges.readAll judges_read spelled

/-- What is written for a category is its tag as a JSON text. -/
theorem spells_json (c : Category) : Spells c.json (.text c.tag) := by
  rw [json, intoText_eq_tag]
  exact spells_write (.text c.tag)

theorem ofJson_json (c : Category) : ofJson c.json = .ok (ofTag c.tag) :=
  ofJson_of_spells c.spells_json

/-- Whatever comes out of JSON is the category of some text. -/
theorem exists_of_ofJson {text : String} {c : Category} (h : ofJson text = .ok c) :
    ∃ s, c = ofTag s := by
  rw [ofJson, readAll, read] at h
  cases hread : wantText "a string" text.toList with
  | error f =>
    rw [hread] at h
    cases h
  | ok found =>
    rw [hread] at h
    simp only [bind, Except.bind, pure, Except.pure] at h
    split at h
    · exact ⟨found.1, (Except.ok.inj h).symm⟩
    · cases h

/-- A category comes from a text or out of JSON. -/
inductive Obtained : Category → Prop
  /-- It is the category of a text. -/
  | ofTag (s : String) : Obtained (ofTag s)
  /-- It was read. -/
  | ofJson {text : String} {c : Category} (h : Category.ofJson text = .ok c) : Obtained c

theorem Obtained.exists_eq {c : Category} (h : c.Obtained) : ∃ s, c = Category.ofTag s := by
  cases h with
  | ofTag s => exact ⟨s, rfl⟩
  | ofJson h => exact exists_of_ofJson h

/-- The disguised categories are those that come neither from a text nor out of JSON. -/
theorem obtained_iff (c : Category) : c.Obtained ↔ ¬ c.Disguised := by
  constructor
  · intro h
    obtain ⟨s, rfl⟩ := h.exists_eq
    exact not_disguised_ofTag s
  · intro h
    rw [← (ofTag_tag_eq_iff c).mpr h]
    exact .ofTag c.tag

/-- Categories that come from texts or out of JSON are told by their tags. -/
theorem Obtained.eq_iff {c d : Category} (hc : c.Obtained) (hd : d.Obtained) :
    c = d ↔ c.tag = d.tag := by
  constructor
  · exact congrArg tag
  · intro h
    obtain ⟨s, rfl⟩ := hc.exists_eq
    obtain ⟨t, rfl⟩ := hd.exists_eq
    rw [tag_ofTag, tag_ofTag] at h
    rw [h]

/-- **Tags survive the way through JSON.**  What is written for a category is its tag as a JSON
text, and a category with this tag comes back.  It is the same category unless that was disguised;
it never is disguised itself, so it is written like the first one and comes back as it is.  A
category that comes from a text has the text for its tag, however it is turned into a text again,
and it is a fixed one exactly if the text is the name of one.  So categories from texts and out of
JSON are equal exactly if their tags are. -/
theorem tags_survive_json :
    (∀ c : Category, Spells c.json (.text c.tag) ∧ ∃ d, ofJson c.json = .ok d ∧ d.tag = c.tag ∧
      (d = c ↔ ¬ c.Disguised) ∧ ¬ d.Disguised ∧ d.json = c.json ∧ ofJson d.json = .ok d) ∧
    (∀ s : String, (ofTag s).tag = s ∧ toString (ofTag s) = s ∧ (ofTag s).intoText = s ∧
      ((ofTag s).isFixed = true ↔ s ∈ fixedTags) ∧
      ((ofTag s).isNotFound = true ↔ s = "NotFoundError")) ∧
    ∀ c d : Category, c.Obtained → d.Obtained → (c = d ↔ c.tag = d.tag) := by
  refine ⟨fun c => ⟨c.spells_json, ofTag c.tag, c.ofJson_json, tag_ofTag _, ofTag_tag_eq_iff c,
    not_disguised_ofTag _, ?_, ?_⟩, fun s => ?_, fun c d hc hd => hc.eq_iff hd⟩
  · rw [json, json, intoText_eq_tag, intoText_eq_tag, tag_ofTag]
  · rw [ofJson_json, tag_ofTag]
  · refine ⟨tag_ofTag s, ?_, ?_, isFixed_ofTag_iff s, isNotFound_ofTag_iff s⟩
    · rw [toString_eq_tag, tag_ofTag]
    · rw [intoText_eq_tag, tag_ofTag]

/-- A custom category with the name of a fixed one comes back as the fixed one, which is not the
category of a text that only looks like the name. -/
theorem tags_survive_json_disguised :
    ofJson (custom "ParseError").json = .ok parse ∧ parse.Obtained ∧
      (ofTag "Parse\nError").Obtained ∧ parse ≠ ofTag "Parse\nError" := by
  have read : ofJson (custom "ParseError").json = .ok parse := ofJson_json _
  have apart := tags_survive_json.2.2 parse (ofTag "Parse\nError") (.ofJson read) (.ofTag _)
  rw [tag_ofTag] at apart
  exact ⟨read, .ofJson read, .ofTag _, fun same => absurd (apart.mp same) (by decide)⟩

end Faultline.Category

import Faultline.Json.Reader

/-!
# Categories

The category of a failure is chosen once, where the failure is first seen, and
those who handle failures choose by it what to do.

## Main definitions

* `Category` — five fixed categories and any other tag.
* `Category.tag`, `Category.ofTag` — the text of a category, and the category of a text.
* `Category.intoText` — the text that a category leaves behind.
* `Category.json`, `Category.ofJson` — the same within JSON.

## Main statements

* `tag_ofTag` — the category of a text has that text as its tag.
* `ofTag_tag_of_isFixed` — a fixed category is found again by its tag.
-/

namespace Faultline

/-- The category of a failure. -/
inductive Category
  /-- Something that was asked for does not exist. -/
  | notFound
  /-- Something unexpected that the caller cannot mend. -/
  | internal
  /-- The caller gave something that breaks a precondition. -/
  | illegalParam
  /-- A text could not be decoded. -/
  | parse
  /-- A rule of the domain refuses a valid input. -/
  | business
  /-- A tag that is none of the five. -/
  | custom (tag : String)
  deriving DecidableEq, Repr, Inhabited

namespace Category

/-! ### Tags -/

/-- The text of a category. -/
def tag : Category → String
  | notFound => "NotFoundError"
  | internal => "InternalError"
  | illegalParam => "IllegalParamError"
  | parse => "ParseError"
  | business => "BusinessError"
  | custom tag => tag

/-- A category is shown as its tag. -/
instance : ToString Category := ⟨tag⟩

/-- The text that a category leaves behind when it is given up: a custom tag itself, or the name
of a fixed category. -/
def intoText : Category → String
  | custom tag => tag
  | known => known.tag

/-- The category of a text: the fixed one with that tag, else a custom one. -/
def ofTag (tag : String) : Category :=
  if tag = "NotFoundError" then notFound
  else if tag = "InternalError" then internal
  else if tag = "IllegalParamError" then illegalParam
  else if tag = "ParseError" then parse
  else if tag = "BusinessError" then business
  else custom tag

/-- The category is one of the five fixed ones. -/
def isFixed : Category → Bool
  | custom _ => false
  | _ => true

/-- The category says that something does not exist. -/
def isNotFound : Category → Bool
  | notFound => true
  | _ => false

/-- The category of a text has that text as its tag. -/
@[simp] theorem tag_ofTag (t : String) : (ofTag t).tag = t := by
  unfold ofTag
  repeat' split
  all_goals simp_all [Category.tag]

/-- A fixed category is found again by its tag. -/
theorem ofTag_tag_of_isFixed {c : Category} (h : c.isFixed = true) : ofTag c.tag = c := by
  cases c with
  | custom t => simp [isFixed] at h
  | _ => decide

/-! ### Categories within JSON -/

/-- The JSON text of a category is the text that it leaves behind, between quotes. -/
def json (c : Category) : String := (Json.Value.text c.intoText).write

/-- Reads a category from JSON: any text is one. -/
def read : Json.Reader Category := fun cs => do
  let (tag, r) ← Json.wantText "a string" cs
  return (ofTag tag, r)

/-- The category that a JSON document is. -/
def ofJson (text : String) : Except Json.Fault Category := Json.readAll read text

end Category

end Faultline

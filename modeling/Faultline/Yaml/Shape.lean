import Faultline.Yaml.Resolve

/-!
# Reading shapes out of a document

Readers for the parts of a document that a program wants: texts, lists and records.
A mismatch is told together with where it was found.  A document that is torn is read up to
the tear, so a mismatch before it is told and what is wrong with the text behind it is not.
References can make a short document stand for a huge one, so reading counts the ones that it
follows and gives up when they are too many for the size of the document.

## Main definitions

* `Path` — the way from the root to a part of the document.
* `DecodeError` — a mismatch with its way and its place, too many references, or a torn text.
* `Shaped` — the outcome of reading, which depends on the references followed so far.
* `Document.text`, `Document.optionalText`, `Document.items` — readers of texts and lists.
* `Document.entries`, `Document.membersFrom` — readers of records.
-/

namespace Faultline.Yaml

/-! ### Ways -/

/-- The way from the root to a part of a document. -/
inductive Path
  /-- The root. -/
  | root
  /-- An item of a list. -/
  | item (parent : Path) (index : Nat)
  /-- The value of a name. -/
  | member (parent : Path) (name : String)
  /-- The value of a name that is no text of its own. -/
  | unnamed (parent : Path)
  deriving DecidableEq, Repr, Inhabited

/-- The text of a way. -/
def Path.text : Path → String
  | root => "."
  | item parent n => parent.text ++ "[" ++ toString n ++ "]"
  | member root name => name
  | member parent name => parent.text ++ "." ++ name
  | unnamed root => "?"
  | unnamed parent => parent.text ++ ".?"

/-! ### Errors -/

/-- Why something is not read out of a text. -/
inductive DecodeError
  /-- A part does not fit, which lies on a way from the root and begins at a place. -/
  | misfit (mismatch : Mismatch) (path : Path) (start : Mark)
  /-- More references lead through the document than its size allows. -/
  | tooManyReferences
  /-- The text cannot be read as far as would be needed, or it goes on behind the document. -/
  | unreadable
  deriving DecidableEq, Repr

/-- The text of an error.  The way is left out at the root, and the place when it is the
beginning of the document.  What in particular is wrong with an unreadable text is not kept:
the word in angle brackets only stands where it would be told. -/
def DecodeError.message : DecodeError → String
  | misfit mismatch path start =>
    (if path = .root then "" else path.text ++ ": ") ++ mismatch.message dialect ++
      (if start.line = 0 ∧ start.column = 0 then ""
       else " at line " ++ toString (start.line + 1) ++ " column " ++ toString (start.column + 1))
  | tooManyReferences => "repetition limit exceeded"
  | unreadable => "<yaml>"

/-- The outcome of reading a shape; the state is how many references were followed. -/
abbrev Shaped (α : Type) := StateT Nat (Except DecodeError) α

namespace Document

/-- Something does not fit. -/
def misfit {α : Type} (mismatch : Mismatch) (path : Path) (start : Mark) : Shaped α :=
  throw (.misfit mismatch path start)

/-- Refuses a node because something else was wanted. -/
def refuse {α : Type} (path : Path) (wanted : String) : Node → Shaped α
  | .scalar m s =>
    match s.kind with
    | .ok found => misfit (.kind found wanted) path m
    | .error mismatch => misfit mismatch path m
  | .sequence m _ => misfit (.kind .sequence wanted) path m
  | .mapping m _ => misfit (.kind .mapping wanted) path m
  | .reference m _ => misfit (.kind .null wanted) path m
  | .torn => throw .unreadable

/-! ### References -/

/-- How many references are followed for each event of a document. -/
def followedPerEvent : Nat := 100

/-- The node that a node leads to.  Every reference counts whenever it is followed, and nothing
lies behind a tear. -/
def follow (d : Document) : Node → Shaped Node
  | .reference m slot => do
    let followed ← get
    if d.size * followedPerEvent ≤ followed then throw .tooManyReferences
    else
      set (followed + 1)
      return d.target (.reference m slot)
  | .torn => throw .unreadable
  | n => return n

/-! ### Texts -/

/-- The text of a node: any scalar is one. -/
def text (d : Document) (wanted : String) (path : Path) (n : Node) : Shaped String := do
  match ← d.follow n with
  | .scalar _ s => return s.text
  | n => refuse path wanted n

/-- A scalar without content, written as it is. -/
def isVoid (s : Scalar) : Bool := s.text.isEmpty && s.style = .plain

/-- A scalar that stands for nothing.  With the tag of nothing it must be one of the words
for it; that is a mismatch without a place of its own. -/
def isNothing (s : Scalar) : Except Mismatch Bool :=
  if s.style ≠ .plain then .ok false
  else match s.tag with
    | none => .ok (s.text.isEmpty || isNullWord s.text)
    | some tag =>
      if tag = standardTag "null" then
        if isNullWord s.text then .ok true
        else .error (.value (.text s.text) "null")
      else .ok false

/-- The text of a node that may stand for nothing.  `owner` is the way and the place of the
record around it, where a mismatch of the tag is told. -/
def optionalText (d : Document) (owner : Path × Mark) (wanted : String) (path : Path)
    (n : Node) : Shaped (Option String) := do
  match ← d.follow n with
  | .scalar _ s =>
    match isNothing s with
    | .ok true => return none
    | .ok false => return some s.text
    | .error mismatch => misfit mismatch owner.1 owner.2
  | n => refuse path wanted n

/-! ### Lists -/

/-- Reads the items of a list one after the other. -/
def itemsFrom {α : Type} (read : Path → Node → Shaped α) (path : Path) :
    Nat → List Node → Shaped (List α)
  | _, [] => return []
  | i, n :: ns => do
    let x ← read (.item path i) n
    let xs ← itemsFrom read path (i + 1) ns
    return x :: xs

/-- Reads a list; a scalar without content is an empty one. -/
def items {α : Type} (d : Document) (read : Path → Node → Shaped α) (path : Path) (n : Node) :
    Shaped (List α) := do
  match ← d.follow n with
  | .sequence _ ns => itemsFrom read path 0 ns
  | .scalar m s => if isVoid s then return [] else refuse path "a sequence" (.scalar m s)
  | n => refuse path "a sequence" n

/-! ### Records -/

/-- The way to the value of a name; one that is no scalar itself leaves no trace. -/
def memberPath (path : Path) : Node → Path
  | .scalar _ s => .member path s.text
  | _ => .unnamed path

/-- How the members of a record are read: `σ` is what is known of the record so far, and a
known name adds to it. -/
structure Members (σ : Type) where
  /-- The known names. -/
  names : List String
  /-- Reads the value of a known name. -/
  read : (name : String) → Path → Node → σ → Shaped σ

/-- Reads the members of a record one after the other.  A known name must not come twice;
values of other names are passed over. -/
def membersFrom {σ : Type} (d : Document) (ms : Members σ) (owner : Path × Mark) :
    List String → σ → List (Node × Node) → Shaped σ
  | _, x, [] => return x
  | seen, x, (k, v) :: rest => do
    let name ← d.text "field identifier" owner.1 k
    if name ∈ ms.names then
      if name ∈ seen then misfit (.repeated name) owner.1 owner.2
      else
        let x ← ms.read name (memberPath owner.1 k) v x
        membersFrom d ms owner (name :: seen) x rest
    else membersFrom d ms owner seen x rest

/-- The members of a node that should be a record, and where it begins; a scalar without
content has none. -/
def entries (d : Document) (wanted : String) (path : Path) (n : Node) :
    Shaped (Mark × List (Node × Node)) := do
  match ← d.follow n with
  | .mapping m es => return (m, es)
  | .scalar m s => if isVoid s then return (m, []) else refuse path wanted (.scalar m s)
  | n => refuse path wanted n

/-- A member that must be there. -/
def required {α : Type} (owner : Path × Mark) (name : String) : Option α → Shaped α
  | some x => return x
  | none => misfit (.missing name) owner.1 owner.2

end Document

end Faultline.Yaml

import Faultline.Yaml.Event
import Faultline.Yaml.Token.Scan

/-!
# From events to nodes

A YAML document as a tree, with the nodes that other places refer to.  The document of a text
that can be read in part only is torn there: what begins before and has not ended is kept, and
so is the place where it breaks off.

## Main definitions

* `Node` — a scalar, a list, named values, or a reference.
* `Document` — the tree, and the nodes with anchors.
* `Excerpt` — a document and whether its text is nothing else.
* `Excerpt.ofText` — what can be read of a text.
* `Document.ofText?` — the document that a text is.
-/

namespace Faultline.Yaml

/-- A scalar: its text, how it is written, and its tag. -/
structure Scalar where
  /-- The text. -/
  text : String
  /-- How it is written. -/
  style : Style
  /-- The tag. -/
  tag : Option Octets
  deriving DecidableEq, Repr, Inhabited

/-- A node with the place where it begins. -/
inductive Node
  /-- A scalar. -/
  | scalar (start : Mark) (content : Scalar)
  /-- A list. -/
  | sequence (start : Mark) (items : List Node)
  /-- Named values; a name may be any node. -/
  | mapping (start : Mark) (entries : List (Node × Node))
  /-- A reference to the anchored node of a number. -/
  | reference (start : Mark) (slot : Nat)
  /-- Where the text cannot be read any further. -/
  | torn
  deriving Repr, Inhabited

/-- Where a node begins; of what is torn it is not known. -/
def Node.start : Node → Mark
  | scalar m _ => m
  | sequence m _ => m
  | mapping m _ => m
  | reference m _ => m
  | torn => .start

/-! ### Documents -/

/-- A document. -/
structure Document where
  /-- The tree; `none` for an empty text. -/
  root : Option Node
  /-- The nodes with anchors, by number. -/
  anchored : List (Nat × Node)
  /-- How many events the document consists of. -/
  size : Nat
  deriving Repr, Inhabited

/-- The node among some that begins last. -/
def lastBegun? : List Node → Option Node
  | [] => none
  | n :: ns =>
    match lastBegun? ns with
    | some m => some (if m.start.index ≤ n.start.index then n else m)
    | none => some n

/-- The node that a reference leads to: of those with its number the one that begins last.
Any other node leads to itself. -/
def Document.target (d : Document) : Node → Node
  | .reference m slot =>
    (lastBegun? ((d.anchored.filter (·.1 == slot)).map Prod.snd)).getD (.reference m slot)
  | n => n

/-! ### Building the tree -/

/-- A collection that has not ended yet. -/
structure Frame where
  /-- It holds named values. -/
  named : Bool
  /-- Where it begins. -/
  start : Mark
  /-- The number of its anchor. -/
  slot : Option Nat
  /-- Its nodes so far, the last one first. -/
  nodes : List Node
  deriving Repr, Inhabited

/-- Takes nodes two by two; the value of a name is torn if it is not there. -/
def inPairs : List Node → List (Node × Node)
  | k :: v :: r => (k, v) :: inPairs r
  | [k] => [(k, .torn)]
  | [] => []

/-- The node of a collection that has ended. -/
def Frame.node (f : Frame) : Node :=
  if f.named then .mapping f.start (inPairs f.nodes.reverse) else .sequence f.start f.nodes.reverse

/-- A document that is being built. -/
structure Building where
  /-- The numbers of the anchors.  An anchor gets as its number how many different names
  were in use before it. -/
  slots : List (String × Nat)
  /-- The nodes with anchors that are complete. -/
  anchored : List (Nat × Node)
  /-- The collections that have not ended, the innermost first. -/
  frames : List Frame
  /-- The root, once it is complete. -/
  root : Option Node
  deriving Repr, Inhabited

namespace Building

/-- Nothing so far. -/
def empty : Building := ⟨[], [], [], none⟩

/-- Gives an anchor its number. -/
def anchor (b : Building) : Option String → Building × Option Nat
  | none => (b, none)
  | some name =>
    let slot := b.slots.length
    ({ b with slots := (name, slot) :: b.slots.filter (·.1 ≠ name) }, some slot)

/-- Adds a node that is complete. -/
def add (b : Building) (slot : Option Nat) (n : Node) : Building :=
  -- A reference holds a number only, so a node may refer to one that is not complete yet.
  let b := match slot with
    | some s => { b with anchored := (s, n) :: b.anchored }
    | none => b
  match b.frames with
  | [] => { b with root := some n }
  | f :: fs => { b with frames := { f with nodes := n :: f.nodes } :: fs }

/-- Begins a collection. -/
def enter (b : Building) (named : Bool) (m : Mark) (p : Properties) : Building :=
  let (b, slot) := b.anchor p.anchor
  { b with frames := ⟨named, m, slot, []⟩ :: b.frames }

/-- Takes in what happens next; fails for a reference to an unknown anchor. -/
def event? (b : Building) : Event → Option Building
  | .scalar m p text style =>
    let (b, slot) := b.anchor p.anchor
    some (b.add slot (.scalar m ⟨text, style, p.tag⟩))
  | .reference m name => do
    let slot ← b.slots.lookup name
    return b.add none (.reference m slot)
  | .sequence m p => some (b.enter false m p)
  | .mapping m p => some (b.enter true m p)
  | .close =>
    match b.frames with
    | f :: fs => some ({ b with frames := fs }.add f.slot f.node)
    | [] => none

/-- Takes in what happens, as far as its references lead somewhere.  Returns what is left. -/
def run (b : Building) : List Event → Building × List Event
  | [] => (b, [])
  | e :: es =>
    match b.event? e with
    | some b => b.run es
    | none => (b, e :: es)

/-- Breaks off the innermost collection behind its last node. -/
def tearOff (b : Building) : Building :=
  match b.frames with
  -- It is torn twice, so that behind a name without a value there is a torn name too.
  | f :: fs => { b with frames := fs }.add f.slot { f with nodes := .torn :: .torn :: f.nodes }.node
  | [] => b

/-- Breaks off a document: the collections that have not ended, or the root if nothing has
begun. -/
def tear (b : Building) : Building :=
  let b := b.frames.foldl (fun b _ => b.tearOff) b
  { b with root := some (b.root.getD .torn) }

end Building

/-! ### Texts -/

/-- What can be read of a text. -/
structure Excerpt where
  /-- Its first document, torn where the text cannot be read any further. -/
  document : Document
  /-- The text is this document and nothing else. -/
  whole : Bool
  deriving Repr, Inhabited

/-- What can be read of a document that takes a course. -/
def Excerpt.ofCourse (c : Course) : Excerpt :=
  let (b, rest) := Building.empty.run c.events
  let whole := c.whole && rest.isEmpty
  let b := if whole then b else b.tear
  ⟨⟨b.root, b.anchored, c.events.length - rest.length⟩, whole⟩

/-- What can be read of a text. -/
def Excerpt.ofText (text : String) : Excerpt := .ofCourse (.ofTokens (Token.scan text.toList))

/-- The document that a text is; `none` when the text cannot be read, or holds more than
one document. -/
def Document.ofText? (text : String) : Option Document :=
  let e := Excerpt.ofText text
  if e.whole then some e.document else none

end Faultline.Yaml

import Faultline.Yaml.Token

/-!
# From tokens to events

A YAML document as the sequence of what happens in it: scalars, references, and
collections that begin and end.  Where the tokens do not fit the grammar, or there are no more
of them, the document has happened up to that point.

## Main definitions

* `Event` — one of these happenings.
* `Goal` — what a place in the grammar is waiting for.
* `Course` — what happens in the first document of a text.
* `Course.ofTokens` — the course that tokens take.
-/

namespace Faultline.Yaml

/-- What a node carries besides its content. -/
structure Properties where
  /-- The name by which other places refer to the node. -/
  anchor : Option String
  /-- The tag, without short form. -/
  tag : Option Octets
  deriving DecidableEq, Repr, Inhabited

/-- A node without properties. -/
def Properties.bare : Properties := ⟨none, none⟩

/-- What happens in a document. -/
inductive Event
  /-- A scalar. -/
  | scalar (start : Mark) (properties : Properties) (text : String) (style : Style)
  /-- A reference to an anchor. -/
  | reference (start : Mark) (name : String)
  /-- A list begins. -/
  | sequence (start : Mark) (properties : Properties)
  /-- Named values begin. -/
  | mapping (start : Mark) (properties : Properties)
  /-- The innermost open collection ends. -/
  | close
  deriving DecidableEq, Repr, Inhabited

/-- A scalar without content. -/
def Event.empty (m : Mark) : Event := .scalar m .bare "" .plain

/-! ### Goals -/

/-- What a place in the grammar is waiting for. -/
inductive Goal
  /-- A node; `block` allows blocks, and `bare` list items without a block of their own. -/
  | node (block bare : Bool)
  /-- An item of a block, or its end. -/
  | blockItem
  /-- An item of a list without a block of its own, or something else. -/
  | bareItem
  /-- A key of a block, or its end. -/
  | blockKey
  /-- The value of a key of a block. -/
  | blockValue
  /-- An item between brackets, or the closing bracket. -/
  | flowItem (first : Bool)
  /-- The key of a pair that is an item by itself. -/
  | pairKey
  /-- The value of such a pair. -/
  | pairValue
  /-- The end of such a pair. -/
  | pairEnd
  /-- A key between braces, or the closing brace. -/
  | flowKey (first : Bool)
  /-- The value of a key between braces; `absent` when there was no sign of a key. -/
  | flowValue (absent : Bool)
  deriving DecidableEq, Repr

/-! ### Properties -/

/-- Short forms of tags with what they stand for. -/
abbrev TagHandles := List (String × Octets)

/-- The tag that a short form and a rest stand for. -/
def resolveTag? (handles : TagHandles) (handle : String) (suffix : Octets) : Option Octets :=
  if handle.isEmpty then some suffix
  else (handles.lookup handle).map (· ++ suffix)

/-- Reads the properties of a node: an anchor and a tag in either order.  Returns the
place of the first one. -/
def properties? (handles : TagHandles) :
    List Token → Option (Properties × Option Mark × List Token)
  | ⟨.anchor name, m, _⟩ :: ⟨.tag handle suffix, _, _⟩ :: r => do
    let tag ← resolveTag? handles handle suffix
    return (⟨some name, some tag⟩, some m, r)
  | ⟨.tag handle suffix, m, _⟩ :: ⟨.anchor name, _, _⟩ :: r => do
    let tag ← resolveTag? handles handle suffix
    return (⟨some name, some tag⟩, some m, r)
  | ⟨.anchor name, m, _⟩ :: r => some (⟨some name, none⟩, some m, r)
  | ⟨.tag handle suffix, m, _⟩ :: r => do
    let tag ← resolveTag? handles handle suffix
    return (⟨none, some tag⟩, some m, r)
  | r => some (.bare, none, r)

/-! ### Collections -/

/-- The state of reading: what has happened, the last event first, what is waited for, the
innermost first, and the tokens that are left. -/
structure Parsing where
  /-- What has happened. -/
  events : List Event
  /-- What is waited for. -/
  goals : List Goal
  /-- The tokens that are left. -/
  tokens : List Token
  deriving Repr, Inhabited

/-- Reads a node.  Whatever its tag is, it is kept.  That holds for a lone exclamation mark too,
so a word for nothing that stands behind one is a text. -/
def Parsing.node? (handles : TagHandles) (block bare : Bool) (p : Parsing) : Option Parsing := do
  match p.tokens with
  | ⟨.reference name, m, _⟩ :: r =>
    return { p with events := .reference m name :: p.events, tokens := r }
  | tokens =>
    let (props, first, tokens) ← properties? handles tokens
    match tokens with
    | [] => none
    | t :: r =>
      let m := first.getD t.start
      match t.symbol with
      | .entry =>
        if bare then
          return ⟨.sequence m props :: p.events, .bareItem :: p.goals, t :: r⟩
        else if first.isSome then
          return ⟨.scalar m props "" .plain :: p.events, p.goals, t :: r⟩
        else none
      | .scalar text style => return ⟨.scalar m props text style :: p.events, p.goals, r⟩
      | .flowSequence => return ⟨.sequence m props :: p.events, .flowItem true :: p.goals, r⟩
      | .flowMapping => return ⟨.mapping m props :: p.events, .flowKey true :: p.goals, r⟩
      | .blockSequence =>
        if block then return ⟨.sequence m props :: p.events, .blockItem :: p.goals, r⟩
        else if first.isSome then
          return ⟨.scalar m props "" .plain :: p.events, p.goals, t :: r⟩
        else none
      | .blockMapping =>
        if block then return ⟨.mapping m props :: p.events, .blockKey :: p.goals, r⟩
        else if first.isSome then
          return ⟨.scalar m props "" .plain :: p.events, p.goals, t :: r⟩
        else none
      | _ =>
        if first.isSome then return ⟨.scalar m props "" .plain :: p.events, p.goals, t :: r⟩
        else none

namespace Parsing

/-- An empty node, and then further goals. -/
def skip (p : Parsing) (m : Mark) (goals : List Goal) (tokens : List Token) : Parsing :=
  ⟨.empty m :: p.events, goals ++ p.goals, tokens⟩

/-- Further goals. -/
def await (p : Parsing) (goals : List Goal) (tokens : List Token) : Parsing :=
  { p with goals := goals ++ p.goals, tokens := tokens }

/-- The innermost collection ends. -/
def close (p : Parsing) (tokens : List Token) : Parsing :=
  { p with events := .close :: p.events, tokens := tokens }

/-- After the hyphen of a block item. -/
def blockItem? (p : Parsing) : Option Parsing :=
  match p.tokens with
  | ⟨.entry, _, m⟩ :: t :: r =>
    match t.symbol with
    | .entry | .blockEnd => some (p.skip m [.blockItem] (t :: r))
    | _ => some (p.await [.node true false, .blockItem] (t :: r))
  | ⟨.blockEnd, _, _⟩ :: r => some (p.close r)
  | _ => none

/-- After the hyphen of an item in a list without a block of its own. -/
def bareItem? (p : Parsing) : Option Parsing :=
  match p.tokens with
  | ⟨.entry, _, m⟩ :: t :: r =>
    match t.symbol with
    | .entry | .key | .value | .blockEnd => some (p.skip m [.bareItem] (t :: r))
    | _ => some (p.await [.node true false, .bareItem] (t :: r))
  | [] | [⟨.entry, _, _⟩] => none
  | r => some (p.close r)

/-- A key of a block. -/
def blockKey? (p : Parsing) : Option Parsing :=
  match p.tokens with
  | ⟨.key, _, m⟩ :: t :: r =>
    match t.symbol with
    | .key | .value | .blockEnd => some (p.skip m [.blockValue] (t :: r))
    | _ => some (p.await [.node true true, .blockValue] (t :: r))
  | ⟨.blockEnd, _, _⟩ :: r => some (p.close r)
  | _ => none

/-- The value of a key of a block. -/
def blockValue? (p : Parsing) : Option Parsing :=
  match p.tokens with
  | ⟨.value, _, m⟩ :: t :: r =>
    match t.symbol with
    | .key | .value | .blockEnd => some (p.skip m [.blockKey] (t :: r))
    | _ => some (p.await [.node true true, .blockKey] (t :: r))
  | [] | [⟨.value, _, _⟩] => none
  | t :: r => some (p.skip t.start [.blockKey] (t :: r))

/-- The tokens behind the comma that must stand between two items. -/
def afterSeparator? (first : Bool) : List Token → Option (List Token)
  | t :: r => if first then some (t :: r) else if t.symbol = .separator then some r else none
  | [] => none

/-- An item between brackets. -/
def flowItem? (first : Bool) (p : Parsing) : Option Parsing :=
  match p.tokens with
  | ⟨.flowSequenceEnd, _, _⟩ :: r => some (p.close r)
  | tokens => do
    match ← afterSeparator? first tokens with
    | ⟨.key, m, _⟩ :: r =>
      return { p with
        events := .mapping m .bare :: p.events
        goals := .pairKey :: p.goals
        tokens := r }
    | ⟨.flowSequenceEnd, _, _⟩ :: r => return p.close r
    | r => return p.await [.node false false, .flowItem false] r

/-- The key of a pair that is an item by itself.  When nothing stands there, the token
that follows is dropped. -/
def pairKey? (p : Parsing) : Option Parsing :=
  match p.tokens with
  | t :: r =>
    match t.symbol with
    | .value | .separator | .flowSequenceEnd => some (p.skip t.stop [.pairValue] r)
    | _ => some (p.await [.node false false, .pairValue] (t :: r))
  | [] => none

/-- The value of a pair that is an item by itself. -/
def pairValue? (p : Parsing) : Option Parsing :=
  match p.tokens with
  | ⟨.value, _, _⟩ :: t :: r =>
    match t.symbol with
    | .separator | .flowSequenceEnd => some (p.skip t.start [.pairEnd] (t :: r))
    | _ => some (p.await [.node false false, .pairEnd] (t :: r))
  | [] | [⟨.value, _, _⟩] => none
  | t :: r => some (p.skip t.start [.pairEnd] (t :: r))

/-- The end of such a pair, which is told by whatever follows. -/
def pairEnd? (p : Parsing) : Option Parsing :=
  match p.tokens with
  | [] => none
  | r => some (p.await [.flowItem false] r |>.close r)

/-- A key between braces. -/
def flowKey? (first : Bool) (p : Parsing) : Option Parsing :=
  match p.tokens with
  | ⟨.flowMappingEnd, _, _⟩ :: r => some (p.close r)
  | tokens => do
    match ← afterSeparator? first tokens with
    | ⟨.key, _, _⟩ :: t :: r =>
      match t.symbol with
      | .value | .separator | .flowMappingEnd =>
        return p.skip t.start [.flowValue false] (t :: r)
      | _ => return p.await [.node false false, .flowValue false] (t :: r)
    | ⟨.flowMappingEnd, _, _⟩ :: r => return p.close r
    | r => return p.await [.node false false, .flowValue true] r

/-- The value of a key between braces. -/
def flowValue? (absent : Bool) (p : Parsing) : Option Parsing :=
  match absent, p.tokens with
  | false, ⟨.value, _, _⟩ :: t :: r =>
    match t.symbol with
    | .separator | .flowMappingEnd => some (p.skip t.start [.flowKey false] (t :: r))
    | _ => some (p.await [.node false false, .flowKey false] (t :: r))
  | _, [] | false, [⟨.value, _, _⟩] => none
  | _, t :: r => some (p.skip t.start [.flowKey false] (t :: r))

/-- Follows the innermost goal. -/
def step? (handles : TagHandles) (goal : Goal) (p : Parsing) : Option Parsing :=
  match goal with
  | .node block bare => p.node? handles block bare
  | .blockItem => p.blockItem?
  | .bareItem => p.bareItem?
  | .blockKey => p.blockKey?
  | .blockValue => p.blockValue?
  | .flowItem first => p.flowItem? first
  | .pairKey => p.pairKey?
  | .pairValue => p.pairValue?
  | .pairEnd => p.pairEnd?
  | .flowKey first => p.flowKey? first
  | .flowValue absent => p.flowValue? absent

/-- Follows goals until none is left, or one is not reached. -/
def run (handles : TagHandles) : Nat → Parsing → Parsing
  | 0, p => p
  | fuel + 1, p =>
    match p.goals with
    | [] => p
    | goal :: goals =>
      match step? handles goal { p with goals := goals } with
      | some q => run handles fuel q
      | none => p

end Parsing

/-! ### Documents -/

/-- The declarations in front of a document. -/
structure Declarations where
  /-- The version was declared. -/
  version : Bool
  /-- The declared short forms. -/
  handles : TagHandles
  deriving Repr

/-- Reads the declarations in front of a document.  Nothing may be declared twice, and
the version must be a known one. -/
def declarations? : Declarations → List Token → Option (Declarations × List Token)
  | d, ⟨.version major minor, _, _⟩ :: r =>
    if d.version || major ≠ 1 || (minor ≠ 1 && minor ≠ 2) then none
    else declarations? { d with version := true } r
  | d, ⟨.tagHandle handle start, _, _⟩ :: r =>
    if (d.handles.lookup handle).isSome then none
    else declarations? { d with handles := d.handles ++ [(handle, start)] } r
  | d, r => some (d, r)

/-- The short forms that need no declaration. -/
def standardHandles : TagHandles :=
  [("!", octetsOf "!"), ("!!", octetsOf "tag:yaml.org,2002:")]

/-- Reads the content of a document; `explicit` when a line of hyphens stands before it,
and then there may be none. -/
def content (handles : TagHandles) (explicit : Bool) (tokens : List Token) : Parsing :=
  let goal : Parsing := ⟨[], [.node true false], tokens⟩
  match tokens with
  | [] => goal
  | t :: _ =>
    let isEmpty := match t.symbol with
      | .version .. | .tagHandle .. | .documentStart | .documentEnd | .streamEnd => explicit
      | _ => false
    if isEmpty then ⟨[.empty t.start], [], tokens⟩
    -- Between one token that is taken and the next only a few goals are followed.
    else goal.run handles (8 * (tokens.length + 1))

/-- Nothing but lines that end documents is left of a text. -/
def isOver : List Token → Bool
  | ⟨.documentEnd, _, _⟩ :: r => isOver r
  | [⟨.streamEnd, _, _⟩] => true
  | _ => false

/-- The course of the first document of a text. -/
structure Course where
  /-- What happens, as far as the text can be read. -/
  events : List Event
  /-- The text can be read to its end, and there is no other document in it. -/
  whole : Bool
  deriving DecidableEq, Repr, Inhabited

/-- The course of which nothing is known. -/
def Course.unknown : Course := ⟨[], false⟩

/-- The course of a document after its content was read. -/
def Parsing.course (p : Parsing) : Course :=
  ⟨p.events.reverse, p.goals.isEmpty && isOver p.tokens⟩

/-- The course that tokens take.  In a text without a document nothing happens. -/
def Course.ofTokens (tokens : List Token) : Course :=
  match tokens with
  | [⟨.streamEnd, _, _⟩] => ⟨[], true⟩
  | tokens =>
    match declarations? ⟨false, []⟩ tokens with
    | none => .unknown
    | some (d, r) =>
      let handles := d.handles ++ standardHandles
      match r with
      | ⟨.documentStart, _, _⟩ :: r => (content handles true r).course
      -- Behind declarations there must be a line of hyphens.
      | r => if r.length < tokens.length then .unknown else (content handles false r).course

end Faultline.Yaml

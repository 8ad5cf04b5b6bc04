import Faultline.Yaml.Scalar.Block
import Faultline.Yaml.Scalar.Plain
import Faultline.Yaml.Scalar.Quoted
import Faultline.Yaml.Token.Tag

/-!
# From text to tokens

The tokens of a YAML text.  That something is a key is only seen at the colon behind
it, so every place where a key may begin is remembered, and the token that announces
the key is put there later.  Where a text cannot be split any further, the tokens are known
up to the first place that may yet turn out to be that of a key.

## Main definitions

* `Scanner` — the text that is left, the tokens so far, the indentation of the open
  blocks and the places where a key may have begun.
* `Scanner.settled` — the tokens in front of which nothing can be put any more.
* `Token.scan` — the tokens of a text, as far as it can be split.
-/

namespace Faultline.Yaml

/-- A place where a key may have begun. -/
structure KeyPlace where
  /-- Nothing but a key can stand here. -/
  required : Bool
  /-- How many tokens lie before. -/
  number : Nat
  /-- The place. -/
  mark : Mark
  deriving Repr, Inhabited

/-- A text that is being split into tokens. -/
structure Scanner where
  /-- The text that is left. -/
  cursor : Cursor
  /-- The tokens so far, the last one first. -/
  tokens : List Token
  /-- The column of the innermost open block; `-1` when there is none. -/
  indent : Int
  /-- The columns of the blocks around it, the innermost first. -/
  indents : List Int
  /-- Where a key may have begun, within the innermost open brackets. -/
  key : Option KeyPlace
  /-- The same for the brackets around them. -/
  outerKeys : List (Option KeyPlace)
  /-- A key may begin here. -/
  keyAllowed : Bool
  deriving Repr, Inhabited

namespace Scanner

/-- The scanner at the beginning of a text. -/
def start (text : List Char) : Scanner where
  cursor := ⟨.start, text⟩
  tokens := []
  indent := -1
  indents := []
  key := none
  outerKeys := []
  keyAllowed := true

/-- The place is within brackets. -/
def inFlow (s : Scanner) : Bool := !s.outerKeys.isEmpty

/-- Adds a token. -/
def push (s : Scanner) (t : Token) : Scanner := { s with tokens := t :: s.tokens }

/-- Puts a token where `number` tokens lie before it. -/
def insert (s : Scanner) (number : Nat) (t : Token) : Scanner :=
  let later := s.tokens.length - number
  { s with tokens := s.tokens.take later ++ t :: s.tokens.drop later }

/-! ### Blanks and comments -/

/-- The sign at the beginning of a text that tells the order of its octets. -/
def byteOrderMark : Char := '\uFEFF'

/-- Goes over blanks, comments and line breaks.  Tabs count as blanks only where no key
can begin, and the sign for the order of octets only at the beginning of a line; a line
break outside of brackets lets a key begin. -/
def skipBlanks (flow : Bool) : (allowed comment : Bool) → Mark → List Char → Bool × Cursor
  | allowed, _, m, [] => (allowed, ⟨m, []⟩)
  | allowed, _, m, '\r' :: '\n' :: r =>
    skipBlanks flow (allowed || !flow) false (m.nextLine breakPair) r
  | allowed, comment, m, c :: r =>
    if isBreak c then skipBlanks flow (allowed || !flow) false (m.nextLine [c]) r
    else if comment then skipBlanks flow allowed true (m.next c) r
    else if c == ' ' || (c == '\t' && (flow || !allowed)) ||
        (c == byteOrderMark && m.column == 0) then
      skipBlanks flow allowed false (m.next c) r
    else if c == '#' then skipBlanks flow allowed true (m.next c) r
    else (allowed, ⟨m, c :: r⟩)

/-- Goes to the next token. -/
def toNext (s : Scanner) : Scanner :=
  let (allowed, cursor) := skipBlanks s.inFlow s.keyAllowed false s.cursor.mark s.cursor.rest
  { s with keyAllowed := allowed, cursor := cursor }

/-! ### Places of keys -/

/-- The greatest number of octets between the beginning of a key and its colon. -/
def maxKeyLength : Nat := 1024

/-- A key that began at `k` cannot end at `m` any more: it must lie on one line and be short. -/
def isStale (m : Mark) (k : KeyPlace) : Bool :=
  decide (k.mark.line < m.line) || decide (k.mark.index + maxKeyLength < m.index)

/-- Forgets a place when no key can have begun there; fails when only a key could. -/
def freshKey? (m : Mark) : Option KeyPlace → Option (Option KeyPlace)
  | none => some none
  | some k => if isStale m k then (if k.required then none else some none) else some (some k)

/-- Forgets the places where no key can have begun. -/
def dropStale? (s : Scanner) : Option Scanner := do
  let key ← freshKey? s.cursor.mark s.key
  let outer ← s.outerKeys.mapM (freshKey? s.cursor.mark)
  return { s with key := key, outerKeys := outer }

/-- Decides that no key began at the last place; fails when only a key could. -/
def dropKey? (s : Scanner) : Option Scanner :=
  match s.key with
  | some k => if k.required then none else some { s with key := none }
  | none => some s

/-- Remembers that a key may begin here. -/
def saveKey? (s : Scanner) : Option Scanner :=
  if s.keyAllowed then do
    let m := s.cursor.mark
    let required := !s.inFlow && decide (s.indent = m.column)
    let s ← s.dropKey?
    return { s with key := some ⟨required, s.tokens.length, m⟩ }
  else some s

/-! ### Indentation -/

/-- Closes the blocks that are indented deeper than a column. -/
def closeBlocks (m : Mark) (column : Int) : List Token → Int → List Int → List Token × Int × List Int
  | tokens, indent, [] => (tokens, indent, [])
  | tokens, indent, i :: is =>
    if column < indent then closeBlocks m column (.at m .blockEnd :: tokens) i is
    else (tokens, indent, i :: is)

/-- Closes the blocks that are indented deeper than a column; within brackets there are none. -/
def unroll (s : Scanner) (column : Int) : Scanner :=
  if s.inFlow then s
  else
    let (tokens, indent, indents) := closeBlocks s.cursor.mark column s.tokens s.indent s.indents
    { s with tokens := tokens, indent := indent, indents := indents }

/-- Opens a block at a column that is deeper than the open ones, at the place where
`number` tokens lie before. -/
def roll (s : Scanner) (column : Nat) (number : Nat) (symbol : Symbol) (m : Mark) : Scanner :=
  if s.inFlow then s
  else if s.indent < column then
    let s := s.insert number (.at m symbol)
    { s with indent := column, indents := s.indent :: s.indents }
  else s

/-! ### Tokens -/

/-- Goes over characters and adds the token that they are. -/
def take (s : Scanner) (symbol : Symbol) (width : Nat) : Scanner :=
  let c := s.cursor.drop width
  { s with cursor := c, tokens := ⟨symbol, s.cursor.mark, c.mark⟩ :: s.tokens }

/-- Adds a token that ends at a cursor. -/
def takeTo (s : Scanner) (symbol : Symbol) (c : Cursor) : Scanner :=
  { s with cursor := c, tokens := .at s.cursor.mark symbol :: s.tokens }

/-- The token of a line that separates documents. -/
def documentMark? (s : Scanner) (symbol : Symbol) : Option Scanner := do
  let s ← (s.unroll (-1)).dropKey?
  return { s with keyAllowed := false }.take symbol 3

/-- A declaration. -/
def directive? (s : Scanner) : Option Scanner := do
  let s ← (s.unroll (-1)).dropKey?
  let (symbol, c) ← Yaml.directive? s.cursor
  return { s with keyAllowed := false }.takeTo symbol c

/-- An opening bracket; a key may begin before it and after it. -/
def openFlow? (s : Scanner) (symbol : Symbol) : Option Scanner := do
  let s ← s.saveKey?
  return { s with outerKeys := s.key :: s.outerKeys, key := none, keyAllowed := true }.take symbol 1

/-- A closing bracket. -/
def closeFlow? (s : Scanner) (symbol : Symbol) : Option Scanner := do
  let s ← s.dropKey?
  let (key, outer) := match s.outerKeys with
    | [] => (s.key, [])
    | k :: ks => (k, ks)
  return { s with key := key, outerKeys := outer, keyAllowed := false }.take symbol 1

/-- A comma. -/
def separator? (s : Scanner) : Option Scanner := do
  let s ← s.dropKey?
  return { s with keyAllowed := true }.take .separator 1

/-- Opens a block for a hyphen or a question mark, unless the place does not allow one. -/
def openBlock? (s : Scanner) (symbol : Symbol) : Option Scanner :=
  if s.inFlow then some s
  else if s.keyAllowed then
    some (s.roll s.cursor.mark.column s.tokens.length symbol s.cursor.mark)
  else none

/-- The hyphen before a list item. -/
def entry? (s : Scanner) : Option Scanner := do
  let s ← s.openBlock? .blockSequence
  let s ← s.dropKey?
  return { s with keyAllowed := true }.take .entry 1

/-- The question mark before a key. -/
def key? (s : Scanner) : Option Scanner := do
  let s ← s.openBlock? .blockMapping
  let s ← s.dropKey?
  return { s with keyAllowed := !s.inFlow }.take .key 1

/-- The colon before a value.  If a key may have begun before it, it did. -/
def value? (s : Scanner) : Option Scanner :=
  match s.key with
  | some k =>
    let s := s.insert k.number (.at k.mark .key)
    let s := s.roll k.mark.column k.number .blockMapping k.mark
    some ({ s with key := none, keyAllowed := false }.take .value 1)
  | none => do
    let s ← s.openBlock? .blockMapping
    return { s with keyAllowed := !s.inFlow }.take .value 1

/-- An anchor or an alias. -/
def name? (s : Scanner) (symbol : String → Symbol) : Option Scanner := do
  let s ← s.saveKey?
  let (name, c) ← anchorName? s.cursor
  return { s with keyAllowed := false }.takeTo (symbol name) c

/-- A tag. -/
def tag? (s : Scanner) : Option Scanner := do
  let s ← s.saveKey?
  let ((handle, suffix), c) ← tagWord? s.inFlow s.cursor
  return { s with keyAllowed := false }.takeTo (.tag handle suffix) c

/-- A scalar as a block of lines. -/
def block? (s : Scanner) (literal : Bool) : Option Scanner := do
  let s ← s.dropKey?
  let (text, c) ← blockScalar literal s.indent s.cursor
  return { s with keyAllowed := true }.takeTo (.scalar text .marked) c

/-- A scalar between quotes. -/
def quoted? (s : Scanner) (single : Bool) : Option Scanner := do
  let s ← s.saveKey?
  let (text, c) ← quotedScalar single s.cursor
  return { s with keyAllowed := false }.takeTo (.scalar text .marked) c

/-- A scalar without marks. -/
def plain? (s : Scanner) : Option Scanner := do
  let s ← s.saveKey?
  let p ← plainScalar s.inFlow (s.indent + 1) s.cursor
  return { s with keyAllowed := p.broken }.takeTo (.scalar p.text .plain) p.next

/-- The end of the text. -/
def finish? (s : Scanner) : Option Scanner := do
  let m := s.cursor.mark
  let m := if m.column = 0 then m else { m with line := m.line + 1, column := 0 }
  let s := { s with cursor := ⟨m, []⟩ }
  let s ← (s.unroll (-1)).dropKey?
  return s.push (.at m .streamEnd)

/-- The signs with which no plain scalar begins. -/
def isIndicator (c : Char) : Bool :=
  ['-', '?', ':', ',', '[', ']', '{', '}', '#', '&', '*', '!', '|', '>', '\'', '"', '%', '@',
    '\x60'].contains c

/-- A plain scalar begins here. -/
def beginsPlain (flow : Bool) (c : Char) (r : List Char) : Bool :=
  (!isIndicator c && !isEnd (c :: r)) ||
    (c == '-' && !(match r with | d :: _ => isBlank d | [] => false)) ||
    (!flow && (c == '?' || c == ':') && !isEnd r)

/-- Adds the token at the front of a text that does not end here. -/
def token? (s : Scanner) (c : Char) (r : List Char) : Option Scanner :=
  let flow := s.inFlow
  let atLineStart := s.cursor.mark.column == 0
  if atLineStart && c == '%' then s.directive?
  else if atLineStart && isDocumentMark (c :: r) then
    s.documentMark? (if c == '-' then .documentStart else .documentEnd)
  else if c == '[' then s.openFlow? .flowSequence
  else if c == '{' then s.openFlow? .flowMapping
  else if c == ']' then s.closeFlow? .flowSequenceEnd
  else if c == '}' then s.closeFlow? .flowMappingEnd
  else if c == ',' then s.separator?
  else if c == '-' && isEnd r then s.entry?
  else if c == '?' && (flow || isEnd r) then s.key?
  else if c == ':' && (flow || isEnd r) then s.value?
  else if c == '*' then s.name? .reference
  else if c == '&' then s.name? .anchor
  else if c == '!' then s.tag?
  else if c == '|' && !flow then s.block? true
  else if c == '>' && !flow then s.block? false
  else if c == '\'' then s.quoted? true
  else if c == '"' then s.quoted? false
  else if beginsPlain flow c r then s.plain?
  else none

/-! ### Texts -/

/-- Adds the tokens up to the next one in the text.  Places of keys grow stale both on the way
to it and within it. -/
def next? (s : Scanner) : Option Scanner := do
  let s ← s.toNext.dropStale?
  let s := s.unroll s.cursor.mark.column
  let s ← match s.cursor.rest with
    | [] => s.finish?
    | c :: r => s.token? c r
  s.dropStale?

/-- The whole text is split up. -/
def isFinished (s : Scanner) : Bool := s.tokens.head?.map Token.symbol == some .streamEnd

/-- The tokens in front of which nothing can be put any more: those before the first place
where a key may have begun. -/
def settled (s : Scanner) : List Token :=
  let places := (s.key :: s.outerKeys).filterMap fun k => k.map KeyPlace.number
  s.tokens.reverse.take (places.foldl min s.tokens.length)

/-- Splits the text up as far as this can be done.  Every token takes a character, so `fuel` is
bounded by the text. -/
def run : Nat → Scanner → List Token
  | 0, s => s.settled
  | fuel + 1, s =>
    match s.next? with
    | none => s.settled
    | some s => if s.isFinished then s.tokens.reverse else run fuel s

end Scanner

/-- The tokens of a text.  Only where the whole text can be split up does the end of the text
stand behind them; of a text with a character that no text may hold there are none. -/
def Token.scan (text : List Char) : List Token :=
  if text.all isAllowed then (Scanner.start text).run (text.length + 1) else []

end Faultline.Yaml

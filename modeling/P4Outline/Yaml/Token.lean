import P4Outline.Yaml.Scalar

/-!
# Tokens of a document

    characters ──tokens?──▶ tokens ──Node.ofTokens?──▶ node

The structure of a block is its indentation: a token that stands further left than a block closes
it. Where a mapping key may begin, two slots are left in the list of tokens: one for the start of a
block mapping, and one for the key. The colon behind the key fills the second slot, and the first
one too if the key begins a mapping. Slots that no colon fills are dropped in the end. A key and its
colon share a line and are at most 1024 characters apart.

Aliases, anchors, tags and block scalars are not part of the language that is read here.
-/

namespace P4Outline.Yaml

/-- A token. Slots stand for what a later colon may put in. -/
inductive Token where
  | directive
  | documentStart
  | documentEnd
  | sequenceStart
  | mappingStart
  | blockEnd
  | openBracket
  | closeBracket
  | openBrace
  | closeBrace
  | dash
  | comma
  | key
  | value
  | scalar (plain : Bool) (text : List Char)
  | slot
  deriving DecidableEq, Repr

/-- A place where a mapping key may have begun. -/
structure PossibleKey where
  /-- The place of its first slot among the tokens. -/
  slot : Nat
  /-- Whether the block that it stands in leaves no other reading. -/
  required : Bool
  offset : Nat
  line : Nat
  column : Nat
  deriving DecidableEq, Repr

/-- What the reading of tokens remembers. -/
structure Scanner where
  cursor : Cursor
  tokens : Array Token := #[]
  /-- The column of the innermost block, `-1` outside of all. -/
  indent : Int := -1
  /-- The columns of the blocks around it. -/
  outer : List Int := []
  /-- The possible keys of the open flow collections, the innermost first, and of the block around
  them. -/
  keys : List (Option PossibleKey) := [none]
  /-- Whether a key may begin here. -/
  keyAllowed : Bool := true

namespace Scanner

/-- Whether a flow collection is open. -/
def inFlow (s : Scanner) : Bool := 1 < s.keys.length

/-- Adds a token. -/
def push (s : Scanner) (t : Token) : Scanner := { s with tokens := s.tokens.push t }

/-- Skips blanks, comments and breaks up to the next token. A break outside flow collections lets a
key begin. -/
def skipToToken : Nat → Scanner → Scanner
  | 0, s => s
  | fuel + 1, s =>
    let p := s.cursor.skipWhile (· = ' ')
    let p := if p.rest.head? = some '#' then p.skipWhile (!isBreak ·) else p
    match p.rest with
    | c :: _ =>
      if isBreak c then
        skipToToken fuel { s with cursor := p.next, keyAllowed := s.keyAllowed || !s.inFlow }
      else { s with cursor := p }
    | [] => { s with cursor := p }

/-- Whether a possible key can no longer be one here. -/
def isStale (p : Cursor) (k : PossibleKey) : Bool := k.line ≠ p.line || 1024 < p.offset - k.offset

/-- Forgets the possible keys that can no longer be one. A required one among them makes the
document malformed. -/
def dropStale (s : Scanner) : Except DocumentError Scanner :=
  let stale (k : Option PossibleKey) : Bool := (k.map (isStale s.cursor)).getD false
  if s.keys.any fun k => stale k && (k.map (·.required)).getD false then .error .malformed
  else .ok { s with keys := s.keys.map fun k => if stale k then none else k }

/-- Forgets the possible key of the innermost collection. -/
def dropKey (s : Scanner) : Except DocumentError Scanner :=
  match s.keys with
  | some k :: outer =>
    if k.required then .error .malformed else .ok { s with keys := none :: outer }
  | _ => .ok s

/-- Notes that a key may begin here, and leaves its slots. -/
def noteKey (s : Scanner) : Except DocumentError Scanner :=
  if s.keyAllowed then do
    let s ← s.dropKey
    let p := s.cursor
    let key : PossibleKey :=
      ⟨s.tokens.size, !s.inFlow && s.indent == p.column, p.offset, p.line, p.column⟩
    return { (s.push .slot).push .slot with keys := some key :: s.keys.drop 1 }
  else .ok s

/-- Closes the blocks that lie further right than a column. -/
def unwindTo (column : Int) (indent : Int) : List Int → Array Token → Int × List Int × Array Token
  | [], tokens => (indent, [], tokens)
  | i :: outer, tokens =>
    if column < indent then unwindTo column i outer (tokens.push .blockEnd)
      else (indent, i :: outer, tokens)

/-- Closes the blocks that lie further right than a column, outside flow collections. -/
def unwind (column : Int) (s : Scanner) : Scanner :=
  if s.inFlow then s
  else
    let (indent, outer, tokens) := unwindTo column s.indent s.outer s.tokens
    { s with indent, outer, tokens }

/-- Opens a block at a column, if that lies further right than the innermost one. -/
def indentTo (column : Nat) (s : Scanner) : Option Scanner :=
  if s.indent < column then some { s with indent := column, outer := s.indent :: s.outer } else none

/-- Opens a block of a kind at the next token, if that lies further right than the innermost one. -/
def openBlock (start : Token) (s : Scanner) : Scanner :=
  match s.indentTo s.cursor.column with
  | some s => s.push start
  | none => s

/-- Adds a token of `n` characters behind which a key may begin if `allowed` says so. -/
def take (t : Token) (n : Nat) (allowed : Bool) (s : Scanner) : Scanner :=
  { s.push t with cursor := s.cursor.skip n, keyAllowed := allowed }

/-- Reads the mark of three characters that sets documents apart. -/
def separator (t : Token) (s : Scanner) : Except DocumentError Scanner := do
  return (← (s.unwind (-1)).dropKey).take t 3 false

/-- Reads a directive, which takes the whole line. -/
def directive (s : Scanner) : Except DocumentError Scanner := do
  let s ← (s.unwind (-1)).dropKey
  return { s.push .directive with cursor := s.cursor.skipWhile (!isBreak ·), keyAllowed := false }

/-- Reads the opening of a flow collection. -/
def openFlow (t : Token) (s : Scanner) : Except DocumentError Scanner := do
  let s ← s.noteKey
  return { s.take t 1 true with keys := none :: s.keys }

/-- Reads the end of a flow collection. -/
def closeFlow (t : Token) (s : Scanner) : Except DocumentError Scanner := do
  let s ← s.dropKey
  if s.inFlow then return { s.take t 1 false with keys := s.keys.drop 1 } else .error .malformed

/-- Reads the dash of a sequence entry. -/
def blockEntry (s : Scanner) : Except DocumentError Scanner := do
  if !s.inFlow && !s.keyAllowed then .error .malformed
  let s := if s.inFlow then s else s.openBlock .sequenceStart
  return (← { s with keyAllowed := true }.dropKey).take .dash 1 true

/-- Reads the question mark of a key. -/
def explicitKey (s : Scanner) : Except DocumentError Scanner := do
  if !s.inFlow && !s.keyAllowed then .error .malformed
  let s := if s.inFlow then s else s.openBlock .mappingStart
  return (← s.dropKey).take .key 1 !s.inFlow

/-- Fills the slots of a key. -/
def fillSlots (k : PossibleKey) (s : Scanner) : Scanner :=
  let s :=
    { s with keys := none :: s.keys.drop 1, tokens := s.tokens.setIfInBounds (k.slot + 1) .key }
  match if s.inFlow then none else s.indentTo k.column with
  | some s => { s with tokens := s.tokens.setIfInBounds k.slot .mappingStart }
  | none => s

/-- Reads the colon of a value. -/
def colon (s : Scanner) : Except DocumentError Scanner :=
  match s.keys with
  | some k :: _ => .ok ((s.fillSlots k).take .value 1 false)
  | _ => do
    if !s.inFlow && !s.keyAllowed then .error .malformed
    let s := if s.inFlow then s else s.openBlock .mappingStart
    return (← s.dropKey).take .value 1 !s.inFlow

/-- Reads a quoted scalar. -/
def quotedScalar (quote : Char) (s : Scanner) : Except DocumentError Scanner := do
  let s ← s.noteKey
  let (text, p) ← quotedFrom quote (s.cursor.rest.length + 1) s.cursor.next []
  return { s.push (.scalar false text) with cursor := p, keyAllowed := false }

/-- Reads a plain scalar. -/
def plainScalar (s : Scanner) : Except DocumentError Scanner := do
  let s ← s.noteKey
  let (text, p, broken) :=
    plainFrom s.inFlow (s.indent + 1) (s.cursor.rest.length + 1) s.cursor [] [] false
  return { s.push (.scalar true text) with cursor := p, keyAllowed := broken }

/-- Whether a plain scalar may begin with `c`, with `cs` behind it. -/
def startsPlain (inFlow : Bool) (c : Char) (cs : List Char) : Bool :=
  if c = '-' || (!inFlow && (c = '?' || c = ':')) then !atGap cs
  else !isGap c && !("?:,[]\x7b\x7d#&*!|>'\"%@\x60".toList.contains c)

/-- Reads the token at `c`, with `cs` behind it. -/
def token (c : Char) (cs : List Char) (s : Scanner) : Except DocumentError Scanner :=
  let first := s.cursor.column = 0
  if first && c = '%' then s.directive
  else if first && c = '-' && s.cursor.atSeparator then s.separator .documentStart
  else if first && c = '.' && s.cursor.atSeparator then s.separator .documentEnd
  else if c = '[' then s.openFlow .openBracket
  else if c = '{' then s.openFlow .openBrace
  else if c = ']' then s.closeFlow .closeBracket
  else if c = '}' then s.closeFlow .closeBrace
  else if c = ',' then do
    return (← { s with keyAllowed := true }.dropKey).take .comma 1 true
  else if c = '-' && atGap cs then s.blockEntry
  else if c = '?' && (s.inFlow || atGap cs) then s.explicitKey
  else if c = ':' && (s.inFlow || atGap cs) then s.colon
  else if c = '\'' || c = '"' then s.quotedScalar c
  else if startsPlain s.inFlow c cs then s.plainScalar
  else .error .malformed

/-- Reads tokens up to the end of the document. -/
def run : Nat → Scanner → Except DocumentError (Array Token)
  | 0, _ => .error .malformed
  | fuel + 1, s => do
    let s ← (skipToToken (s.cursor.rest.length + 1) s).dropStale
    let s := s.unwind s.cursor.column
    match s.cursor.rest with
    | [] => return (← (s.unwind (-1)).dropKey).tokens
    | c :: cs => run fuel (← s.token c cs)

end Scanner

/-- The tokens of a document. A byte order mark at its front is no part of it. -/
def tokens? (cs : List Char) : Except DocumentError (List Token) := do
  if !cs.all isAllowed then .error .malformed
  let start : Cursor := ⟨cs, 0, 0, 0⟩
  let p := if cs.head? = some '\uFEFF' then start.next else start
  let tokens ← Scanner.run (cs.length + 2) { cursor := p }
  return tokens.toList.filter (· ≠ .slot)

end P4Outline.Yaml

import P4Outline.Text.Digit
import P4Outline.Yaml.Cursor

/-!
# Reading scalars

A plain scalar ends where the structure of the document goes on; a quoted one ends at its quote.
Both may run over several lines: a single break reads as a space, of several the first one goes.
Every reader returns the text of the scalar and the place behind it.
-/

namespace P4Outline.Yaml

open P4Outline.Text

/-! ### Plain scalars -/

/-- Whether a plain scalar ends before the character `c`, with `cs` behind it. -/
def endsPlain (inFlow : Bool) (c : Char) (cs : List Char) : Bool :=
  isGap c
  || (c = ':' &&
    (atGap cs || (inFlow && (cs.head?.map [',', '[', ']', '{', '}'].contains).getD false)))
  || (inFlow && [',', '?', '[', ']', '{', '}'].contains c)

/-- The part of a plain scalar up to the next gap. -/
def plainRun (inFlow : Bool) : List Char → List Char
  | [] => []
  | c :: cs => if endsPlain inFlow c cs then [] else c :: plainRun inFlow cs

/-- Reads the further breaks, and the spaces among them, behind the first break of a gap. Nothing is
read if documents are set apart there. -/
def furtherBreaks : Nat → Cursor → List Char → Option (List Char) × Cursor
  | 0, p, breaks => (some breaks, p)
  | fuel + 1, p, breaks =>
    match p.rest with
    | c :: _ =>
      if c = ' ' then furtherBreaks fuel p.next breaks
      else if isBreak c then
        if p.next.atSeparator then (none, p.next)
          else furtherBreaks fuel p.next (breaks ++ [foldedBreak c])
      else (some breaks, p)
    | [] => (some breaks, p)

/-- The text that stands for a break and the breaks after it. -/
def folded (first : Char) (further : List Char) : List Char :=
  if foldedBreak first ≠ '\n' then foldedBreak first :: further else if further.isEmpty then [' ']
    else further

/-- Reads the gap behind a part of a plain scalar: what it reads as if the scalar goes on, the place
behind it, and whether it broke the line. -/
def plainGap (p : Cursor) : List Char × Cursor × Bool :=
  let spaces := p.rest.takeWhile (· = ' ')
  let q := p.skip spaces.length
  match q.rest with
  | c :: _ =>
    if isBreak c then
      if q.next.atSeparator then ([], q.next, true)
      else
        match furtherBreaks q.rest.length q.next [] with
        | (some breaks, r) => (folded c breaks, r, true)
        | (none, r) => ([], r, true)
    else (spaces, q, false)
  | [] => (spaces, q, false)

/-- Reads a plain scalar whose text so far is `text`, the gap behind that reading as `gap`. Its
lines must be indented by `indent` outside flow collections. The last component tells whether a line
was broken behind the scalar's end. -/
def plainFrom (inFlow : Bool) (indent : Int) : Nat → Cursor → List Char → List Char → Bool →
    List Char × Cursor × Bool
  | 0, p, text, _, broken => (text, p, broken)
  | fuel + 1, p, text, gap, broken =>
    let run := if p.rest.head? = some '#' then [] else plainRun inFlow p.rest
    if run.isEmpty then (text, p, broken)
    else
      let text := text ++ gap ++ run
      let (gap, q, broken) := plainGap (p.skip run.length)
      if gap.isEmpty || q.rest.head? = some '#' || (!inFlow && (q.column : Int) < indent)
        then (text, q, broken)
      else plainFrom inFlow indent fuel q text gap broken

/-! ### Quoted scalars -/

/-- The character that an escape of one letter stands for. -/
def simpleEscape? : Char → Option Char
  | '0' => some '\x00'
  | 'a' => some '\x07'
  | 'b' => some '\x08'
  | 't' | '\t' => some '\t'
  | 'n' => some '\n'
  | 'v' => some '\x0b'
  | 'f' => some '\x0c'
  | 'r' => some '\r'
  | 'e' => some '\x1b'
  | ' ' => some ' '
  | '"' => some '"'
  | '\\' => some '\\'
  | '/' => some '/'
  | 'N' => some '\u0085'
  | '_' => some '\u00a0'
  | 'L' => some '\u2028'
  | 'P' => some '\u2029'
  | _ => none

/-- How many hexadecimal digits an escape of a code point has. -/
def pointEscape? : Char → Option Nat
  | 'x' => some 2
  | 'u' => some 4
  | 'U' => some 8
  | _ => none

/-- The number that the first `n` characters of a text write in hexadecimal digits. -/
def hexNumber? (n : Nat) (cs : List Char) : Option Nat :=
  if cs.length < n then none
  else (cs.take n).foldlM (fun acc c => (hexValue? c).map (16 * acc + ·)) 0

/-- Reads the breaks and blanks behind the first break of a gap in a quoted scalar. -/
def quotedBreaks : Nat → Cursor → List Char → Except DocumentError (List Char × Cursor)
  | 0, p, breaks => .ok (breaks, p)
  | fuel + 1, p, breaks =>
    if p.atSeparator then .error .malformed
    else
      let q := p.skipWhile fun c => c = ' ' || c = '\t'
      match q.rest with
      | c :: _ => if isBreak c then quotedBreaks fuel q.next (breaks ++ [foldedBreak c])
          else .ok (breaks, q)
      | [] => .ok (breaks, q)

/-- Reads an escape, from behind its backslash. -/
def escape (p : Cursor) : Except DocumentError (List Char × Cursor) :=
  match p.rest with
  | [] => .error .malformed
  | c :: rest =>
    match simpleEscape? c, pointEscape? c with
    | some d, _ => .ok ([d], p.next)
    | none, some n =>
      match hexNumber? n rest with
      | none => .error .malformed
      | some point => if 0x10FFFF < point then .error .noSuchCodePoint
          else .ok ([Char.ofNat point], p.next.skip n)
    | none, none => if isBreak c then quotedBreaks p.rest.length p.next [] else .error .malformed

/-- Reads the gap at the front of what is left of a quoted scalar. -/
def quotedGap (p : Cursor) : Except DocumentError (List Char × Cursor) :=
  let blanks := p.rest.takeWhile fun c => c = ' ' || c = '\t'
  let q := p.skip blanks.length
  match q.rest with
  | [] => .error .malformed
  | c :: _ =>
    if isBreak c then (quotedBreaks q.rest.length q.next []).map fun (breaks, r) =>
      (folded c breaks, r)
    else .ok (blanks, q)

/-- Reads what is left of a quoted scalar whose text so far is `text`, up to its quote. -/
def quotedFrom (quote : Char) : Nat → Cursor → List Char → Except DocumentError (List Char × Cursor)
  | 0, _, _ => .error .malformed
  | fuel + 1, p, text =>
    match p.rest with
    | [] => .error .malformed
    | c :: rest =>
      if c = quote then
        if quote = '\'' && rest.head? = some '\'' then quotedFrom quote fuel (p.skip 2)
          (text ++ ['\''])
        else .ok (text, p.next)
      else if isGap c then
        match quotedGap p with
        | .ok (gap, q) => quotedFrom quote fuel q (text ++ gap)
        | .error e => .error e
      else if quote = '"' && c = '\\' then
        match escape p.next with
        | .ok (cs, q) => quotedFrom quote fuel q (text ++ cs)
        | .error e => .error e
      else quotedFrom quote fuel p.next (text ++ [c])

end P4Outline.Yaml

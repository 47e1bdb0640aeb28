import P4Outline.Text.Blank
import P4Outline.Text.Digit
import P4Outline.Text.Quoted

/-!
# Templates

A template is a text with fields in braces. A field names a variable, and may go on with attributes
(`.name`) and indices (`[0]`), a conversion (`!r`) and a layout (`:>8`), which may have fields of
its own. Doubled braces stand for single ones.

The variables are texts. Those have characters under whole numbers. What their attributes are, and
how much room there is to fill texts up, is given from outside.
-/

namespace P4Outline

open P4Outline.Text

/-- Why a template cannot be rendered. -/
inductive TemplateError where
  /-- It is not well-formed, or asks for a variable, a character or a layout that there is none
  of. -/
  | unusable
  /-- It asks for an attribute that a text has not. -/
  | noAttribute (name : String)
  /-- It asks for a character of a text under something that is no number. -/
  | notAnIndex
  /-- There is no room for a text as wide as it asks for. -/
  | noRoom
  /-- What an attribute leads to fails in a way of its own. -/
  | failed (message : String)
  deriving DecidableEq, Repr

/-- The wording of an error. -/
def TemplateError.message : TemplateError → String
  | .unusable => "unusable template"
  | .noAttribute name => "'str' object has no attribute '" ++ name ++ "'"
  | .notAnIndex => "string indices must be integers, not 'str'"
  | .noRoom => ""
  | .failed message => message

namespace Template

/-- The variables of a template. -/
abbrev Bindings := List (String × List Char)

/-- Something that a field can show: what it is as a text by a conversion, and laid out. -/
structure Showable where
  convert : Char → Except TemplateError (List Char)
  layOut : List Char → Except TemplateError (List Char)

/-- What a template meets that is no part of the texts. -/
structure Host where
  /-- What the way from a text on leads to, if it begins with an attribute. -/
  reach : List Char → List Char → Except TemplateError Showable
  /-- How many characters a text can be filled up to. -/
  room : Nat

/-! ### Layouts -/

/-- The greatest width or precision that can be asked for. -/
def maxSize : Nat := 0x7FFFFFFFFFFFFFFF

/-- How a text is laid out in its field. -/
structure Layout where
  fill : Char := ' '
  align : Char := '<'
  width : Nat := 0
  precision : Option Nat := none
  deriving DecidableEq, Repr

/-- Whether a character says how to align. -/
def isAlign (c : Char) : Bool := c = '<' || c = '>' || c = '^' || c = '='

/-- Reads the fill and the alignment at the front of a layout: whether a fill was given, the layout,
and the rest. -/
def readAlign : List Char → Bool × Layout × List Char
  | fill :: align :: cs =>
    if isAlign align then (true, { fill, align }, cs)
    else if isAlign fill then (false, { align := fill }, align :: cs)
    else (false, {}, fill :: align :: cs)
  | [c] => if isAlign c then (false, { align := c }, []) else (false, {}, [c])
  | [] => (false, {}, [])

/-- The width or the precision that digits write, if it can be asked for. -/
def size? (digits : List Char) : Option Nat :=
  if digitsValue digits ≤ maxSize then some (digitsValue digits) else none

/-- Whether a text is the letter of the kind of a layout, of which there is one for texts, or
nothing. -/
def isKind (cs : List Char) : Bool := cs.isEmpty || cs = ['s']

/-- Reads the precision of a layout, and the letter of its kind. -/
def readPrecision? (l : Layout) (cs : List Char) : Option Layout :=
  let digits := cs.takeWhile isDigit
  if digits.isEmpty then none
  else
    match size? digits with
    | none => none
    | some n => if isKind (cs.dropWhile isDigit) then some { l with precision := some n } else none

/-- Reads the width and the precision of a layout, and the letter of its kind. -/
def readSizes? (l : Layout) (cs : List Char) : Option Layout :=
  match size? (cs.takeWhile isDigit) with
  | none => none
  | some width =>
    let l := { l with width }
    match cs.dropWhile isDigit with
    | '.' :: cs => readPrecision? l cs
    | rest => if isKind rest then some l else none

/-- Reads a layout. A zero in front of the width is the fill, if no other one was given. -/
def readLayout? (cs : List Char) : Option Layout :=
  let (filled, l, rest) := readAlign cs
  if l.align = '=' then none
  else
    match rest with
    | '0' :: rest => readSizes? (if filled then l else { l with fill := '0' }) rest
    | _ => readSizes? l rest

/-- A text laid out: cut to the precision, and filled up to the width. -/
def Layout.apply (l : Layout) (cs : List Char) : List Char :=
  let cs := match l.precision with | none => cs | some n => cs.take n
  let room := l.width - cs.length
  let left := if l.align = '>' then room else if l.align = '^' then room / 2 else 0
  List.replicate left l.fill ++ cs ++ List.replicate (room - left) l.fill

/-! ### Fields -/

/-- A field: the text of its name with all that belongs to that, its conversion and its layout. -/
structure Field where
  name : List Char
  conversion : Option Char
  layout : List Char
  deriving DecidableEq, Repr

/-- Reads the name of a field, with the character that ends it and the text behind. What stands in
brackets does not end it. -/
def readName? (cs : List Char) : Option (List Char × Char × List Char) :=
  match cs with
  | [] => none
  | '{' :: _ => none
  | '[' :: cs => (readName? (cs.dropWhile (· ≠ ']'))).map fun (name, rest) =>
      ('[' :: cs.takeWhile (· ≠ ']') ++ name, rest)
  | c :: cs =>
    if c = '}' || c = ':' || c = '!' then some ([], c, cs)
    else (readName? cs).map fun (name, rest) => (c :: name, rest)
termination_by cs.length
decreasing_by
  · have := (List.dropWhile_suffix (l := cs) (fun c => decide (c ≠ ']'))).length_le
    simp only [List.length_cons]
    omega
  · simp

/-- Reads a layout up to the brace that ends the field, `inner` braces of its own fields being
open. -/
def readLayoutText? : Nat → List Char → Option (List Char × List Char)
  | _, [] => none
  | inner, c :: cs =>
    if c = '{' then (readLayoutText? (inner + 1) cs).map fun (layout, rest) => (c :: layout, rest)
    else if c = '}' then
      match inner with
      | 0 => some ([], cs)
      | inner + 1 => (readLayoutText? inner cs).map fun (layout, rest) => (c :: layout, rest)
    else (readLayoutText? inner cs).map fun (layout, rest) => (c :: layout, rest)

/-- Reads a field from behind its brace, with the text behind it. -/
def readField? (cs : List Char) : Option (Field × List Char) :=
  match readName? cs with
  | none => none
  | some (name, '}', rest) => some (⟨name, none, []⟩, rest)
  | some (name, '!', conversion :: '}' :: rest) => some (⟨name, some conversion, []⟩, rest)
  | some (name, '!', conversion :: ':' :: rest) =>
    (readLayoutText? 0 rest).map fun (layout, rest) => (⟨name, some conversion, layout⟩, rest)
  | some (_, '!', _) => none
  | some (name, _, rest) => (readLayoutText? 0 rest).map fun (layout, rest) =>
    (⟨name, none, layout⟩, rest)

/-- A text laid out as a field asks. -/
def layOutText (room : Nat) (cs layout : List Char) : Except TemplateError (List Char) :=
  if layout.isEmpty then .ok cs
  else
    match readLayout? layout with
    | none => .error .unusable
    | some l => if room < l.width then .error .noRoom else .ok (l.apply cs)

/-- The letters of the conversions: written out, written out in ASCII, and as it is. -/
def conversions : List Char := ['r', 'a', 's']

/-- A text converted as a field asks. -/
def convertText (cs : List Char) : Char → Except TemplateError (List Char)
  | 'r' => .ok (quoted cs)
  | 'a' => .ok (quotedAscii cs)
  | _ => .ok cs

/-- A text as a field shows it. -/
def Showable.ofText (room : Nat) (cs : List Char) : Showable := ⟨convertText cs, layOutText room cs⟩

/-- Goes on from a text along the attributes and indices behind the name of a variable. -/
def along (host : Host) : Nat → List Char → List Char → Except TemplateError Showable
  | 0, _, _ => .error .unusable
  | fuel + 1, value, way =>
    match way with
    | [] => .ok (.ofText host.room value)
    | '.' :: _ => host.reach value way
    | '[' :: rest =>
      let index := rest.takeWhile (· ≠ ']')
      match rest.dropWhile (· ≠ ']') with
      | [] => .error .unusable
      | _ :: rest =>
        if index.isEmpty then .error .unusable
        else if index.all isDigit then
          match value[digitsValue index]? with
          | some c => along host fuel [c] rest
          | none => .error .unusable
        else .error .notAnIndex
    | _ => .error .unusable

/-- What the name of a field leads to. -/
def lookUp (host : Host) (bindings : Bindings) (name : List Char) : Except TemplateError Showable :=
  let first := name.takeWhile fun c => c ≠ '.' && c ≠ '['
  if first.all isDigit then .error .unusable
  else
    match bindings.lookup (String.ofList first) with
    | none => .error .unusable
    | some value => along host (name.length + 1) value (name.dropWhile fun c => c ≠ '.' && c ≠ '[')

/-- Something converted as a field asks, if it does. -/
def Showable.converted (room : Nat) (conversion : Option Char) (value : Showable) :
    Except TemplateError Showable :=
  match conversion with
  | none => .ok value
  | some c => if c ∈ conversions then (value.convert c).map (.ofText room) else .error .unusable

/-- The text of a field, the fields in whose layout `inner` renders. -/
def Field.render (host : Host) (bindings : Bindings)
    (inner : List Char → Except TemplateError (List Char)) (f : Field) :
    Except TemplateError (List Char) := do
  let value ← lookUp host bindings f.name
  let shown ← value.converted host.room f.conversion
  let layout ← if '{' ∈ f.layout then inner f.layout else .ok f.layout
  shown.layOut layout

theorem length_lt_of_readName? {cs name rest : List Char} {c : Char}
    (h : readName? cs = some (name, c, rest)) :
    rest.length < cs.length := by
  fun_induction readName? cs generalizing name with
  | case1 => simp at h
  | case2 => simp at h
  | case3 cs ih =>
    obtain ⟨⟨n, d, r⟩, hr, he⟩ := Option.map_eq_some_iff.1 h
    cases he
    have := ih hr
    have := (List.dropWhile_suffix (l := cs) (fun c => decide (c ≠ ']'))).length_le
    simp only [List.length_cons]
    omega
  | case4 => cases h; simp
  | case5 _ _ _ _ _ ih =>
    obtain ⟨⟨n, d, r⟩, hr, he⟩ := Option.map_eq_some_iff.1 h
    cases he
    have := ih hr
    simp only [List.length_cons]
    omega

/-- How many braces within a layout are open behind a character, unless that ends the field. -/
def innerAfter? (inner : Nat) (c : Char) : Option Nat :=
  if c = '{' then some (inner + 1)
  else if c = '}' then (match inner with | 0 => none | inner + 1 => some inner)
  else some inner

/-- A layout is read character by character, up to the brace that ends the field. -/
theorem readLayoutText?_cons (inner : Nat) (c : Char) (cs : List Char) :
    readLayoutText? inner (c :: cs) =
      match innerAfter? inner c with
      | none => some ([], cs)
      | some inner' =>
        (readLayoutText? inner' cs).map fun (layout, rest) => (c :: layout, rest) := by
  rw [readLayoutText?.eq_def]
  unfold innerAfter?
  dsimp only
  split
  · rfl
  · split
    · cases inner <;> rfl
    · rfl

theorem eq_of_innerAfter? {inner : Nat} {c : Char} (h : innerAfter? inner c = none) : c = '}' := by
  unfold innerAfter? at h
  split at h
  · cases h
  · split at h
    · assumption
    · cases h

theorem length_lt_of_readLayoutText? {inner : Nat} {cs layout rest : List Char}
    (h : readLayoutText? inner cs = some (layout, rest)) : rest.length < cs.length := by
  induction cs generalizing inner layout with
  | nil => simp [readLayoutText?] at h
  | cons c cs ih =>
    rw [readLayoutText?_cons] at h
    split at h
    · cases h
      simp
    · obtain ⟨⟨l, r⟩, hr, he⟩ := Option.map_eq_some_iff.1 h
      cases he
      exact Nat.lt_succ_of_lt (ih hr)

theorem length_lt_of_readField? {cs rest : List Char} {f : Field}
    (h : readField? cs = some (f, rest)) :
    rest.length < cs.length := by
  unfold readField? at h
  split at h
  · simp at h
  · next hn => cases h; exact length_lt_of_readName? hn
  · next hn =>
    cases h
    have := length_lt_of_readName? hn
    simp only [List.length_cons] at this
    omega
  · next hn =>
    obtain ⟨⟨l, r⟩, hr, he⟩ := Option.map_eq_some_iff.1 h
    cases he
    have := length_lt_of_readName? hn
    have := length_lt_of_readLayoutText? hr
    simp only [List.length_cons] at *
    omega
  · simp at h
  · next hn =>
    obtain ⟨⟨l, r⟩, hr, he⟩ := Option.map_eq_some_iff.1 h
    cases he
    have := length_lt_of_readName? hn
    have := length_lt_of_readLayoutText? hr
    omega

/-- The text of a template, the fields in whose layouts `inner` renders. -/
def renderWith (host : Host) (bindings : Bindings)
    (inner : List Char → Except TemplateError (List Char)) (cs : List Char) :
    Except TemplateError (List Char) :=
  match cs with
  | [] => .ok []
  | '{' :: '{' :: cs => (renderWith host bindings inner cs).map ('{' :: ·)
  | '}' :: '}' :: cs => (renderWith host bindings inner cs).map ('}' :: ·)
  | '}' :: _ => .error .unusable
  | '{' :: cs =>
    match _h : readField? cs with
    | none => .error .unusable
    | some (f, rest) =>
      match f.render host bindings inner with
      | .error e => .error e
      | .ok text => (renderWith host bindings inner rest).map (text ++ ·)
  | c :: cs => (renderWith host bindings inner cs).map (c :: ·)
termination_by cs.length
decreasing_by
  · simp only [List.length_cons]; omega
  · simp only [List.length_cons]; omega
  · have := length_lt_of_readField? _h; simp only [List.length_cons]; omega
  · simp

/-- The text of a template. Layouts may have fields, and those layouts without. -/
def render (host : Host) (bindings : Bindings) (cs : List Char) :
    Except TemplateError (List Char) :=
  renderWith host bindings (renderWith host bindings fun _ => .error .unusable) cs

end Template

end P4Outline

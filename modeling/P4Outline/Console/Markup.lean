import P4Outline.Text.Blank
import P4Outline.Text.Case
import P4Outline.Text.Digit

/-!
# Markup for the console

Markup is text with tags in square brackets. `[red]` begins a style, `[/red]` ends the innermost
style of that name, and `[/]` ends the innermost one. Nothing here has colours, so all that is left
of tags is that they have to match.

A bracket that starts no tag is text. A backslash before a bracket makes it text, and is left out;
before a tag, two backslashes stand for one. `escaped` writes a text so that no tag starts in it.
-/

namespace P4Outline.Markup

open P4Outline.Text

/-! ### Tags -/

/-- Whether a tag may start with a character, behind its bracket. -/
def startsTag (c : Char) : Bool := ('a' ≤ c && c ≤ 'z') || c = '#' || c = '/' || c = '@'

/-- Whether a character is no square bracket. -/
def isInside (c : Char) : Bool := c != '[' && c != ']'

/-- Reads a tag behind its opening bracket: what it holds, and the text behind its closing
bracket. -/
def tag? : List Char → Option (List Char × List Char)
  | [] => none
  | c :: cs =>
    if !startsTag c then none
    else
      match cs.dropWhile isInside with
      | ']' :: rest => some (c :: cs.takeWhile isInside, rest)
      | _ => none

theorem length_lt_of_tag? {cs inside rest : List Char} (h : tag? cs = some (inside, rest)) :
    rest.length < cs.length := by
  unfold tag? at h
  split at h
  · simp at h
  · rename_i c cs
    split at h
    · simp at h
    · split at h
      · rename_i heq
        simp only [Option.some.injEq, Prod.mk.injEq] at h
        have := (List.dropWhile_suffix isInside (l := cs)).length_le
        rw [heq, h.2] at this
        simp only [List.length_cons] at this ⊢
        omega
      · simp at h

/-! ### Writing -/

/-- A text behind so many backslashes, with the backslashes before a tag doubled and one more put
there. -/
def guarded (slashes : Nat) : List Char → List Char
  | [] => []
  | '\\' :: cs => '\\' :: guarded (slashes + 1) cs
  | '[' :: cs =>
    if (tag? cs).isSome then List.replicate (slashes + 1) '\\' ++ '[' :: guarded 0 cs
      else '[' :: guarded 0 cs
  | c :: cs => c :: guarded 0 cs

/-- A text written as markup. One backslash at its end is doubled, since a tag may follow; two are
left as they are. -/
def escaped (cs : List Char) : List Char :=
  let written := guarded 0 cs
  match written.reverse with
  | '\\' :: '\\' :: _ => written
  | '\\' :: _ => written ++ ['\\']
  | _ => written

/-! ### Reading -/

/-- Why markup cannot be read. -/
inductive MarkupError where
  /-- The tag at a place ends a style that is not begun. -/
  | notBegun (inside : List Char) (place : Nat)
  /-- The tag at a place ends a style where none is begun. -/
  | noneBegun (place : Nat)
  deriving DecidableEq, Repr

/-- The wording of an error. -/
def MarkupError.message : MarkupError → String
  | .notBegun inside place =>
    "closing tag '[" ++ String.ofList inside ++ "]' at position " ++ String.ofList (natText place)
      ++ " doesn't match any open tag"
  | .noneBegun place => "closing tag '[/]' at position " ++ String.ofList (natText place) ++
      " has nothing to close"

/-- The name of a style, whatever its case and the white space around it. -/
def styleName (cs : List Char) : List Char := lower (trim cs)

/-- The styles that are begun behind a tag, the innermost one first. -/
def behindTag (begun : List (List Char)) (place : Nat) (inside : List Char) :
    Except MarkupError (List (List Char)) :=
  match inside.takeWhile (· ≠ '=') with
  | '/' :: name =>
    if (trim name).isEmpty then
      match begun with
      | [] => .error (.noneBegun place)
      | _ :: outer => .ok outer
    else if begun.contains (styleName name) then .ok (begun.erase (styleName name))
    else .error (.notBegun inside place)
  | name => .ok (styleName name :: begun)

/-- The text of markup, at a place where some styles are begun and behind so many backslashes. -/
def textFrom (begun : List (List Char)) (place slashes : Nat) (cs : List Char) :
    Except MarkupError (List Char) :=
  match cs with
  | [] => .ok (List.replicate slashes '\\')
  | '\\' :: cs => textFrom begun (place + 1) (slashes + 1) cs
  | '[' :: cs =>
    match _h : tag? cs with
    | none => (textFrom begun (place + 1) 0 cs).map (List.replicate (slashes - 1) '\\' ++ '[' :: ·)
    | some (inside, rest) =>
      let behind := place + inside.length + 2
      if slashes % 2 = 1 then
        (textFrom begun behind 0 rest).map (List.replicate (slashes / 2) '\\' ++
          '[' :: inside ++ ']' :: ·)
      else
        match behindTag begun place inside with
        | .error e => .error e
        | .ok begun => (textFrom begun behind 0 rest).map (List.replicate (slashes / 2) '\\' ++ ·)
  | c :: cs => (textFrom begun (place + 1) 0 cs).map (List.replicate slashes '\\' ++ c :: ·)
termination_by cs.length
decreasing_by
  · simp
  · simp
  · have := length_lt_of_tag? _h; simp only [List.length_cons]; omega
  · have := length_lt_of_tag? _h; simp only [List.length_cons]; omega
  · simp

/-- The text of markup. -/
def plain (markup : List Char) : Except MarkupError (List Char) := textFrom [] 0 0 markup

end P4Outline.Markup

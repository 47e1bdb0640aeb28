import P4Outline.Source.Comment
import P4Outline.Text.Blank
import P4Outline.Text.Split

/-!
# The lines that a scan reads

A source is brought into lines in three steps.

* Comments are removed, if the layout asks for it.
* An opening brace that hangs on a later line is pulled up, so that `table t` and `{` come to share
  a line.
* If the layout asks for it, lines are broken after `{` and `;` and around `}`, so that every
  statement and every closing brace gets a line of its own.
-/

namespace P4Outline.Source

open P4Outline.Text

/-- How a source is brought into lines. -/
structure Layout where
  /-- Lines are broken after `{` and `;` and around `}`. -/
  splitStatements : Bool := true
  /-- Comments are removed first. -/
  stripComments : Bool := true
  deriving DecidableEq, Repr

/-- The text from an opening brace on, if only blanks and at least one line break stand before it,
the blanks of the first line being spaces and tabs. -/
def hangingBrace? (cs : List Char) : Option (List Char) :=
  match cs.dropWhile (fun c => c = ' ' || c = '\t') with
  | '\n' :: below =>
    match skipBlanks below with
    | '{' :: rest => some ('{' :: rest)
    | _ => none
  | _ => none

theorem length_lt_of_hangingBrace? {cs rest : List Char} (h : hangingBrace? cs = some rest) :
    rest.length < cs.length := by
  unfold hangingBrace? at h
  split at h
  · next below hd =>
    have h1 :=
      (List.dropWhile_suffix (l := cs) (fun c => decide (c = ' ') || decide (c = '\t'))).length_le
    have h2 := length_skipBlanks_le below
    split at h
    · next rest' hs =>
      cases h
      rw [hd] at h1
      rw [hs] at h2
      simp only [List.length_cons] at h1 h2 ⊢
      omega
    · simp at h
  · simp at h

/-- Pulls every hanging brace up to the end of the line before it, after one space. -/
def joinBraces (cs : List Char) : List Char :=
  match cs with
  | [] => []
  | c :: cs =>
    match _h : hangingBrace? (c :: cs) with
    | some rest => ' ' :: joinBraces rest
    | none => c :: joinBraces cs
termination_by cs.length
decreasing_by
  · exact length_lt_of_hangingBrace? _h
  · simp

/-- A character with the line breaks that set statements and braces apart. -/
def spread (c : Char) : List Char :=
  if c = '{' then ['{', '\n']
  else if c = '}' then ['\n', '}', '\n']
  else if c = ';' then [';', '\n']
  else [c]

/-- The lines of a source under a layout. -/
def Layout.lines (layout : Layout) (cs : List Char) : List (List Char) :=
  let bare := if layout.stripComments then withoutComments cs else cs
  let joined := joinBraces bare
  pieces '\n' (if layout.splitStatements then joined.flatMap spread else joined)

end P4Outline.Source

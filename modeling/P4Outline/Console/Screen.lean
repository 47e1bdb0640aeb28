import P4Outline.Text.WidthPoints

/-!
# What a terminal shows

A text is shown without the controls that would ring, step back or start over, and with blanks up to
the next tab stop in place of a tab. Where the tab stops are depends on how wide the characters
before are: most take one column, some none and some two.
-/

namespace P4Outline.Screen

open P4Outline.Text

/-- How many columns a character takes. -/
def columns (c : Char) : Nat :=
  if narrowPoints.holds c.toNat then 0 else if widePoints.holds c.toNat then 2 else 1

/-- The controls that are left out: bell, backspace, vertical tab, form feed and carriage return. -/
def isDropped (c : Char) : Bool := [7, 8, 11, 12, 13].contains c.toNat

/-- How many columns there are from one tab stop to the next. -/
def tabStop : Nat := 8

/-- A text behind so many columns of its line, with blanks in place of tabs. -/
def spreadTabs (column : Nat) : List Char → List Char
  | [] => []
  | '\t' :: cs => List.replicate (tabStop - column % tabStop) ' ' ++ spreadTabs 0 cs
  | '\n' :: cs => '\n' :: spreadTabs 0 cs
  | c :: cs => c :: spreadTabs (column + columns c) cs

/-- A text as a terminal shows it. -/
def shown (cs : List Char) : List Char := spreadTabs 0 (cs.filter fun c => !isDropped c)

/-- A text as it is printed: shown, and ended by a line break. -/
def printed (cs : List Char) : List Char := shown cs ++ ['\n']

end P4Outline.Screen

import P4Outline.Text.WordPoints

/-!
# Words

A word is a run of letters, numbers and low lines. `isWord` says what one is made of, `word` reads
the one at the front of a text.
-/

namespace P4Outline.Text

/-- A character of a word: a letter, a number or the low line. -/
def isWord (c : Char) : Bool := wordPoints.holds c.toNat

/-- The word at the front of a text, empty if none stands there. -/
def word (cs : List Char) : List Char := cs.takeWhile isWord

/-- What is left of a text after the word at its front. -/
def afterWord (cs : List Char) : List Char := cs.dropWhile isWord

theorem word_append_afterWord (cs : List Char) : word cs ++ afterWord cs = cs :=
  List.takeWhile_append_dropWhile

end P4Outline.Text

import P4Outline.File.Path
import P4Outline.Text.Case

/-!
# The language of a file

What a file is written in is told by the suffix of its name.
-/

namespace P4Outline

open P4Outline.Text

/-- The suffixes of P4 programs. -/
def programSuffixes : List String := [".p4", ".p4_16", ".p4inc"]

/-- The language of a file: `p4` for programs, else the bare suffix, and `plaintext` for a file
without one. -/
def languageOf (p : Path) : String :=
  let suffix := String.ofList (lower p.suffix.toList)
  if programSuffixes.contains suffix then "p4"
  else if suffix.isEmpty then "plaintext"
  else String.ofList (suffix.toList.drop 1)

end P4Outline

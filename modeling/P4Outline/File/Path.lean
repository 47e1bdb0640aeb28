import P4Outline.Text.Split

/-!
# Paths

A path is an optional root and the names on the way from there. Empty names and single dots are no
steps and are left out; two dots are kept, since what they mean depends on where the path leads.
-/

namespace P4Outline

open P4Outline.Text

/-- A path: its root, which is empty for a relative path, and the names behind it. -/
structure Path where
  root : String := ""
  names : List String := []
  deriving DecidableEq, Repr, Inhabited

namespace Path

/-- The names between the slashes of a text. -/
def segments (text : String) : List String := (pieces '/' text.toList).map String.ofList

/-- The names of a text that are steps. -/
def steps (text : String) : List String := (segments text).filter fun s => s ≠ "" && s ≠ "."

/-- The path that a text writes. Exactly two slashes at its front are a root of their own. -/
def ofText (text : String) : Path :=
  let slashes := (text.toList.takeWhile (· = '/')).length
  ⟨if slashes = 0 then "" else if slashes = 2 then "//" else "/", steps text⟩

/-- Whether a path has a root. -/
def isAbsolute (p : Path) : Bool := p.root ≠ ""

/-- The text of a path. -/
def text (p : Path) : String :=
  if p.root = "" ∧ p.names = [] then "." else p.root ++ "/".intercalate p.names

/-- A path, read from another one if it is relative. -/
def under (base p : Path) : Path :=
  if p.isAbsolute then p else { base with names := base.names ++ p.names }

/-- The last name of a path. -/
def name (p : Path) : String := p.names.getLast?.getD ""

/-- The suffix of a file name: its last dot and what follows. A dot at its front or end starts
none. -/
def suffixOf (name : String) : String :=
  let behind := name.toList.reverse.takeWhile (· ≠ '.')
  let before := (name.toList.reverse.dropWhile (· ≠ '.')).drop 1
  if before.isEmpty || behind.isEmpty then "" else String.ofList ('.' :: behind.reverse)

/-- The suffix of a path's last name. -/
def suffix (p : Path) : String := suffixOf p.name

/-- Follows names from a location, two dots leading one step back. -/
def follow (location : List String) (names : List String) : List String :=
  names.foldl (fun at_ n => if n = ".." then at_.dropLast else at_ ++ [n]) location

/-- The absolute path without two dots that a path means in a working directory. -/
def resolve (workDir : List String) (p : Path) : Path :=
  ⟨"/", follow (if p.isAbsolute then [] else workDir) p.names⟩

/-- The home directory that a variable names. Slashes at its end do not count. -/
def homeText (home : String) : String :=
  let bare := String.ofList (home.toList.reverse.dropWhile (· = '/')).reverse
  if bare.isEmpty then "/" else bare

/-- A path with a tilde at its front read as the home directory. Only one's own home is known. -/
def expandHome? (home : String) (p : Path) : Option Path :=
  match p.names with
  | first :: rest =>
    if p.isAbsolute || first.toList.head? ≠ some '~' then some p
    else if first = "~" && (homeText home).toList.head? ≠ some '~' then
      some { ofText (homeText home) with names := (ofText (homeText home)).names ++ rest }
    else none
  | [] => some p

end Path

end P4Outline

import P4Outline.File.Path
import P4Outline.Text.Lines
import P4Outline.Text.Utf8

/-!
# The surroundings of a run

A site is all that a run sees of the machine: the files, the working directory, the environment and
the directory that the program is installed in. Directories are there as far as files and the
working directory need them.
-/

namespace P4Outline

open P4Outline.Text

/-- What a run sees of the machine. -/
structure Site where
  /-- The files, by their locations: the names on the way from the root. -/
  files : List (List String × List UInt8) := []
  /-- The location of the working directory. -/
  workDir : List String := []
  /-- The environment. -/
  environment : List (String × String) := []
  /-- The directory that the program is installed in. -/
  projectRoot : Path := {}
  deriving Inhabited

namespace Site

/-- The value of a variable of the environment. -/
def valueOf? (s : Site) (name : String) : Option String := s.environment.lookup name

/-- The site with a variable set. -/
def setVariable (s : Site) (name value : String) : Site :=
  { s with environment := (name, value) :: s.environment.filter (·.1 ≠ name) }

/-- The home directory. -/
def home (s : Site) : String := (s.valueOf? "HOME").getD "/"

/-- Whether a location is a directory. -/
def isDirectory (s : Site) (location : List String) : Bool :=
  location.isPrefixOf s.workDir ||
    s.files.any fun (file, _) => location.isPrefixOf file && location.length < file.length

/-- The location that a name leads to from another one, which must be a directory. -/
def descend? (s : Site) (location : List String) (name : String) : Option (List String) :=
  if name = "" && location.isEmpty then some location
  else if !s.isDirectory location then none
  else if name = "" || name = "." then some location
  else if name = ".." then some location.dropLast
  else some (location ++ [name])

/-- The location that a text leads to from the working directory. -/
def locate? (s : Site) (path : String) : Option (List String) :=
  if path.isEmpty then none
  else
    let start := if path.toList.head? = some '/' then [] else s.workDir
    (Path.segments path).foldlM s.descend? start

/-- The content of the file that a text leads to. -/
def read? (s : Site) (path : String) : Option (List UInt8) :=
  (s.locate? path).bind fun at_ => s.files.lookup at_

/-- The files without the one at a location. -/
def without (s : Site) (location : List String) : List (List String × List UInt8) :=
  s.files.filter fun (file, _) => file ≠ location

/-- The site with a file written, and the directories that it needs. There is none if a directory is
in the place of the file, or a file in the place of a directory. -/
def write? (s : Site) (location : List String) (content : List UInt8) : Option Site :=
  if s.isDirectory location ||
    (s.without location).any fun (file, _) => file.isPrefixOf location then none
  else some { s with files := s.without location ++ [(location, content)] }

end Site

/-- The text of a file, with plain line breaks, if it is well-formed. -/
def fileText? (content : List UInt8) : Option (List Char) := (decode? content).map plainBreaks

/-- The text of a file, with plain line breaks and with replacements for what is ill-formed. -/
def fileTextLossy (content : List UInt8) : List Char := plainBreaks (decodeLossy content)

end P4Outline

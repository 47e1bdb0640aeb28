import P4Outline.Declaration.Head

/-!
# Listing the declarations of a source

`occurrences` finds every head of a kind in a source, from left to right, each search going on
behind the opening of the head before. Nesting does not matter, and a name that is declared twice is
listed twice.
-/

namespace P4Outline

open P4Outline.Text

/-- A head that was found: where its keyword starts, its name, and where the text behind its opening
starts. -/
structure Occurrence where
  start : Nat
  name : String
  stop : Nat
  deriving DecidableEq, Repr

/-- The heads of a kind in the part of a source that starts at `offset`; one may stand at the very
front if `free`. -/
def Kind.occurrencesFrom (k : Kind) (offset : Nat) (free : Bool) (cs : List Char) :
    List Occurrence :=
  match cs with
  | [] => []
  | c :: cs =>
    match _h : if free then k.head? (c :: cs) else none with
    | some (name, rest) =>
      let stop := offset + ((c :: cs).length - rest.length)
      ⟨offset, String.ofList name, stop⟩ :: k.occurrencesFrom stop true rest
    | none => k.occurrencesFrom (offset + 1) (endsWord c) cs
termination_by cs.length
decreasing_by
  · split at _h
    · exact Kind.length_lt_of_head? _h
    · simp at _h
  · simp

/-- The heads of a kind in a source, in order. -/
def Kind.occurrences (k : Kind) (source : String) : List Occurrence :=
  k.occurrencesFrom 0 true source.toList

/-- The names that a source declares with a kind's keyword, in order. -/
def Kind.namesIn (k : Kind) (source : String) : List String := (k.occurrences source).map (·.name)

/-- The names that a source declares, kind by kind. -/
structure Listing where
  parsers : List String := []
  controls : List String := []
  structs : List String := []
  headers : List String := []
  actions : List String := []
  tables : List String := []
  deriving DecidableEq, Repr

/-- The listing of a source. -/
def Listing.ofSource (source : String) : Listing where
  parsers := Kind.parser.namesIn source
  controls := Kind.control.namesIn source
  structs := Kind.struct.namesIn source
  headers := Kind.header.namesIn source
  actions := Kind.action.namesIn source
  tables := Kind.table.namesIn source

/-- Whether a listing has no name of any kind. -/
def Listing.isEmpty (l : Listing) : Bool :=
  l.parsers.isEmpty && l.controls.isEmpty && l.structs.isEmpty && l.headers.isEmpty &&
    l.actions.isEmpty && l.tables.isEmpty

end P4Outline

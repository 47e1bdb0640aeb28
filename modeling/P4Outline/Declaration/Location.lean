import P4Outline.Declaration.Head
import P4Outline.Source.Brace

/-!
# Finding a declaration by its name

`offset?` finds where the first declaration of a name starts, `locate?` adds its line, and
`actionBody?` cuts out what an action does. The three look at the same occurrence.
-/

namespace P4Outline

open P4Outline.Text P4Outline.Source

/-- The first head of a kind and a name in a source: where it starts, and the text behind its
opening. An empty name is never declared. -/
def Kind.find? (k : Kind) (name source : String) : Option (Nat × List Char) :=
  if name.isEmpty then none else first? (k.headNamed? name.toList) endsWord true source.toList

/-- Where the first declaration of a kind and a name starts. -/
def Kind.offset? (k : Kind) (name source : String) : Option Nat := (k.find? name source).map (·.1)

/-- Where a declaration stands: its offset in the source, and its line, counted from one. -/
structure Location where
  offset : Nat
  line : Nat
  deriving DecidableEq, Repr

/-- The number of the line that an offset lies in. -/
def lineOf (source : List Char) (offset : Nat) : Nat := (source.take offset).count '\n' + 1

/-- Where the first declaration of a kind and a name stands. -/
def Kind.locate? (k : Kind) (name source : String) : Option Location :=
  (k.offset? name source).map fun offset => ⟨offset, lineOf source.toList offset⟩

/-- The body of the first action of a name: what follows the first opening brace behind its
parameters, up to and including the brace that closes it. -/
def actionBody? (name source : String) : Option String := do
  let (_, parameters) ← Kind.action.find? name source
  let results ← afterFirst? ')' parameters
  let inside ← afterFirst? '{' results
  (block? inside).map String.ofList

end P4Outline

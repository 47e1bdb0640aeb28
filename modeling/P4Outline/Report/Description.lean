import P4Outline.Declaration.Listing
import P4Outline.Number.Limit
import P4Outline.Outline.Basic

/-!
# The description of a program

A plain text that names every control with its tables and actions, one to a line, and then the
parsers, structs and headers of a listing, each kind on a line of its own. What is empty is left
out. There is no description if a size has too many digits to be written.
-/

namespace P4Outline

open P4Outline.Text

/-- Whether the size of a table can be written. -/
def Table.isWritable (t : Table) : Bool := t.size.all P4Outline.isWritable

/-- Whether all sizes of an outline can be written. -/
def Outline.isWritable (o : Outline) : Bool :=
  o.controls.values.all fun c => c.tables.values.all Table.isWritable

/-- The texts in order, with a comma and a space between neighbours. -/
def commaList (texts : List String) : String := ", ".intercalate texts

/-- What a description calls the parsers, structs and headers of a listing, in that order. -/
def Listing.sections (l : Listing) : List (String × List String) :=
  [("Parsers", l.parsers), ("Structs", l.structs), ("Headers", l.headers)]

namespace Description

/-- The lines about a table. -/
def tableLines (name : String) (t : Table) : List String :=
  ["    ▪ " ++ name]
  ++ (if t.keys.isEmpty then [] else ["      key: " ++ commaList t.keys])
  ++ (if t.actions.isEmpty then [] else ["      actions: " ++ commaList t.actions])
  ++ (match t.size with | none => [] | some n => ["      size: " ++ numeral n])
  ++ (match t.defaultAction with
      | none => []
      | some action => if action.isEmpty then [] else ["      default_action: " ++ action])

/-- The lines about a control. -/
def controlLines (name : String) (c : Control) : List String :=
  ["• Control: " ++ name]
  ++ (if c.tables.isEmpty then []
      else "  ◦ Tables:" :: c.tables.entries.flatMap fun (name, t) => tableLines name t)
  ++ (if c.actions.isEmpty then [] else "  ◦ Actions:" :: c.actions.map ("    ▪ " ++ ·))

/-- The lines about a listing. -/
def listingLines (l : Listing) : List String :=
  (l.sections.filter fun (_, names) => !names.isEmpty).map fun (label, names) => "• " ++ label ++
    ": " ++ commaList names

/-- The lines of a description. -/
def lines (o : Outline) (listing : Option Listing) : List String :=
  ["The system consists of the following components:"]
  ++ (o.controls.entries.flatMap fun (name, c) => controlLines name c)
  ++ (match listing with | none => [] | some l => listingLines l)

end Description

/-- The lines of a description, every one of them ended by a line break. -/
def Description.text (o : Outline) (listing : Option Listing) : String :=
  "\n".intercalate (Description.lines o listing) ++ "\n"

/-- The description of a program, if its sizes can be written. -/
def description (o : Outline) (listing : Option Listing) : Except NumeralError String :=
  if o.isWritable then .ok (Description.text o listing) else .error .tooLong

end P4Outline

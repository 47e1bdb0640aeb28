import P4Outline.Outline.Keyed

/-!
# The outline of a program

An outline has the controls of a program, each with its tables and the names of its actions. Of a
table it has the key fields, the names of the candidate actions, the size and the default action.
-/

namespace P4Outline

/-- What a table says of itself. -/
structure Table where
  keys : List String := []
  actions : List String := []
  size : Option Int := none
  defaultAction : Option String := none
  deriving DecidableEq, Repr, Inhabited

/-- What a control declares. -/
@[ext]
structure Control where
  tables : Keyed Table := .empty
  actions : List String := []
  deriving DecidableEq, Repr, Inhabited

/-- The controls of a program by their names. -/
structure Outline where
  controls : Keyed Control := .empty
  deriving DecidableEq, Repr, Inhabited

namespace Control

/-- Changes a table, if it is there. -/
def modifyTable (c : Control) (table : String) (f : Table → Table) : Control :=
  { c with tables := c.tables.modify table f }

/-- Starts a table afresh. -/
def openTable (c : Control) (table : String) : Control :=
  { c with tables := c.tables.insert table {} }

/-- Adds an action. -/
def addAction (c : Control) (action : String) : Control :=
  { c with actions := c.actions ++ [action] }

end Control

namespace Outline

/-- How many controls there are. -/
def size (o : Outline) : Nat := o.controls.size

/-- Whether there are no controls. -/
def isEmpty (o : Outline) : Bool := o.controls.isEmpty

/-- How many tables there are in all controls. -/
def tableCount (o : Outline) : Nat := o.controls.values.foldl (fun n c => n + c.tables.size) 0

/-- Changes a control, if it is there. -/
def modifyControl (o : Outline) (control : String) (f : Control → Control) : Outline :=
  ⟨o.controls.modify control f⟩

/-- Changes a table of a control, if both are there. -/
def modifyTable (o : Outline) (control table : String) (f : Table → Table) : Outline :=
  o.modifyControl control (·.modifyTable table f)

/-- Starts a control afresh. -/
def openControl (o : Outline) (control : String) : Outline := ⟨o.controls.insert control {}⟩

end Outline

end P4Outline

import Mathlib.Algebra.Ring.Nat
import P4Outline.Outline.Scan
import P4Outline.Proofs.Line

/-!
# Programs and how they are printed

A program apart from any text: its controls with their tables and actions. Two functions say what
becomes of it.

    ProgramDecl ──print──▶ text
                ──outline──▶ what the text declares

What a program is made of carries the conditions under which its printed form can be read back:
names are words, no name is given twice where it has to be told apart, and free text does not spell
out declarations of its own.
-/

namespace P4Outline

open P4Outline.Text P4Outline.Source

/-! ### Programs -/

/-- A name: a word. -/
structure Identifier where
  chars : List Char
  ne_nil : chars ≠ []
  all_isWord : ∀ c ∈ chars, isWord c = true

/-- A key expression. -/
structure KeyExpression where
  chars : List Char
  ne_nil : chars ≠ []
  bareStart : BareStart chars
  bareEnd : BareEnd chars
  inline : Inline chars

/-- An entry of a key list: an expression and how it is matched. -/
structure KeyEntry where
  expression : KeyExpression
  kind : Identifier

/-- The parameters of a control or an action. -/
structure Parameters where
  chars : List Char
  inline : Inline chars
  not_holdsWord : ¬ HoldsWord Kind.control.keyword chars

/-- The body of an action or an apply block, of any number of lines. -/
structure Body where
  chars : List Char
  slash_notMem : '/' ∉ chars
  not_holdsWord : ∀ k ∈ [Kind.control, Kind.table, Kind.action], ¬ HoldsWord k.keyword chars

/-- A size, of no more digits than are read. -/
structure Size where
  n : Nat
  lt : n < 10 ^ 4300

/-- What a property of a table is about. -/
inductive Property.Subject where
  | keys
  | actions
  | size
  | defaultAction
  deriving DecidableEq

/-- A property of a table. -/
inductive Property where
  | keys (entries : List KeyEntry)
  | actions (names : List Identifier)
  | size (s : Size)
  | defaultAction (name : Identifier)

/-- What a property is about. -/
def Property.subject : Property → Subject
  | .keys _ => .keys
  | .actions _ => .actions
  | .size _ => .size
  | .defaultAction _ => .defaultAction

/-- The name as a text. -/
def Identifier.text (n : Identifier) : String := String.ofList n.chars

/-- A table: each property at most once, in any order. -/
structure TableDecl where
  name : Identifier
  properties : List Property
  nodup : (properties.map Property.subject).Nodup

/-- An action. -/
structure ActionDecl where
  name : Identifier
  parameters : Parameters
  body : Body

/-- What a control declares. -/
inductive Item where
  | action (a : ActionDecl)
  | table (t : TableDecl)

/-- The name of a table among the items. -/
def Item.tableName? : Item → Option String
  | .action _ => none
  | .table t => some t.name.text

/-- A control: actions and tables in any order, and an apply block. -/
structure ControlDecl where
  name : Identifier
  parameters : Parameters
  items : List Item
  nodup : (items.filterMap Item.tableName?).Nodup
  apply : Body

/-- A program. -/
structure ProgramDecl where
  controls : List ControlDecl
  nodup : (controls.map (·.name.text)).Nodup

/-! ### Printing -/

/-- A statement of a printed program: its text, and how deep it is indented. -/
structure Row where
  depth : Nat
  text : List Char

/-- The text of a statement, on lines of its own. -/
def Row.print (tab : Nat) (r : Row) : List Char :=
  List.replicate (tab * r.depth) ' ' ++ (r.text ++ ['\n'])

/-- The closing brace of a block. -/
def Row.close (depth : Nat) : Row := ⟨depth, ['}']⟩

/-- A key entry as it is printed. -/
def KeyEntry.print (e : KeyEntry) : List Char :=
  e.expression.chars ++ ':' :: ' ' :: (e.kind.chars ++ [';'])

/-- An action entry as it is printed. -/
def Identifier.entry (n : Identifier) : List Char := n.chars ++ [';']

/-- A property of a table, statement by statement. -/
def Property.rows : Property → List Row
  | .keys entries =>
    ⟨2, "key = ".toList ++ ['{']⟩ :: (entries.map fun e => ⟨3, e.print⟩) ++ [.close 2]
  | .actions names =>
    ⟨2, "actions = ".toList ++ ['{']⟩ :: (names.map fun n => ⟨3, n.entry⟩) ++ [.close 2]
  | .size s => [⟨2, "size = ".toList ++ (natText s.n ++ [';'])⟩]
  | .defaultAction name => [⟨2, "default_action = ".toList ++ (name.chars ++ [';'])⟩]

/-- The head of a declaration that has parameters, up to its opening brace. -/
def headText (k : Kind) (name : Identifier) (parameters : Parameters) : List Char :=
  k.keyword ++ ' ' :: (name.chars ++ '(' :: (parameters.chars ++ [')', ' ']))

/-- A table, statement by statement. -/
def TableDecl.rows (t : TableDecl) : List Row :=
  ⟨1, Kind.table.keyword ++ ' ' :: (t.name.chars ++ [' ', '{'])⟩ ::
    t.properties.flatMap Property.rows ++ [.close 1]

/-- A body in its braces. -/
def Body.block (b : Body) : List Char := ' ' :: (b.chars ++ [' ', '}'])

/-- An item of a control, statement by statement. -/
def Item.rows : Item → List Row
  | .action a => [⟨1, headText .action a.name a.parameters ++ '{' :: a.body.block⟩]
  | .table t => t.rows

/-- A control, statement by statement. -/
def ControlDecl.rows (c : ControlDecl) : List Row :=
  ⟨0, headText .control c.name c.parameters ++ ['{']⟩ :: c.items.flatMap Item.rows ++
    [⟨1, "apply ".toList ++ '{' :: c.apply.block⟩, .close 0]

/-- A program, statement by statement. -/
def ProgramDecl.rows (p : ProgramDecl) : List Row := p.controls.flatMap ControlDecl.rows

/-- The text of a program, every level of which is indented by `tab` spaces. -/
def ProgramDecl.print (tab : Nat) (p : ProgramDecl) : List Char := p.rows.flatMap (Row.print tab)

/-! ### Outlines -/

/-- What is kept of a key entry. -/
def KeyEntry.kept (keyText : KeyText) (e : KeyEntry) : String :=
  match keyText with
  | .verbatim => String.ofList e.print
  | .field => String.ofList (e.expression.chars ++ ':' :: ' ' :: e.kind.chars)

/-- The key fields of a property. -/
def Property.keyTexts (keyText : KeyText) : Property → List String
  | .keys entries => entries.map (·.kept keyText)
  | _ => []

/-- The action names of a property. -/
def Property.actionNames : Property → List String
  | .actions names => names.map (·.text)
  | _ => []

/-- The size of a property. -/
def Property.size? : Property → Option Int
  | .size s => some s.n
  | _ => none

/-- The default action of a property. -/
def Property.defaultAction? : Property → Option String
  | .defaultAction name => some name.text
  | _ => none

/-- What a table says of itself. -/
def TableDecl.record (keyText : KeyText) (t : TableDecl) : Table where
  keys := t.properties.flatMap (·.keyTexts keyText)
  actions := t.properties.flatMap (·.actionNames)
  size := t.properties.findSome? (·.size?)
  defaultAction := t.properties.findSome? (·.defaultAction?)

/-- The table that an item declares, with its name. -/
def Item.table? (keyText : KeyText) : Item → Option (String × Table)
  | .action _ => none
  | .table t => some (t.name.text, t.record keyText)

/-- The action that an item declares. -/
def Item.action? : Item → Option String
  | .action a => some a.name.text
  | .table _ => none

theorem Item.keysOf_table? (keyText : KeyText) (items : List Item) :
    keysOf (items.filterMap (·.table? keyText)) = items.filterMap Item.tableName? := by
  rw [keysOf, List.map_filterMap]
  congr 1
  funext item
  cases item <;> rfl

/-- What a control declares. -/
def ControlDecl.record (keyText : KeyText) (c : ControlDecl) : Control where
  tables := ⟨c.items.filterMap (·.table? keyText), by rw [Item.keysOf_table?]; exact c.nodup⟩
  actions := c.items.filterMap Item.action?

/-- The outline of a program. -/
def ProgramDecl.outline (keyText : KeyText) (p : ProgramDecl) : Outline where
  controls := ⟨p.controls.map fun c => (c.name.text, c.record keyText), by
    rw [keysOf, List.map_map]
    exact p.nodup⟩

end P4Outline

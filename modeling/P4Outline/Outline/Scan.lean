import P4Outline.Config.Value
import P4Outline.Number.Limit
import P4Outline.Outline.Basic
import P4Outline.Outline.Entry
import P4Outline.Outline.Statement
import P4Outline.Source.Line

/-!
# Scanning a program

An outline is read from the lines of a source, one after the other, in one pass.

    source ──lines──▶ lines ──step, step, …──▶ outline

The scan remembers its place: outside every control, in a control, or in a table of a control. A
control's head moves it to a fresh control, whatever was open before. A table's head moves it to a
fresh table of the control; there the braces of every line are counted, and the line that closes the
last of them is the last one that belongs to the table. While a key block or an action block is
open, every line is an entry of it, up to a line with nothing but a closing brace. Heads of tables
and of actions outside every control are passed over.

What a line adds goes to the record of the place that the scan stands in, which is looked up by its
names. A size may have too many digits to be read.
-/

namespace P4Outline

open P4Outline.Text P4Outline.Source

/-- A block of a table that is read line by line. -/
inductive Block where
  | keys
  | actions
  deriving DecidableEq, Repr

/-- Where a scan stands between two lines. -/
inductive Place where
  /-- Before the first control. -/
  | outside
  /-- In a control, and in none of its tables. -/
  | control (name : String)
  /-- In a table of a control, with `depth` of its braces open, and in one of its blocks if one is
  open. -/
  | table (control name : String) (depth : Int) (block : Option Block)
  deriving DecidableEq, Repr

/-- The place with the braces of a line counted. -/
def Place.count (line : List Char) : Place → Place
  | .table owner name depth block => .table owner name (depth + balance line) block
  | place => place

/-- The place after a line: a table whose braces are all closed is left. -/
def Place.settle : Place → Place
  | .table owner name depth block =>
    if depth ≤ 0 then .control owner else .table owner name depth block
  | place => place

/-- Whether the place is in a table. -/
def Place.inTable : Place → Bool
  | .table .. => true
  | _ => false

/-- The control that a place is in. -/
def Place.control? : Place → Option String
  | .outside => none
  | .control name => some name
  | .table owner .. => some owner

/-- What has been read of a program, and where the scan stands. -/
structure Scan where
  outline : Outline := {}
  place : Place := .outside
  deriving DecidableEq, Repr

/-- Why a scan gives up. -/
inductive ScanError where
  /-- A size has more digits than can be read as a number. -/
  | sizeTooLong (digits : Nat)
  /-- There is no record of a control or a table that the scan stands in. -/
  | noRecord (name : String)
  deriving DecidableEq, Repr

/-- The wording of an error. -/
def ScanError.message : ScanError → String
  | .sizeTooLong digits => tooManyDigitsMessage digits
  | .noRecord name => String.ofList (quoted name.toList)

/-- Adds the texts to one of the blocks of a table. -/
def Table.addEntries (block : Block) (texts : List String) (t : Table) : Table :=
  match block with
  | .keys => { t with keys := t.keys ++ texts }
  | .actions => { t with actions := t.actions ++ texts }

/-- What is kept of an entry of a block. -/
def Block.reduce (keyText : KeyText) : Block → List Char → List Char
  | .keys => keyText.reduce
  | .actions => actionName

/-- The texts that an entry adds to a block: none for an action entry without a name. -/
def Block.entry (keyText : KeyText) (block : Block) (entry : List Char) : List String :=
  let kept := block.reduce keyText entry
  match block with
  | .keys => [String.ofList kept]
  | .actions => if kept.isEmpty then [] else [String.ofList kept]

/-- Changes the record of a control. -/
def Scan.changeControl (s : Scan) (control : String) (f : Control → Control) :
    Except ScanError Scan :=
  if s.outline.controls.contains control
    then .ok { s with outline := s.outline.modifyControl control f }
  else .error (.noRecord control)

/-- Changes the record of a table of a control. -/
def Scan.changeTable (s : Scan) (control table : String) (f : Table → Table) :
    Except ScanError Scan :=
  match s.outline.controls.get? control with
  | none => .error (.noRecord control)
  | some c =>
    if c.tables.contains table then .ok { s with outline := s.outline.modifyTable control table f }
    else .error (.noRecord table)

/-- Reads a line inside an open block: the end of the block, a blank line, or an entry. -/
def Scan.readEntry (keyText : KeyText) (s : Scan) (control table : String)
    (depth : Int) (block : Block) (line : List Char) : Except ScanError Scan :=
  if trim line = ['}'] then .ok { s with place := .table control table depth none }
  else if (trim line).isEmpty then .ok s
  else s.changeTable control table (·.addEntries block (block.entry keyText (trim line)))

/-- Opens a block of a table, with the text behind its brace: a block that the text closes is read
at once. -/
def Scan.openBlock (keyText : KeyText) (s : Scan) (control table : String)
    (depth : Int) (block : Block) (rest : List Char) : Except ScanError Scan :=
  match inlineEntries? (block.reduce keyText) rest with
  | some texts => s.changeTable control table (·.addEntries block (texts.map String.ofList))
  | none => .ok { s with place := .table control table depth (some block) }

/-- Does what a statement says. -/
def Scan.obey (keyText : KeyText) (s : Scan) (statement : Statement) : Except ScanError Scan :=
  match statement, s.place with
  | .control name, _ => .ok ⟨s.outline.openControl name, .control name⟩
  | .table name depth, place =>
    match place.control? with
    | some control =>
      (s.changeControl control (·.openTable name)).map fun s =>
        { s with place := .table control name depth none }
    | none => .ok s
  | .keys rest, .table control table depth _ => s.openBlock keyText control table depth .keys rest
  | .actions rest, .table control table depth _ =>
    s.openBlock keyText control table depth .actions rest
  | .size digits, .table control table _ _ =>
    if digits.length ≤ maxDigits then
      s.changeTable control table ({ · with size := some (digitsValue digits) })
    else .error (.sizeTooLong digits.length)
  | .defaultAction name, .table control table _ _ =>
    s.changeTable control table ({ · with defaultAction := some name })
  | .action name, place =>
    match place.control? with
    | some control => s.changeControl control (·.addAction name)
    | none => .ok s
  | _, _ => .ok s

/-- Reads a line whose braces have been counted. -/
def Scan.readLine (keyText : KeyText) (s : Scan) (line : List Char) : Except ScanError Scan :=
  match s.place with
  | .table control table depth (some block) => s.readEntry keyText control table depth block line
  | place => s.obey keyText (Statement.ofLine place.inTable line)

/-- One line of a scan: its braces are counted, it is read, and a table that it closes is left. -/
def Scan.step (keyText : KeyText) (s : Scan) (line : List Char) : Except ScanError Scan :=
  (Scan.readLine keyText { s with place := s.place.count line } line).map fun s =>
    { s with place := s.place.settle }

/-- The lines of a scan from where it stands. -/
def Scan.run (keyText : KeyText) (s : Scan) (lines : List (List Char)) : Except ScanError Scan :=
  lines.foldlM (Scan.step keyText) s

/-- How a program is read. -/
structure Reading where
  layout : Layout := {}
  keyText : KeyText := .verbatim
  deriving DecidableEq, Repr

/-- The outline of a source. A blank source has none. -/
def Outline.ofSource (reading : Reading) (source : String) : Except ScanError Outline :=
  if isBlankText source.toList then .ok {}
  else (Scan.run reading.keyText {} (reading.layout.lines source.toList)).map (·.outline)

/-- The outline of whatever is given as a source: anything but a text has none. -/
def Outline.ofGiven (reading : Reading) : Value → Except ScanError Outline
  | .text source => ofSource reading source
  | _ => .ok {}

end P4Outline

import P4Outline.Report.Description

/-!
# The record of a program

A record says about a program what the description says, for other programs to read: it is JSON, its
lines indented by two blanks for each level, and holds all characters but controls as they are.
There is none if a size has too many digits to be written.
-/

namespace P4Outline

open P4Outline.Text

/-- A record, or a part of one. -/
inductive Record where
  | nothing
  | number (n : Int)
  | text (s : String)
  | list (items : List Record)
  | fields (entries : List (String × Record))
  deriving Inhabited

namespace Record

/-- What stands for a character between quotes. -/
def encodeChar (c : Char) : List Char :=
  if c = '"' then ['\\', '"']
  else if c = '\\' then ['\\', '\\']
  else if c = '\n' then ['\\', 'n']
  else if c = '\t' then ['\\', 't']
  else if c = '\r' then ['\\', 'r']
  else if c = '\x08' then ['\\', 'b']
  else if c = '\x0c' then ['\\', 'f']
  else if c.toNat < 32 then
    ['\\', 'u', '0', '0', Nat.digitChar (c.toNat / 16), Nat.digitChar (c.toNat % 16)]
  else [c]

/-- A text between quotes. -/
def encodeText (s : String) : List Char := '"' :: s.toList.flatMap encodeChar ++ ['"']

/-- The start of a line at a level. -/
def newLine (level : Nat) : List Char := '\n' :: List.replicate (2 * level) ' '

mutual

/-- The JSON text of a record that starts at a level. -/
def render (level : Nat) : Record → List Char
  | .nothing => "null".toList
  | .number n => intText n
  | .text s => encodeText s
  | .list [] => ['[', ']']
  | .list (item :: items) =>
    '[' :: newLine (level + 1) ++ render (level + 1) item ++ renderItems (level + 1) items ++
      newLine level ++ [']']
  | .fields [] => ['\x7b', '\x7d']
  | .fields ((name, value) :: entries) =>
    '\x7b' :: newLine (level + 1) ++ encodeText name ++ [':', ' '] ++ render (level + 1) value
      ++ renderEntries (level + 1) entries ++ newLine level ++ ['\x7d']

/-- The JSON text of the items behind the first one of a list. -/
def renderItems (level : Nat) : List Record → List Char
  | [] => []
  | item :: items => ',' :: newLine level ++ render level item ++ renderItems level items

/-- The JSON text of the entries behind the first one. -/
def renderEntries (level : Nat) : List (String × Record) → List Char
  | [] => []
  | (name, value) :: entries =>
    ',' :: newLine level ++ encodeText name ++ [':', ' '] ++ render level value ++
      renderEntries level entries

end

/-- A list of texts. -/
def texts (xs : List String) : Record := .list (xs.map .text)

end Record

/-- The record of a table. -/
def Table.record (t : Table) : Record := .fields
  [("key_fields", .texts t.keys), ("action_names", .texts t.actions),
   ("size", (t.size.map Record.number).getD .nothing),
   ("default_action", (t.defaultAction.map Record.text).getD .nothing)]

/-- The record of a control. -/
def Control.record (c : Control) : Record := .fields
  [("tables", .fields (c.tables.entries.map fun (name, t) => (name, t.record))),
    ("actions", .texts c.actions)]

/-- The record of the controls of a program. -/
def Outline.record (o : Outline) : Record :=
  .fields (o.controls.entries.map fun (name, c) => (name, c.record))

/-- The record of a listing. -/
def Listing.record (l : Listing) : Record := .fields
  [("parsers", .texts l.parsers), ("controls", .texts l.controls), ("structs", .texts l.structs),
   ("headers", .texts l.headers), ("actions", .texts l.actions), ("tables", .texts l.tables)]

/-- The record of the program in a source of some name, if its sizes can be written. -/
def programRecord (sourceName : String) (o : Outline) (l : Listing) : Except NumeralError Record :=
  if o.isWritable then
    .ok (.fields [("source", .text sourceName), ("controls", o.record), ("top_level", l.record)])
  else .error .tooLong

end P4Outline

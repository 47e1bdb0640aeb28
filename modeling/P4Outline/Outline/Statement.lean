import P4Outline.Declaration.Head
import P4Outline.Source.Brace
import P4Outline.Text.Digit

/-!
# What a line says

A line counts as the first of these that it holds anywhere: the head of a control, the head of a
table, then, inside a table, the opening of the key block, the opening of the action block, a size
or a default action, and last the head of an action. A table's property is a bare word: a name
behind a dot or inside a longer word is none.
-/

namespace P4Outline

open P4Outline.Text P4Outline.Source

/-- What a line says to a scan. -/
inductive Statement where
  /-- A control of this name begins. -/
  | control (name : String)
  /-- A table of this name begins, and this many braces stay open at the end of the line. -/
  | table (name : String) (depth : Int)
  /-- The key block opens, with this text behind its brace. -/
  | keys (rest : List Char)
  /-- The action block opens, with this text behind its brace. -/
  | actions (rest : List Char)
  /-- The size is the number that these digits write. -/
  | size (digits : List Char)
  /-- The default action has this name. -/
  | defaultAction (name : String)
  /-- An action of this name begins. -/
  | action (name : String)
  /-- Nothing of note. -/
  | other
  deriving DecidableEq, Repr

/-- The text behind `name = `, if that stands at the front. -/
def afterEquals? (name cs : List Char) : Option (List Char) :=
  (name.isPrefixOf? cs).bind (afterMark? '=')

/-- Reads the opening of a block of a table. -/
def blockOpening? (name cs : List Char) : Option (List Char) :=
  (afterEquals? name cs).bind (afterMark? '{')

/-- Reads a table's size: its digits, which a semicolon ends. -/
def sizeDigits? (cs : List Char) : Option (List Char) :=
  match afterEquals? "size".toList cs with
  | none => none
  | some rest =>
    let digits := (skipBlanks rest).takeWhile isDigit
    if digits.isEmpty then none
    else (afterMark? ';' ((skipBlanks rest).dropWhile isDigit)).map fun _ => digits

/-- Reads a table's default action: its name. -/
def defaultActionName? (cs : List Char) : Option (List Char) :=
  match afterEquals? "default_action".toList cs with
  | none => none
  | some rest => if (word (skipBlanks rest)).isEmpty then none else some (word (skipBlanks rest))

/-- The first head of a kind in a line: its name and the text behind its opening. -/
def Kind.inLine? (k : Kind) (line : List Char) : Option (List Char × List Char) :=
  (first? k.head? endsWord true line).map (·.2)

/-- What `read?` makes of the first bare name in a line that it accepts. -/
def property? (read? : List Char → Option α) (line : List Char) : Option α :=
  (first? read? endsMember true line).map (·.2)

/-- What a line says of the table that it stands in. -/
def Statement.ofProperty? (line : List Char) : Option Statement :=
  (property? (blockOpening? "key".toList) line).map .keys
  <|> (property? (blockOpening? "actions".toList) line).map .actions
  <|> (property? sizeDigits? line).map .size
  <|> (property? defaultActionName? line).map fun name => .defaultAction (String.ofList name)

/-- What a line says. The properties of a table are looked for only inside one. -/
def Statement.ofLine (inTable : Bool) (line : List Char) : Statement :=
  match Kind.control.inLine? line with
  | some (name, _) => .control (String.ofList name)
  | none =>
    match Kind.table.inLine? line with
    | some (name, rest) => .table (String.ofList name) (1 + balance rest)
    | none =>
      match if inTable then ofProperty? line else none with
      | some property => property
      | none =>
        match Kind.action.inLine? line with
        | some (name, _) => .action (String.ofList name)
        | none => .other

end P4Outline

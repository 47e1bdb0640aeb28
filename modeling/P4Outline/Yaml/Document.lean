import P4Outline.Config.Document
import P4Outline.File.Site
import P4Outline.Yaml.Node
import P4Outline.Yaml.Plain

/-!
# Reading a document

    characters ──tokens?──▶ tokens ──Node.ofTokens?──▶ node ──Node.value──▶ value

Quoted scalars are texts, plain ones what they are spelled like. A key that comes again replaces the
value and keeps its first place; lists and mappings cannot be keys.
-/

namespace P4Outline.Yaml

mutual

/-- The value of a node. -/
def Node.value : Node → Except DocumentError Value
  | .scalar plain text => if plain then plainValue text else .ok (.text (String.ofList text))
  | .sequence items => (Node.values items).map .list
  | .mapping entries => (Node.entryValues entries).map fun es => .map (Value.ofEntries es)

/-- The values of nodes. -/
def Node.values : List Node → Except DocumentError (List Value)
  | [] => .ok []
  | n :: rest => do
    let v ← n.value
    let vs ← Node.values rest
    return v :: vs

/-- The values of the keys and values of a mapping. -/
def Node.entryValues : List (Node × Node) → Except DocumentError (List (Value × Value))
  | [] => .ok []
  | (k, v) :: rest => do
    let key ← k.value
    if !key.isKey then .error .malformed
    let value ← v.value
    let es ← Node.entryValues rest
    return (key, value) :: es

end

/-- The value that a document writes; null for an empty one. -/
def read (cs : List Char) : Except DocumentError Value := do
  match ← Node.ofTokens? (← tokens? cs) with
  | none => return .null
  | some node => node.value

/-- The wording of an error about a number or an escape. -/
def DocumentError.message : DocumentError → String
  | .malformed => "malformed document"
  | .noSuchCodePoint => "chr() arg not in range(0x110000)"
  | .tooManyDigits digits => tooManyDigitsMessage digits
  | .noDigits base => "invalid literal for int() with base " ++ toString base ++ ": ''"

/-- Reads the document in a file of some content. -/
def readFile : DocumentReader := fun content =>
  match fileText? content with
  | none => .error .undecodable
  | some text =>
    match read text with
    | .ok v => .ok v
    | .error .malformed => .error .malformed
    | .error e => .error (.failed e.message)

end P4Outline.Yaml

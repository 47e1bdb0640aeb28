import P4Outline.Yaml.Token

/-!
# Nodes of a document

A node is a scalar, a sequence or a mapping. `Node.ofTokens?` builds the one node of a document from
its tokens. What is missing (a value behind a colon, an entry behind a dash) is an empty plain
scalar.

Every reader takes the tokens from where it starts and returns a node, or the parts of one, with the
tokens behind it. The number of steps is bounded by the number of tokens.
-/

namespace P4Outline.Yaml

/-- A node of a document. -/
inductive Node where
  | scalar (plain : Bool) (text : List Char)
  | sequence (items : List Node)
  | mapping (entries : List (Node × Node))
  deriving Repr, Inhabited

namespace Node

/-- What stands for a node that is missing. -/
def missing : Node := .scalar true []

/-- Whether the next token is one of these, or none is left. -/
def endsAt (ends : List Token) : List Token → Bool
  | [] => true
  | t :: _ => ends.contains t

mutual

/-- Reads a node. Block collections are read if `block` holds, and a sequence without an indentation
of its own if `bare` does. -/
def read (block bare : Bool) : Nat → List Token → Option (Node × List Token)
  | 0, _ => none
  | fuel + 1, ts =>
    match ts with
    | .scalar plain text :: rest => some (.scalar plain text, rest)
    | .openBracket :: rest => (flowItems true fuel rest).map fun (items, rest) =>
      (.sequence items, rest)
    | .openBrace :: rest => (flowEntries true fuel rest).map fun (entries, rest) =>
      (.mapping entries, rest)
    | .sequenceStart :: rest =>
      if block then (blockItems fuel rest).map fun (items, rest) =>
        (.sequence items, rest) else none
    | .mappingStart :: rest =>
      if block then (blockEntries fuel rest).map fun (entries, rest) =>
        (.mapping entries, rest) else none
    | .dash :: _ => if bare then (bareItems fuel ts).map fun (items, rest) =>
      (.sequence items, rest) else none
    | _ => none

/-- Reads a node, or a missing one if one of these tokens comes next. -/
def readUnless (ends : List Token) (block bare : Bool) :
    Nat → List Token → Option (Node × List Token)
  | 0, _ => none
  | fuel + 1, ts => if endsAt ends ts then some (missing, ts) else read block bare fuel ts

/-- Reads the entries of a block sequence, and its end. -/
def blockItems : Nat → List Token → Option (List Node × List Token)
  | 0, _ => none
  | fuel + 1, ts =>
    match ts with
    | .dash :: rest => do
      let (item, rest) ← readUnless [.dash, .blockEnd] true false fuel rest
      let (items, rest) ← blockItems fuel rest
      return (item :: items, rest)
    | .blockEnd :: rest => some ([], rest)
    | _ => none

/-- Reads the entries of a sequence that has no indentation of its own. -/
def bareItems : Nat → List Token → Option (List Node × List Token)
  | 0, _ => none
  | fuel + 1, ts =>
    match ts with
    | .dash :: rest => do
      let (item, rest) ← readUnless [.dash, .key, .value, .blockEnd] true false fuel rest
      let (items, rest) ← bareItems fuel rest
      return (item :: items, rest)
    | _ => some ([], ts)

/-- Reads the entries of a block mapping, and its end. -/
def blockEntries : Nat → List Token → Option (List (Node × Node) × List Token)
  | 0, _ => none
  | fuel + 1, ts =>
    match ts with
    | .key :: rest => do
      let (key, rest) ← readUnless [.key, .value, .blockEnd] true true fuel rest
      let (value, rest) ← valueAfter [.key, .value, .blockEnd] true fuel rest
      let (entries, rest) ← blockEntries fuel rest
      return ((key, value) :: entries, rest)
    | .blockEnd :: rest => some ([], rest)
    | _ => none

/-- Reads a value behind its colon; a missing one if there is no colon. -/
def valueAfter (ends : List Token) (block : Bool) : Nat → List Token → Option (Node × List Token)
  | 0, _ => none
  | fuel + 1, ts =>
    match ts with
    | .value :: rest => readUnless ends block block fuel rest
    | _ => some (missing, ts)

/-- Reads the items of a flow sequence, and its end. A pair among them is a mapping of its own. -/
def flowItems (first : Bool) : Nat → List Token → Option (List Node × List Token)
  | 0, _ => none
  | fuel + 1, ts =>
    match ts with
    | .closeBracket :: rest => some ([], rest)
    | _ =>
      match if first then some ts else match ts with | .comma :: rest => some rest | _ => none with
      | none => none
      | some (.closeBracket :: rest) => some ([], rest)
      | some (.key :: rest) => do
        let (key, rest) ← readUnless [.value, .comma, .closeBracket] false false fuel rest
        let (value, rest) ← valueAfter [.comma, .closeBracket] false fuel rest
        let (items, rest) ← flowItems false fuel rest
        return (.mapping [(key, value)] :: items, rest)
      | some ts => do
        let (item, rest) ← read false false fuel ts
        let (items, rest) ← flowItems false fuel rest
        return (item :: items, rest)

/-- Reads the entries of a flow mapping, and its end. A key alone has a missing value. -/
def flowEntries (first : Bool) : Nat → List Token → Option (List (Node × Node) × List Token)
  | 0, _ => none
  | fuel + 1, ts =>
    match ts with
    | .closeBrace :: rest => some ([], rest)
    | _ =>
      match if first then some ts else match ts with | .comma :: rest => some rest | _ => none with
      | none => none
      | some (.closeBrace :: rest) => some ([], rest)
      | some (.key :: rest) => do
        let (key, rest) ← readUnless [.value, .comma, .closeBrace] false false fuel rest
        let (value, rest) ← valueAfter [.comma, .closeBrace] false fuel rest
        let (entries, rest) ← flowEntries false fuel rest
        return ((key, value) :: entries, rest)
      | some ts => do
        let (key, rest) ← read false false fuel ts
        let (entries, rest) ← flowEntries false fuel rest
        return ((key, missing) :: entries, rest)

end

/-- Reads the node of a document whose start has been read. -/
def content (ts : List Token) : Option (Node × List Token) :=
  readUnless [.directive, .documentStart, .documentEnd] true false (4 * ts.length + 4) ts

/-- Reads the start of a document, if one is there. Directives need one. -/
def afterStart? (ts : List Token) : Option (List Token) :=
  match ts.dropWhile (· = .directive) with
  | .documentStart :: rest => some rest
  | _ => none

/-- The node of a document, nothing for an empty one. A second document is refused, and so is an end
mark that ends nothing. -/
def ofTokens? (ts : List Token) : Except DocumentError (Option Node) :=
  let read : Option (Option (Node × List Token)) :=
    match ts with
    | [] => some none
    | .documentEnd :: _ => none
    | .directive :: _ | .documentStart :: _ => (afterStart? ts).bind fun rest =>
      (content rest).map some
    | _ => (content ts).map some
  match read with
  | none => .error .malformed
  | some none => .ok none
  | some (some (node, rest)) => if rest.all (· = .documentEnd) then .ok (some node)
      else .error .malformed

end Node

end P4Outline.Yaml

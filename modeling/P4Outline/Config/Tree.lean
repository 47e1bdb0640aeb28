import P4Outline.Config.Value

/-!
# Mappings within mappings

The values of a configuration are addressed by the keys on the way to them, written with dots
between. One tree is laid over another by `overlay`: mappings that meet are overlaid in turn,
anything else of the upper tree wins.
-/

namespace P4Outline

open P4Outline.Text

/-- The entries of a mapping. -/
abbrev Entries := List (Value × Value)

/-- The keys that an address writes. -/
def keysOfAddress (address : String) : List String := (pieces '.' address.toList).map String.ofList

/-- The value that keys lead to. -/
def Value.at? : List String → Value → Option Value
  | [], v => some v
  | key :: rest, .map entries => (Value.find? (.text key) entries).bind (Value.at? rest)
  | _ :: _, _ => none

/-- The entries with a value put where keys lead to. What is in the way and is no mapping makes room
for one. -/
def Entries.put (value : Value) : List String → Entries → Entries
  | [], entries => entries
  | [key], entries => Value.store (.text key) value entries
  | key :: rest, entries =>
    let inner :=
      match Value.find? (.text key) entries with
      | some (.map inner) => inner
      | _ => []
    Value.store (.text key) (.map (Entries.put value rest inner)) entries

mutual

/-- A value laid over the one that a key has, if any. -/
def Value.overlay (lower : Option Value) : Value → Value
  | .map upper =>
    match lower with
    | some (.map entries) => .map (Entries.overlay entries upper)
    | _ => .map upper
  | v => v

/-- Entries laid over others, one after the other. -/
def Entries.overlay (lower : Entries) : Entries → Entries
  | [] => lower
  | (k, v) :: rest =>
    Entries.overlay (Value.store k (Value.overlay (Value.find? k lower) v) lower) rest

end

end P4Outline

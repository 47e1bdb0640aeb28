import P4Outline.Config.Value

/-!
# References to the environment

A text of a configuration may refer to a variable of the environment, as `$` and a name in braces,
with a default behind `:-` or without. A reference to a variable that is set reads as its value,
else as its default, else as it is written. What a reference reads as is not looked at again.
-/

namespace P4Outline

/-- A reference: the name of a variable, and the default behind it. -/
structure Reference where
  name : List Char
  fallback : Option (List Char)
  deriving DecidableEq, Repr

/-- A reference as it is written. -/
def Reference.written (r : Reference) : List Char :=
  '$' :: '{' :: r.name ++ (match r.fallback with | none => [] | some d => ':' :: '-' :: d) ++ ['}']

/-- What a reference reads as in an environment. -/
def Reference.resolve (valueOf? : String → Option String) (r : Reference) : List Char :=
  match valueOf? (String.ofList r.name) with
  | some value => value.toList
  | none => r.fallback.getD r.written

/-- Reads a reference from behind its `$` and its brace, with the text behind it. A name has no
colon and no brace, a default no line break and no brace. -/
def reference? (cs : List Char) : Option (Reference × List Char) :=
  let name := cs.takeWhile fun c => c ≠ '}' && c ≠ ':'
  if name.isEmpty then none
  else
    match cs.dropWhile fun c => c ≠ '}' && c ≠ ':' with
    | '}' :: rest => some (⟨name, none⟩, rest)
    | ':' :: '-' :: behind =>
      match behind.dropWhile fun c => c ≠ '}' && c ≠ '\n' with
      | '}' :: rest => some (⟨name, some (behind.takeWhile fun c => c ≠ '}' && c ≠ '\n')⟩, rest)
      | _ => none
    | _ => none

theorem length_lt_of_reference? {cs rest : List Char} {r : Reference}
    (h : reference? cs = some (r, rest)) :
    rest.length < cs.length := by
  unfold reference? at h
  have h1 :=
    (List.dropWhile_suffix (l := cs) (fun c => decide (c ≠ '}') && decide (c ≠ ':'))).length_le
  simp only at h
  split at h
  · simp at h
  · split at h
    · next hd => cases h; rw [hd] at h1; simp only [List.length_cons] at h1; omega
    · next behind hd =>
      have h2 :=
        (List.dropWhile_suffix (l := behind) (fun c => decide (c ≠ '}') &&
          decide (c ≠ '\n'))).length_le
      rw [hd] at h1
      split at h
      · next hb => cases h; rw [hb] at h2; simp only [List.length_cons] at h1 h2; omega
      · simp at h
    · simp at h

/-- A text with every reference read. -/
def expand (valueOf? : String → Option String) (cs : List Char) : List Char :=
  match cs with
  | [] => []
  | '$' :: '{' :: cs =>
    match _h : reference? cs with
    | some (r, rest) => r.resolve valueOf? ++ expand valueOf? rest
    | none => '$' :: expand valueOf? ('{' :: cs)
  | c :: cs => c :: expand valueOf? cs
termination_by cs.length
decreasing_by
  · have := length_lt_of_reference? _h; simp only [List.length_cons]; omega
  · simp
  · simp

mutual

/-- A value with the references in all of its texts read. Keys are left as they are. -/
def Value.expand (valueOf? : String → Option String) : Value → Value
  | .text s => .text (String.ofList (P4Outline.expand valueOf? s.toList))
  | .list items => .list (Value.expandItems valueOf? items)
  | .map entries => .map (Value.expandEntries valueOf? entries)
  | v => v

/-- Values with the references in their texts read. -/
def Value.expandItems (valueOf? : String → Option String) : List Value → List Value
  | [] => []
  | v :: rest => v.expand valueOf? :: Value.expandItems valueOf? rest

/-- Entries with the references in their values read. -/
def Value.expandEntries (valueOf? : String → Option String) :
    List (Value × Value) → List (Value × Value)
  | [] => []
  | (k, v) :: rest => (k, v.expand valueOf?) :: Value.expandEntries valueOf? rest

end

end P4Outline

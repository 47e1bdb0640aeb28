import P4Outline.Text.Blank
import P4Outline.Text.Case
import P4Outline.Text.Search
import P4Outline.Text.Split

/-!
# Entries of a table's blocks

A key entry is `expression : kind annotations;`, an action entry `annotations name …`. `keyText` and
`actionName` reduce an entry to the part that declares something.

An annotation is `@id` or `@id(arguments)`, its arguments reaching to the next closing parenthesis.
-/

namespace P4Outline

open P4Outline.Text

/-- The text behind an annotation, if one stands at the front. -/
def afterAnnotation? : List Char → Option (List Char)
  | '@' :: cs =>
    if (word cs).isEmpty then none
    else
      match afterWord cs with
      | '(' :: arguments => afterFirst? ')' arguments
      | rest => some rest
  | _ => none

theorem length_le_of_afterFirst? {mark : Char} {cs rest : List Char}
    (h : afterFirst? mark cs = some rest) :
    rest.length ≤ cs.length := by
  unfold afterFirst? at h
  have hd := (List.dropWhile_suffix (l := cs) (fun c => decide (c ≠ mark))).length_le
  split at h
  · next hs => cases h; rw [hs] at hd; simp only [List.length_cons] at hd; omega
  · simp at h

theorem length_lt_of_afterAnnotation? {cs rest : List Char} (h : afterAnnotation? cs = some rest) :
    rest.length < cs.length := by
  unfold afterAnnotation? at h
  split at h
  · next cs =>
    have hw : (afterWord cs).length ≤ cs.length := (List.dropWhile_suffix _).length_le
    split at h
    · simp at h
    · split at h
      · next ha =>
        have := length_le_of_afterFirst? h
        rw [ha] at hw
        simp only [List.length_cons] at hw ⊢
        omega
      · cases h; simp only [List.length_cons]; omega
  · simp at h

/-- The text behind the annotations and blanks at the front. -/
def skipAnnotations (cs : List Char) : List Char :=
  match _h : afterAnnotation? (skipBlanks cs) with
  | some rest => skipAnnotations rest
  | none => skipBlanks cs
termination_by cs.length
decreasing_by exact Nat.lt_of_lt_of_le (length_lt_of_afterAnnotation? _h) (length_skipBlanks_le cs)

/-! ### Key entries -/

/-- How much of a key entry is kept. -/
inductive KeyText where
  /-- The entry as it is written. -/
  | verbatim
  /-- The expression and the match kind. -/
  | field
  deriving DecidableEq, Repr

/-- The name of a way to keep key entries. -/
def KeyText.name : KeyText → String
  | .verbatim => "verbatim"
  | .field => "field"

/-- The way to keep key entries that a setting names, in capitals or not and with blanks around it
or not. Entries are kept as they are written unless it names another way. -/
def KeyText.ofName (name : String) : KeyText :=
  if String.ofList (lower (trim name.toList)) = KeyText.field.name then .field else .verbatim

/-- The match kind behind the colon of a key entry, if the entry ends well: annotations and a
semicolon follow it. -/
def matchKind? (cs : List Char) : Option (List Char) :=
  let kind := word (skipBlanks cs)
  if kind.isEmpty then none
  else
    match skipAnnotations (afterWord (skipBlanks cs)) with
    | ';' :: _ => some kind
    | _ => none

/-- The expression and the match kind of a key entry that goes on from here, cut at the last colon
that a match kind follows. The expression ends with the line; only blanks may stand between that and
the colon. -/
def lastField? : List Char → Option (List Char × List Char)
  | [] => none
  | c :: cs =>
    if c = '\n' then
      match skipBlanks cs with
      | ':' :: rest => (matchKind? rest).map fun kind => ([], kind)
      | _ => none
    else
      match lastField? cs with
      | some (expression, kind) => some (c :: expression, kind)
      | none => if c = ':' then (matchKind? cs).map fun kind => ([], kind) else none

/-- The expression and the match kind of a key entry. The expression has at least one character. -/
def field? : List Char → Option (List Char × List Char)
  | [] => none
  | c :: cs =>
    if c = '\n' then none else (lastField? cs).map fun (expression, kind) => (c :: expression, kind)

/-- The text that is kept of a key entry. An entry that is not made like one is kept as it is
written. -/
def KeyText.reduce : KeyText → List Char → List Char
  | .verbatim, entry => entry
  | .field, entry =>
    match field? entry with
    | some (expression, kind) => trim expression ++ ':' :: ' ' :: kind
    | none => entry

/-! ### Action entries -/

/-- The text behind the annotations at the front, each of which has blanks behind it. -/
def skipSpacedAnnotations (cs : List Char) : List Char :=
  match _h : afterAnnotation? cs with
  | some (c :: rest) => if isBlank c then skipSpacedAnnotations (skipBlanks rest) else cs
  | _ => cs
termination_by cs.length
decreasing_by
  have h1 := length_lt_of_afterAnnotation? _h
  have h2 := length_skipBlanks_le rest
  simp only [List.length_cons] at h1
  omega

/-- The name that an action entry declares, empty if it declares none. -/
def actionName (entry : List Char) : List Char := word (skipSpacedAnnotations entry)

/-! ### Blocks on one line -/

/-- The entries of a block whose text starts here, if the block is closed in that text; each one
reduced, and those that nothing is left of dropped. -/
def inlineEntries? (reduce : List Char → List Char) (cs : List Char) : Option (List (List Char)) :=
  if '}' ∈ cs then
    let entries := ((pieces ';' (cs.takeWhile (· ≠ '}'))).map trim).filter (!·.isEmpty)
    some ((entries.map fun entry => reduce (entry ++ [';'])).filter (!·.isEmpty))
  else none

end P4Outline

import P4Outline.Text.Blank

/-!
# Kinds of declarations

Every kind has a keyword and an opening mark that ends the head of its declarations.
-/

namespace P4Outline

open P4Outline.Text

/-- What a program declares by a keyword and a name. -/
inductive Kind where
  | parser
  | control
  | struct
  | header
  | action
  | table
  deriving DecidableEq, Repr

/-- What ends the head of a declaration. -/
inductive Opening where
  /-- An opening brace. -/
  | brace
  /-- An opening parenthesis. -/
  | parenthesis
  /-- An opening parenthesis, after type parameters in angle brackets or none. -/
  | typeParameters
  deriving DecidableEq, Repr

namespace Kind

/-- Every kind, in the order of a listing. -/
def all : List Kind := [parser, control, struct, header, action, table]

/-- Every kind, in the order in which lookups offer them. -/
def lookups : List Kind := [action, table, control, parser, struct, header]

/-- The name of a kind, which is also its keyword. -/
def name : Kind → String
  | parser => "parser"
  | control => "control"
  | struct => "struct"
  | header => "header"
  | action => "action"
  | table => "table"

/-- The kind of a given name. -/
def ofName? (name : String) : Option Kind := all.find? fun k => k.name = name

/-- The keyword that starts a declaration. -/
def keyword (k : Kind) : List Char := k.name.toList

/-- The opening that ends the head of a declaration. -/
def opening : Kind → Opening
  | parser | control => .typeParameters
  | struct | header | table => .brace
  | action => .parenthesis

theorem keyword_ne_nil (k : Kind) : k.keyword ≠ [] := by cases k <;> decide

end Kind

/-- The text behind a mark, if only blanks stand before it. -/
def afterMark? (mark : Char) (cs : List Char) : Option (List Char) :=
  match skipBlanks cs with
  | c :: rest => if c = mark then some rest else none
  | [] => none

/-- The text behind type parameters in angle brackets, or the text itself if its first character
that is no blank opens none. Brackets that are never closed are refused. -/
def afterTypeParameters? (cs : List Char) : Option (List Char) :=
  match skipBlanks cs with
  | '<' :: rest =>
    match rest.dropWhile (· ≠ '>') with
    | _ :: rest => some rest
    | [] => none
  | rest => some rest

/-- The text behind an opening. -/
def Opening.after? : Opening → List Char → Option (List Char)
  | .brace, cs => afterMark? '{' cs
  | .parenthesis, cs => afterMark? '(' cs
  | .typeParameters, cs => (afterTypeParameters? cs).bind (afterMark? '(')

/-! ### Lengths -/

theorem length_lt_of_afterMark? {mark : Char} {cs rest : List Char}
    (h : afterMark? mark cs = some rest) :
    rest.length < cs.length := by
  have hl := length_skipBlanks_le cs
  unfold afterMark? at h
  split at h
  · next c r hs =>
    rw [hs] at hl
    split at h
    · cases h; simp only [List.length_cons] at hl; omega
    · simp at h
  · simp at h

theorem length_le_of_afterTypeParameters? {cs rest : List Char}
    (h : afterTypeParameters? cs = some rest) :
    rest.length ≤ cs.length := by
  have hl := length_skipBlanks_le cs
  unfold afterTypeParameters? at h
  split at h
  · next r hs =>
    have hd := (List.dropWhile_suffix (l := r) (fun c => decide (c ≠ '>'))).length_le
    rw [hs] at hl
    split at h
    · next hr => cases h; rw [hr] at hd; simp only [List.length_cons] at hl hd; omega
    · simp at h
  · cases h; exact hl

theorem Opening.length_lt_of_after? {o : Opening} {cs rest : List Char}
    (h : o.after? cs = some rest) :
    rest.length < cs.length := by
  cases o with
  | brace => exact length_lt_of_afterMark? h
  | parenthesis => exact length_lt_of_afterMark? h
  | typeParameters =>
    obtain ⟨mid, hm, hr⟩ := Option.bind_eq_some_iff.1 h
    exact Nat.lt_of_lt_of_le (length_lt_of_afterMark? hr) (length_le_of_afterTypeParameters? hm)

end P4Outline

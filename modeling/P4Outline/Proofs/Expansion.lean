import P4Outline.Config.Reference
import P4Outline.Proofs.Text

/-!
# What references are read in

A text that is put together of literals and references is read piece by piece, from left to right,
and what a reference reads as is not looked at again. A document is read position by position: its
texts change, and nothing else does.

* `reference?_append`: a reference is read up to its brace, whatever stands behind it.
* `expand_flatMap_written`: a text is read piece by piece.
* `Value.below?_expand`: what stands at a position of a document.
* `expand_pieces_and_positions`: texts and documents.
-/

namespace P4Outline

open P4Outline.Text

/-! ### Pieces of a text -/

/-- A reference that can be read back: its name is not empty, and neither its name nor its default
ends it. -/
structure Reference.Readable (r : Reference) : Prop where
  name_ne_nil : r.name ≠ []
  name : ∀ c ∈ r.name, c ≠ '}' ∧ c ≠ ':'
  fallback : ∀ d ∈ r.fallback, ∀ c ∈ d, c ≠ '}' ∧ c ≠ '\n'

/-- A piece of a text. -/
inductive Piece where
  | literal (text : List Char) (h : '$' ∉ text)
  | reference (r : Reference) (h : r.Readable)

/-- A piece as it is written. -/
def Piece.written : Piece → List Char
  | .literal text _ => text
  | .reference ⟨name, none⟩ _ => '$' :: '{' :: (name ++ ['}'])
  | .reference ⟨name, some fallback⟩ _ =>
    '$' :: '{' :: (name ++ (':' :: '-' :: (fallback ++ ['}'])))

/-- What a piece reads as: a reference as the value of its name, else as its default, else as it is
written. -/
def Piece.read (valueOf? : String → Option String) : Piece → List Char
  | .literal text _ => text
  | .reference ⟨name, fallback⟩ _ =>
    match valueOf? (String.ofList name), fallback with
    | some value, _ => value.toList
    | none, some fallback => fallback
    | none, none => '$' :: '{' :: (name ++ ['}'])

theorem Piece.written_reference (r : Reference) (h : r.Readable) :
    (Piece.reference r h).written = r.written := by
  obtain ⟨name, fallback⟩ := r
  cases fallback <;> simp [written, Reference.written]

theorem Piece.read_reference (valueOf? : String → Option String) (r : Reference) (h : r.Readable) :
    (Piece.reference r h).read valueOf? = r.resolve valueOf? := by
  obtain ⟨name, fallback⟩ := r
  rw [Reference.resolve]
  cases hvalue : valueOf? (String.ofList name) with
  | some value => simp [read, hvalue]
  | none => cases fallback <;> simp [read, hvalue, Reference.written]

/-- A reference is read up to its closing brace, whatever stands behind it. -/
theorem reference?_append {r : Reference} (h : r.Readable) (rest : List Char) :
    reference? (r.name ++ (match r.fallback with | none => [] | some d => ':' :: '-' :: d) ++
      '}' :: rest) = some (r, rest) := by
  obtain ⟨name, fallback⟩ := r
  have hname : ∀ c ∈ name, (decide (c ≠ '}') && decide (c ≠ ':')) = true := by simpa using h.name
  have hne : name.isEmpty = false := List.isEmpty_eq_false_iff.2 h.name_ne_nil
  cases fallback with
  | none =>
    obtain ⟨htake, hdrop⟩ := takeWhile_dropWhile_append hname (c := '}') rfl rest
    rw [List.append_nil, reference?]
    dsimp only
    rw [htake, hdrop, hne]
    rfl
  | some fallback =>
    have hfallback : ∀ c ∈ fallback, (decide (c ≠ '}') && decide (c ≠ '\n')) = true := by
      simpa using h.fallback
    obtain ⟨htake, hdrop⟩ :=
      takeWhile_dropWhile_append hname (c := ':') rfl ('-' :: (fallback ++ '}' :: rest))
    obtain ⟨htake', hdrop'⟩ := takeWhile_dropWhile_append hfallback (c := '}') rfl rest
    rw [List.append_assoc, List.cons_append, List.cons_append, reference?]
    dsimp only
    rw [htake, hdrop, hne, if_neg Bool.false_ne_true]
    simp only [htake', hdrop']

section Environment

variable (valueOf? : String → Option String)

theorem expand_reference {cs rest : List Char} {r : Reference}
    (h : reference? cs = some (r, rest)) :
    expand valueOf? ('$' :: '{' :: cs) = r.resolve valueOf? ++ expand valueOf? rest := by
  rw [expand]
  split
  · next h' =>
    rw [h] at h'
    cases h'
    rfl
  · next h' =>
    rw [h] at h'
    cases h'

theorem expand_literal {text : List Char} (h : '$' ∉ text) (rest : List Char) :
    expand valueOf? (text ++ rest) = text ++ expand valueOf? rest := by
  induction text with
  | nil => rfl
  | cons c text ih =>
    obtain ⟨hc, htext⟩ := List.ne_and_not_mem_of_not_mem_cons h
    rw [List.cons_append, expand, ih htext, List.cons_append]
    rintro cs rfl
    exact absurd rfl hc

/-- A piece is read on its own. -/
theorem expand_written (piece : Piece) (rest : List Char) :
    expand valueOf? (piece.written ++ rest) = piece.read valueOf? ++ expand valueOf? rest := by
  cases piece with
  | literal text h => exact expand_literal valueOf? h rest
  | reference r h =>
    have hsplit : r.written ++ rest = '$' :: '{' ::
        (r.name ++ (match r.fallback with | none => [] | some d => ':' :: '-' :: d) ++
          '}' :: rest) := by
      cases hf : r.fallback <;> simp [Reference.written, hf]
    rw [Piece.written_reference, Piece.read_reference, hsplit,
      expand_reference valueOf? (reference?_append h rest)]

/-- A text is read piece by piece. -/
theorem expand_flatMap_written (pieces : List Piece) :
    expand valueOf? (pieces.flatMap Piece.written) = pieces.flatMap (Piece.read valueOf?) := by
  induction pieces with
  | nil => rw [List.flatMap_nil, List.flatMap_nil, expand]
  | cons piece pieces ih => rw [List.flatMap_cons, List.flatMap_cons, expand_written, ih]

/-! ### Positions in a document -/

/-- The values of a list or of a mapping, in order. -/
def Value.children : Value → List Value
  | .list items => items
  | .map entries => entries.map (·.2)
  | _ => []

/-- The value at a position, which is given from the outside to the inside. -/
def Value.below? : List Nat → Value → Option Value
  | [], v => some v
  | i :: position, v => v.children[i]?.bind (Value.below? position)

/-- Whether a value is read as another one, as far as can be told without looking into lists and
mappings: a text with its references read, a list of the same length, a mapping with the same keys
in the same order, and all else as it is. -/
inductive Value.ReadAs : Value → Value → Prop
  | text (s : String) :
      ReadAs (.text s) (.text (String.ofList (P4Outline.expand valueOf? s.toList)))
  | list {items items' : List Value} (h : items'.length = items.length) :
      ReadAs (.list items) (.list items')
  | map {entries entries' : List (Value × Value)}
      (h : entries'.map Prod.fst = entries.map Prod.fst) :
      ReadAs (.map entries) (.map entries')
  | null : ReadAs .null .null
  | bool (b : Bool) : ReadAs (.bool b) (.bool b)
  | int (n : Int) : ReadAs (.int n) (.int n)
  | float (x : Binary64) : ReadAs (.float x) (.float x)
  | other (o : OtherValue) : ReadAs (.other o) (.other o)

theorem Value.expandItems_eq_map (items : List Value) :
    Value.expandItems valueOf? items = items.map (Value.expand valueOf?) := by
  induction items with
  | nil =>
    unfold Value.expandItems
    rfl
  | cons v items ih =>
    unfold Value.expandItems
    rw [ih, List.map_cons]

theorem Value.expandEntries_eq_map (entries : List (Value × Value)) :
    Value.expandEntries valueOf? entries = entries.map fun e => (e.1, e.2.expand valueOf?) := by
  induction entries with
  | nil =>
    unfold Value.expandEntries
    rfl
  | cons e entries ih =>
    unfold Value.expandEntries
    rw [ih, List.map_cons]

theorem Value.readAs_expand (v : Value) : Value.ReadAs valueOf? v (v.expand valueOf?) := by
  cases v with
  | text s =>
    unfold Value.expand
    exact .text s
  | list items =>
    unfold Value.expand
    exact .list (by rw [Value.expandItems_eq_map, List.length_map])
  | map entries =>
    unfold Value.expand
    exact .map (by rw [Value.expandEntries_eq_map, List.map_map]; rfl)
  | null => exact .null
  | bool b => exact .bool b
  | int n => exact .int n
  | float x => exact .float x
  | other o => exact .other o

theorem Value.children_expand (v : Value) :
    (v.expand valueOf?).children = v.children.map (Value.expand valueOf?) := by
  cases v with
  | list items =>
    unfold Value.expand
    exact Value.expandItems_eq_map valueOf? items
  | map entries =>
    unfold Value.expand
    show (Value.expandEntries valueOf? entries).map (·.2) = (entries.map (·.2)).map _
    rw [Value.expandEntries_eq_map, List.map_map, List.map_map]
    rfl
  | _ =>
    unfold Value.expand
    rfl

/-- At every position stands what stood there, with its references read. -/
theorem Value.below?_expand (position : List Nat) (v : Value) :
    Value.below? position (v.expand valueOf?) =
      (Value.below? position v).map (Value.expand valueOf?) := by
  induction position generalizing v with
  | nil => rfl
  | cons i position ih =>
    rw [below?, below?, Value.children_expand, List.getElem?_map, Option.bind_map, Option.map_bind]
    congr 1
    funext w
    exact ih w

/-- A text is read piece by piece: literals as they are, and references as values, defaults or what
is written, none of which is read again. A document is read at every position, and nothing but its
texts changes. -/
theorem expand_pieces_and_positions :
    (∀ pieces : List Piece, expand valueOf? (pieces.flatMap Piece.written) =
      pieces.flatMap (Piece.read valueOf?)) ∧
    ∀ (document : Value) (position : List Nat),
      Option.Rel (Value.ReadAs valueOf?) (document.below? position)
        ((document.expand valueOf?).below? position) := by
  refine ⟨expand_flatMap_written valueOf?, fun document position => ?_⟩
  rw [Value.below?_expand]
  cases Value.below? position document with
  | none => exact .none
  | some v => exact .some (v.readAs_expand valueOf?)

end Environment

/-- An address whose host and port are references. -/
def hostAndPort : List Piece :=
  [.literal "http://".toList (by decide),
   .reference ⟨"HOST".toList, none⟩ ⟨by decide, by decide, by decide⟩,
   .literal ":".toList (by decide),
   .reference ⟨"PORT".toList, some "80".toList⟩ ⟨by decide, by decide, by decide⟩,
   .literal "/\x7d".toList (by decide),
   .reference ⟨"PATH".toList, none⟩ ⟨by decide, by decide, by decide⟩]

/-- A host whose value is written like a reference is not read again, a port without a value is the
default, and a path without either stays as it is written. -/
theorem expand_hostAndPort :
    expand (fun name => if name = "HOST" then some "$\x7bPORT:-8080\x7d" else none)
        "http://$\x7bHOST\x7d:$\x7bPORT:-80\x7d/\x7d$\x7bPATH\x7d".toList =
      "http://$\x7bPORT:-8080\x7d:80/\x7d$\x7bPATH\x7d".toList := by
  have hread := (expand_pieces_and_positions
    fun name => if name = "HOST" then some "$\x7bPORT:-8080\x7d" else none).1 hostAndPort
  have hwritten : hostAndPort.flatMap Piece.written =
      "http://$\x7bHOST\x7d:$\x7bPORT:-80\x7d/\x7d$\x7bPATH\x7d".toList := by decide
  rw [← hwritten, hread]
  decide

end P4Outline

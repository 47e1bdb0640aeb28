/-!
# Cutting texts into pieces

`pieces` cuts a text at every occurrence of one character; a text with `n` of them has `n + 1`
pieces. `join` puts pieces together again.

* `pieces_append_cons`: a separator ends one piece and begins the next, and no piece holds one.
-/

namespace P4Outline.Text

/-- The pieces of a text between the occurrences of a separator. -/
def pieces (sep : Char) : List Char → List (List Char)
  | [] => [[]]
  | c :: cs => if c = sep then [] :: pieces sep cs else (pieces sep cs).modifyHead (c :: ·)

/-- The texts in order, with a separating text between neighbours. -/
def join (sep : List Char) : List (List Char) → List Char
  | [] => []
  | [t] => t
  | t :: ts => t ++ sep ++ join sep ts

/-- The text before the first occurrence of a mark, and the text after it. -/
def cut? (mark : List Char) : List Char → Option (List Char × List Char)
  | [] => if mark.isEmpty then some ([], []) else none
  | c :: cs =>
    match mark.isPrefixOf? (c :: cs) with
    | some rest => some ([], rest)
    | none => (cut? mark cs).map fun (before, after) => (c :: before, after)

/-- Whether a text holds another one. -/
def holdsText (part : List Char) (cs : List Char) : Bool := (cut? part cs).isSome

@[simp] theorem pieces_nil (sep : Char) : pieces sep [] = [[]] := rfl

theorem pieces_ne_nil (sep : Char) : ∀ cs, pieces sep cs ≠ []
  | [] => by simp
  | c :: cs => by
    unfold pieces
    split
    · simp
    · intro h
      have := congrArg List.length h
      rw [List.length_modifyHead] at this
      exact pieces_ne_nil sep cs (List.length_eq_zero_iff.1 this)

/-- A separator ends one piece and begins the next. -/
theorem pieces_append_cons (sep : Char) (before after : List Char) :
    pieces sep (before ++ sep :: after) = pieces sep before ++ pieces sep after := by
  induction before with
  | nil => simp [pieces]
  | cons c cs ih =>
    rw [List.cons_append, pieces, pieces, ih]
    split
    · rfl
    · cases h : pieces sep cs with
      | nil => exact absurd h (pieces_ne_nil sep cs)
      | cons p ps => rfl

/-- No piece holds the separator. -/
theorem notMem_of_mem_pieces {sep : Char} {cs piece : List Char} (h : piece ∈ pieces sep cs) :
    sep ∉ piece := by
  induction cs generalizing piece with
  | nil =>
    rw [pieces_nil, List.mem_singleton] at h
    simp [h]
  | cons c cs ih =>
    rw [pieces] at h
    split at h
    · rcases List.mem_cons.1 h with rfl | h
      · simp
      · exact ih h
    · next hc =>
      cases hp : pieces sep cs with
      | nil => exact absurd hp (pieces_ne_nil sep cs)
      | cons p ps =>
        rw [hp] at h ih
        rcases List.mem_cons.1 h with rfl | h
        · intro hm
          rcases List.mem_cons.1 hm with he | hm
          · exact hc he.symm
          · exact ih List.mem_cons_self hm
        · exact ih (List.mem_cons_of_mem _ h)

theorem join_cons {sep t : List Char} {ts : List (List Char)} (h : ts ≠ []) :
    join sep (t :: ts) = t ++ sep ++ join sep ts := by
  cases ts with
  | nil => exact absurd rfl h
  | cons u us => rfl

end P4Outline.Text

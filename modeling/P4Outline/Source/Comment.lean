/-!
# Removing comments

Block comments go first, from `/*` to the next `*/` over any lines; then line comments, from `//` to
just before the next line break. A `/*` that is never closed stays as it is.

The two passes are independent: the first one does not know of line comments, so a `/*` inside one
opens a block.
-/

namespace P4Outline.Source

/-- The text after the first `*/`, if there is one. -/
def afterClose? : List Char → Option (List Char)
  | '*' :: '/' :: rest => some rest
  | _ :: rest => afterClose? rest
  | [] => none

theorem length_lt_of_afterClose? {cs rest : List Char} (h : afterClose? cs = some rest) :
    rest.length < cs.length := by
  fun_induction afterClose? cs with
  | case1 _ => cases h; simp only [List.length_cons]; omega
  | case2 _ _ _ ih => have := ih h; simp only [List.length_cons]; omega
  | case3 => simp at h

/-- The text without its block comments. -/
def withoutBlockComments (cs : List Char) : List Char :=
  match cs with
  | [] => []
  | '/' :: '*' :: body =>
    match _h : afterClose? body with
    | some rest => withoutBlockComments rest
    | none => '/' :: '*' :: body
  | c :: cs => c :: withoutBlockComments cs
termination_by cs.length
decreasing_by
  · have := length_lt_of_afterClose? _h; simp only [List.length_cons]; omega
  · simp

/-- The text without its line comments. -/
def withoutLineComments (cs : List Char) : List Char :=
  match cs with
  | [] => []
  | '/' :: '/' :: rest => withoutLineComments (rest.dropWhile (· ≠ '\n'))
  | c :: cs => c :: withoutLineComments cs
termination_by cs.length
decreasing_by
  · have := (List.dropWhile_suffix (l := rest) (fun c => decide (c ≠ '\n'))).length_le
    simp only [List.length_cons]; omega
  · simp

/-- The text without its comments. -/
def withoutComments (cs : List Char) : List Char := withoutLineComments (withoutBlockComments cs)

end P4Outline.Source

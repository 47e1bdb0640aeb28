import P4Outline.Text.Word

/-!
# Searching a text

`first?` walks a text from its front and reports the first place where a reader succeeds. A reader
is any function from the text at a place to what it reads there. Which places count depends on the
character before them: `after c` says whether a reader may start behind `c`.
-/

namespace P4Outline.Text

/-- A place behind which a whole word may start: any character that is part of no word. -/
def endsWord (c : Char) : Bool := !isWord c

/-- A place behind which a bare name may start: as for a whole word, and no dot that would make it a
member. -/
def endsMember (c : Char) : Bool := !(isWord c || c = '.')

/-- The first place where `read?` succeeds, as its distance from the front, with what was read. The
front itself counts if `free` holds. -/
def first? (read? : List Char → Option α) (after : Char → Bool) (free : Bool) :
    List Char → Option (Nat × α)
  | [] => none
  | c :: cs =>
    match if free then read? (c :: cs) else none with
    | some a => some (0, a)
    | none => (first? read? after (after c) cs).map fun (n, a) => (n + 1, a)

/-- The text behind the first occurrence of a character. -/
def afterFirst? (mark : Char) (cs : List Char) : Option (List Char) :=
  match cs.dropWhile (· ≠ mark) with
  | _ :: rest => some rest
  | [] => none

end P4Outline.Text

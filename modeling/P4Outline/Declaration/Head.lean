import P4Outline.Declaration.Kind
import P4Outline.Text.Search

/-!
# Heads of declarations

A head is a keyword, white space, a name and the kind's opening: `table t {`, `control C<H>(`. It is
read in two ways.

* `head?` reads whatever name stands there, which is a word.
* `headNamed?` reads the head of a given name, which may be any text.
-/

namespace P4Outline

open P4Outline.Text

/-- The text from its first character that is no blank, if at least one blank stands before that. -/
def afterBlanks? : List Char → Option (List Char)
  | c :: cs => if isBlank c then some (skipBlanks cs) else none
  | [] => none

/-- What `read?` makes of a text behind one or more blanks, of which it is given as many as it can
do without. -/
def pastBlanks? (read? : List Char → Option α) : List Char → Option α
  | c :: cs => if isBlank c then (pastBlanks? read? cs).or (read? cs) else none
  | [] => none

/-- The text behind a name and the opening of a kind. -/
def Kind.afterName? (k : Kind) (name cs : List Char) : Option (List Char) :=
  (name.isPrefixOf? cs).bind k.opening.after?

/-- Reads the head of a declaration: its name, and the text behind its opening. -/
def Kind.head? (k : Kind) (cs : List Char) : Option (List Char × List Char) :=
  match (k.keyword.isPrefixOf? cs).bind afterBlanks? with
  | none => none
  | some named =>
    if (word named).isEmpty then none
    else (k.opening.after? (afterWord named)).map fun rest => (word named, rest)

/-- Reads the head of the declaration of a given name: the text behind its opening. -/
def Kind.headNamed? (k : Kind) (name cs : List Char) : Option (List Char) :=
  (k.keyword.isPrefixOf? cs).bind (pastBlanks? (k.afterName? name))

/-! ### Lengths -/

theorem eq_append_of_isPrefixOf? {p cs rest : List Char} (h : p.isPrefixOf? cs = some rest) :
    cs = p ++ rest := by
  induction p generalizing cs with
  | nil => exact Option.some.inj h
  | cons c p ih =>
    cases cs with
    | nil => exact nomatch h
    | cons d ds =>
      change (if c == d then p.isPrefixOf? ds else none) = some rest at h
      split at h
      · next hcd => rw [ih h, eq_of_beq hcd]; rfl
      · simp at h

theorem length_le_of_afterBlanks? {cs rest : List Char} (h : afterBlanks? cs = some rest) :
    rest.length ≤ cs.length := by
  cases cs with
  | nil => simp [afterBlanks?] at h
  | cons c cs =>
    rw [afterBlanks?] at h
    split at h
    · cases h
      have := length_skipBlanks_le cs
      simp only [List.length_cons]
      omega
    · simp at h

theorem Kind.length_lt_of_head? {k : Kind} {cs name rest : List Char}
    (h : k.head? cs = some (name, rest)) :
    rest.length < cs.length := by
  unfold Kind.head? at h
  split at h
  · simp at h
  · next named hn =>
    obtain ⟨mid, hm, ha⟩ := Option.bind_eq_some_iff.1 hn
    split at h
    · simp at h
    · obtain ⟨r, hr, he⟩ := Option.map_eq_some_iff.1 h
      cases he
      have h1 := congrArg List.length (eq_append_of_isPrefixOf? hm)
      have h2 := length_le_of_afterBlanks? ha
      have h3 := Opening.length_lt_of_after? hr
      have h4 : (afterWord named).length ≤ named.length := (List.dropWhile_suffix _).length_le
      rw [List.length_append] at h1
      omega

end P4Outline

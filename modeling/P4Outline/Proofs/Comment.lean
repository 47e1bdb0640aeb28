import Mathlib.Data.List.TakeWhile
import P4Outline.Source.Comment

/-!
# Comments, read from left to right

`skipComments` reads a text once, from left to right: whichever comment opens first decides where
the text goes on. Comments are removed in two passes instead, block comments first, and the first
pass does not know of line comments. So a block comment may open inside a line comment, and take the
rest of the line and more with it.

* `withoutComments_line`: a line comment goes as it should, unless a block comment undoes it.
* `withoutComments_eq_skipComments_iff`: both ways agree on a text and on all its beginnings exactly
  if no line comment is undone.
-/

namespace P4Outline.Source

/-! ### One pass -/

/-- The text without its comments, each of them skipped where it opens. A `/*` that is never closed
stays as it is. -/
def skipComments (cs : List Char) : List Char :=
  match cs with
  | [] => []
  | '/' :: '*' :: body =>
    match _h : afterClose? body with
    | some rest => skipComments rest
    | none => '/' :: '*' :: skipComments body
  | '/' :: '/' :: rest => skipComments (rest.dropWhile (· ≠ '\n'))
  | c :: cs => c :: skipComments cs
termination_by cs.length
decreasing_by
  · have := length_lt_of_afterClose? _h; simp only [List.length_cons]; omega
  · simp only [List.length_cons]; omega
  · have := (List.dropWhile_suffix (l := rest) (fun c => decide (c ≠ '\n'))).length_le
    simp only [List.length_cons]; omega
  · simp

/-- Whether a block comment begins on the first line of a text and ends below it. -/
def overruns (cs : List Char) : Bool :=
  match cs with
  | [] => false
  | '/' :: '*' :: body =>
    match _h : afterClose? body with
    | some rest => (body.take (body.length - rest.length)).contains '\n' || overruns rest
    | none => false
  | c :: cs => c != '\n' && overruns cs
termination_by cs.length
decreasing_by
  · have := length_lt_of_afterClose? _h; simp only [List.length_cons]; omega
  · simp

/-- Whether a block comment undoes the line comment that opens just before a text: it begins at the
second slash, or it begins on the line and ends below it. -/
def undoesLine (cs : List Char) : Bool :=
  match cs with
  | '*' :: body => (afterClose? body).isSome || overruns cs
  | _ => overruns cs

/-- Whether no line comment of a text is undone. -/
def lineCommentsHold (cs : List Char) : Bool :=
  match cs with
  | [] => true
  | '/' :: '*' :: body =>
    match _h : afterClose? body with
    | some rest => lineCommentsHold rest
    | none => lineCommentsHold body
  | '/' :: '/' :: rest => !undoesLine rest && lineCommentsHold (rest.dropWhile (· ≠ '\n'))
  | _ :: cs => lineCommentsHold cs
termination_by cs.length
decreasing_by
  · have := length_lt_of_afterClose? _h; simp only [List.length_cons]; omega
  · simp only [List.length_cons]; omega
  · have := (List.dropWhile_suffix (l := rest) (fun c => decide (c ≠ '\n'))).length_le
    simp only [List.length_cons]; omega
  · simp

/-! ### The end of a block comment -/

/-- The text up to the end of a block comment ends it whatever follows. -/
theorem exists_of_afterClose? {cs rest : List Char} (h : afterClose? cs = some rest) :
    ∃ body, cs = body ++ rest ∧ ∀ more, afterClose? (body ++ more) = some more := by
  fun_induction afterClose? cs with
  | case1 rest' =>
    cases h
    exact ⟨['*', '/'], rfl, fun more => rfl⟩
  | case2 c cs hc ih =>
    obtain ⟨body, rfl, hb⟩ := ih h
    refine ⟨c :: body, rfl, ?_⟩
    intro more
    -- the text up to the end is not empty, so that more text changes nothing of its first two
    -- characters
    obtain ⟨d, body, rfl⟩ : ∃ d body', body = d :: body' := by
      cases body with
      | nil => exact absurd (hb []) (by simp [afterClose?])
      | cons d body => exact ⟨d, body, rfl⟩
    rw [List.cons_append, ← hb more]
    exact afterClose?.eq_2 _ _ fun rest' h1 h2 => hc _ h1 (by
      rw [List.cons_append] at h2 ⊢
      rw [(List.cons.inj h2).1])
  | case3 => simp at h

theorem afterClose?_append {cs rest : List Char} (h : afterClose? cs = some rest)
    (more : List Char) :
    afterClose? (cs ++ more) = some (rest ++ more) := by
  obtain ⟨body, rfl, hb⟩ := exists_of_afterClose? h
  rw [List.append_assoc, hb]

/-- A text that ends no block comment has no part that ends one. -/
theorem afterClose?_cons_of_none {c : Char} {cs : List Char} (h : afterClose? (c :: cs) = none) :
    afterClose? cs = none := by
  rw [afterClose?.eq_def] at h
  split at h
  · simp at h
  · next hc => cases hc; exact h
  · next hc => simp at hc

theorem afterClose?_none_of_suffix {cs part : List Char} (hs : part <:+ cs)
    (h : afterClose? cs = none) :
    afterClose? part = none := by
  obtain ⟨front, rfl⟩ := hs
  induction front with
  | nil => exact h
  | cons c front ih => exact ih (afterClose?_cons_of_none h)

theorem afterClose?_none_of_beginning {cs front : List Char} (hp : front <+: cs)
    (h : afterClose? cs = none) :
    afterClose? front = none := by
  obtain ⟨more, rfl⟩ := hp
  cases hf : afterClose? front with
  | none => rfl
  | some rest => rw [afterClose?_append hf] at h; simp at h

/-! ### How comments are removed

A text begins with a comment's opening or with a character of its own; `Plain` is the second of
these. -/

/-- No comment opens at the front of a text whose first character is `c`. -/
def Plain (c : Char) (cs : List Char) : Prop := c = '/' → ∀ d ∈ cs.head?, d ≠ '*' ∧ d ≠ '/'

theorem Plain.of_beginning {c : Char} {cs front : List Char} (h : Plain c cs) (hp : front <+: cs) :
    Plain c front := by
  intro hc d hd
  obtain ⟨more, rfl⟩ := hp
  cases front with
  | nil => simp at hd
  | cons e front => exact h hc d (by simpa using hd)

/-- Comments open at the front of a text, or they do not. -/
theorem plain_or_opening (c : Char) (cs : List Char) :
    (∃ body, c :: cs = '/' :: '*' :: body) ∨ (∃ rest, c :: cs = '/' :: '/' :: rest) ∨
    Plain c cs := by
  by_cases hc : c = '/'
  · subst hc
    cases cs with
    | nil => exact .inr (.inr fun _ d hd => by simp at hd)
    | cons d cs =>
      by_cases h1 : d = '*'
      · exact .inl ⟨cs, by rw [h1]⟩
      · by_cases h2 : d = '/'
        · exact .inr (.inl ⟨cs, by rw [h2]⟩)
        · refine .inr (.inr ?_)
          intro _ e he
          cases he
          exact ⟨h1, h2⟩
  · exact .inr (.inr fun h => absurd h hc)

theorem withoutBlockComments_cons {c : Char} {cs : List Char} (h : Plain c cs) :
    withoutBlockComments (c :: cs) = c :: withoutBlockComments cs := by
  refine withoutBlockComments.eq_3 c cs ?_
  intro body h1 h2
  exact (h h1 '*' (by rw [h2]; rfl)).1 rfl

theorem withoutBlockComments_closed {body rest : List Char} (h : afterClose? body = some rest) :
    withoutBlockComments ('/' :: '*' :: body) = withoutBlockComments rest := by
  rw [withoutBlockComments.eq_2]
  split
  · next r hr => rw [h] at hr; cases hr; rfl
  · next hn => rw [h] at hn; simp at hn

theorem withoutBlockComments_unclosed {body : List Char} (h : afterClose? body = none) :
    withoutBlockComments ('/' :: '*' :: body) = '/' :: '*' :: body := by
  rw [withoutBlockComments.eq_2]
  split
  · next r hr => rw [h] at hr; simp at hr
  · rfl

/-- A text that ends no block comment has none to lose. -/
theorem withoutBlockComments_of_none {cs : List Char} (h : afterClose? cs = none) :
    withoutBlockComments cs = cs := by
  fun_induction withoutBlockComments cs with
  | case1 => rfl
  | case2 body rest hr =>
    have hb := afterClose?_cons_of_none (afterClose?_cons_of_none h)
    rw [hr] at hb
    simp at hb
  | case3 => rfl
  | case4 c cs _ ih => rw [ih (afterClose?_cons_of_none h)]

theorem withoutLineComments_cons {c : Char} {cs : List Char}
    (h : c = '/' → ∀ d ∈ cs.head?, d ≠ '/') :
    withoutLineComments (c :: cs) = c :: withoutLineComments cs := by
  refine withoutLineComments.eq_3 c cs ?_
  intro rest h1 h2
  exact h h1 '/' (by rw [h2]; rfl) rfl

/-- The first character of a text that begins with none of its comments stays the first one. -/
theorem head?_withoutBlockComments {cs : List Char} (h : ∀ d ∈ cs.head?, d ≠ '/') :
    (withoutBlockComments cs).head? = cs.head? := by
  cases cs with
  | nil => rw [withoutBlockComments]
  | cons d cs =>
    have hd : d ≠ '/' := h d rfl
    rw [withoutBlockComments_cons fun he => absurd he hd]
    rfl

/-! ### Removal, opening by opening -/

theorem withoutComments_nil : withoutComments [] = [] := by
  rw [withoutComments, withoutBlockComments, withoutLineComments]

theorem withoutComments_closed {body rest : List Char} (h : afterClose? body = some rest) :
    withoutComments ('/' :: '*' :: body) = withoutComments rest := by
  rw [withoutComments, withoutBlockComments_closed h, withoutComments]

theorem withoutComments_unclosed {body : List Char} (h : afterClose? body = none) :
    withoutComments ('/' :: '*' :: body) = '/' :: '*' :: withoutComments body := by
  rw [withoutComments, withoutBlockComments_unclosed h, withoutComments,
    withoutBlockComments_of_none h, withoutLineComments_cons (by intro _ d hd; cases hd; decide),
    withoutLineComments_cons (by intro he; exact absurd he (by decide))]

theorem withoutComments_cons {c : Char} {cs : List Char} (h : Plain c cs) :
    withoutComments (c :: cs) = c :: withoutComments cs := by
  rw [withoutComments, withoutBlockComments_cons h, withoutLineComments_cons, withoutComments]
  intro hc d hd
  have hp := h hc
  rw [head?_withoutBlockComments fun e he => (hp e he).2] at hd
  exact (hp d hd).2

/-- The text up to a line break, and the text from it on. -/
theorem exists_line (cs : List Char) : ∃ line, '\n' ∉ line ∧ cs = line ++ cs.dropWhile (· ≠ '\n') :=
  ⟨cs.takeWhile (· ≠ '\n'), fun hm => by simpa using List.mem_takeWhile_imp hm,
    List.takeWhile_append_dropWhile.symm⟩

theorem dropWhile_line {line : List Char} (h : '\n' ∉ line) (rest : List Char) :
    (line ++ rest).dropWhile (· ≠ '\n') = rest.dropWhile (· ≠ '\n') := by
  refine List.dropWhile_append_of_pos ?_
  intro c hc
  have hne : c ≠ '\n' := by rintro rfl; exact h hc
  simpa using hne

/-- What is below a line is nothing, or begins with the line break. -/
theorem below_line (cs : List Char) :
    cs.dropWhile (· ≠ '\n') = [] ∨ ∃ below, cs.dropWhile (· ≠ '\n') = '\n' :: below := by
  cases h : cs.dropWhile (· ≠ '\n') with
  | nil => exact .inl rfl
  | cons c below =>
    have hc := List.head?_dropWhile_not (· ≠ '\n') cs
    rw [h] at hc
    exact .inr ⟨below, by simpa using hc⟩

/-- Block comments that end on the line they begin on leave the line break where it is. -/
theorem withoutBlockComments_of_overruns {cs : List Char} (h : overruns cs = false) :
    ∃ kept, '\n' ∉ kept ∧
      withoutBlockComments cs = kept ++ withoutBlockComments (cs.dropWhile (· ≠ '\n')) := by
  fun_induction overruns cs with
  | case1 => exact ⟨[], by simp, rfl⟩
  | case2 body rest hr ih =>
    obtain ⟨text, rfl, -⟩ := exists_of_afterClose? hr
    rw [Bool.or_eq_false_iff] at h
    have htext : '\n' ∉ '/' :: '*' :: text := by simpa using h.1
    obtain ⟨kept, hk, he⟩ := ih h.2
    have hd := dropWhile_line htext rest
    rw [List.cons_append, List.cons_append] at hd
    exact ⟨kept, hk, by rw [withoutBlockComments_closed hr, hd, he]⟩
  | case3 body hn =>
    obtain ⟨line, hl, he⟩ := exists_line body
    have hd : ('/' :: '*' :: body).dropWhile (· ≠ '\n') = body.dropWhile (· ≠ '\n') := rfl
    refine ⟨'/' :: '*' :: line, by simpa using hl, ?_⟩
    rw [hd, withoutBlockComments_of_none (afterClose?_none_of_suffix (List.dropWhile_suffix _) hn),
      withoutBlockComments_unclosed hn, List.cons_append, List.cons_append, ← he]
  | case4 c cs hc ih =>
    rw [Bool.and_eq_false_iff] at h
    have hp : withoutBlockComments (c :: cs) = c :: withoutBlockComments cs :=
      withoutBlockComments.eq_3 c cs fun body h1 h2 => hc body h1 h2
    by_cases hcn : c = '\n'
    · subst hcn
      exact ⟨[], by simp, rfl⟩
    · obtain ⟨kept, hk, he⟩ := ih (h.resolve_left (by simpa using hcn))
      refine ⟨c :: kept, by simpa [hk] using Ne.symm hcn, ?_⟩
      have hd := @dropWhile_line [c] (by simpa using Ne.symm hcn) cs
      rw [List.singleton_append] at hd
      rw [hp, he, hd, List.cons_append]

/-- A line comment that no block comment undoes goes, up to the line break. -/
theorem withoutComments_line {rest : List Char} (h : undoesLine rest = false) :
    withoutComments ('/' :: '/' :: rest) = withoutComments (rest.dropWhile (· ≠ '\n')) := by
  have hover : overruns rest = false := by
    unfold undoesLine at h
    split at h
    · exact (Bool.or_eq_false_iff.1 h).2
    · exact h
  -- the second slash stays with the first one
  have hslash : withoutBlockComments ('/' :: rest) = '/' :: withoutBlockComments rest := by
    unfold undoesLine at h
    split at h
    · next body =>
      have hn : afterClose? body = none := by simpa using (Bool.or_eq_false_iff.1 h).1
      rw [withoutBlockComments_unclosed hn,
        withoutBlockComments_cons fun he => absurd he (by decide), withoutBlockComments_of_none hn]
    · next hb => exact withoutBlockComments.eq_3 _ _ fun body _ he => hb body he
  have hfirst : withoutBlockComments ('/' :: '/' :: rest) =
      '/' :: withoutBlockComments ('/' :: rest) :=
    withoutBlockComments.eq_3 _ _ fun body _ he => by simp at he
  obtain ⟨kept, hk, he⟩ := withoutBlockComments_of_overruns hover
  rw [withoutComments, hfirst, hslash, withoutLineComments.eq_2, he, dropWhile_line hk,
    withoutComments]
  congr 1
  rcases below_line rest with hb | ⟨below, hb⟩
  · rw [hb, withoutBlockComments]; rfl
  · rw [hb, withoutBlockComments_cons fun he => absurd he (by decide)]; rfl

/-! ### The single pass, opening by opening -/

theorem skipComments_closed {body rest : List Char} (h : afterClose? body = some rest) :
    skipComments ('/' :: '*' :: body) = skipComments rest := by
  rw [skipComments.eq_2]
  split
  · next r hr => rw [h] at hr; cases hr; rfl
  · next hn => rw [h] at hn; simp at hn

theorem skipComments_unclosed {body : List Char} (h : afterClose? body = none) :
    skipComments ('/' :: '*' :: body) = '/' :: '*' :: skipComments body := by
  rw [skipComments.eq_2]
  split
  · next r hr => rw [h] at hr; simp at hr
  · rfl

theorem skipComments_cons {c : Char} {cs : List Char} (h : Plain c cs) :
    skipComments (c :: cs) = c :: skipComments cs := by
  apply skipComments.eq_4
  · intro body h1 h2
    exact (h h1 '*' (by rw [h2]; rfl)).1 rfl
  · intro rest h1 h2
    exact (h h1 '/' (by rw [h2]; rfl)).2 rfl

/-! ### Where no line comment is undone -/

theorem lineCommentsHold_closed {body rest : List Char} (h : afterClose? body = some rest) :
    lineCommentsHold ('/' :: '*' :: body) = lineCommentsHold rest := by
  rw [lineCommentsHold.eq_2]
  split
  · next r hr => rw [h] at hr; cases hr; rfl
  · next hn => rw [h] at hn; simp at hn

theorem lineCommentsHold_unclosed {body : List Char} (h : afterClose? body = none) :
    lineCommentsHold ('/' :: '*' :: body) = lineCommentsHold body := by
  rw [lineCommentsHold.eq_2]
  split
  · next r hr => rw [h] at hr; simp at hr
  · rfl

theorem lineCommentsHold_cons {c : Char} {cs : List Char} (h : Plain c cs) :
    lineCommentsHold (c :: cs) = lineCommentsHold cs := by
  apply lineCommentsHold.eq_4
  · intro body h1 h2
    exact (h h1 '*' (by rw [h2]; rfl)).1 rfl
  · intro rest h1 h2
    exact (h h1 '/' (by rw [h2]; rfl)).2 rfl

/-- Texts, read comment by comment. -/
theorem comments_ind {motive : List Char → Prop} (nil : motive [])
    (closed : ∀ body rest, afterClose? body = some rest → motive rest → motive ('/' :: '*' :: body))
    (unclosed : ∀ body, afterClose? body = none → motive body → motive ('/' :: '*' :: body))
    (line : ∀ rest, motive (rest.dropWhile (· ≠ '\n')) → motive ('/' :: '/' :: rest))
    (plain : ∀ c cs, Plain c cs → motive cs → motive (c :: cs)) (cs : List Char) : motive cs := by
  -- the induction is on the length, since a comment is skipped in one step
  induction hn : cs.length using Nat.strongRecOn generalizing cs with
  | ind n ih =>
    subst hn
    cases cs with
    | nil => exact nil
    | cons c cs =>
      rcases plain_or_opening c cs with ⟨body, h⟩ | ⟨rest, h⟩ | h
      · rw [h] at ih ⊢
        cases hb : afterClose? body with
        | none => exact unclosed body hb (ih _ (by simp only [List.length_cons]; omega) body rfl)
        | some rest =>
          have hl := length_lt_of_afterClose? hb
          exact closed body rest hb (ih _ (by simp only [List.length_cons]; omega) rest rfl)
      · rw [h] at ih ⊢
        have hl := (List.dropWhile_suffix (l := rest) (fun c => decide (c ≠ '\n'))).length_le
        exact line rest (ih _ (by simp only [List.length_cons]; omega) _ rfl)
      · exact plain c cs h (ih _ (by simp) cs rfl)

/-- A text without the end of a block comment has nothing in it that undoes a line comment. -/
theorem overruns_of_none {cs : List Char} (h : afterClose? cs = none) : overruns cs = false := by
  fun_induction overruns cs with
  | case1 => rfl
  | case2 body rest hr =>
    have hb := afterClose?_cons_of_none (afterClose?_cons_of_none h)
    rw [hr] at hb
    simp at hb
  | case3 => rfl
  | case4 c cs _ ih => rw [ih (afterClose?_cons_of_none h), Bool.and_false]

theorem undoesLine_of_none {cs : List Char} (h : afterClose? cs = none) :
    undoesLine cs = false := by
  unfold undoesLine
  split
  · rw [overruns_of_none h, afterClose?_cons_of_none h]; rfl
  · exact overruns_of_none h

theorem lineCommentsHold_of_none {cs : List Char} (h : afterClose? cs = none) :
    lineCommentsHold cs = true := by
  induction cs using comments_ind with
  | nil => rw [lineCommentsHold]
  | closed body rest hr =>
    have hb := afterClose?_cons_of_none (afterClose?_cons_of_none h)
    rw [hr] at hb
    simp at hb
  | unclosed body hn ih => rw [lineCommentsHold_unclosed hn, ih hn]
  | line rest ih =>
    have hr := afterClose?_cons_of_none (afterClose?_cons_of_none h)
    rw [lineCommentsHold.eq_3, undoesLine_of_none hr,
      ih (afterClose?_none_of_suffix (List.dropWhile_suffix _) hr)]
    rfl
  | plain c cs hp ih => rw [lineCommentsHold_cons hp, ih (afterClose?_cons_of_none h)]

/-- Both ways agree on a text none of whose line comments is undone. -/
theorem withoutComments_of_lineCommentsHold {cs : List Char} (h : lineCommentsHold cs = true) :
    withoutComments cs = skipComments cs := by
  induction cs using comments_ind with
  | nil => rw [withoutComments_nil, skipComments]
  | closed body rest hr ih =>
    rw [lineCommentsHold_closed hr] at h
    rw [withoutComments_closed hr, skipComments_closed hr, ih h]
  | unclosed body hn ih =>
    rw [lineCommentsHold_unclosed hn] at h
    rw [withoutComments_unclosed hn, skipComments_unclosed hn, ih h]
  | line rest ih =>
    rw [lineCommentsHold.eq_3, Bool.and_eq_true, Bool.not_eq_true'] at h
    rw [withoutComments_line h.1, skipComments.eq_3, ih h.2]
  | plain c cs hp ih =>
    rw [lineCommentsHold_cons hp] at h
    rw [withoutComments_cons hp, skipComments_cons hp, ih h]

/-! ### Beginnings of a text -/

theorem overruns_of_beginning {cs front : List Char} (hp : front <+: cs)
    (h : overruns front = true) :
    overruns cs = true := by
  obtain ⟨more, rfl⟩ := hp
  fun_induction overruns front with
  | case1 => simp at h
  | case2 body rest hr ih =>
    obtain ⟨text, rfl, -⟩ := exists_of_afterClose? hr
    have hm := afterClose?_append hr more
    rw [List.cons_append, List.cons_append, overruns.eq_2]
    split
    · next r hr' =>
      rw [hm] at hr'
      cases hr'
      rw [Bool.or_eq_true] at h ⊢
      refine h.imp ?_ ih
      intro hn
      simpa using hn
    · next hn => rw [hm] at hn; simp at hn
  | case3 => simp at h
  | case4 c cs hc ih =>
    rw [Bool.and_eq_true] at h
    -- what overruns its line is not empty, so that more text behind it changes no opening in front
    obtain ⟨d, cs, rfl⟩ : ∃ d cs', cs = d :: cs' := by
      cases cs with
      | nil => simp [overruns] at h
      | cons d cs => exact ⟨d, cs, rfl⟩
    have he := overruns.eq_3 c (d :: cs ++ more) fun body h1 h2 => hc cs h1 (by
      rw [List.cons_append] at h2
      rw [(List.cons.inj h2).1])
    rw [List.cons_append, he, h.1, ih h.2]
    rfl

theorem undoesLine_of_beginning {cs front : List Char} (hp : front <+: cs)
    (h : undoesLine front = true) :
    undoesLine cs = true := by
  have ho := overruns_of_beginning hp
  obtain ⟨more, rfl⟩ := hp
  unfold undoesLine at h
  split at h
  · next body =>
    rw [Bool.or_eq_true] at h
    rw [List.cons_append] at ho ⊢
    rw [undoesLine, Bool.or_eq_true]
    refine h.imp ?_ ho
    intro hb
    obtain ⟨rest, hr⟩ := Option.isSome_iff_exists.1 hb
    rw [afterClose?_append hr]
    rfl
  · unfold undoesLine
    split
    · next he => rw [Bool.or_eq_true]; exact .inr (he ▸ ho h)
    · exact ho h

theorem undoesLine_eq_false_of_beginning {cs front : List Char} (hp : front <+: cs)
    (h : undoesLine cs = false) :
    undoesLine front = false := by
  rw [← Bool.not_eq_true] at h ⊢
  exact mt (undoesLine_of_beginning hp) h

/-- Where a text begins that begins with two given characters. -/
theorem prefix_cons_cons {c d : Char} {cs front : List Char} (h : front <+: c :: d :: cs) :
    front = [] ∨ front = [c] ∨ ∃ more, front = c :: d :: more ∧ more <+: cs := by
  match front, h with
  | [], _ => exact .inl rfl
  | [e], h => rw [(List.cons_prefix_cons.1 h).1]; exact .inr (.inl rfl)
  | e :: f :: more, h =>
    obtain ⟨he, h⟩ := List.cons_prefix_cons.1 h
    obtain ⟨hf, h⟩ := List.cons_prefix_cons.1 h
    exact .inr (.inr ⟨more, by rw [he, hf], h⟩)

/-- A beginning of what is below a line has nothing more of that line. -/
theorem dropWhile_below {cs front : List Char} (hp : front <+: cs.dropWhile (· ≠ '\n')) :
    front.dropWhile (· ≠ '\n') = front := by
  rcases below_line cs with hb | ⟨below, hb⟩
  · rw [hb, List.prefix_nil] at hp
    rw [hp]
    rfl
  · rw [hb] at hp
    cases front with
    | nil => rfl
    | cons c front => rw [(List.cons_prefix_cons.1 hp).1]; rfl

theorem dropWhile_beginning {cs front : List Char} (hp : front <+: cs) :
    front.dropWhile (· ≠ '\n') <+: cs.dropWhile (· ≠ '\n') := by
  obtain ⟨line, hl, he⟩ := exists_line cs
  rw [he] at hp
  rcases List.prefix_or_prefix_of_prefix hp (List.prefix_append line _) with hf | ⟨more, rfl⟩
  · have hn : front.dropWhile (· ≠ '\n') = [] := by
      have hd := @dropWhile_line front (fun hm => hl (hf.subset hm)) []
      rwa [List.append_nil] at hd
    rw [hn]
    exact List.nil_prefix
  · have hm := (List.prefix_append_right_inj line).1 hp
    rw [dropWhile_line hl, dropWhile_below hm]
    exact hm

/-- No line comment is undone in the beginnings of a text in which none is. -/
theorem lineCommentsHold_of_beginning {cs front : List Char} (hp : front <+: cs)
    (h : lineCommentsHold cs = true) :
    lineCommentsHold front = true := by
  induction cs using comments_ind generalizing front with
  | nil => rw [List.prefix_nil.1 hp, lineCommentsHold]
  | closed body rest hr ih =>
    rw [lineCommentsHold_closed hr] at h
    rcases prefix_cons_cons hp with rfl | rfl | ⟨more, rfl, hm⟩
    · rw [lineCommentsHold]
    · exact lineCommentsHold_of_none rfl
    · -- a block comment that the beginning cuts off is none, and no comment of it is closed any
      -- more
      cases hf : afterClose? more with
      | none => rw [lineCommentsHold_unclosed hf, lineCommentsHold_of_none hf]
      | some front =>
        rw [lineCommentsHold_closed hf]
        obtain ⟨last, rfl⟩ := hm
        rw [afterClose?_append hf last] at hr
        cases hr
        exact ih (List.prefix_append front last) h
  | unclosed body hn ih =>
    rcases prefix_cons_cons hp with rfl | rfl | ⟨more, rfl, hm⟩
    · rw [lineCommentsHold]
    · exact lineCommentsHold_of_none rfl
    · have hf := afterClose?_none_of_beginning hm hn
      rw [lineCommentsHold_unclosed hf, lineCommentsHold_of_none hf]
  | line rest ih =>
    rw [lineCommentsHold.eq_3, Bool.and_eq_true, Bool.not_eq_true'] at h
    rcases prefix_cons_cons hp with rfl | rfl | ⟨more, rfl, hm⟩
    · rw [lineCommentsHold]
    · exact lineCommentsHold_of_none rfl
    · rw [lineCommentsHold.eq_3, undoesLine_eq_false_of_beginning hm h.1,
        ih (dropWhile_beginning hm) h.2]
      rfl
  | plain c cs hc ih =>
    rw [lineCommentsHold_cons hc] at h
    cases front with
    | nil => rw [lineCommentsHold]
    | cons d front =>
      obtain ⟨rfl, hf⟩ := List.cons_prefix_cons.1 hp
      rw [lineCommentsHold_cons (hc.of_beginning hf), ih hf h]

/-- Where a block comment overruns the line it begins on, a beginning of the text loses its line
breaks. -/
theorem exists_of_overruns {cs : List Char} (h : overruns cs = true) :
    ∃ front, front <+: cs ∧ '\n' ∈ front ∧ '\n' ∉ withoutBlockComments front := by
  fun_induction overruns cs with
  | case1 => simp at h
  | case2 body rest hr ih =>
    obtain ⟨text, rfl, ht⟩ := exists_of_afterClose? hr
    by_cases hn : '\n' ∈ text
    · -- this comment is the one: the beginning ends with it
      have hc := ht []
      rw [List.append_nil] at hc
      refine ⟨'/' :: '*' :: text, List.prefix_append ('/' :: '*' :: text) rest, by simp [hn], ?_⟩
      rw [withoutBlockComments_closed hc, withoutBlockComments]
      simp
    · obtain ⟨front, hp, hm, hl⟩ := ih (by simpa [hn] using h)
      refine ⟨'/' :: '*' :: text ++ front,
        (List.prefix_append_right_inj ('/' :: '*' :: text)).2 hp, by simp [hm], ?_⟩
      rw [List.cons_append, List.cons_append, withoutBlockComments_closed (ht front)]
      exact hl
  | case3 => simp at h
  | case4 c cs hc ih =>
    rw [Bool.and_eq_true] at h
    obtain ⟨front, hp, hm, hl⟩ := ih h.2
    refine ⟨c :: front, List.cons_prefix_cons.2 ⟨rfl, hp⟩, by simp [hm], ?_⟩
    rw [withoutBlockComments.eq_3 c front]
    · have hcn : c ≠ '\n' := by simpa using h.1
      simpa [hl] using Ne.symm hcn
    · intro body h1 h2
      obtain ⟨more, rfl⟩ := h2 ▸ hp
      exact hc (body ++ more) h1 rfl

/-- The scan leaves the line break of a line comment, if there is one. -/
theorem skipComments_line (rest : List Char) :
    ('\n' ∉ rest ∧ skipComments ('/' :: '/' :: rest) = []) ∨
      ∃ below, skipComments ('/' :: '/' :: rest) = '\n' :: below := by
  rw [skipComments.eq_3]
  rcases below_line rest with hb | ⟨below, hb⟩
  · refine .inl ⟨?_, by rw [hb, skipComments]⟩
    intro hm
    simpa using List.dropWhile_eq_nil_iff.1 hb _ hm
  · exact .inr ⟨skipComments below, by rw [hb, skipComments_cons fun h => absurd h (by decide)]⟩

theorem withoutBlockComments_slashes (cs : List Char) :
    withoutBlockComments ('/' :: '/' :: cs) = '/' :: withoutBlockComments ('/' :: cs) := by
  apply withoutBlockComments.eq_3
  intro body _ he
  simp at he

/-- A block comment that takes the second slash leaves the first one. -/
theorem withoutComments_of_star {text : List Char} (h : afterClose? text = some []) :
    withoutComments ('/' :: '/' :: '*' :: text) = ['/'] := by
  rw [withoutComments, withoutBlockComments_slashes, withoutBlockComments_closed h,
    withoutBlockComments, withoutLineComments_cons (by simp), withoutLineComments]

/-- A block comment that takes the line break leaves nothing. -/
theorem withoutComments_of_overrun {front : List Char} (hm : '\n' ∈ front)
    (hl : '\n' ∉ withoutBlockComments front)
    (hs : ∀ body, front = '*' :: body → afterClose? body = none) :
    withoutComments ('/' :: '/' :: front) = [] := by
  have hslash : withoutBlockComments ('/' :: front) = '/' :: withoutBlockComments front := by
    apply withoutBlockComments.eq_3
    intro body _ hb
    rw [hb, withoutBlockComments_cons fun h => absurd h (by decide),
      withoutBlockComments_of_none (hs body hb), ← hb] at hl
    exact hl hm
  have hd := dropWhile_line hl []
  rw [List.append_nil] at hd
  rw [withoutComments, withoutBlockComments_slashes, hslash, withoutLineComments.eq_2, hd,
    List.dropWhile_nil, withoutLineComments]

/-- A line comment that is undone is so in a beginning of the text, where the two ways come
apart. -/
theorem exists_of_undoesLine {rest : List Char} (h : undoesLine rest = true) :
    ∃ front, front <+: rest ∧
      withoutComments ('/' :: '/' :: front) ≠ skipComments ('/' :: '/' :: front) := by
  -- either the text opens with a star that makes the slashes' second one open a block, which
  -- closes, or a block opens later on the line and overruns it
  by_cases hs : ∃ body text, rest = '*' :: body ∧ afterClose? body = some text
  · obtain ⟨body, last, rfl, hr⟩ := hs
    obtain ⟨text, rfl, ht⟩ := exists_of_afterClose? hr
    have hc := ht []
    rw [List.append_nil] at hc
    refine ⟨'*' :: text, List.prefix_append ('*' :: text) last, ?_⟩
    rw [withoutComments_of_star hc]
    rcases skipComments_line ('*' :: text) with ⟨-, hb⟩ | ⟨below, hb⟩ <;> simp [hb]
  · have ho : overruns rest = true := by
      unfold undoesLine at h
      split at h
      · next body =>
        refine (Bool.or_eq_true _ _ ▸ h).resolve_left ?_
        intro hb
        obtain ⟨text, hr⟩ := Option.isSome_iff_exists.1 hb
        exact hs ⟨body, text, rfl, hr⟩
      · exact h
    obtain ⟨front, hp, hm, hl⟩ := exists_of_overruns ho
    have hstar : ∀ body, front = '*' :: body → afterClose? body = none := by
      rintro body rfl
      obtain ⟨more, rfl⟩ := hp
      cases hn : afterClose? body with
      | none => rfl
      | some text => exact absurd ⟨body ++ more, text ++ more, rfl, afterClose?_append hn more⟩ hs
    refine ⟨front, hp, ?_⟩
    rw [withoutComments_of_overrun hm hl hstar]
    rcases skipComments_line front with ⟨hn, -⟩ | ⟨below, hb⟩
    · exact absurd hm hn
    · simp [hb]

/-- Both ways agree on a text and on all its beginnings exactly if no line comment of the text is
undone. -/
theorem withoutComments_eq_skipComments_iff (cs : List Char) :
    (∀ front, front <+: cs → withoutComments front = skipComments front) ↔
      lineCommentsHold cs = true := by
  constructor
  · intro h
    -- the induction is on what the text begins with, as both ways read it; each case passes the
    -- beginnings of the rest on
    induction cs using comments_ind with
    | nil => rw [lineCommentsHold]
    | closed body rest hr ih =>
      obtain ⟨text, rfl, ht⟩ := exists_of_afterClose? hr
      rw [lineCommentsHold_closed hr]
      refine ih ?_
      intro front hp
      have hf :=
        h ('/' :: '*' :: (text ++ front)) ((List.prefix_append_right_inj ('/' :: '*' :: text)).2 hp)
      rwa [withoutComments_closed (ht front), skipComments_closed (ht front)] at hf
    | unclosed body hn ih => rw [lineCommentsHold_unclosed hn, lineCommentsHold_of_none hn]
    | line rest ih =>
      -- a line comment that is undone has a beginning of the text where the two ways come apart
      have hu : undoesLine rest = false := by
        rw [← Bool.not_eq_true]
        intro hu
        obtain ⟨front, hp, hne⟩ := exists_of_undoesLine hu
        exact hne (h _ (List.cons_prefix_cons.2 ⟨rfl, List.cons_prefix_cons.2 ⟨rfl, hp⟩⟩))
      rw [lineCommentsHold.eq_3, hu, Bool.not_false, Bool.true_and]
      refine ih ?_
      intro front hp
      obtain ⟨text, ht, he⟩ := exists_line rest
      have hm : text ++ front <+: rest := by
        rw [he]
        exact (List.prefix_append_right_inj text).2 hp
      have hf :=
        h ('/' :: '/' :: (text ++ front))
          (List.cons_prefix_cons.2 ⟨rfl, List.cons_prefix_cons.2 ⟨rfl, hm⟩⟩)
      rwa [withoutComments_line (undoesLine_eq_false_of_beginning hm hu), skipComments.eq_3,
        dropWhile_line ht, dropWhile_below hp] at hf
    | plain c cs hc ih =>
      rw [lineCommentsHold_cons hc]
      refine ih ?_
      intro front hp
      have hf := h (c :: front) (List.cons_prefix_cons.2 ⟨rfl, hp⟩)
      rw [withoutComments_cons (hc.of_beginning hp), skipComments_cons (hc.of_beginning hp)] at hf
      exact (List.cons.inj hf).2
  · intro h front hp
    exact withoutComments_of_lineCommentsHold (lineCommentsHold_of_beginning hp h)

/-- A declaration that stands in no comment is lost, between an opening inside a line comment and
the end of the next block comment. -/
theorem withoutComments_ne_skipComments :
    withoutComments "// see /* below\ncontrol C() {}\n/* x */".toList ≠
      skipComments "// see /* below\ncontrol C() {}\n/* x */".toList := by
  have hw : withoutComments "// see /* below\ncontrol C() {}\n/* x */".toList = [] := by
    decide +kernel
  have hs : skipComments "// see /* below\ncontrol C() {}\n/* x */".toList =
      "\ncontrol C() {}\n".toList := by
    decide +kernel
  rw [hw, hs]
  decide

end P4Outline.Source

import P4Outline.Proofs.Comment
import P4Outline.Proofs.HeadPlace

/-!
# Comments cut out of a text

`parts` cuts a text into the characters that are kept and the comments that are removed, so that a
place of the text without its comments is known in the text itself. A head in which no comment was
cut out is a head of the text.

* `textOf_parts`, `keptOf_parts`: the parts make up the text, and what is kept of them is the text
  without its comments.
* `Kind.HeadAt.hasHead`: a head of the kept text is a head of the text, unless a comment is cut out
  of it.
-/

namespace P4Outline.Source

open P4Outline.Text

/-- A part of a text. -/
inductive Part where
  /-- A character that is kept. -/
  | char (c : Char)
  /-- A comment that is cut out. -/
  | comment (text : List Char)
  deriving DecidableEq, Repr

/-- The text of a part. -/
def Part.text : Part → List Char
  | .char c => [c]
  | .comment text => text

/-- What is kept of a part. -/
def Part.kept? : Part → Option Char
  | .char c => some c
  | .comment _ => none

/-- The text that parts make up. -/
def textOf (ps : List Part) : List Char := ps.flatMap Part.text

/-- What is kept of the text that parts make up. -/
def keptOf (ps : List Part) : List Char := ps.filterMap Part.kept?

/-- The parts of a text from which the block comments are cut out. -/
def blockParts (cs : List Char) : List Part :=
  match cs with
  | [] => []
  | '/' :: '*' :: body =>
    match _h : afterClose? body with
    | some rest => .comment ('/' :: '*' :: body.take (body.length - rest.length)) :: blockParts rest
    | none => ('/' :: '*' :: body).map .char
  | c :: cs => .char c :: blockParts cs
termination_by cs.length
decreasing_by
  · have := length_lt_of_afterClose? _h; simp only [List.length_cons]; omega
  · simp

/-- The parts of which the line comments are cut out, too. What was cut out of a line comment goes
with it. -/
def lineParts (ps : List Part) : List Part :=
  match ps with
  | [] => []
  | .comment text :: ps => .comment text :: lineParts ps
  | .char c :: ps =>
    if c = '/' ∧ (keptOf ps).head? = some '/' then
      .comment (c :: textOf (ps.takeWhile (· ≠ .char '\n'))) ::
        lineParts (ps.dropWhile (· ≠ .char '\n'))
    else .char c :: lineParts ps
termination_by ps.length
decreasing_by
  · simp
  · have := (List.dropWhile_suffix (l := ps) (fun p => decide (p ≠ .char '\n'))).length_le
    simp only [List.length_cons]; omega
  · simp

/-- The parts of a text: the characters that are kept, and the comments between them. -/
def parts (cs : List Char) : List Part := lineParts (blockParts cs)

/-! ### Parts and their text -/

@[simp] theorem textOf_nil : textOf [] = [] := rfl

@[simp] theorem textOf_cons (p : Part) (ps : List Part) : textOf (p :: ps) = p.text ++ textOf ps :=
  rfl

@[simp] theorem textOf_append (ps qs : List Part) : textOf (ps ++ qs) = textOf ps ++ textOf qs :=
  List.flatMap_append

@[simp] theorem keptOf_nil : keptOf [] = [] := rfl

@[simp] theorem keptOf_char (c : Char) (ps : List Part) : keptOf (.char c :: ps) = c :: keptOf ps :=
  rfl

@[simp] theorem keptOf_comment (text : List Char) (ps : List Part) :
    keptOf (.comment text :: ps) = keptOf ps := rfl

@[simp] theorem keptOf_append (ps qs : List Part) : keptOf (ps ++ qs) = keptOf ps ++ keptOf qs :=
  List.filterMap_append

theorem textOf_map_char (cs : List Char) : textOf (cs.map .char) = cs := by
  induction cs with
  | nil => rfl
  | cons c cs ih => rw [List.map_cons, textOf_cons, ih]; rfl

theorem keptOf_map_char (cs : List Char) : keptOf (cs.map .char) = cs := by
  induction cs with
  | nil => rfl
  | cons c cs ih => rw [List.map_cons, keptOf_char, ih]

/-- The text up to the end of a block comment, which is the second of two characters. -/
theorem exists_take_of_afterClose? {body rest : List Char} (h : afterClose? body = some rest) :
    ∃ inside, body.take (body.length - rest.length) = inside ++ ['*', '/'] ∧
      body = inside ++ '*' :: '/' :: rest := by
  have hinside : ∃ inside, body = inside ++ '*' :: '/' :: rest := by
    fun_induction afterClose? body with
    | case1 rest' => cases h; exact ⟨[], rfl⟩
    | case2 c cs _ ih =>
      obtain ⟨inside, rfl⟩ := ih h
      exact ⟨c :: inside, rfl⟩
    | case3 => cases h
  obtain ⟨inside, rfl⟩ := hinside
  refine ⟨inside, ?_, rfl⟩
  have hl : (inside ++ '*' :: '/' :: rest).length - rest.length =
      (inside ++ ['*', '/']).length := by
    simp only [List.length_append, List.length_cons, List.length_nil]
    omega
  have he : inside ++ '*' :: '/' :: rest = (inside ++ ['*', '/']) ++ rest := by simp
  rw [hl, he, List.take_left]

theorem textOf_blockParts (cs : List Char) : textOf (blockParts cs) = cs := by
  fun_induction blockParts cs with
  | case1 => rfl
  | case2 body rest hr ih =>
    obtain ⟨inside, ht, he⟩ := exists_take_of_afterClose? hr
    rw [textOf_cons, ih, Part.text, ht, he]
    simp
  | case3 body hn => rw [textOf_map_char]
  | case4 c cs hc ih => rw [textOf_cons, ih]; rfl

theorem keptOf_blockParts (cs : List Char) : keptOf (blockParts cs) = withoutBlockComments cs := by
  fun_induction blockParts cs with
  | case1 => rw [withoutBlockComments]; rfl
  | case2 body rest hr ih => rw [keptOf_comment, ih, withoutBlockComments_closed hr]
  | case3 body hn => rw [keptOf_map_char, withoutBlockComments_unclosed hn]
  | case4 c cs hc ih => rw [keptOf_char, ih, withoutBlockComments.eq_3 c cs hc]

theorem textOf_lineParts (ps : List Part) : textOf (lineParts ps) = textOf ps := by
  fun_induction lineParts ps with
  | case1 => rfl
  | case2 text ps ih => rw [textOf_cons, ih, textOf_cons]
  | case3 c ps hc ih =>
    rw [textOf_cons, ih, Part.text, List.cons_append, ← textOf_append,
      List.takeWhile_append_dropWhile, textOf_cons]
    rfl
  | case4 c ps hc ih => rw [textOf_cons, ih, textOf_cons]

/-- The line break that ends a line is kept. -/
theorem keptOf_dropWhile (ps : List Part) :
    keptOf (ps.dropWhile (· ≠ .char '\n')) = (keptOf ps).dropWhile (· ≠ '\n') := by
  induction ps with
  | nil => rfl
  | cons p ps ih =>
    cases p with
    | comment text => exact ih
    | char c =>
      rw [List.dropWhile_cons, keptOf_char, List.dropWhile_cons]
      by_cases hc : c = '\n'
      · simp [hc]
      · simpa [hc] using ih

theorem keptOf_lineParts (ps : List Part) :
    keptOf (lineParts ps) = withoutLineComments (keptOf ps) := by
  fun_induction lineParts ps with
  | case1 => rw [keptOf_nil, withoutLineComments]
  | case2 text ps ih => rw [keptOf_comment, ih, keptOf_comment]
  | case3 c ps hc ih =>
    obtain ⟨rfl, hslash⟩ := hc
    obtain ⟨rest, hr⟩ := List.head?_eq_some_iff.1 hslash
    have hd : ('/' :: rest).dropWhile (· ≠ '\n') = rest.dropWhile (· ≠ '\n') := rfl
    rw [keptOf_comment, ih, keptOf_dropWhile, keptOf_char, hr, withoutLineComments.eq_2, hd]
  | case4 c ps hc ih =>
    rw [keptOf_char, ih, keptOf_char, withoutLineComments_cons]
    intro hslash d hd he
    exact hc ⟨hslash, by rw [← he]; exact hd⟩

/-- The parts of a text make up the text. -/
theorem textOf_parts (cs : List Char) : textOf (parts cs) = cs := by
  rw [parts, textOf_lineParts, textOf_blockParts]

/-- What is kept of a text is the text without its comments. -/
theorem keptOf_parts (cs : List Char) : keptOf (parts cs) = withoutComments cs := by
  rw [parts, keptOf_lineParts, keptOf_blockParts, withoutComments]

/-! ### Places behind a comment -/

/-- Whether comments in parts end in a slash, or before a line break. -/
def Ended (ps : List Part) : Prop :=
  ∀ front text c behind, ps = front ++ .comment text :: .char c :: behind →
    text.getLast? = some '/' ∨ c = '\n'

theorem getLast?_of_mem_blockParts {cs text : List Char} (h : .comment text ∈ blockParts cs) :
    text.getLast? = some '/' := by
  fun_induction blockParts cs with
  | case1 => simp at h
  | case2 body rest hr ih =>
    rcases List.mem_cons.1 h with he | h
    · obtain ⟨inside, ht, -⟩ := exists_take_of_afterClose? hr
      cases he
      have hlast : '/' :: '*' :: (inside ++ ['*', '/']) =
        ('/' :: '*' :: inside ++ ['*']) ++ ['/'] := by simp
      rw [ht, hlast, List.getLast?_concat]
    · exact ih h
  | case3 body hn => simp at h
  | case4 c cs hc ih => exact ih (by simpa using h)

theorem Ended.cons {p : Part} {ps : List Part} (h : Ended ps)
    (hp : ∀ text c behind, p = .comment text → ps = .char c :: behind →
      text.getLast? = some '/' ∨ c = '\n') :
    Ended (p :: ps) := by
  intro front text c behind he
  cases front with
  | nil =>
    rw [List.nil_append] at he
    obtain ⟨hcomment, hrest⟩ := List.cons.inj he
    exact hp text c behind hcomment hrest
  | cons q front => exact h front text c behind (List.cons.inj he).2

theorem ended_lineParts {ps : List Part}
    (h : ∀ text, .comment text ∈ ps → text.getLast? = some '/') :
    Ended (lineParts ps) := by
  fun_induction lineParts ps with
  | case1 =>
    intro front text c behind he
    simp at he
  | case2 text ps ih =>
    refine (ih fun t ht => h t (List.mem_cons_of_mem _ ht)).cons ?_
    rintro _ c behind he -
    cases he
    exact .inl (h text List.mem_cons_self)
  | case3 c ps hc ih =>
    refine (ih fun t ht => h t (List.mem_cons_of_mem _ ((List.dropWhile_suffix _).subset ht))).cons
      ?_
    -- a line comment goes up to the line break
    rintro _ d behind - he
    refine .inr ?_
    cases hd : ps.dropWhile (· ≠ .char '\n') with
    | nil =>
      rw [hd, lineParts] at he
      cases he
    | cons p below =>
      have hp := List.head?_dropWhile_not (fun p => decide (p ≠ Part.char '\n')) ps
      rw [hd] at hp
      have hp' : p = .char '\n' := by simpa using hp
      rw [hd, hp', lineParts, if_neg (by simp)] at he
      cases he
      rfl
  | case4 c ps hc ih => exact (ih fun t ht => h t (List.mem_cons_of_mem _ ht)).cons (by simp)

theorem ended_parts (cs : List Char) : Ended (parts cs) :=
  ended_lineParts fun _ => getLast?_of_mem_blockParts

/-- A word may start behind parts if it may start behind what is kept of them. -/
theorem Ended.free {front behind : List Part} {c : Char} (h : Ended (front ++ .char c :: behind))
    (hc : isWord c = true) (hf : freeAfter endsWord true (keptOf front) = true) :
    freeAfter endsWord true (textOf front) = true := by
  rcases List.eq_nil_or_concat front with rfl | ⟨front', p, rfl⟩
  · rfl
  · rw [List.concat_eq_append] at h hf ⊢
    rw [keptOf_append] at hf
    rw [textOf_append]
    cases p with
    | char d =>
      have he : keptOf [.char d] = [d] := rfl
      rw [he, freeAfter_concat] at hf
      exact (freeAfter_concat endsWord true (textOf front') d).trans hf
    | comment text =>
      -- a comment ends with a slash, or with its line, where no word goes on
      have hlast : text.getLast? = some '/' := by
        rcases h front' text c behind (by simp) with hs | rfl
        · exact hs
        · exact absurd hc (by decide)
      have hends : freeAfter endsWord (freeAfter endsWord true (textOf front')) text = true := by
        rw [freeAfter, hlast]
        rfl
      rw [freeAfter_append]
      simpa [Part.text] using hends

/-! ### Parts without comments -/

/-- What is kept in front of a character and behind it, part by part. -/
theorem exists_of_keptOf_eq {ps : List Part} {a b : List Char} {c : Char}
    (h : keptOf ps = a ++ c :: b) :
    ∃ front behind, ps = front ++ .char c :: behind ∧ keptOf front = a ∧ keptOf behind = b := by
  induction ps generalizing a with
  | nil => simp at h
  | cons p ps ih =>
    cases p with
    | comment text =>
      obtain ⟨front, behind, rfl, hf, hb⟩ := ih h
      exact ⟨.comment text :: front, behind, rfl, hf, hb⟩
    | char d =>
      cases a with
      | nil =>
        rw [keptOf_char] at h
        obtain ⟨rfl, rfl⟩ := List.cons.inj h
        exact ⟨[], ps, rfl, rfl, rfl⟩
      | cons e a =>
        rw [keptOf_char] at h
        obtain ⟨rfl, h'⟩ := List.cons.inj h
        obtain ⟨front, behind, rfl, hf, hb⟩ := ih h'
        exact ⟨.char d :: front, behind, rfl, by rw [keptOf_char, hf], hb⟩

/-- Parts without a comment are kept as they are. -/
theorem textOf_of_notMem {ps : List Part} (h : ∀ text, .comment text ∉ ps) :
    textOf ps = keptOf ps := by
  induction ps with
  | nil => rfl
  | cons p ps ih =>
    have hps := ih fun text hm => h text (List.mem_cons_of_mem _ hm)
    cases p with
    | comment text => exact absurd List.mem_cons_self (h text)
    | char c => rw [textOf_cons, keptOf_char, hps]; rfl

end P4Outline.Source

namespace P4Outline

open P4Outline.Text P4Outline.Source

/-! ### Heads in the kept text -/

/-- Whether the head of a declaration of a kind and a name is kept of some parts, behind others. -/
def Kind.HeadAt (k : Kind) (name : List Char) (front head : List Part) : Prop :=
  freeAfter endsWord true (keptOf front) = true ∧ k.head? (keptOf head) = some (name, [])

/-- Whether a comment is cut out of a head. One without a closing angle bracket does not count where
type parameters stand, which may be any text without one. -/
def CutHead (head : List Part) : Prop :=
  ∃ front text behind, head = front ++ .comment text :: behind ∧
    ¬ ('<' ∈ keptOf front ∧ '>' ∉ keptOf front ∧ '>' ∉ text)

/-- A comment in the brackets of type parameters, if it does not close them, is not cut out of the
head. -/
theorem not_cutHead_of_brackets {before inside behind : List Char} (ho : '<' ∈ before)
    (hc : '>' ∉ before) (hi : '>' ∉ inside) :
    ¬ CutHead (before.map .char ++ .comment inside :: behind.map .char) := by
  rintro ⟨front, text, rest, he, hn⟩
  obtain ⟨front', rfl, he'⟩ := exists_of_append_eq (by simp) he
  cases front' with
  | nil =>
    cases he'
    refine hn ⟨?_, ?_, hi⟩
    · rw [List.append_nil, keptOf_map_char]
      exact ho
    · rw [List.append_nil, keptOf_map_char]
      exact hc
  | cons p front' =>
    obtain ⟨-, hbehind⟩ := List.cons.inj he'
    have hm : Part.comment text ∈ behind.map .char := by
      rw [hbehind]
      simp
    simp at hm

/-- An opening without angle brackets, or with type parameters in them. -/
theorem Opening.cases_of_after? {o : Opening} {cs : List Char} (h : o.after? cs = some []) :
    '<' ∉ cs ∨ ∃ gap params inside, (∀ c ∈ gap, isBlank c = true) ∧ '>' ∉ params ∧
      cs = gap ++ '<' :: (params ++ '>' :: inside) ∧
        ∀ params', '>' ∉ params' →
        o.after? (gap ++ '<' :: (params' ++ '>' :: inside)) = some [] := by
  have hmark {mark : Char} (hm : mark ≠ '<') {cs : List Char} (h : afterMark? mark cs = some []) :
      '<' ∉ cs := by
    obtain ⟨gap, hg, rfl⟩ := exists_of_afterMark? h
    simpa [hm.symm] using notMem_of_class hg (by decide)
  cases o with
  | brace => exact .inl (hmark (by decide) h)
  | parenthesis => exact .inl (hmark (by decide) h)
  | typeParameters =>
    obtain ⟨inside, hi, hr⟩ := Option.bind_eq_some_iff.1 h
    obtain ⟨gap, hg, ⟨params, hp, rfl⟩ | ⟨rfl, hs, hne⟩⟩ := cases_of_afterTypeParameters? hi
    · refine .inr ⟨gap, params, inside, hg, hp, rfl, fun params' hp' => ?_⟩
      exact Option.bind_eq_some_iff.2 ⟨inside, afterTypeParameters?_brackets hg hp' inside, hr⟩
    · refine .inl fun hm => ?_
      rcases List.mem_append.1 hm with hm | hm
      · exact notMem_of_class hg (by decide) hm
      · exact hmark (by decide) hr hm

section Uncut

variable {front middle behind : List Part} (hc : ¬ CutHead (front ++ (middle ++ behind)))

include hc

theorem mem_of_not_cutHead {text : List Char} {before after : List Part}
    (hm : middle = before ++ .comment text :: after) :
    '<' ∈ keptOf (front ++ before) ∧ '>' ∉ keptOf (front ++ before) ∧ '>' ∉ text := by
  by_contra hn
  exact hc ⟨front ++ before, text, after ++ behind, by simp [hm], hn⟩

/-- No comment stands before the brackets open. -/
theorem textOf_before_brackets (hf : '<' ∉ keptOf (front ++ middle)) :
    textOf middle = keptOf middle := by
  refine textOf_of_notMem fun text hm => ?_
  obtain ⟨before, after, he⟩ := List.append_of_mem hm
  have hbracket := (mem_of_not_cutHead hc he).1
  rw [he] at hf
  refine hf ?_
  rw [← List.append_assoc, keptOf_append]
  exact List.mem_append_left _ hbracket

/-- No comment stands behind the brackets. -/
theorem textOf_behind_brackets (hf : '>' ∈ keptOf front) : textOf middle = keptOf middle := by
  refine textOf_of_notMem fun text hm => ?_
  obtain ⟨before, after, he⟩ := List.append_of_mem hm
  refine (mem_of_not_cutHead hc he).2.1 ?_
  rw [keptOf_append]
  exact List.mem_append_left _ hf

/-- No comment closes the brackets. -/
theorem notMem_textOf_brackets (hm : '>' ∉ keptOf middle) : '>' ∉ textOf middle := by
  intro ht
  obtain ⟨p, hp, hpt⟩ := List.mem_flatMap.1 ht
  cases p with
  | char c =>
    have hkept : c ∈ keptOf middle := List.mem_filterMap.2 ⟨.char c, hp, rfl⟩
    rw [List.mem_singleton.1 hpt] at hm
    exact hm hkept
  | comment text =>
    obtain ⟨before, after, he⟩ := List.append_of_mem hp
    exact (mem_of_not_cutHead hc he).2.2 hpt

end Uncut

/-- A head is read in the text too, if no comment is cut out of it. -/
theorem Kind.head?_of_not_cutHead {k : Kind} {name : List Char} {head : List Part}
    (h : k.head? (keptOf head) = some (name, [])) (hc : ¬ CutHead head) :
    k.head? (textOf head) = some (name, []) := by
  obtain ⟨gap, opening, he, hg, hgap, hname, hne, -, hafter⟩ := Kind.exists_parts_of_head? h
  have hstem : '<' ∉ k.keyword ++ (gap ++ name) := by
    simp only [List.mem_append, not_or]
    exact ⟨notMem_of_class Kind.isWord_of_mem_keyword (by decide), notMem_of_class hg (by decide),
      notMem_of_class hname (by decide)⟩
  rcases Opening.cases_of_after? hafter with hno | ⟨gap', params, inside, hg', hp, rfl, hopening⟩
  · have hall : '<' ∉ keptOf head := by
      rw [he, ← List.append_assoc gap, ← List.append_assoc, List.mem_append, not_or]
      exact ⟨hstem, hno⟩
    rw [@textOf_before_brackets [] head [] (by simpa using hc) hall]
    exact h
  · have hsplit : keptOf head =
        (k.keyword ++ (gap ++ name) ++ gap') ++ '<' :: (params ++ '>' :: inside) := by
      rw [he]
      simp
    obtain ⟨stem, rest, rfl, hkstem, hkrest⟩ := exists_of_keptOf_eq hsplit
    obtain ⟨middle, tail, rfl, hkmiddle, hktail⟩ := exists_of_keptOf_eq hkrest
    -- the text differs from what is kept of it between the brackets only, where any text will do
    have hbefore : textOf stem = keptOf stem := by
      refine @textOf_before_brackets [] stem _ hc ?_
      rw [List.nil_append, hkstem, List.mem_append, not_or]
      exact ⟨hstem, notMem_of_class hg' (by decide)⟩
    have hbetween : '>' ∉ textOf middle := by
      refine @notMem_textOf_brackets (stem ++ [.char '<']) middle (.char '>' :: tail)
        (by simpa using hc) ?_
      rw [hkmiddle]
      exact hp
    have hbehind : textOf tail = keptOf tail :=
      @textOf_behind_brackets (stem ++ .char '<' :: (middle ++ [.char '>'])) tail []
        (by simpa using hc) (by simp)
    have htext : textOf (stem ++ .char '<' :: (middle ++ .char '>' :: tail)) =
        k.keyword ++ (gap ++ (name ++ (gap' ++ '<' :: (textOf middle ++ '>' :: inside)))) := by
      rw [textOf_append, hbefore, hkstem, textOf_cons, textOf_append, textOf_cons, hbehind, hktail]
      simp [Part.text]
    rw [htext]
    exact k.head?_of_parts hg hgap hname hne (wordStop_gap_cons hg' (by decide) _)
      (hopening _ hbetween)

/-- A head of the kept text is a head of the text, unless a comment is cut out of it. -/
theorem Kind.HeadAt.hasHead {k : Kind} {name cs : List Char} {front head behind : List Part}
    (h : k.HeadAt name front head) (he : parts cs = front ++ (head ++ behind))
    (hc : ¬ CutHead head) :
    k.HasHead name cs := by
  obtain ⟨hfree, hhead⟩ := h
  have hread := Kind.head?_of_not_cutHead hhead hc
  obtain ⟨text, htext, -, hmore⟩ := Kind.exists_text_of_head? hread
  rw [List.append_nil] at htext
  refine ⟨textOf front, textOf (head ++ behind), textOf behind, ?_, ?_, ?_⟩
  · rw [← textOf_append, ← he, textOf_parts]
  · cases head with
    | nil => exact absurd (Kind.mem_of_head? hhead) (by simp)
    | cons p head =>
      cases p with
      | comment text => exact absurd ⟨[], text, head, rfl, by simp⟩ hc
      -- a head begins with its keyword, whose first letter is no comment
      | char c =>
        have hc' : isWord c = true := by
          rw [← Bool.not_eq_false]
          intro hc'
          rw [keptOf_char, Kind.head?_eq_none_of_not_isWord hc'] at hhead
          cases hhead
        exact Ended.free (he ▸ ended_parts cs) hc' hfree
  · rw [textOf_append, htext]
    exact hmore _

end P4Outline

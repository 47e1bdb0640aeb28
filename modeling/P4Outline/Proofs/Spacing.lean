import P4Outline.Proofs.Step

/-!
# White space in a line

White space at the end of a line changes nothing of what the line does. Nor does white space before
the brace that ends a line, except in a key block, which keeps its entries as they are written.

Both come from one fact about readers: a text that has nothing of a word in it, and none of the
marks that heads and properties are read up to, has no part in what is read before it.

* `Neutral`: such texts.
* `Neutral.head?_append`, `Neutral.actionName_append`: heads and action entries before a neutral
  text.
* `Statement.ofLine_trail`, `Scan.step_trail`: white space at the end of a line.
* `Statement.ofLine_gap_brace`, `Scan.step_gap_brace`: white space before a brace at the end of a
  line.
-/

namespace P4Outline

open P4Outline.Text P4Outline.Source

/-! ### Texts without a part in what is read before them -/

/-- Whether a text has nothing of a word in it, and none of the marks that heads, properties and
annotations are read up to. Braces are left aside. -/
def Neutral (cs : List Char) : Prop :=
  ∀ c ∈ cs, isWord c = false ∧ c ∉ ['(', ')', '<', '>', '=', ';', '@']

theorem neutral_of_isBlank {gap : List Char} (h : ∀ c ∈ gap, isBlank c = true) : Neutral gap := by
  intro c hc
  refine ⟨isWord_of_isBlank (h c hc), ?_⟩
  have hmarks : ∀ d ∈ ['(', ')', '<', '>', '=', ';', '@'], isBlank d = false := by decide
  intro hd
  have hb := h c hc
  rw [hmarks c hd] at hb
  simp at hb

theorem neutral_brace : Neutral ['{'] := by
  intro c hc
  rw [List.mem_singleton.1 hc]
  decide

theorem neutral_gap_brace {gap : List Char} (h : ∀ c ∈ gap, isBlank c = true) :
    Neutral (gap ++ ['{']) :=
  List.forall_mem_append.2 ⟨neutral_of_isBlank h, neutral_brace⟩

theorem isWord_of_isDigit {c : Char} (h : isDigit c = true) : isWord c = true :=
  @CodePoints.holds_of_covers wordPoints digitPoints 0 c.toNat (by decide +kernel)
    (by decide +kernel) h

theorem afterWord_append_of_wordStop {rest : List Char} (h : WordStop rest) (cs : List Char) :
    afterWord (cs ++ rest) = afterWord cs ++ rest := by
  have he : word cs ++ afterWord (cs ++ rest) = word cs ++ (afterWord cs ++ rest) := by
    calc word cs ++ afterWord (cs ++ rest) = word (cs ++ rest) ++ afterWord (cs ++ rest) := by
          rw [word_append_of_wordStop h]
      _ = cs ++ rest := word_append_afterWord _
      _ = word cs ++ (afterWord cs ++ rest) := by rw [← List.append_assoc, word_append_afterWord]
  exact List.append_cancel_left he

theorem skipBlanks_append_of_ne_nil {cs : List Char} (h : skipBlanks cs ≠ []) (rest : List Char) :
    skipBlanks (cs ++ rest) = skipBlanks cs ++ rest := by
  rw [skipBlanks, List.dropWhile_append, if_neg (by simpa [skipBlanks] using h), ← skipBlanks]

theorem skipBlanks_append_of_eq_nil {cs : List Char} (h : skipBlanks cs = []) (rest : List Char) :
    skipBlanks (cs ++ rest) = skipBlanks rest := by
  rw [skipBlanks, List.dropWhile_append, if_pos (by simpa [skipBlanks] using h), ← skipBlanks]

theorem afterMark?_append_of_notMem {mark : Char} {rest : List Char} (h : mark ∉ rest)
    (cs : List Char) :
    afterMark? mark (cs ++ rest) = (afterMark? mark cs).map (· ++ rest) := by
  by_cases hs : skipBlanks cs = []
  · rw [afterMark?, skipBlanks_append_of_eq_nil hs, afterMark?, hs]
    cases hr : skipBlanks rest with
    | nil => rfl
    | cons c rest' =>
      have hc : c ≠ mark := by
        rintro rfl
        exact h
          ((List.dropWhile_suffix _).subset (by rw [← skipBlanks, hr]; exact List.mem_cons_self))
      simp [hc]
  · rw [afterMark?, skipBlanks_append_of_ne_nil hs, afterMark?]
    cases hr : skipBlanks cs with
    | nil => exact absurd hr hs
    | cons c rest' =>
      simp only [List.cons_append]
      split <;> rfl

section Neutral

variable {rest : List Char} (h : Neutral rest)

include h

theorem Neutral.wordStop : WordStop rest := fun c hc => (h c (List.mem_of_mem_head? hc)).1

theorem Neutral.notMem {c : Char} (hc : c ∈ ['(', ')', '<', '>', '=', ';', '@']) : c ∉ rest :=
  fun hm => (h c hm).2 hc

theorem Neutral.of_suffix {part : List Char} (hp : part <:+ rest) : Neutral part :=
  fun c hc => h c (hp.subset hc)

theorem Neutral.word_eq_nil : word rest = [] := word_of_wordStop h.wordStop

theorem Neutral.word_skipBlanks (cs : List Char) :
    word (skipBlanks (cs ++ rest)) = word (skipBlanks cs) := by
  by_cases hs : skipBlanks cs = []
  · have hsuffix : skipBlanks rest <:+ rest := List.dropWhile_suffix _
    rw [skipBlanks_append_of_eq_nil hs, hs, (h.of_suffix hsuffix).word_eq_nil]
    rfl
  · rw [skipBlanks_append_of_ne_nil hs, word_append_of_wordStop h.wordStop]

/-- Brackets that open before a neutral text are closed before it, if at all. -/
theorem Neutral.afterTypeParameters?_append {cs : List Char} (hs : skipBlanks cs ≠ []) :
    afterTypeParameters? (cs ++ rest) = (afterTypeParameters? cs).map (· ++ rest) := by
  rw [afterTypeParameters?, skipBlanks_append_of_ne_nil hs, afterTypeParameters?]
  cases hr : skipBlanks cs with
  | nil => exact absurd hr hs
  | cons c t =>
    by_cases hc : c = '<'
    · subst hc
      -- nothing neutral closes a bracket that was left open
      have hclose : ∀ c ∈ rest, decide (c ≠ '>') = true := by
        intro c hc
        have hne : c ≠ '>' := by
          rintro rfl
          exact h.notMem (by decide) hc
        exact decide_eq_true hne
      simp only [List.cons_append]
      cases hd : t.dropWhile (· ≠ '>') with
      | nil =>
        have hnone : (t ++ rest).dropWhile (· ≠ '>') = [] := by
          rw [List.dropWhile_append, if_pos (by rw [hd]; rfl)]
          exact List.dropWhile_eq_nil_iff.2 hclose
        simp only [hnone]
        rfl
      | cons d inside =>
        have hsome : (t ++ rest).dropWhile (· ≠ '>') = d :: (inside ++ rest) := by
          rw [List.dropWhile_append, if_neg (by rw [hd]; simp), hd]
          rfl
        simp only [hsome]
        rfl
    · simp [hc]

theorem Neutral.after?_append {o : Opening} (hm : o.mark ∉ rest) (cs : List Char) :
    o.after? (cs ++ rest) = (o.after? cs).map (· ++ rest) := by
  cases o with
  | brace => exact afterMark?_append_of_notMem hm cs
  | parenthesis => exact afterMark?_append_of_notMem hm cs
  | typeParameters =>
    show (afterTypeParameters? (cs ++ rest)).bind (afterMark? '(') =
      ((afterTypeParameters? cs).bind (afterMark? '(')).map (· ++ rest)
    by_cases hs : skipBlanks cs = []
    · -- nothing stands before the neutral text, which has no parenthesis
      have hnone : (afterTypeParameters? cs).bind (afterMark? '(') = none := by
        rw [afterTypeParameters?, hs]
        rfl
      rw [hnone, Option.map_none, Option.bind_eq_none_iff]
      intro inside hi
      cases hp : afterMark? '(' inside with
      | none => rfl
      | some x =>
        have hskip : inside = skipBlanks rest := by
          rw [afterTypeParameters?, skipBlanks_append_of_eq_nil hs] at hi
          split at hi
          · next t ht =>
            have hmem : '<' ∈ rest :=
              (List.dropWhile_suffix _).subset (by rw [← skipBlanks, ht]; exact List.mem_cons_self)
            exact absurd hmem (h.notMem (by decide))
          · exact (Option.some.inj hi).symm
        have hmem : '(' ∈ rest :=
          (List.dropWhile_suffix _).subset
            (by rw [← skipBlanks, ← hskip]; exact mem_of_afterMark? hp)
        exact absurd hmem (h.notMem (by decide))
    · rw [h.afterTypeParameters?_append hs, Option.bind_map, Option.map_bind]
      congr 1
      funext inside
      exact afterMark?_append_of_notMem hm inside

/-! ### Heads before a neutral text -/

/-- Only the opening of a head may reach into a neutral text. -/
theorem Neutral.head?_append_eq_some_iff {k : Kind} {cs name behind : List Char} :
    k.head? (cs ++ rest) = some (name, behind) ↔
      word cs = k.keyword ∧ (∃ c t, afterWord cs = c :: t ∧ isBlank c = true) ∧
        name = word (skipBlanks (afterWord cs)) ∧ name ≠ [] ∧
          k.opening.after? (afterWord (skipBlanks (afterWord cs)) ++ rest) = some behind := by
  have hstop := h.wordStop
  -- a name stands before the neutral text, and so do the blanks before it
  have hname (hn : word (skipBlanks (afterWord cs)) ≠ []) : skipBlanks (afterWord cs) ≠ [] ∧
      ((∃ c t, afterWord cs ++ rest = c :: t ∧ isBlank c = true) ↔
        ∃ c t, afterWord cs = c :: t ∧ isBlank c = true) := by
    have hs : skipBlanks (afterWord cs) ≠ [] := fun he => hn (by rw [he]; rfl)
    refine ⟨hs, ?_⟩
    cases ha : afterWord cs with
    | nil => rw [ha] at hs; exact absurd rfl hs
    | cons c t => simp
  rw [Kind.head?_eq_some_iff, word_append_of_wordStop hstop, afterWord_append_of_wordStop hstop,
    h.word_skipBlanks]
  constructor
  · rintro ⟨hw, hb, rfl, hn, hr⟩
    rw [skipBlanks_append_of_ne_nil (hname hn).1, afterWord_append_of_wordStop hstop] at hr
    exact ⟨hw, (hname hn).2.1 hb, rfl, hn, hr⟩
  · rintro ⟨hw, hb, rfl, hn, hr⟩
    refine ⟨hw, (hname hn).2.2 hb, rfl, hn, ?_⟩
    rw [skipBlanks_append_of_ne_nil (hname hn).1, afterWord_append_of_wordStop hstop, hr]

/-- A head is read the same before a neutral text that does not open it. -/
theorem Neutral.head?_append {k : Kind} (hm : k.opening.mark ∉ rest) (cs : List Char) :
    k.head? (cs ++ rest) = (k.head? cs).map fun head => (head.1, head.2 ++ rest) := by
  ext ⟨name, behind⟩
  rw [h.head?_append_eq_some_iff, h.after?_append hm, Option.map_eq_some_iff,
    Option.map_eq_some_iff]
  constructor
  · rintro ⟨hw, hb, hname, hn, inside, hi, rfl⟩
    exact ⟨(name, inside), Kind.head?_eq_some_iff.2 ⟨hw, hb, hname, hn, hi⟩, rfl⟩
  · rintro ⟨⟨name', inside⟩, hh, he⟩
    cases he
    obtain ⟨hw, hb, hname, hn, hi⟩ := Kind.head?_eq_some_iff.1 hh
    exact ⟨hw, hb, hname, hn, inside, hi, rfl⟩

end Neutral

/-! ### Searches in two texts -/

/-- What is read at every place of a part, before either of two texts in which nothing is read, is
found in both. -/
theorem first?_append_congr {α : Type _} {read? : List Char → Option α} {after : Char → Bool}
    {free : Bool} {part rest rest' : List Char} {g : α → α}
    (h : ∀ u v, part = u ++ v → v ≠ [] → read? (v ++ rest) = (read? (v ++ rest')).map g)
    (hr : ∀ u v, rest = u ++ v → read? v = none) (hr' : ∀ u v, rest' = u ++ v → read? v = none) :
    (first? read? after free (part ++ rest)).map (·.2) =
      ((first? read? after free (part ++ rest')).map (·.2)).map g := by
  -- nothing starts in either text behind the part, so that the first find is in it for both
  induction part generalizing free with
  | nil =>
    rw [List.nil_append, List.nil_append, first?_eq_none_iff.2 fun u v he _ _ => hr u v he,
      first?_eq_none_iff.2 fun u v he _ _ => hr' u v he]
    rfl
  | cons c part ih =>
    have hpart := @ih (after c) fun u v he hv => h (c :: u) v (by rw [he]; rfl) hv
    have hc : read? (c :: part ++ rest) = (read? (c :: part ++ rest')).map g :=
      h [] (c :: part) rfl (by simp)
    rw [List.cons_append, List.cons_append] at hc
    rw [List.cons_append, List.cons_append, first?, first?]
    cases free with
    | false =>
      simp only [Bool.false_eq_true, if_false, Option.map_map] at hpart ⊢
      exact hpart
    | true =>
      rw [if_pos rfl, if_pos rfl, hc]
      cases read? (c :: (part ++ rest')) with
      | some a => rfl
      | none =>
        simp only [Option.map_none, Option.map_map] at hpart ⊢
        exact hpart

theorem property?_append_congr {α : Type _} {read? : List Char → Option α}
    {line rest rest' : List Char} {g : α → α}
    (h : ∀ u v, line = u ++ v → v ≠ [] → read? (v ++ rest) = (read? (v ++ rest')).map g)
    (hr : ∀ u v, rest = u ++ v → read? v = none) (hr' : ∀ u v, rest' = u ++ v → read? v = none) :
    property? read? (line ++ rest) = (property? read? (line ++ rest')).map g :=
  first?_append_congr h hr hr'

section Neutral

variable {rest : List Char} (h : Neutral rest)

include h

theorem Neutral.head?_eq_none (k : Kind) {u v : List Char} (he : rest = u ++ v) :
    k.head? v = none := by
  apply Kind.head?_eq_none_of_word_ne
  rw [(h.of_suffix ⟨u, he.symm⟩).word_eq_nil]
  exact k.keyword_ne_nil.symm

theorem Neutral.inLine?_append {k : Kind} (hm : k.opening.mark ∉ rest) (line : List Char) :
    k.inLine? (line ++ rest) = (k.inLine? line).map fun head => (head.1, head.2 ++ rest) := by
  have hs :=
    @first?_append_congr _ k.head? endsWord true line rest [] (fun head => (head.1, head.2 ++ rest))
      (fun u v _ _ => by rw [List.append_nil, h.head?_append hm])
        (fun u v he => h.head?_eq_none k he) (by
      intro u v he
      obtain ⟨-, rfl⟩ := List.append_eq_nil_iff.1 he.symm
      exact Kind.head?_eq_none_of_word_ne k.keyword_ne_nil.symm)
  rwa [List.append_nil] at hs

/-! ### Properties before a neutral text -/

theorem Neutral.isPrefixOf?_append {name : List Char} (hn : ∀ c ∈ name, isWord c = true)
    (cs : List Char) :
    name.isPrefixOf? (cs ++ rest) = (name.isPrefixOf? cs).map (· ++ rest) := by
  ext behind
  rw [isPrefixOf?_eq_some_iff, Option.map_eq_some_iff]
  constructor
  · intro he
    rcases List.append_eq_append_iff.1 he with ⟨as, hname, hrest⟩ | ⟨bs, rfl, rfl⟩
    · -- what the neutral text would have of the name is a word
      cases as with
      | nil =>
        rw [List.append_nil] at hname
        rw [List.nil_append] at hrest
        exact ⟨[], isPrefixOf?_eq_some_iff.2 (by rw [hname, List.append_nil]), hrest⟩
      | cons c as =>
        have hw := hn c (by rw [hname]; simp)
        rw [(h c (by rw [hrest]; simp)).1] at hw
        simp at hw
    · exact ⟨bs, isPrefixOf?_eq_some_iff.2 rfl, rfl⟩
  · rintro ⟨inside, hi, rfl⟩
    rw [isPrefixOf?_eq_some_iff.1 hi, List.append_assoc]

theorem Neutral.afterEquals?_append {name : List Char} (hn : ∀ c ∈ name, isWord c = true)
    (cs : List Char) :
    afterEquals? name (cs ++ rest) = (afterEquals? name cs).map (· ++ rest) := by
  rw [afterEquals?, h.isPrefixOf?_append hn, afterEquals?, Option.bind_map, Option.map_bind]
  congr 1
  funext inside
  exact afterMark?_append_of_notMem (h.notMem (by decide)) inside

theorem Neutral.isDigit_eq_false {c : Char} (hc : c ∈ rest) : isDigit c = false := by
  rw [← Bool.not_eq_true]
  intro hd
  have hw := (h c hc).1
  rw [isWord_of_isDigit hd] at hw
  simp at hw

theorem Neutral.dropWhile_isDigit (cs : List Char) :
    (cs ++ rest).takeWhile isDigit = cs.takeWhile isDigit ∧
    (cs ++ rest).dropWhile isDigit = cs.dropWhile isDigit ++ rest := by
  have hstop : ∀ c ∈ rest.head?, isDigit c = false :=
    fun c hc => h.isDigit_eq_false (List.mem_of_mem_head? hc)
  induction cs with
  | nil =>
    cases rest with
    | nil => exact ⟨rfl, rfl⟩
    | cons c cs =>
      have hc : isDigit c = false := hstop c rfl
      simp [hc]
  | cons c cs ih =>
    rw [List.cons_append, List.takeWhile_cons, List.dropWhile_cons, List.takeWhile_cons,
      List.dropWhile_cons]
    split
    · exact ⟨by rw [ih.1], ih.2⟩
    · exact ⟨rfl, rfl⟩

theorem Neutral.sizeDigits?_append (cs : List Char) :
    sizeDigits? (cs ++ rest) = sizeDigits? cs := by
  rw [sizeDigits?, h.afterEquals?_append (by decide), sizeDigits?]
  cases afterEquals? "size".toList cs with
  | none => rfl
  | some equals =>
    dsimp only [Option.map_some]
    by_cases hs : skipBlanks equals = []
    · -- the digits would have to be in the neutral text
      have hsuffix : skipBlanks rest <:+ rest := List.dropWhile_suffix _
      have hnone := ((h.of_suffix hsuffix).dropWhile_isDigit []).1
      rw [List.nil_append] at hnone
      rw [skipBlanks_append_of_eq_nil hs, hs, hnone]
      rfl
    · obtain ⟨htake, hdrop⟩ := h.dropWhile_isDigit (skipBlanks equals)
      rw [skipBlanks_append_of_ne_nil hs, htake, hdrop,
        afterMark?_append_of_notMem (h.notMem (by decide)), Option.map_map]
      rfl

theorem Neutral.defaultActionName?_append (cs : List Char) :
    defaultActionName? (cs ++ rest) = defaultActionName? cs := by
  rw [defaultActionName?, h.afterEquals?_append (by decide), defaultActionName?]
  cases afterEquals? "default_action".toList cs with
  | none => rfl
  | some equals =>
    dsimp only [Option.map_some]
    rw [h.word_skipBlanks]

/-- What is read by its name is not read in a neutral text. -/
theorem Neutral.afterEquals?_eq_none {name : List Char} (hn : name ≠ [])
    (hw : ∀ c ∈ name, isWord c = true) {u v : List Char} (he : rest = u ++ v) :
    afterEquals? name v = none := by
  cases ha : afterEquals? name v with
  | none => rfl
  | some behind =>
    obtain ⟨gap, -, rfl⟩ := exists_of_afterEquals? ha
    obtain ⟨c, w, rfl⟩ := List.exists_cons_of_ne_nil hn
    have hc := hw c List.mem_cons_self
    rw [(h c (by rw [he]; simp)).1] at hc
    simp at hc

end Neutral

/-- What a line says of a table before either of two neutral texts, if braces are met in both
alike. -/
theorem Neutral.ofProperty?_congr {rest rest' : List Char} (h : Neutral rest) (h' : Neutral rest')
    {line : List Char} {g : List Char → List Char}
    (hbrace : ∀ u v, line = u ++ v →
      afterMark? '{' (v ++ rest) = (afterMark? '{' (v ++ rest')).map g)
    {f : Statement → Statement}
    (hf : ∀ inside digits name, f (.keys inside) = .keys (g inside) ∧
      f (.actions inside) = .actions (g inside) ∧
      f (.size digits) = .size digits ∧ f (.defaultAction name) = .defaultAction name) :
    Statement.ofProperty? (line ++ rest) = (Statement.ofProperty? (line ++ rest')).map f := by
  -- whatever property a word opens, it is read in the line, and what is neutral goes with what is
  -- read
  have hblock {name : List Char} (hn : name ≠ []) (hw : ∀ c ∈ name, isWord c = true) :
      property? (blockOpening? name) (line ++ rest) =
        (property? (blockOpening? name) (line ++ rest')).map g := by
    refine property?_append_congr (fun u v he _ => ?_) (fun u v he => ?_) fun u v he => ?_
    · rw [blockOpening?, h.afterEquals?_append hw, blockOpening?, h'.afterEquals?_append hw]
      cases ha : afterEquals? name v with
      | none => rfl
      -- an opened block is the one property whose reading takes the text behind the line with it
      | some equals =>
        obtain ⟨gap, -, rfl⟩ := exists_of_afterEquals? ha
        exact hbrace (u ++ (name ++ (gap ++ ['=']))) equals (by rw [he]; simp)
    · rw [blockOpening?, h.afterEquals?_eq_none hn hw he]
      rfl
    · rw [blockOpening?, h'.afterEquals?_eq_none hn hw he]
      rfl
  have hsize : property? sizeDigits? (line ++ rest) =
      (property? sizeDigits? (line ++ rest')).map id := by
    refine property?_append_congr (fun u v _ _ => ?_) (fun u v he => ?_) fun u v he => ?_
    · rw [h.sizeDigits?_append, h'.sizeDigits?_append, Option.map_id_fun, id]
    · rw [sizeDigits?, h.afterEquals?_eq_none (by decide) (by decide) he]
    · rw [sizeDigits?, h'.afterEquals?_eq_none (by decide) (by decide) he]
  have hdefault : property? defaultActionName? (line ++ rest) =
      (property? defaultActionName? (line ++ rest')).map id := by
    refine property?_append_congr (fun u v _ _ => ?_) (fun u v he => ?_) fun u v he => ?_
    · rw [h.defaultActionName?_append, h'.defaultActionName?_append, Option.map_id_fun, id]
    · rw [defaultActionName?, h.afterEquals?_eq_none (by decide) (by decide) he]
    · rw [defaultActionName?, h'.afterEquals?_eq_none (by decide) (by decide) he]
  have hkeys : f ∘ Statement.keys = Statement.keys ∘ g := funext fun inside => (hf inside [] "").1
  have hactions : f ∘ Statement.actions = Statement.actions ∘ g :=
    funext fun inside => (hf inside [] "").2.1
  have hdigits : f ∘ Statement.size = Statement.size := funext fun digits => (hf [] digits "").2.2.1
  have hname : (f ∘ fun name => Statement.defaultAction (String.ofList name)) =
      fun name => Statement.defaultAction (String.ofList name) :=
    funext fun name => (hf [] [] (String.ofList name)).2.2.2
  rw [Statement.ofProperty?, hblock (by decide) (by decide), hblock (by decide) (by decide),
    hsize, hdefault, Statement.ofProperty?]
  simp only [Option.orElse_eq_orElse, Option.orElse_eq_or, Option.map_or, Option.map_map, hkeys,
    hactions, hdigits, hname, Function.comp_id]

/-! ### White space at the end of a line -/

/-- What a line says with a text behind it. -/
def Statement.trail (rest : List Char) : Statement → Statement
  | .keys inside => .keys (inside ++ rest)
  | .actions inside => .actions (inside ++ rest)
  | statement => statement

section Trail

variable {gap : List Char} (hg : ∀ c ∈ gap, isBlank c = true)

include hg

theorem balance_gap : balance gap = 0 :=
  balance_of_notMem (notMem_of_class hg (by decide)) (notMem_of_class hg (by decide))

theorem Statement.ofProperty?_trail (line : List Char) :
    Statement.ofProperty? (line ++ gap) =
      (Statement.ofProperty? line).map (Statement.trail gap) := by
  have hnil : Neutral [] := fun c hc => nomatch hc
  have hbrace (cs : List Char) : afterMark? '{' (cs ++ gap) =
      (afterMark? '{' (cs ++ [])).map (· ++ gap) := by
    rw [List.append_nil]
    exact afterMark?_append_of_notMem (notMem_of_class hg (by decide)) cs
  have hs := @Neutral.ofProperty?_congr _ _ (neutral_of_isBlank hg) hnil line (· ++ gap)
    (fun _ v _ => hbrace v) (Statement.trail gap) fun inside digits name => ⟨rfl, rfl, rfl, rfl⟩
  rwa [List.append_nil] at hs

/-- White space at the end of a line stands behind what the line says. -/
theorem Statement.ofLine_trail (inTable : Bool) (line : List Char) :
    Statement.ofLine inTable (line ++ gap) = (Statement.ofLine inTable line).trail gap := by
  have h := neutral_of_isBlank hg
  have hmark (k : Kind) : k.opening.mark ∉ gap := notMem_of_class hg (by cases k <;> decide)
  rw [Statement.ofLine, h.inLine?_append (hmark .control), h.inLine?_append (hmark .table),
    h.inLine?_append (hmark .action), Statement.ofProperty?_trail hg, Statement.ofLine]
  cases Kind.control.inLine? line with
  | some head => rfl
  | none =>
    cases Kind.table.inLine? line with
    | some head =>
      show Statement.table _ (1 + balance (head.2 ++ gap)) = _
      rw [balance_append, balance_gap hg, Int.add_zero]
      rfl
    | none =>
      cases inTable with
      | false => cases Kind.action.inLine? line <;> rfl
      | true =>
        cases Statement.ofProperty? line with
        | some property => rfl
        | none => cases Kind.action.inLine? line <;> rfl

theorem inlineEntries?_trail (reduce : List Char → List Char) (cs : List Char) :
    inlineEntries? reduce (cs ++ gap) = inlineEntries? reduce cs := by
  have hclose : '}' ∉ gap := notMem_of_class hg (by decide)
  by_cases hm : '}' ∈ cs
  · have htake : (cs ++ gap).takeWhile (· ≠ '}') = cs.takeWhile (· ≠ '}') := by
      obtain ⟨before, after, rfl, hb⟩ := List.eq_append_cons_of_mem hm
      have hb' : ∀ c ∈ before, decide (c ≠ '}') = true := by
        intro c hc
        have hne : c ≠ '}' := by
          rintro rfl
          exact hb hc
        exact decide_eq_true hne
      rw [List.append_assoc, List.takeWhile_append_of_pos hb', List.takeWhile_append_of_pos hb']
      simp
    rw [inlineEntries?, if_pos (List.mem_append_left gap hm), htake, inlineEntries?, if_pos hm]
  · have hm' : '}' ∉ cs ++ gap := by simp [hm, hclose]
    rw [inlineEntries?, if_neg hm', inlineEntries?, if_neg hm]

theorem Scan.obey_trail (keyText : KeyText) (s : Scan) (statement : Statement) :
    s.obey keyText (statement.trail gap) = s.obey keyText statement := by
  have hopen (control table : String) (depth : Int) (block : Block) (rest : List Char) :
      s.openBlock keyText control table depth block (rest ++ gap) =
        s.openBlock keyText control table depth block rest := by
    rw [Scan.openBlock, inlineEntries?_trail hg, Scan.openBlock]
  cases statement with
  | keys rest => cases hp : s.place <;> simp [Statement.trail, Scan.obey, hp, hopen]
  | actions rest => cases hp : s.place <;> simp [Statement.trail, Scan.obey, hp, hopen]
  | _ => rfl

theorem trim_trail (cs : List Char) : trim (cs ++ gap) = trim cs := by
  have hright (ds : List Char) : trimRight (ds ++ gap) = trimRight ds := by
    have hr : ∀ c ∈ gap.reverse, isBlank c = true := fun c hc => hg c (List.mem_reverse.1 hc)
    rw [trimRight, List.reverse_append, ← skipBlanks, skipBlanks_append hr, trimRight, ← skipBlanks]
  by_cases hs : skipBlanks cs = []
  · rw [trim, skipBlanks_append_of_eq_nil hs, skipBlanks_eq_nil hg, trim, hs]
  · rw [trim, skipBlanks_append_of_ne_nil hs, hright, trim]

/-- White space at the end of a line does nothing. -/
theorem Scan.step_trail (keyText : KeyText) (s : Scan) (line : List Char) :
    s.step keyText (line ++ gap) = s.step keyText line := by
  have hbalance : balance (line ++ gap) = balance line := by
    rw [balance_append, balance_gap hg, Int.add_zero]
  cases hb : s.place.block? with
  | none =>
    rw [Scan.step_of_block? keyText hb, Scan.step_of_block? keyText hb,
      Place.count_congr hbalance, Statement.ofLine_trail hg, Scan.obey_trail hg]
  | some block => exact Scan.step_congr_of_block? keyText hb hbalance (trim_trail hg line)

end Trail

/-! ### Action entries before a neutral text -/

theorem afterFirst?_append_of_notMem {mark : Char} {rest : List Char} (h : mark ∉ rest)
    (cs : List Char) :
    afterFirst? mark (cs ++ rest) = (afterFirst? mark cs).map (· ++ rest) := by
  have hrest : rest.dropWhile (· ≠ mark) = [] := by
    refine List.dropWhile_eq_nil_iff.2 fun c hc => decide_eq_true ?_
    rintro rfl
    exact h hc
  rw [afterFirst?, afterFirst?, List.dropWhile_append]
  cases hd : cs.dropWhile (· ≠ mark) with
  | nil => simp only [List.isEmpty_nil, if_true, hrest, Option.map_none]
  | cons c inside => rfl

/-- An annotation with blanks behind it is passed over. -/
theorem actionName_of_annotated {c : Char} {cs rest : List Char}
    (ha : afterAnnotation? cs = some (c :: rest)) (hc : isBlank c = true) :
    actionName cs = actionName (skipBlanks rest) := by
  rw [actionName, skipSpacedAnnotations]
  split
  · next hs =>
    rw [ha] at hs
    cases hs
    rw [if_pos hc]
    rfl
  · next hs => exact absurd ha (hs c rest)

theorem actionName_of_word {cs : List Char}
    (h : ∀ c rest, afterAnnotation? cs = some (c :: rest) → isBlank c = false) :
    actionName cs = word cs := by
  rw [actionName, skipSpacedAnnotations]
  split
  · next c rest hs => rw [if_neg (by rw [h c rest hs]; simp)]
  · rfl

theorem word_of_annotated {cs rest : List Char} (h : afterAnnotation? cs = some rest) :
    word cs = [] := by
  unfold afterAnnotation? at h
  split at h
  · exact word_cons_of_false (by decide) _
  · cases h

section Neutral

variable {rest : List Char} (h : Neutral rest)

include h

theorem Neutral.afterAnnotation?_append (cs : List Char) :
    afterAnnotation? (cs ++ rest) = (afterAnnotation? cs).map (· ++ rest) := by
  cases cs with
  | nil =>
    cases rest with
    | nil => rfl
    | cons c rest =>
      have hc : c ≠ '@' := by
        rintro rfl
        exact h.notMem (by decide) List.mem_cons_self
      simp [afterAnnotation?, hc]
  | cons c cs =>
    by_cases hc : c = '@'
    · subst hc
      rw [List.cons_append, afterAnnotation?, afterAnnotation?, word_append_of_wordStop h.wordStop,
        afterWord_append_of_wordStop h.wordStop]
      split
      · rfl
      -- a parenthesis right behind the name opens arguments; the text behind must not open some
      · cases ha : afterWord cs with
        | nil =>
          cases rest with
          | nil => rfl
          | cons d rest =>
            have hd : d ≠ '(' := by
              rintro rfl
              exact h.notMem (by decide) List.mem_cons_self
            simp [hd]
        | cons d behind =>
          by_cases hd : d = '('
          · subst hd
            exact afterFirst?_append_of_notMem (h.notMem (by decide)) behind
          · simp [hd]
    · simp [afterAnnotation?, hc]

theorem Neutral.actionName_eq_nil : actionName rest = [] := by
  have hnone : afterAnnotation? rest = none := by
    have ha := h.afterAnnotation?_append []
    rwa [List.nil_append] at ha
  rw [actionName_of_word (by rw [hnone]; simp), h.word_eq_nil]

/-- The name that an action entry declares is read the same before a neutral text. -/
theorem Neutral.actionName_append (cs : List Char) : actionName (cs ++ rest) = actionName cs := by
  have hnil {part : List Char} (hp : part <:+ rest) : actionName (skipBlanks part) = [] :=
    (h.of_suffix ((List.dropWhile_suffix _).trans hp)).actionName_eq_nil
  induction hl : cs.length using Nat.strongRecOn generalizing cs with
  | _ n ih =>
    have happend := h.afterAnnotation?_append cs
    by_cases hspaced : ∃ c t, afterAnnotation? cs = some (c :: t) ∧ isBlank c = true
    · obtain ⟨c, t, ha, hc⟩ := hspaced
      rw [ha, Option.map_some, List.cons_append] at happend
      rw [actionName_of_annotated happend hc, actionName_of_annotated ha hc]
      by_cases hs : skipBlanks t = []
      · rw [skipBlanks_append_of_eq_nil hs, hnil (List.suffix_refl rest), hs]
        exact (hnil List.nil_suffix).symm
      · have h1 := length_lt_of_afterAnnotation? ha
        have h2 := length_skipBlanks_le t
        rw [List.length_cons] at h1
        rw [skipBlanks_append_of_ne_nil hs, ih _ (by omega) (skipBlanks t) rfl]
    · have hbare (c : Char) (t : List Char) (ha : afterAnnotation? cs = some (c :: t)) :
          isBlank c = false := by
        rw [← Bool.not_eq_true]
        exact fun hc => hspaced ⟨c, t, ha, hc⟩
      rw [actionName_of_word hbare]
      by_cases hreach : ∃ c t, afterAnnotation? (cs ++ rest) = some (c :: t) ∧ isBlank c = true
      · -- the annotation ends where the neutral text begins
        obtain ⟨c, t, ha, hc⟩ := hreach
        obtain ⟨behind, hbehind, he⟩ := Option.map_eq_some_iff.1 (happend.symm.trans ha)
        rw [actionName_of_annotated ha hc, word_of_annotated hbehind]
        cases behind with
        | nil =>
          rw [List.nil_append] at he
          exact hnil (he ▸ List.suffix_cons c t)
        | cons d u =>
          obtain ⟨rfl, -⟩ := List.cons.inj he
          rw [hbare d u hbehind] at hc
          simp at hc
      · rw [actionName_of_word, word_append_of_wordStop h.wordStop]
        intro c t ha
        rw [← Bool.not_eq_true]
        exact fun hc => hreach ⟨c, t, ha, hc⟩

end Neutral

/-! ### White space before a brace at the end of a line -/

theorem trim_concat {c : Char} (h : isBlank c = false) (cs : List Char) :
    trim (cs ++ [c]) = skipBlanks cs ++ [c] := by
  by_cases hs : skipBlanks cs = []
  · rw [trim, skipBlanks_append_of_eq_nil hs, skipBlanks_of_bareStart (bareStart_cons h []), hs]
    exact trimRight_of_bareEnd (bareEnd_concat h [])
  · rw [trim, skipBlanks_append_of_ne_nil hs, trimRight_of_bareEnd (bareEnd_concat h _)]

section Brace

variable {gap : List Char} (hg : ∀ c ∈ gap, isBlank c = true)

include hg

theorem afterMark?_gap_brace {cs : List Char} (h : '{' ∉ cs) :
    afterMark? '{' (cs ++ (gap ++ ['{'])) = afterMark? '{' (cs ++ ['{']) := by
  by_cases hs : skipBlanks cs = []
  · rw [afterMark?, skipBlanks_append_of_eq_nil hs, skipBlanks_append hg, afterMark?,
      skipBlanks_append_of_eq_nil hs]
  · rw [afterMark?, skipBlanks_append_of_ne_nil hs, afterMark?, skipBlanks_append_of_ne_nil hs]
    cases hc : skipBlanks cs with
    | nil => exact absurd hc hs
    | cons c t =>
      have hne : c ≠ '{' := by
        rintro rfl
        exact h
          ((List.dropWhile_suffix _).subset (by rw [← skipBlanks, hc]; exact List.mem_cons_self))
      simp [hne]

theorem Kind.head?_gap_brace {k : Kind} (hk : k.opening = .brace) {cs : List Char} (h : '{' ∉ cs) :
    k.head? (cs ++ (gap ++ ['{'])) = k.head? (cs ++ ['{']) := by
  have hbehind : '{' ∉ afterWord (skipBlanks (afterWord cs)) := fun hm =>
    h ((((List.dropWhile_suffix _).trans (List.dropWhile_suffix _)).trans
      (List.dropWhile_suffix _)).subset hm)
  have hafter : k.opening.after? (afterWord (skipBlanks (afterWord cs)) ++ (gap ++ ['{'])) =
      k.opening.after? (afterWord (skipBlanks (afterWord cs)) ++ ['{']) := by
    rw [hk]
    exact afterMark?_gap_brace hg hbehind
  ext ⟨name, behind⟩
  rw [(neutral_gap_brace hg).head?_append_eq_some_iff,
    neutral_brace.head?_append_eq_some_iff, hafter]

theorem Statement.ofProperty?_gap_brace {line : List Char} (hl : '{' ∉ line) :
    Statement.ofProperty? (line ++ (gap ++ ['{'])) = Statement.ofProperty? (line ++ ['{']) := by
  have hs :=
    @Neutral.ofProperty?_congr _ _ (neutral_gap_brace hg) neutral_brace line id (fun u v he => by
      rw [afterMark?_gap_brace hg fun hm => hl (by rw [he]; simp [hm]), Option.map_id_fun, id])
    id fun inside digits name => ⟨rfl, rfl, rfl, rfl⟩
  rwa [Option.map_id_fun, id] at hs

theorem Kind.inLine?_gap_brace {k : Kind} (hk : k.opening = .brace) {line : List Char}
    (hl : '{' ∉ line) :
    k.inLine? (line ++ (gap ++ ['{'])) = k.inLine? (line ++ ['{']) := by
  have hs := @first?_append_congr _ k.head? endsWord true line (gap ++ ['{']) ['{'] id
    (fun u v he _ => by
      rw [Kind.head?_gap_brace hg hk fun hm => hl (by rw [he]; simp [hm]), Option.map_id_fun, id])
    (fun u v he => (neutral_gap_brace hg).head?_eq_none k he) fun u v he =>
      neutral_brace.head?_eq_none k he
  rwa [Option.map_id_fun, id] at hs

/-- White space before a brace at the end of a line changes nothing of what the line says. -/
theorem Statement.ofLine_gap_brace (inTable : Bool) {line : List Char} (hl : '{' ∉ line) :
    Statement.ofLine inTable (line ++ (gap ++ ['{'])) =
      Statement.ofLine inTable (line ++ ['{']) := by
  have hmark : ∀ k ∈ [Kind.control, Kind.action], k.opening.mark ∉ gap ++ ['{'] ∧
      k.opening.mark ∉ ['{'] := by
    intro k hk
    have hparen : k.opening.mark = '(' := by
      revert k
      decide
    rw [hparen]
    exact ⟨(neutral_gap_brace hg).notMem (by decide), by decide⟩
  obtain ⟨hcontrol, hcontrol'⟩ := hmark .control (by simp)
  obtain ⟨haction, haction'⟩ := hmark .action (by simp)
  rw [Statement.ofLine, (neutral_gap_brace hg).inLine?_append hcontrol,
    (neutral_gap_brace hg).inLine?_append haction, Kind.inLine?_gap_brace hg rfl hl,
    Statement.ofProperty?_gap_brace hg hl, Statement.ofLine, neutral_brace.inLine?_append hcontrol',
    neutral_brace.inLine?_append haction']
  -- of the heads of controls and actions only the names are told
  cases Kind.control.inLine? line <;> cases Kind.action.inLine? line <;> rfl

theorem Block.entry_gap_brace (keyText : KeyText) (line : List Char) :
    Block.actions.entry keyText (trim (line ++ (gap ++ ['{']))) =
      Block.actions.entry keyText (trim (line ++ ['{'])) := by
  have hname : actionName (trim (line ++ (gap ++ ['{']))) = actionName (trim (line ++ ['{'])) := by
    rw [← List.append_assoc, trim_concat (by decide), trim_concat (by decide)]
    by_cases hs : skipBlanks line = []
    · rw [skipBlanks_append_of_eq_nil hs, skipBlanks_eq_nil hg, hs]
    · rw [skipBlanks_append_of_ne_nil hs, List.append_assoc,
        (neutral_gap_brace hg).actionName_append, neutral_brace.actionName_append]
  show (if (actionName _).isEmpty then [] else [String.ofList (actionName _)]) = _
  rw [hname]
  rfl

/-- White space before a brace at the end of a line does nothing, unless the key block is open: that
keeps its entries as they are written. -/
theorem Scan.step_gap_brace (keyText : KeyText) {s : Scan} (hs : s.place.block? ≠ some .keys)
    {line : List Char} (hl : '{' ∉ line) :
    s.step keyText (line ++ (gap ++ ['{'])) = s.step keyText (line ++ ['{']) := by
  have hbalance : balance (line ++ (gap ++ ['{'])) = balance (line ++ ['{']) := by
    rw [balance_append, balance_append, balance_gap hg, Int.zero_add, balance_append]
  have hcount : s.place.count (line ++ (gap ++ ['{'])) = s.place.count (line ++ ['{']) := by
    cases s.place with
    | table owner name depth block => rw [Place.count, hbalance, Place.count]
    | _ => rfl
  cases hb : s.place.block? with
  | none =>
    rw [Scan.step_of_block? keyText hb, Scan.step_of_block? keyText hb, hcount,
      Statement.ofLine_gap_brace hg _ hl]
  | some block =>
    obtain ⟨o, place⟩ := s
    cases place with
    | table owner name depth open? =>
      cases hb
      cases block with
      | keys => exact absurd rfl hs
      | actions =>
        -- no line that ends in an opening brace closes the block, and none is blank
        have hentry (cs : List Char) : trim (cs ++ ['{']) ≠ ['}'] ∧
            (trim (cs ++ ['{'])).isEmpty = false := by
          rw [trim_concat (by decide)]
          refine ⟨?_, by simp⟩
          intro he
          have hlast := congrArg List.getLast? he
          rw [List.getLast?_concat] at hlast
          exact absurd hlast (by decide)
        have hread (cs : List Char) (t : Scan) (depth : Int) :
            t.readEntry keyText owner name depth .actions (cs ++ ['{']) =
              t.changeTable owner name
                (·.addEntries .actions (Block.actions.entry keyText (trim (cs ++ ['{'])))) := by
          rw [Scan.readEntry, if_neg (hentry cs).1, (hentry cs).2]
          rfl
        show (Scan.readEntry keyText _ owner name
          (depth + balance (line ++ (gap ++ ['{']))) .actions (line ++ (gap ++ ['{']))).map _ =
            (Scan.readEntry keyText _ owner name (depth + balance (line ++ ['{'])) .actions
              (line ++ ['{'])).map _
        rw [hcount, hbalance, ← List.append_assoc, hread, hread, List.append_assoc,
          Block.entry_gap_brace hg]
    | _ => simp [Place.block?] at hb

end Brace

end P4Outline

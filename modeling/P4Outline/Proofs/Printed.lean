import P4Outline.Proofs.Head
import P4Outline.Proofs.Program

/-!
# What the lines of a printed program say

Each statement of a printed program, read as a line, says just what it was printed for, whatever
names and free texts it was printed with.

* `Statement.ofLine_control`, `Statement.ofLine_table`, `Statement.ofLine_action`: heads.
* `Statement.ofLine_size`, `Statement.ofLine_defaultAction`: properties.
* `Statement.ofLine_of_not_holdsWord`: lines of bodies.
* `KeyEntry.reduce_print`, `Identifier.actionName_entry`: entries of blocks.
-/

namespace P4Outline

open P4Outline.Text P4Outline.Source

/-! ### Names -/

namespace Identifier

variable (name : Identifier)

theorem notMem {d : Char} (h : isWord d = false) : d ∉ name.chars :=
  notMem_of_class name.all_isWord h

theorem bareStart (rest : List Char) : BareStart (name.chars ++ rest) := by
  have hs : BareStart name.chars :=
    bareStart_of_forall fun c hc => isBlank_of_isWord (name.all_isWord c hc)
  exact bareStart_append hs name.ne_nil rest

theorem bareEnd (front : List Char) : BareEnd (front ++ name.chars) := by
  intro c hc
  rw [Option.mem_def, List.getLast?_append, List.getLast?_eq_some_getLast name.ne_nil,
    Option.some_or] at hc
  cases hc
  exact isBlank_of_isWord (name.all_isWord _ (List.getLast_mem name.ne_nil))

theorem word_append {rest : List Char} (h : WordStop rest) :
    word (name.chars ++ rest) = name.chars :=
  Text.word_append name.all_isWord h

theorem afterWord_append {rest : List Char} (h : WordStop rest) :
    afterWord (name.chars ++ rest) = rest :=
  Text.afterWord_append name.all_isWord h

end Identifier

/-! ### Heads -/

theorem Opening.after?_mark (o : Opening) {gap : List Char} (hg : ∀ c ∈ gap, isBlank c = true)
    (rest : List Char) :
    o.after? (gap ++ o.mark :: rest) = some rest := by
  cases o with
  | brace => exact afterMark?_append (by decide) hg rest
  | parenthesis => exact afterMark?_append (by decide) hg rest
  | typeParameters =>
    have hskip : skipBlanks (gap ++ '(' :: rest) = '(' :: rest := by
      rw [skipBlanks_append hg, skipBlanks_of_bareStart (bareStart_cons (by decide) rest)]
    have hparameters : afterTypeParameters? (gap ++ '(' :: rest) = some ('(' :: rest) := by
      rw [afterTypeParameters?, hskip]
      rfl
    show (afterTypeParameters? (gap ++ '(' :: rest)).bind (afterMark? '(') = _
    rw [hparameters]
    exact @afterMark?_append '(' (by decide) [] (by simp) rest

/-- A head that is written out is read. -/
theorem Kind.head?_append (k : Kind) (name : Identifier) (gap : List Char)
    (hg : ∀ c ∈ gap, isBlank c = true) (rest : List Char) :
    k.head? (k.keyword ++ ' ' :: (name.chars ++ (gap ++ k.opening.mark :: rest))) =
      some (name.chars, rest) := by
  have hstop : WordStop (gap ++ k.opening.mark :: rest) := by
    cases gap with
    | nil => exact wordStop_cons k.opening.isWord_mark rest
    | cons c gap => exact wordStop_cons (isWord_of_isBlank (hg c List.mem_cons_self)) _
  have hspace : WordStop (' ' :: (name.chars ++ (gap ++ k.opening.mark :: rest))) :=
    wordStop_cons (by decide) _
  rw [Kind.head?_eq_some_iff, word_append Kind.isWord_of_mem_keyword hspace,
    afterWord_append Kind.isWord_of_mem_keyword hspace, skipBlanks_space (name.bareStart _),
    name.word_append hstop, name.afterWord_append hstop]
  exact ⟨rfl, ⟨' ', _, rfl, by decide⟩, rfl, name.ne_nil, k.opening.after?_mark hg rest⟩

theorem headText_append (k : Kind) (name : Identifier) (parameters : Parameters)
    (rest : List Char) :
    headText k name parameters ++ rest =
      k.keyword ++ ' ' :: (name.chars ++ '(' :: (parameters.chars ++ ')' :: ' ' :: rest)) := by
  simp [headText]

theorem Statement.ofLine_control (inTable : Bool) (name : Identifier) (parameters : Parameters)
    (rest : List Char) :
    Statement.ofLine inTable (headText .control name parameters ++ rest) = .control name.text := by
  have hh : Kind.control.head? (headText .control name parameters ++ rest) =
      some (name.chars, parameters.chars ++ ')' :: ' ' :: rest) := by
    rw [headText_append]
    exact Kind.head?_append .control name [] (by simp) _
  exact Statement.ofLine_of_inLine? (Kind.inLine?_of_head? hh)

theorem Statement.ofLine_table (inTable : Bool) (name : Identifier) :
    Statement.ofLine inTable (Kind.table.keyword ++ ' ' :: (name.chars ++ [' ', '{'])) =
      .table name.text 1 := by
  have hcontrol : Kind.control.inLine? (Kind.table.keyword ++ ' ' :: (name.chars ++ [' ', '{'])) =
      none := by
    apply Kind.inLine?_eq_none_of_notMem
    show '(' ∉ _
    simp only [List.mem_append, List.mem_cons, not_or]
    exact ⟨by decide, by decide, name.notMem (by decide), by decide⟩
  have htable : Kind.table.inLine? (Kind.table.keyword ++ ' ' :: (name.chars ++ [' ', '{'])) =
      some (name.chars, []) :=
    Kind.inLine?_of_head? (Kind.head?_append .table name [' '] (by decide) [])
  rw [Statement.ofLine, hcontrol, htable]
  rfl

/-- A line that holds none of the three keywords says nothing outside tables. -/
theorem Statement.ofLine_of_not_holdsWord {line : List Char}
    (h : ∀ k ∈ [Kind.control, Kind.table, Kind.action], ¬ HoldsWord k.keyword line) :
    Statement.ofLine false line = .other := by
  rw [Statement.ofLine, Kind.inLine?_eq_none_of_not_holdsWord (h .control (by decide)),
    Kind.inLine?_eq_none_of_not_holdsWord (h .table (by decide)),
    Kind.inLine?_eq_none_of_not_holdsWord (h .action (by decide))]
  rfl

/-- A word at the front of a line is passed over if it is no keyword or no blank follows. -/
theorem Kind.inLine?_word {k : Kind} {w : List Char} (hw : ∀ c ∈ w, isWord c = true) {c : Char}
    (hc : isWord c = false) (h : w ≠ k.keyword ∨ isBlank c = false) (rest : List Char) :
    k.inLine? (w ++ c :: rest) = k.inLine? rest := by
  have hends : freeAfter endsWord true (w ++ [c]) = true := by
    rw [freeAfter_concat, endsWord, hc]
    rfl
  have hsplit : w ++ c :: rest = (w ++ [c]) ++ rest := by simp
  rw [hsplit]
  refine Kind.inLine?_append ?_ hends
  intro u v he hv hu
  rcases List.eq_nil_or_concat u with rfl | ⟨u', d, rfl⟩
  · -- a head at the front would need the word for its keyword, and a blank behind it
    rw [List.nil_append] at he
    rw [← he, ← hsplit]
    cases hh : k.head? (w ++ c :: rest) with
    | none => rfl
    | some x =>
      obtain ⟨hkeyword, ⟨b, t, hafter, hb⟩, -⟩ := Kind.head?_eq_some_iff.1 hh
      rw [word_append hw (wordStop_cons hc rest)] at hkeyword
      rw [afterWord_append hw (wordStop_cons hc rest)] at hafter
      cases hafter
      rcases h with h | h
      · exact absurd hkeyword h
      · rw [hb] at h
        simp at h
  · -- within the word no place is free
    obtain ⟨v', e, rfl⟩ := (List.eq_nil_or_concat v).resolve_left hv
    rw [List.concat_eq_append, List.concat_eq_append, ← List.append_assoc] at he
    have hd : isWord d = true := hw d (by rw [(List.append_inj' he rfl).1]; simp)
    rw [List.concat_eq_append, freeAfter_concat, endsWord, hd] at hu
    simp at hu

/-- A head with a brace is made of words and blanks up to the brace. -/
theorem Kind.exists_of_head? {k : Kind} (hk : k.opening = .brace) {cs : List Char}
    {x : List Char × List Char} (h : k.head? cs = some x) :
    ∃ before rest, cs = before ++ '{' :: rest ∧
      ∀ c ∈ before, isWord c = true ∨ isBlank c = true := by
  obtain ⟨-, -, -, -, hr⟩ := Kind.head?_eq_some_iff.1 h
  rw [hk] at hr
  obtain ⟨gap₁, hg₁, h₁⟩ := exists_skipBlanks (afterWord cs)
  obtain ⟨gap₂, hg₂, h₂⟩ := exists_of_afterMark? hr
  refine ⟨word cs ++ (gap₁ ++ (word (skipBlanks (afterWord cs)) ++ gap₂)), x.2, ?_, ?_⟩
  · calc cs = word cs ++ afterWord cs := (word_append_afterWord cs).symm
      _ = word cs ++ (gap₁ ++ skipBlanks (afterWord cs)) := congrArg (word cs ++ ·) h₁
      _ = word cs ++ (gap₁ ++
        (word (skipBlanks (afterWord cs)) ++ afterWord (skipBlanks (afterWord cs)))) := by
        rw [word_append_afterWord]
      _ = _ := by rw [h₂]; simp
  · intro c hc
    simp only [List.mem_append] at hc
    rcases hc with hc | hc | hc | hc
    · exact .inl (isWord_of_mem_word hc)
    · exact .inr (hg₁ c hc)
    · exact .inl (isWord_of_mem_word hc)
    · exact .inr (hg₂ c hc)

/-- No head with a brace reaches over another mark. -/
theorem Kind.head?_eq_none_of_mark {k : Kind} (hk : k.opening = .brace) {front : List Char}
    (hf : '{' ∉ front) {m : Char} (hm : isWord m = false) (hb : isBlank m = false) (hne : m ≠ '{')
    (rest : List Char) :
    k.head? (front ++ m :: rest) = none := by
  cases hh : k.head? (front ++ m :: rest) with
  | none => rfl
  | some x =>
    obtain ⟨before, inside, he, hbefore⟩ := Kind.exists_of_head? hk hh
    -- the mark lies before the head's brace, where all are words and blanks, or the brace before
    -- the mark
    rcases List.append_eq_append_iff.1 he with ⟨as, rfl, has⟩ | ⟨bs, rfl, hbs⟩
    · cases as with
      | nil => exact absurd (List.cons.inj has).1 hne
      | cons a as =>
        have hmem := hbefore m (by rw [(List.cons.inj has).1]; simp)
        simp [hm, hb] at hmem
    · cases bs with
      | nil => exact absurd (List.cons.inj hbs).1.symm hne
      | cons b bs => exact absurd (by rw [(List.cons.inj hbs).1]; simp) hf

/-- What stands before such a mark has no part in the head. -/
theorem Kind.inLine?_append_mark {k : Kind} (hk : k.opening = .brace) {front : List Char}
    (hf : '{' ∉ front) {m : Char} (hm : isWord m = false) (hb : isBlank m = false) (hne : m ≠ '{')
    (rest : List Char) :
    k.inLine? (front ++ m :: rest) = k.inLine? rest := by
  have hends : freeAfter endsWord true (front ++ [m]) = true := by
    rw [freeAfter_concat, endsWord, hm]
    rfl
  have hsplit : front ++ m :: rest = (front ++ [m]) ++ rest := by simp
  rw [hsplit]
  refine Kind.inLine?_append ?_ hends
  intro u v he hv _
  -- a head that starts in front of the mark would have to go on past it
  obtain ⟨v', d, rfl⟩ := (List.eq_nil_or_concat v).resolve_left hv
  rw [List.concat_eq_append, ← List.append_assoc] at he
  obtain ⟨hfront, hd⟩ := List.append_inj' he rfl
  cases hd
  have hv' : '{' ∉ v' := by
    intro h
    exact hf (by rw [hfront]; exact List.mem_append_right _ h)
  rw [List.concat_eq_append, List.append_assoc, List.singleton_append]
  exact Kind.head?_eq_none_of_mark hk hv' hm hb hne rest

theorem Statement.ofLine_action (name : Identifier) (parameters : Parameters) {rest : List Char}
    (h : ∀ k ∈ [Kind.control, Kind.table, Kind.action], ¬ HoldsWord k.keyword rest) :
    Statement.ofLine false (headText .action name parameters ++ '{' :: rest) =
      .action name.text := by
  have hspace {k : Kind} (hk : k ∈ [Kind.control, Kind.table, Kind.action]) :
      ¬ HoldsWord k.keyword (' ' :: '{' :: rest) := by
    rw [HoldsWord, holdsWordFrom_cons_of_false k.keyword_ne_nil (by decide), HoldsWord,
      holdsWordFrom_cons_of_false k.keyword_ne_nil (by decide)]
    exact h k hk
  -- the keyword and the name begin no other head
  have hfront {k : Kind} (hk : Kind.action.keyword ≠ k.keyword) :
      k.inLine? (headText .action name parameters ++ '{' :: rest) =
        k.inLine? (parameters.chars ++ ')' :: ' ' :: '{' :: rest) := by
    rw [headText_append, Kind.inLine?_word Kind.isWord_of_mem_keyword (by decide) (.inl hk),
      Kind.inLine?_word name.all_isWord (by decide) (.inr (by decide))]
  have hcontrol : Kind.control.inLine? (headText .action name parameters ++ '{' :: rest) =
      none := by
    rw [hfront (by decide)]
    apply Kind.inLine?_eq_none_of_not_holdsWord
    rw [HoldsWord, holdsWordFrom_append_cons Kind.control.keyword_ne_nil (by decide)]
    exact not_or.2 ⟨parameters.not_holdsWord, hspace (by decide)⟩
  have htable : Kind.table.inLine? (headText .action name parameters ++ '{' :: rest) = none := by
    -- parameters may well hold the keyword, but no head goes over their closing parenthesis
    rw [hfront (by decide), Kind.inLine?_append_mark rfl parameters.inline.brace_notMem
      (by decide) (by decide) (by decide)]
    exact Kind.inLine?_eq_none_of_not_holdsWord (hspace (by decide))
  have haction : Kind.action.head? (headText .action name parameters ++ '{' :: rest) =
      some (name.chars, parameters.chars ++ ')' :: ' ' :: '{' :: rest) := by
    rw [headText_append]
    exact Kind.head?_append .action name [] (by simp) _
  rw [Statement.ofLine, hcontrol, htable, Kind.inLine?_of_head? haction]
  rfl

/-! ### Properties -/

theorem afterEquals?_eq_none_of_ne {c d : Char} (h : c ≠ d) (name cs : List Char) :
    afterEquals? (d :: name) (c :: cs) = none := by
  cases ha : afterEquals? (d :: name) (c :: cs) with
  | none => rfl
  | some rest =>
    obtain ⟨gap, -, he⟩ := exists_of_afterEquals? ha
    exact absurd (List.cons.inj he).1 h

/-- A line without parentheses and braces has no heads and opens no block. -/
theorem Statement.ofLine_of_notMem {line : List Char} (hp : '(' ∉ line) (hb : '{' ∉ line)
    {statement : Statement}
    (h : ((property? sizeDigits? line).map Statement.size <|>
      (property? defaultActionName? line).map
        fun name => Statement.defaultAction (String.ofList name)) = some statement) :
    Statement.ofLine true line = statement := by
  have hprop : Statement.ofProperty? line = some statement := by
    rw [Statement.ofProperty?, property?_blockOpening?_eq_none hb,
      property?_blockOpening?_eq_none hb]
    exact h
  have hcontrol : Kind.control.inLine? line = none := Kind.inLine?_eq_none_of_notMem hp
  have htable : Kind.table.inLine? line = none := Kind.inLine?_eq_none_of_notMem hb
  rw [Statement.ofLine, hcontrol, htable]
  dsimp only
  rw [if_pos rfl, hprop]

theorem natText_ne_nil (n : Nat) : natText n ≠ [] := Nat.toDigits_ne_nil

theorem bareStart_natText (n : Nat) (rest : List Char) : BareStart (natText n ++ rest) := by
  have hs : BareStart (natText n) :=
    bareStart_of_forall fun c hc => isBlank_of_isDigit (isDigit_of_mem_natText hc)
  exact bareStart_append hs (natText_ne_nil n) rest

theorem Statement.ofLine_size (n : Nat) :
    Statement.ofLine true ("size = ".toList ++ (natText n ++ [';'])) = .size (natText n) := by
  have hmem {d : Char} (hd : isDigit d = false) (hs : d ∉ "size = ".toList) (he : d ≠ ';') :
      d ∉ "size = ".toList ++ (natText n ++ [';']) := by
    simp only [List.mem_append, List.mem_singleton, not_or]
    exact ⟨hs, notMem_of_class (fun c hc => isDigit_of_mem_natText hc) hd, he⟩
  have hequals : afterEquals? "size".toList ("size = ".toList ++ (natText n ++ [';'])) =
      some (' ' :: (natText n ++ [';'])) :=
    @afterEquals?_append "size".toList [' '] (by decide) _
  have hdigits : ∀ c ∈ natText n, isDigit c = true := fun c hc => isDigit_of_mem_natText hc
  have htake : (natText n ++ [';']).takeWhile isDigit = natText n := by
    rw [List.takeWhile_append_of_pos hdigits]
    exact List.append_nil _
  have hdrop : (natText n ++ [';']).dropWhile isDigit = [';'] := by
    rw [List.dropWhile_append_of_pos hdigits]
    rfl
  have hsize : sizeDigits? ("size = ".toList ++ (natText n ++ [';'])) = some (natText n) := by
    rw [sizeDigits?, hequals]
    dsimp only
    rw [skipBlanks_space (bareStart_natText n _), htake, hdrop,
      if_neg (by simpa using natText_ne_nil n)]
    rfl
  apply Statement.ofLine_of_notMem (hmem (by decide) (by decide) (by decide))
    (hmem (by decide) (by decide) (by decide))
  rw [property?_of_read? (by simp) hsize]
  rfl

theorem Statement.ofLine_defaultAction (name : Identifier) :
    Statement.ofLine true ("default_action = ".toList ++ (name.chars ++ [';'])) =
      .defaultAction name.text := by
  have hmem {d : Char} (hd : isWord d = false) (hs : d ∉ "default_action = ".toList)
      (he : d ≠ ';') :
      d ∉ "default_action = ".toList ++ (name.chars ++ [';']) := by
    simp only [List.mem_append, List.mem_singleton, not_or]
    exact ⟨hs, name.notMem hd, he⟩
  -- the only equals sign of the line stands behind another word
  have hsize : property? sizeDigits? ("default_action = ".toList ++ (name.chars ++ [';'])) =
      none := by
    show property? sizeDigits? ("default_action =".toList ++ ' ' :: (name.chars ++ [';'])) = none
    rw [property?_append]
    · apply property?_sizeDigits?_eq_none
      simp only [List.mem_cons, List.mem_append, List.not_mem_nil, or_false, not_or]
      exact ⟨by decide, name.notMem (by decide), by decide⟩
    · intro u v he hv
      cases v with
      | nil => exact absurd rfl hv
      | cons c v =>
        have hall : ∀ c ∈ "default_action =".toList, c ≠ 's' := by decide
        have hname : "size".toList = 's' :: "ize".toList := rfl
        rw [List.cons_append, sizeDigits?, hname,
          afterEquals?_eq_none_of_ne (hall c (by rw [he]; simp))]
    · decide
  have hequals :
    afterEquals? "default_action".toList ("default_action = ".toList ++ (name.chars ++ [';'])) =
      some (' ' :: (name.chars ++ [';'])) :=
    @afterEquals?_append "default_action".toList [' '] (by decide) _
  have hname : defaultActionName? ("default_action = ".toList ++ (name.chars ++ [';'])) =
      some name.chars := by
    rw [defaultActionName?, hequals]
    dsimp only
    rw [skipBlanks_space (name.bareStart _), name.word_append (wordStop_cons (by decide) _),
      if_neg (by simpa using name.ne_nil)]
  apply Statement.ofLine_of_notMem (hmem (by decide) (by decide) (by decide))
    (hmem (by decide) (by decide) (by decide))
  rw [hsize, property?_of_read? (by simp) hname]
  rfl

/-! ### Entries -/

theorem afterAnnotation?_eq_none {c : Char} (h : c ≠ '@') (cs : List Char) :
    afterAnnotation? (c :: cs) = none := by
  unfold afterAnnotation?
  split
  · next he => exact absurd (List.cons.inj he).1 h
  · rfl

/-- An action entry declares the name at its front. -/
theorem Identifier.actionName_append (name : Identifier) {rest : List Char} (h : WordStop rest) :
    actionName (name.chars ++ rest) = name.chars := by
  have ha : afterAnnotation? (name.chars ++ rest) = none := by
    cases hn : name.chars with
    | nil => exact absurd hn name.ne_nil
    | cons c cs =>
      have hat : '@' ∉ c :: cs := by
        rw [← hn]
        exact name.notMem (by decide)
      exact afterAnnotation?_eq_none (Ne.symm (List.ne_of_not_mem_cons hat)) _
  rw [actionName, skipSpacedAnnotations, ha]
  exact name.word_append h

theorem Identifier.actionName_entry (name : Identifier) : actionName name.entry = name.chars :=
  name.actionName_append (wordStop_cons (by decide) [])

/-- The match kind of an entry that ends well is the word at its front. -/
theorem matchKind?_append {gap : List Char} (hg : ∀ c ∈ gap, isBlank c = true) (kind : Identifier)
    {rest behind : List Char} (hr : WordStop rest) (h : skipAnnotations rest = ';' :: behind) :
    matchKind? (gap ++ (kind.chars ++ rest)) = some kind.chars := by
  rw [matchKind?, skipBlanks_append hg, skipBlanks_of_bareStart (kind.bareStart _),
    kind.word_append hr, kind.afterWord_append hr, if_neg (by simpa using kind.ne_nil), h]
  rfl

theorem lastField?_of_notMem {cs : List Char} (h : ':' ∉ cs) : lastField? cs = none := by
  induction cs with
  | nil => rfl
  | cons c cs ih =>
    rw [List.mem_cons, not_or] at h
    rw [lastField?]
    split
    · split
      · next rest hs =>
        have hm : ':' ∈ skipBlanks cs := hs ▸ List.mem_cons_self
        exact absurd ((List.dropWhile_suffix _).subset hm) h.2
      · rfl
    · rw [ih h.2]
      exact if_neg (Ne.symm h.1)

/-- A key entry is cut at a colon that a match kind follows, if no colon comes behind that. -/
theorem lastField?_colon {behind kind : List Char} (hm : ':' ∉ behind)
    (hk : matchKind? behind = some kind) :
    lastField? (':' :: behind) = some ([], kind) := by
  rw [lastField?, if_neg (by decide), lastField?_of_notMem hm, hk]
  rfl

/-- What stands before the cut on the same line is part of the expression. -/
theorem lastField?_append {front : List Char} (hf : '\n' ∉ front) {rest expression kind : List Char}
    (h : lastField? rest = some (expression, kind)) :
    lastField? (front ++ rest) = some (front ++ expression, kind) := by
  induction front with
  | nil => exact h
  | cons c front ih =>
    rw [List.mem_cons, not_or] at hf
    rw [List.cons_append, lastField?, if_neg (Ne.symm hf.1), ih hf.2]
    rfl

theorem field?_append {front : List Char} (hne : front ≠ []) (hf : '\n' ∉ front)
    {rest expression kind : List Char} (h : lastField? rest = some (expression, kind)) :
    field? (front ++ rest) = some (front ++ expression, kind) := by
  cases front with
  | nil => exact absurd rfl hne
  | cons c front =>
    rw [List.mem_cons, not_or] at hf
    rw [List.cons_append, field?, if_neg (Ne.symm hf.1), lastField?_append hf.2 h]
    rfl

/-- A key entry without annotations is cut at the colon before its match kind. -/
theorem field?_plain {front : List Char} (hne : front ≠ []) (hf : '\n' ∉ front)
    {gap gap' : List Char} (hg : ∀ c ∈ gap, isBlank c = true) (kind : Identifier)
    (hg' : ∀ c ∈ gap', isBlank c = true) :
    field? (front ++ ':' :: (gap ++ (kind.chars ++ (gap' ++ [';'])))) =
      some (front, kind.chars) := by
  have hcolon : ':' ∉ gap ++ (kind.chars ++ (gap' ++ [';'])) := by
    simp only [List.mem_append, List.mem_singleton, not_or]
    exact ⟨notMem_of_class hg (by decide), kind.notMem (by decide),
      notMem_of_class hg' (by decide), by decide⟩
  have hend : skipAnnotations (gap' ++ [';']) = [';'] := by
    rw [skipAnnotations, skipBlanks_append hg',
      skipBlanks_of_bareStart (bareStart_cons (by decide) [])]
    rfl
  have hkind := matchKind?_append hg kind (wordStop_gap_cons hg' (by decide) []) hend
  rw [field?_append hne hf (lastField?_colon hcolon hkind), List.append_nil]

theorem KeyEntry.field?_print (e : KeyEntry) :
    field? e.print = some (e.expression.chars, e.kind.chars) :=
  @field?_plain _ e.expression.ne_nil e.expression.inline.newline_notMem [' '] []
    (by decide) e.kind (by simp)

/-- A key entry keeps its expression and match kind, or all of it. -/
theorem KeyEntry.reduce_print (keyText : KeyText) (e : KeyEntry) :
    String.ofList (keyText.reduce e.print) = e.kept keyText := by
  cases keyText with
  | verbatim => rfl
  | field =>
    rw [KeyText.reduce, e.field?_print]
    dsimp only
    rw [trim_of_bare e.expression.bareStart e.expression.bareEnd, KeyEntry.kept]

end P4Outline

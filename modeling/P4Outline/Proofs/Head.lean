import P4Outline.Outline.Statement
import P4Outline.Proofs.Text

/-!
# What a line has to hold to say something

Every statement of a line is read at one place of it, behind which certain characters stand. A line
without them says nothing of the kind, and blanks in front of a line change nothing of what it says.

* `Kind.head?_eq_some_iff`: a head is a keyword, blanks, a name and an opening, each as long as can
  be.
* `Kind.inLine?_eq_none_of_notMem`: no head without its opening.
* `Kind.inLine?_eq_none_of_not_holdsWord`: no head without its keyword.
* `Statement.ofLine_append`: blanks in front of a line are passed over.
-/

namespace P4Outline

open P4Outline.Text P4Outline.Source

/-! ### Marks and keywords -/

theorem isPrefixOf?_eq_some_iff {p cs rest : List Char} :
    p.isPrefixOf? cs = some rest ↔ cs = p ++ rest := by
  refine ⟨eq_append_of_isPrefixOf?, ?_⟩
  rintro rfl
  induction p with
  | nil => rfl
  | cons c p ih =>
    change (if c == c then p.isPrefixOf? (p ++ rest) else none) = some rest
    rw [if_pos (by simp), ih]

theorem exists_of_afterMark? {mark : Char} {cs rest : List Char}
    (h : afterMark? mark cs = some rest) :
    ∃ gap, (∀ c ∈ gap, isBlank c = true) ∧ cs = gap ++ mark :: rest := by
  obtain ⟨gap, hg, he⟩ := exists_skipBlanks cs
  rw [afterMark?] at h
  split at h
  · next c r hs =>
    split at h
    · next hc => cases h; exact ⟨gap, hg, by rw [← hc, ← hs, ← he]⟩
    · simp at h
  · simp at h

theorem afterMark?_append {mark : Char} (hm : isBlank mark = false) {gap : List Char}
    (hg : ∀ c ∈ gap, isBlank c = true) (rest : List Char) :
    afterMark? mark (gap ++ mark :: rest) = some rest := by
  rw [afterMark?, skipBlanks_append hg, skipBlanks_of_bareStart (bareStart_cons hm rest)]
  exact if_pos rfl

theorem mem_of_afterMark? {mark : Char} {cs rest : List Char} (h : afterMark? mark cs = some rest) :
    mark ∈ cs := by
  obtain ⟨gap, -, rfl⟩ := exists_of_afterMark? h
  simp

/-- The mark of an opening. -/
def Opening.mark : Opening → Char
  | .brace => '{'
  | .parenthesis | .typeParameters => '('

theorem Opening.isWord_mark (o : Opening) : isWord o.mark = false := by cases o <;> decide

theorem Opening.isBlank_mark (o : Opening) : isBlank o.mark = false := by cases o <;> decide

theorem exists_of_afterTypeParameters? {cs rest : List Char}
    (h : afterTypeParameters? cs = some rest) :
    rest <:+ cs := by
  obtain ⟨gap, -, he⟩ := exists_skipBlanks cs
  have hs : skipBlanks cs <:+ cs := ⟨gap, he.symm⟩
  rw [afterTypeParameters?] at h
  split at h
  · next r hr =>
    rw [hr] at hs
    split at h
    · next x r' hd =>
      cases h
      have h1 : rest <:+ r.dropWhile (· ≠ '>') := hd ▸ List.suffix_cons x rest
      exact ((h1.trans (List.dropWhile_suffix _)).trans (List.suffix_cons _ _)).trans hs
    · simp at h
  · cases h
    exact hs

theorem Opening.mem_of_after? {o : Opening} {cs rest : List Char} (h : o.after? cs = some rest) :
    o.mark ∈ cs := by
  cases o with
  | brace => exact mem_of_afterMark? h
  | parenthesis => exact mem_of_afterMark? h
  | typeParameters =>
    obtain ⟨mid, hm, hr⟩ := Option.bind_eq_some_iff.1 h
    exact (exists_of_afterTypeParameters? hm).subset (mem_of_afterMark? hr)

theorem Kind.isWord_of_mem_keyword {k : Kind} : ∀ c ∈ k.keyword, isWord c = true := by
  cases k <;> decide

/-! ### Heads -/

theorem afterBlanks?_eq_some_iff {cs rest : List Char} :
    afterBlanks? cs = some rest ↔ ∃ c t, cs = c :: t ∧ isBlank c = true ∧ rest = skipBlanks cs := by
  cases cs with
  | nil => simp [afterBlanks?]
  | cons c t =>
    rw [afterBlanks?]
    constructor
    · intro h
      split at h
      · next hc =>
        cases h
        exact ⟨c, t, rfl, hc, (@skipBlanks_append [c] (by simpa using hc) t).symm⟩
      · simp at h
    · rintro ⟨c', t', he, hc, rfl⟩
      cases he
      rw [if_pos hc, ← @skipBlanks_append [c] (by simpa using hc) t]
      rfl

/-- A head is the keyword as a whole word, blanks, the name as a whole word, and the opening. -/
theorem Kind.head?_eq_some_iff {k : Kind} {cs name rest : List Char} :
    k.head? cs = some (name, rest) ↔
      word cs = k.keyword ∧ (∃ c t, afterWord cs = c :: t ∧ isBlank c = true) ∧
        name = word (skipBlanks (afterWord cs)) ∧ name ≠ [] ∧
          k.opening.after? (afterWord (skipBlanks (afterWord cs))) = some rest := by
  constructor
  · intro h
    unfold Kind.head? at h
    split at h
    · simp at h
    · next named hn =>
      obtain ⟨mid, hm, ha⟩ := Option.bind_eq_some_iff.1 hn
      obtain ⟨c, t, rfl, hc, rfl⟩ := afterBlanks?_eq_some_iff.1 ha
      rw [isPrefixOf?_eq_some_iff] at hm
      have hstop : WordStop (c :: t) := wordStop_cons (isWord_of_isBlank hc) t
      have hw : word cs = k.keyword := hm ▸ word_append isWord_of_mem_keyword hstop
      have ha' : afterWord cs = c :: t := hm ▸ afterWord_append isWord_of_mem_keyword hstop
      split at h
      · simp at h
      · next hne =>
        obtain ⟨r, hr, he⟩ := Option.map_eq_some_iff.1 h
        cases he
        exact ⟨hw, ⟨c, t, ha', hc⟩, by rw [ha'], by simpa using hne, by rw [ha']; exact hr⟩
  · rintro ⟨hw, ⟨c, t, ha, hc⟩, rfl, hne, hr⟩
    have hp : k.keyword.isPrefixOf? cs = some (afterWord cs) := by
      rw [isPrefixOf?_eq_some_iff, ← hw, word_append_afterWord]
    have hb : afterBlanks? (afterWord cs) = some (skipBlanks (afterWord cs)) :=
      afterBlanks?_eq_some_iff.2 ⟨c, t, ha, hc, rfl⟩
    rw [Kind.head?, hp, Option.bind_some, hb]
    simp only [List.isEmpty_iff, hne, if_false, hr, Option.map_some]

/-- There is no head where there is another word than the keyword. -/
theorem Kind.head?_eq_none_of_word_ne {k : Kind} {cs : List Char} (h : word cs ≠ k.keyword) :
    k.head? cs = none := by
  cases hh : k.head? cs with
  | none => rfl
  | some x => exact absurd (Kind.head?_eq_some_iff.1 hh).1 h

theorem Kind.head?_eq_none_of_not_isWord {k : Kind} {c : Char} {cs : List Char}
    (h : isWord c = false) :
    k.head? (c :: cs) = none :=
  head?_eq_none_of_word_ne (by rw [word_cons_of_false h]; exact k.keyword_ne_nil.symm)

theorem Kind.mem_of_head? {k : Kind} {cs : List Char} {x : List Char × List Char}
    (h : k.head? cs = some x) :
    k.opening.mark ∈ cs := by
  obtain ⟨-, -, -, -, hr⟩ := Kind.head?_eq_some_iff.1 h
  have h1 := Opening.mem_of_after? hr
  exact (((List.dropWhile_suffix _).trans (List.dropWhile_suffix _)).trans
    (List.dropWhile_suffix _)).subset h1

theorem Kind.exists_of_inLine? {k : Kind} {line : List Char} {x : List Char × List Char}
    (h : k.inLine? line = some x) :
    ∃ u v, line = u ++ v ∧ freeAfter endsWord true u = true ∧ k.head? v = some x := by
  obtain ⟨⟨n, y⟩, hf, rfl⟩ := Option.map_eq_some_iff.1 h
  exact exists_of_first? hf

/-- The name in a head is not empty. -/
theorem Kind.ne_nil_of_inLine? {k : Kind} {line : List Char} {x : List Char × List Char}
    (h : k.inLine? line = some x) :
    x.1 ≠ [] := by
  obtain ⟨u, v, -, -, hv⟩ := Kind.exists_of_inLine? h
  exact (Kind.head?_eq_some_iff.1 hv).2.2.2.1

/-- A line without the opening of a kind has no head of it. -/
theorem Kind.inLine?_eq_none_of_notMem {k : Kind} {line : List Char} (h : k.opening.mark ∉ line) :
    k.inLine? line = none := by
  cases hh : k.inLine? line with
  | none => rfl
  | some x =>
    obtain ⟨u, v, rfl, -, hv⟩ := Kind.exists_of_inLine? hh
    exact absurd (List.mem_append_right u (Kind.mem_of_head? hv)) h

/-- A line that does not hold the keyword of a kind has no head of it. -/
theorem Kind.inLine?_eq_none_of_not_holdsWord {k : Kind} {line : List Char}
    (h : ¬ HoldsWord k.keyword line) :
    k.inLine? line = none := by
  cases hh : k.inLine? line with
  | none => rfl
  | some x =>
    obtain ⟨u, v, rfl, hu, hv⟩ := Kind.exists_of_inLine? hh
    exact absurd ⟨u, v, rfl, hu, (Kind.head?_eq_some_iff.1 hv).1⟩ h

theorem Kind.inLine?_of_head? {k : Kind} {line : List Char} {x : List Char × List Char}
    (h : k.head? line = some x) :
    k.inLine? line = some x := by
  have hne : line ≠ [] := by
    rintro rfl
    exact absurd (Kind.mem_of_head? h) (by simp)
  rw [Kind.inLine?, first?_of_front hne h]
  rfl

/-- A part of a line in which no head of a kind begins is passed over. -/
theorem Kind.inLine?_append {k : Kind} {part rest : List Char}
    (h : ∀ u v, part = u ++ v → v ≠ [] → freeAfter endsWord true u = true →
      k.head? (v ++ rest) = none)
    (hf : freeAfter endsWord true part = true) : k.inLine? (part ++ rest) = k.inLine? rest := by
  rw [Kind.inLine?, first?_append h, hf, Kind.inLine?]

/-! ### Properties of a table -/

theorem exists_of_afterEquals? {name cs rest : List Char} (h : afterEquals? name cs = some rest) :
    ∃ gap, (∀ c ∈ gap, isBlank c = true) ∧ cs = name ++ (gap ++ '=' :: rest) := by
  obtain ⟨mid, hm, he⟩ := Option.bind_eq_some_iff.1 h
  obtain ⟨gap, hg, rfl⟩ := exists_of_afterMark? he
  exact ⟨gap, hg, isPrefixOf?_eq_some_iff.1 hm⟩

theorem afterEquals?_append (name : List Char) {gap : List Char} (hg : ∀ c ∈ gap, isBlank c = true)
    (rest : List Char) :
    afterEquals? name (name ++ (gap ++ '=' :: rest)) = some rest := by
  rw [afterEquals?, isPrefixOf?_eq_some_iff.2 rfl]
  exact afterMark?_append (by decide) hg rest

theorem exists_of_blockOpening? {name cs rest : List Char} (h : blockOpening? name cs = some rest) :
    ∃ equals, afterEquals? name cs = some equals ∧ '{' ∈ equals := by
  obtain ⟨equals, he, hb⟩ := Option.bind_eq_some_iff.1 h
  exact ⟨equals, he, mem_of_afterMark? hb⟩

/-- Whether a line writes out a size with these digits: `size` as a bare word, an equals sign, the
digits and a semicolon, with blanks between them or not. -/
def WritesSize (digits line : List Char) : Prop :=
  ∃ before gap₁ gap₂ gap₃ after,
    line = before ++ ("size".toList ++
      (gap₁ ++ '=' :: (gap₂ ++ (digits ++ (gap₃ ++ ';' :: after))))) ∧
      (∀ c ∈ before.getLast?, isWord c = false ∧ c ≠ '.') ∧
        (∀ c ∈ gap₁ ++ gap₂ ++ gap₃, isBlank c = true) ∧ digits ≠ [] ∧
        ∀ c ∈ digits, isDigit c = true

theorem exists_of_sizeDigits? {cs digits : List Char} (h : sizeDigits? cs = some digits) :
    ∃ equals gap rest, afterEquals? "size".toList cs = some equals ∧ (∀ c ∈ gap, isBlank c = true) ∧
      skipBlanks equals = digits ++ (gap ++ ';' :: rest) ∧ digits ≠ [] ∧
        ∀ c ∈ digits, isDigit c = true := by
  unfold sizeDigits? at h
  split at h
  · simp at h
  · next equals he =>
    dsimp only at h
    split at h
    · simp at h
    · next hd =>
      obtain ⟨rest, hr, hdig⟩ := Option.map_eq_some_iff.1 h
      obtain ⟨gap, hg, hs⟩ := exists_of_afterMark? hr
      refine ⟨equals, gap, rest, he, hg, ?_, ?_, ?_⟩
      · rw [← hdig, ← hs, List.takeWhile_append_dropWhile]
      · rw [← hdig]
        simpa using hd
      · rw [← hdig]
        exact fun c hc => List.mem_takeWhile_imp hc

/-- A size that is read from a line is written out in it. -/
theorem writesSize_of_property? {line digits : List Char}
    (h : property? sizeDigits? line = some digits) :
    WritesSize digits line := by
  obtain ⟨⟨n, y⟩, hf, rfl⟩ := Option.map_eq_some_iff.1 h
  obtain ⟨before, v, rfl, hu, hv⟩ := exists_of_first? hf
  obtain ⟨equals, gap₃, after, he, hg₃, hs, hne, hd⟩ := exists_of_sizeDigits? hv
  obtain ⟨gap₁, hg₁, rfl⟩ := exists_of_afterEquals? he
  obtain ⟨gap₂, hg₂, hskip⟩ := exists_skipBlanks equals
  refine ⟨before, gap₁, gap₂, gap₃, after, by rw [hskip, hs], ?_, ?_, hne, hd⟩
  · intro c hc
    rw [freeAfter, Option.mem_def.1 hc] at hu
    simpa [endsMember] using hu
  · intro c hc
    rcases List.mem_append.1 hc with hc | hc
    · exact (List.mem_append.1 hc).elim (hg₁ c) (hg₂ c)
    · exact hg₃ c hc

section Property

variable {α : Type _} {read? : List Char → Option α}

theorem property?_eq_none {line : List Char} (h : ∀ u v, line = u ++ v → read? v = none) :
    property? read? line = none := by
  rw [property?, first?_eq_none_iff.2 fun u v he _ _ => h u v he]
  rfl

theorem property?_of_read? {line : List Char} {a : α} (hl : line ≠ []) (h : read? line = some a) :
    property? read? line = some a := by
  rw [property?, first?_of_front hl h]
  rfl

/-- A part of a line in which no property begins is passed over. -/
theorem property?_append {part rest : List Char}
    (h : ∀ u v, part = u ++ v → v ≠ [] → read? (v ++ rest) = none)
    (hf : freeAfter endsMember true part = true) :
    property? read? (part ++ rest) = property? read? rest := by
  rw [property?, first?_append fun u v he hv _ => h u v he hv, hf, property?]

end Property

/-- A line without an opening brace opens no block. -/
theorem property?_blockOpening?_eq_none {name line : List Char} (h : '{' ∉ line) :
    property? (blockOpening? name) line = none := by
  apply property?_eq_none
  intro u v he
  cases hv : blockOpening? name v with
  | none => rfl
  | some rest =>
    obtain ⟨equals, ha, hm⟩ := exists_of_blockOpening? hv
    obtain ⟨gap, -, rfl⟩ := exists_of_afterEquals? ha
    exact absurd (by rw [he]; simp [hm]) h

/-- A line without an equals sign sets no size. -/
theorem property?_sizeDigits?_eq_none {line : List Char} (h : '=' ∉ line) :
    property? sizeDigits? line = none := by
  apply property?_eq_none
  intro u v he
  cases hv : sizeDigits? v with
  | none => rfl
  | some digits =>
    obtain ⟨equals, gap, rest, ha, -⟩ := exists_of_sizeDigits? hv
    obtain ⟨gap', -, rfl⟩ := exists_of_afterEquals? ha
    exact absurd (by rw [he]; simp) h

/-! ### Blanks in front of a line -/

theorem freeAfter_blanks {after : Char → Bool} (ha : ∀ c, isBlank c = true → after c = true)
    {gap : List Char} (hg : ∀ c ∈ gap, isBlank c = true) : freeAfter after true gap = true := by
  rw [freeAfter]
  cases hl : gap.getLast? with
  | none => rfl
  | some c => exact ha c (hg c (List.mem_of_getLast? hl))

theorem endsWord_of_isBlank {c : Char} (h : isBlank c = true) : endsWord c = true := by
  rw [endsWord, isWord_of_isBlank h]
  rfl

theorem endsMember_of_isBlank {c : Char} (h : isBlank c = true) : endsMember c = true := by
  have hc : c ≠ '.' := by
    rintro rfl
    exact absurd h (by decide)
  simp [endsMember, isWord_of_isBlank h, hc]

/-- What is read by its name is not read where a blank stands. -/
theorem afterEquals?_eq_none_of_isBlank {name : List Char}
    (hn : ∃ c w, name = c :: w ∧ isBlank c = false) {c : Char} {cs : List Char}
    (h : isBlank c = true) : afterEquals? name (c :: cs) = none := by
  cases ha : afterEquals? name (c :: cs) with
  | none => rfl
  | some rest =>
    obtain ⟨gap, -, he⟩ := exists_of_afterEquals? ha
    obtain ⟨d, w, rfl, hd⟩ := hn
    rw [(List.cons.inj he).1, hd] at h
    simp at h

section Indent

variable {gap : List Char} (hg : ∀ c ∈ gap, isBlank c = true)

include hg

/-- A part made of blanks is passed over by what reads nothing at a blank. -/
theorem exists_blank_of_part {u v : List Char} (he : gap = u ++ v) (hv : v ≠ [])
    (rest : List Char) :
    ∃ c cs, v ++ rest = c :: cs ∧ isBlank c = true := by
  cases v with
  | nil => exact absurd rfl hv
  | cons c v => exact ⟨c, v ++ rest, rfl, hg c (by rw [he]; simp)⟩

theorem Kind.inLine?_blanks (k : Kind) (line : List Char) :
    k.inLine? (gap ++ line) = k.inLine? line := by
  refine Kind.inLine?_append ?_ (freeAfter_blanks (fun c => endsWord_of_isBlank) hg)
  intro u v he hv _
  obtain ⟨c, cs, hcs, hc⟩ := exists_blank_of_part hg he hv line
  rw [hcs]
  exact Kind.head?_eq_none_of_not_isWord (isWord_of_isBlank hc)

theorem property?_blanks {α : Type _} {read? : List Char → Option α}
    (hr : ∀ c cs, isBlank c = true → read? (c :: cs) = none) (line : List Char) :
    property? read? (gap ++ line) = property? read? line := by
  refine property?_append ?_ (freeAfter_blanks (fun c => endsMember_of_isBlank) hg)
  intro u v he hv
  obtain ⟨c, cs, hcs, hc⟩ := exists_blank_of_part hg he hv line
  rw [hcs]
  exact hr c cs hc

theorem Statement.ofProperty?_append (line : List Char) :
    Statement.ofProperty? (gap ++ line) = Statement.ofProperty? line := by
  -- no property starts with a blank, so that the ones in front of the line are passed over
  have hblock (name : List Char) (hn : ∃ c w, name = c :: w ∧ isBlank c = false) :
      property? (blockOpening? name) (gap ++ line) = property? (blockOpening? name) line := by
    apply property?_blanks hg
    intro c cs hc
    rw [blockOpening?, afterEquals?_eq_none_of_isBlank hn hc]
    rfl
  have hsize : property? sizeDigits? (gap ++ line) = property? sizeDigits? line := by
    apply property?_blanks hg
    intro c cs hc
    rw [sizeDigits?, afterEquals?_eq_none_of_isBlank ⟨'s', "ize".toList, by decide, by decide⟩ hc]
  have hdefault : property? defaultActionName? (gap ++ line) =
      property? defaultActionName? line := by
    apply property?_blanks hg
    intro c cs hc
    rw [defaultActionName?,
      afterEquals?_eq_none_of_isBlank ⟨'d', "efault_action".toList, by decide, by decide⟩ hc]
  rw [Statement.ofProperty?, hblock _ ⟨'k', "ey".toList, by decide, by decide⟩,
    hblock _ ⟨'a', "ctions".toList, by decide, by decide⟩, hsize, hdefault, Statement.ofProperty?]

/-- Blanks in front of a line are passed over. -/
theorem Statement.ofLine_append (inTable : Bool) (line : List Char) :
    Statement.ofLine inTable (gap ++ line) = Statement.ofLine inTable line := by
  rw [Statement.ofLine, Kind.inLine?_blanks hg, Kind.inLine?_blanks hg, Kind.inLine?_blanks hg,
    Statement.ofProperty?_append hg, Statement.ofLine]

end Indent

/-! ### What a line says -/

theorem ofList_ne_empty {cs : List Char} (h : cs ≠ []) : String.ofList cs ≠ "" := by
  intro he
  rw [← String.ofList_nil, String.ofList_inj] at he
  exact h he

/-- A property of a table is no head, and a size is one that was read. -/
theorem Statement.of_ofProperty? {line : List Char} {s : Statement}
    (h : Statement.ofProperty? line = some s) :
    (∀ name, s ≠ .control name) ∧ (∀ name depth, s ≠ .table name depth) ∧
      ∀ digits, s = .size digits → property? sizeDigits? line = some digits := by
  simp only [Statement.ofProperty?, Option.orElse_eq_orElse, Option.orElse_eq_or,
    Option.or_eq_some_iff, Option.map_eq_some_iff] at h
  rcases h with ⟨x, -, rfl⟩ | ⟨-, ⟨x, -, rfl⟩ | ⟨-, ⟨x, hx, rfl⟩ | ⟨-, x, -, rfl⟩⟩⟩
  · exact ⟨by simp, by simp, by simp⟩
  · exact ⟨by simp, by simp, by simp⟩
  · exact ⟨by simp, by simp, fun digits he => by cases he; exact hx⟩
  · exact ⟨by simp, by simp, by simp⟩

/-- What a line says is about a control only if it has the head of one. The names in heads are not
empty, and a size is written out. -/
theorem Statement.of_ofLine {inTable : Bool} {line : List Char} {s : Statement}
    (h : Statement.ofLine inTable line = s) :
    (∀ name, s = .control name → ∃ head, Kind.control.inLine? line = some head ∧
      name = String.ofList head.1) ∧
      (∀ name depth, s = .table name depth → name ≠ "") ∧
      ∀ digits, s = .size digits → WritesSize digits line := by
  subst h
  unfold Statement.ofLine
  -- the head of a control comes first, then that of a table; only then is the line asked for a
  -- property, and in a table only
  split
  · next name rest hc =>
    exact ⟨fun n he => ⟨_, hc, by cases he; rfl⟩, by simp, by simp⟩
  · split
    · next name rest ht =>
      refine ⟨by simp, ?_, by simp⟩
      intro n d he
      cases he
      exact ofList_ne_empty (Kind.ne_nil_of_inLine? ht)
    · split
      · next property hp =>
        cases inTable with
        | false => simp at hp
        | true =>
          obtain ⟨h1, h2, h3⟩ := Statement.of_ofProperty? hp
          exact ⟨fun n he => absurd he (h1 n), fun n d he => absurd he (h2 n d), fun d he =>
            writesSize_of_property? (h3 d he)⟩
      · split
        · exact ⟨by simp, by simp, by simp⟩
        · exact ⟨by simp, by simp, by simp⟩

theorem Statement.ofLine_of_inLine? {inTable : Bool} {line : List Char}
    {head : List Char × List Char} (h : Kind.control.inLine? line = some head) :
    Statement.ofLine inTable line = .control (String.ofList head.1) := by
  rw [Statement.ofLine, h]

end P4Outline

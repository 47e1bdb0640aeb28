import P4Outline.Proofs.Segment
import P4Outline.Proofs.Spacing

/-!
# White space around braces and semicolons

Where lines are broken at the marks, it does not matter how a source is laid out around them: white
space may be put behind every mark, before every closing brace, and before every opening brace that
is no part of an entry of a key block.

* `Spaced`: texts that differ in such white space.
* `Scan.run_gap`, `Scan.run_opening`: white space at the end of a text, and before a brace at its
  end.
* `Scan.run_spaced`: a scan that goes on with either text.
* `Outline.ofSource_spaced`: the outlines of both are the same, and so are their errors.
-/

namespace P4Outline

open P4Outline.Text P4Outline.Source

/-- Whether an opening brace behind this text stands in an open key block: the block is open where
the line begins that the brace ends. -/
def inKeyBlock (keyText : KeyText) (front : List Char) : Bool :=
  -- behind the line that the brace ends there is an empty one
  match Scan.run keyText {} (Layout.keepingComments.lines (front ++ ['{'])).dropLast.dropLast with
  | .ok s => s.place.block? = some .keys
  | .error _ => false

/-- Whether a text is another one with white space put around its marks, behind a text that is
common to both: behind every mark, before every closing brace, and before every opening brace
outside key blocks. -/
inductive Spaced (keyText : KeyText) : List Char → List Char → List Char → Prop
  | nil (front : List Char) : Spaced keyText front [] []
  | char {front cs cs' : List Char} {c : Char} (hc : isMark c = false)
      (h : Spaced keyText (front ++ [c]) cs cs') :
      Spaced keyText front (c :: cs) (c :: cs')
  | opening {front cs cs' before after : List Char} (hb : ∀ c ∈ before, isBlank c = true)
      (ha : ∀ c ∈ after, isBlank c = true) (hk : before ≠ [] → inKeyBlock keyText front = false)
      (h : Spaced keyText (front ++ ['{']) cs cs') :
      Spaced keyText front ('{' :: cs) (before ++ '{' :: (after ++ cs'))
  | closing {front cs cs' before after : List Char} (hb : ∀ c ∈ before, isBlank c = true)
      (ha : ∀ c ∈ after, isBlank c = true) (h : Spaced keyText (front ++ ['}']) cs cs') :
      Spaced keyText front ('}' :: cs) (before ++ '}' :: (after ++ cs'))
  | semicolon {front cs cs' after : List Char} (ha : ∀ c ∈ after, isBlank c = true)
      (h : Spaced keyText (front ++ [';']) cs cs') :
      Spaced keyText front (';' :: cs) (';' :: (after ++ cs'))

/-! ### White space and the lines of a scan -/

section Run

variable {keyText : KeyText} {s : Scan}

/-- Lines that differ in indentation and blank lines only do the same. -/
theorem Scan.run_congr_bare (hs : s.place.settle = s.place) {lines lines' : List (List Char)}
    (h : bare lines' = bare lines) :
    s.run keyText lines' = s.run keyText lines := by
  rw [← Scan.run_bare keyText hs lines', h, Scan.run_bare keyText hs]

theorem Scan.run_blank (hs : s.place.settle = s.place) {lines : List (List Char)}
    (h : ∀ line ∈ lines, ∀ c ∈ line, isBlank c = true) :
    s.run keyText lines = .ok s := by
  induction lines with
  | nil => rfl
  | cons line lines ih =>
    rw [Scan.run_cons (Scan.step_blank keyText hs (h line List.mem_cons_self))]
    exact ih fun l hl => h l (List.mem_cons_of_mem _ hl)

/-- White space in front of a text does nothing. -/
theorem Scan.run_indent (hs : s.place.settle = s.place) {gap : List Char}
    (hg : ∀ c ∈ gap, isBlank c = true) (cs : List Char) :
    s.run keyText (pieces '\n' (gap ++ cs)) = s.run keyText (pieces '\n' cs) :=
  Scan.run_congr_bare hs (bare_pieces_gap hg cs)

/-- White space at the end of a text does nothing. -/
theorem Scan.run_gap {gap : List Char} (hg : ∀ c ∈ gap, isBlank c = true) (cs : List Char) :
    s.run keyText (pieces '\n' (cs ++ gap)) = s.run keyText (pieces '\n' cs) := by
  obtain ⟨front, line, hcs, happend⟩ := exists_pieces '\n' cs
  rw [happend, hcs]
  refine Scan.run_append_congr rfl fun t ht => ?_
  have hblank : ∀ part ∈ pieces '\n' gap, ∀ c ∈ part, isBlank c = true :=
    fun part hp c hc => hg c (mem_of_mem_pieces hp hc)
  cases hp : pieces '\n' gap with
  | nil => exact absurd hp (pieces_ne_nil _ _)
  | cons first others =>
    rw [hp] at hblank
    -- the white space up to the first line break ends the last line, the rest makes blank lines
    have hstep := Scan.step_trail (hblank first List.mem_cons_self) keyText t line
    show t.run keyText ((line ++ first) :: others) = _
    cases hline : t.step keyText line with
    | error e => rw [Scan.run_cons_error (hstep.trans hline), Scan.run_cons_error hline]
    | ok u =>
      rw [Scan.run_cons (hstep.trans hline), Scan.run_cons hline]
      exact Scan.run_blank (Scan.settle_of_step hline) fun l hl => hblank l
        (List.mem_cons_of_mem _ hl)

/-- White space before an opening brace at the end of a text does nothing, unless the key block is
open where the last line begins. -/
theorem Scan.run_opening {gap gap' : List Char} (hg : (∀ c ∈ gap, isBlank c = true) ∧ '\n' ∉ gap)
    (hg' : (∀ c ∈ gap', isBlank c = true) ∧ '\n' ∉ gap') {cs : List Char} (hcs : '{' ∉ cs)
    (hk : ∀ t, s.run keyText (pieces '\n' (cs ++ (gap ++ ['{']))).dropLast = .ok t →
      t.place.block? ≠ some .keys) :
    s.run keyText (pieces '\n' (cs ++ (gap' ++ ['{']))) =
      s.run keyText (pieces '\n' (cs ++ (gap ++ ['{']))) := by
  obtain ⟨front, line, hpieces, happend⟩ := exists_pieces '\n' cs
  have hline : '{' ∉ line := fun hm => hcs (mem_of_mem_pieces (by rw [hpieces]; simp) hm)
  have hlast {blanks : List Char} (hb : '\n' ∉ blanks) :
      pieces '\n' (cs ++ (blanks ++ ['{'])) = front ++ [line ++ (blanks ++ ['{'])] := by
    rw [happend, pieces_of_notMem (by simp [hb])]
    rfl
  rw [hlast hg.2, List.dropLast_concat] at hk
  rw [hlast hg.2, hlast hg'.2]
  refine Scan.run_append_congr rfl fun t ht => ?_
  show (t.step keyText _ >>= fun u => u.run keyText []) =
    (t.step keyText _ >>= fun u => u.run keyText [])
  rw [Scan.step_gap_brace hg'.1 keyText (hk t ht) hline,
    Scan.step_gap_brace hg.1 keyText (hk t ht) hline]

/-! ### Marks with white space around them -/

/-- Whether two texts have lines of their own, whatever stands behind them, that do the same to a
scan. -/
def Scan.Agree (keyText : KeyText) (s : Scan) (cs cs' : List Char) : Prop :=
  ∃ lines lines', (∀ rest, Layout.keepingComments.lines (cs ++ rest) =
    lines ++ Layout.keepingComments.lines rest) ∧
    (∀ rest, Layout.keepingComments.lines (cs' ++ rest) =
      lines' ++ Layout.keepingComments.lines rest) ∧
      s.run keyText lines' = s.run keyText lines

section Marks

variable {cs lead before : List Char} (hcs : ∀ c ∈ cs, isMark c = false)
    (hl : ∀ c ∈ lead, isBlank c = true)

include hcs hl

theorem Scan.agree_semicolon (hs : s.place.settle = s.place) :
    s.Agree keyText (cs ++ [';']) (lead ++ (cs ++ [';'])) := by
  have hcs' : ∀ c ∈ lead ++ cs, isMark c = false :=
    List.forall_mem_append.2 ⟨isMark_of_mem_gap hl, hcs⟩
  refine ⟨pieces '\n' (cs ++ [';']), pieces '\n' (lead ++ (cs ++ [';'])), fun rest => ?_,
    fun rest => ?_, ?_⟩
  · rw [List.append_assoc]
    exact Layout.lines_semicolon hcs rest
  · have hlines := Layout.lines_semicolon hcs' rest
    simpa using hlines
  · exact Scan.run_indent hs hl _

theorem Scan.agree_closing (hs : s.place.settle = s.place) (hb : ∀ c ∈ before, isBlank c = true) :
    s.Agree keyText (cs ++ ['}']) (lead ++ (cs ++ (before ++ ['}']))) := by
  refine ⟨pieces '\n' cs ++ [['}']], pieces '\n' (lead ++ (cs ++ before)) ++ [['}']],
    fun rest => ?_, fun rest => ?_, ?_⟩
  · rw [List.append_assoc, List.append_assoc]
    exact Layout.lines_closing hcs rest
  · have hall : ∀ c ∈ lead ++ (cs ++ before), isMark c = false :=
      List.forall_mem_append.2 ⟨isMark_of_mem_gap hl,
        List.forall_mem_append.2 ⟨hcs, isMark_of_mem_gap hb⟩⟩
    have hlines := Layout.lines_closing hall rest
    simpa using hlines
  · refine Scan.run_append_congr ?_ fun t ht => rfl
    rw [Scan.run_indent hs hl, Scan.run_gap hb]

theorem Scan.agree_opening (hs : s.place.settle = s.place) (hb : ∀ c ∈ before, isBlank c = true)
    (hk : before ≠ [] →
      ∀ t, s.run keyText (Layout.keepingComments.lines (cs ++ ['{'])).dropLast.dropLast = .ok t →
      t.place.block? ≠ some .keys) :
    s.Agree keyText (cs ++ ['{']) (lead ++ (cs ++ (before ++ ['{']))) := by
  -- white space at the end of `cs` is pulled up with the brace, as `before` is
  obtain ⟨body, gap, rfl, he, hg⟩ := exists_bareEnd cs
  obtain ⟨hbody, -⟩ := List.forall_mem_append.1 hcs
  have hbraces {blanks : List Char} (h : ∀ c ∈ blanks, isBlank c = true) :
      (∀ c ∈ raised blanks, isBlank c = true) ∧ '\n' ∉ raised blanks := (joinBraces_gap h).2
  have hgap : ∀ c ∈ gap ++ before, isBlank c = true := List.forall_mem_append.2 ⟨hg, hb⟩
  refine ⟨pieces '\n' (body ++ (raised gap ++ ['{'])), ?_⟩
  have hlines (rest : List Char) := Layout.lines_opening hbody he hg rest
  by_cases hne : body = []
  · -- nothing but white space stands before the brace
    subst hne
    have hall : ∀ c ∈ lead ++ (gap ++ before), isBlank c = true :=
      List.forall_mem_append.2 ⟨hl, hgap⟩
    refine ⟨pieces '\n' (raised (lead ++ (gap ++ before)) ++ ['{']), fun rest => ?_,
      fun rest => ?_, ?_⟩
    · simpa using hlines rest
    · have hlines' := Layout.lines_opening (by simp) he hall rest
      simpa using hlines'
    · rw [List.nil_append, Scan.run_indent hs (hbraces hall).1, Scan.run_indent hs (hbraces hg).1]
  · have hlead : BareEnd (lead ++ body) := by
      intro c hc
      apply he c
      rw [Option.mem_def, List.getLast?_append] at hc
      rw [Option.mem_def, ← hc, List.getLast?_eq_some_getLast hne]
      rfl
    refine ⟨pieces '\n' (lead ++ (body ++ (raised (gap ++ before) ++ ['{']))), fun rest => ?_,
      fun rest => ?_, ?_⟩
    · simpa using hlines rest
    · have hmark : ∀ c ∈ lead ++ body, isMark c = false :=
        List.forall_mem_append.2 ⟨isMark_of_mem_gap hl, hbody⟩
      have hlines' := Layout.lines_opening hmark hlead hgap rest
      simpa using hlines'
    · rw [Scan.run_indent hs hl]
      by_cases hbefore : before = []
      · rw [hbefore, List.append_nil]
      · refine Scan.run_opening (hbraces hg) (hbraces hgap)
          (Layout.notMem_of_isMark hbody (by decide)) ?_
        have hfirst := hk hbefore
        rw [List.append_assoc, hlines] at hfirst
        simpa [Layout.keepingComments_lines_nil] using hfirst

end Marks

end Run

/-! ### Behind a mark -/

/-- Whether a scan has read the lines of a text, which has lines of its own whatever stands behind
it. -/
def Scan.Behind (keyText : KeyText) (done : List Char) (s : Scan) : Prop :=
  ∃ lines, (∀ rest, Layout.keepingComments.lines (done ++ rest) =
    lines ++ Layout.keepingComments.lines rest) ∧
    Scan.run keyText {} lines = .ok s

section Behind

variable {keyText : KeyText} {s : Scan} {done : List Char} (h : s.Behind keyText done)

include h

theorem Scan.Behind.settle : s.place.settle = s.place := by
  obtain ⟨lines, -, hrun⟩ := h
  exact Scan.settle_of_run rfl hrun

/-- Texts that agree do the same to a scan if what stands behind them does. -/
theorem Scan.Behind.run_congr {cs cs' : List Char} (rest rest' : List Char)
    (ha : s.Agree keyText cs cs')
    (hr : ∀ t : Scan, t.Behind keyText (done ++ cs) →
      t.run keyText (Layout.keepingComments.lines rest') =
        t.run keyText (Layout.keepingComments.lines rest)) :
    s.run keyText (Layout.keepingComments.lines (cs' ++ rest')) =
      s.run keyText (Layout.keepingComments.lines (cs ++ rest)) := by
  obtain ⟨lines, hlines, hs⟩ := h
  obtain ⟨more, more', hmore, hmore', hrun⟩ := ha
  rw [hmore, hmore']
  refine Scan.run_append_congr hrun fun t ht => hr t ⟨lines ++ more, fun rest => ?_, ?_⟩
  · rw [List.append_assoc, hlines, hmore, List.append_assoc]
  · rw [Scan.run_append hs, ht]

/-- Where no opening brace would stand in a key block, the key block is not open. -/
theorem Scan.Behind.block?_ne {cs : List Char} (hk : inKeyBlock keyText (done ++ cs) = false)
    (t : Scan)
    (ht : s.run keyText (Layout.keepingComments.lines (cs ++ ['{'])).dropLast.dropLast = .ok t) :
    t.place.block? ≠ some .keys := by
  obtain ⟨lines, hlines, hs⟩ := h
  obtain ⟨front, line, -, hpart, -⟩ := Layout.exists_lines_brace cs
  have hdrop : (Layout.keepingComments.lines (done ++ cs ++ ['{'])).dropLast.dropLast =
      lines ++ front := by
    rw [List.append_assoc, hlines, hpart]
    simp
  have hfront : (Layout.keepingComments.lines (cs ++ ['{'])).dropLast.dropLast = front := by
    rw [hpart]
    simp
  rw [hfront] at ht
  rw [inKeyBlock, hdrop, Scan.run_append hs, ht] at hk
  simpa using hk

end Behind

/-- What is laid out in another way does the same to a scan. The text in front falls into `done`,
whose lines the scan has read, and `part`, which has no mark; before `part` the other text has white
space. -/
theorem Scan.run_spaced {keyText : KeyText} {front cs cs' : List Char}
    (h : Spaced keyText front cs cs') {done part lead : List Char} {s : Scan}
    (hfront : front = done ++ part) (hs : s.Behind keyText done)
    (hpart : ∀ c ∈ part, isMark c = false) (hlead : ∀ c ∈ lead, isBlank c = true) :
    s.run keyText (Layout.keepingComments.lines (lead ++ (part ++ cs'))) =
      s.run keyText (Layout.keepingComments.lines (part ++ cs)) := by
  -- the induction is on how the text is respaced; the scan goes on from mark to mark, with the text
  -- since the last one as `part` and what was put behind that mark as `lead`
  induction h generalizing done part lead s with
  | nil =>
    have hall : ∀ c ∈ lead ++ part, isMark c = false :=
      List.forall_mem_append.2 ⟨isMark_of_mem_gap hlead, hpart⟩
    rw [List.append_nil, Layout.lines_of_noMark hall, Layout.lines_of_noMark hpart]
    exact Scan.run_indent hs.settle hlead part
  | @char front cs cs' c hc h ih =>
    have hpart' : ∀ d ∈ part ++ [c], isMark d = false :=
      List.forall_mem_append.2 ⟨hpart, by simpa using hc⟩
    have hrun := ih (by rw [hfront, List.append_assoc]) hs hpart' hlead
    simpa using hrun
  -- white space in front of an opening brace may not split a key, which is what `hk` keeps it from
  | @opening front cs cs' before after hb ha hk h ih =>
    have hagree : s.Agree keyText (part ++ ['{']) (lead ++ (part ++ (before ++ ['{']))) :=
      Scan.agree_opening hpart hlead hs.settle hb fun hne => hs.block?_ne (hfront ▸ hk hne)
    have hrun := hs.run_congr cs (after ++ cs') hagree fun t ht =>
      @ih (done ++ (part ++ ['{'])) [] after t (by simp [hfront]) ht (by simp) ha
    simpa using hrun
  | @closing front cs cs' before after hb ha h ih =>
    have hagree : s.Agree keyText (part ++ ['}']) (lead ++ (part ++ (before ++ ['}']))) :=
      Scan.agree_closing hpart hlead hs.settle hb
    have hrun := hs.run_congr cs (after ++ cs') hagree fun t ht =>
      @ih (done ++ (part ++ ['}'])) [] after t (by simp [hfront]) ht (by simp) ha
    simpa using hrun
  | @semicolon front cs cs' after ha h ih =>
    have hagree : s.Agree keyText (part ++ [';']) (lead ++ (part ++ [';'])) :=
      Scan.agree_semicolon hpart hlead hs.settle
    have hrun := hs.run_congr cs (after ++ cs') hagree fun t ht =>
      @ih (done ++ (part ++ [';'])) [] after t (by simp [hfront]) ht (by simp) ha
    simpa using hrun

/-- The outline of a source does not depend on its layout: white space behind marks, before closing
braces, and before opening braces outside key blocks changes neither the outline nor the error. -/
theorem Outline.ofSource_spaced {keyText : KeyText} {source source' : String}
    (h : Spaced keyText [] source.toList source'.toList) :
    Outline.ofSource ⟨.keepingComments, keyText⟩ source' =
      Outline.ofSource ⟨.keepingComments, keyText⟩ source := by
  have hs : Scan.Behind keyText [] {} := ⟨[], fun rest => rfl, rfl⟩
  have hrun := @Scan.run_spaced keyText [] _ _ h [] [] [] {} rfl hs (by simp) (by simp)
  rw [Outline.ofSource_eq_run, Outline.ofSource_eq_run]
  exact congrArg _ hrun

/-- A text without marks stands as it is in every layout. -/
theorem Spaced.text {keyText : KeyText} {front text cs cs' : List Char}
    (ht : ∀ c ∈ text, isMark c = false) (h : Spaced keyText (front ++ text) cs cs') :
    Spaced keyText front (text ++ cs) (text ++ cs') := by
  induction text generalizing front with
  | nil => simpa using h
  | cons c text ih =>
    obtain ⟨hc, ht⟩ := List.forall_mem_cons.1 ht
    exact .char hc (ih ht (by simpa using h))

/-- A table on one line. -/
def crowded : String := "control C() \x7btable t \x7bkey =\x7ba: exact;\x7d\x7d\x7d"

/-- The same table on many lines. -/
def airy : String :=
  "control C() \n\x7b\n  table t \n  \x7b\n    key =\t\n" ++
    "    \x7b\n      a: exact;\n    \x7d\n\n  \x7d\n\x7d\n"

/-- A table on many lines is read as it is on one line. -/
theorem Outline.ofSource_airy :
    Outline.ofSource ⟨.keepingComments, .field⟩ airy =
        Outline.ofSource ⟨.keepingComments, .field⟩ crowded ∧
      (Outline.ofSource ⟨.keepingComments, .field⟩ crowded).toOption.map (·.tableCount) =
        some 1 := by
  refine ⟨Outline.ofSource_spaced ?_, by decide +kernel⟩
  -- both texts are given piece by piece, with the white space that the second one has more around
  -- each mark
  show Spaced .field [] ("control C() ".toList ++
    '{' :: ("table t ".toList ++
      '{' :: ("key =".toList ++ '{' :: ("a: exact".toList ++ [';', '}', '}', '}'])))) airy.toList
  refine .text (by decide) (@Spaced.opening _ _ _ _ ['\n'] "\n  ".toList (by decide) (by decide)
    (fun _ => by decide +kernel) ?_)
  refine .text (by decide)
    (@Spaced.opening _ _ _ _ "\n  ".toList "\n    ".toList (by decide) (by decide)
      (fun _ => by decide +kernel) ?_)
  refine .text (by decide) (@Spaced.opening _ _ _ _ "\t\n    ".toList "\n      ".toList
    (by decide) (by decide) (fun _ => by decide +kernel) ?_)
  refine .text (by decide) (@Spaced.semicolon _ _ _ _ "\n    ".toList (by decide) ?_)
  refine @Spaced.closing _ _ _ _ [] "\n\n  ".toList (by decide) (by decide) ?_
  refine @Spaced.closing _ _ _ _ [] ['\n'] (by decide) (by decide) ?_
  exact @Spaced.closing _ _ _ _ [] ['\n'] (by decide) (by decide) (.nil _)

end P4Outline

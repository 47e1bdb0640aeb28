import P4Outline.Proofs.Layout

/-!
# Programs with a statement to a line

Lines that are broken at the marks are read as they are written where every closing brace has a line
of its own and every other mark ends its line. So the outline of a source that is laid out like that
does not depend on whether lines are broken.

* `Conventional`: such lines.
* `Scan.run_spread_line`: such a line does the same when it is broken.
* `Scan.run_spread`: so does every text of such lines.
* `Outline.ofSource_of_conventional`: the outline, or the error, is the same.
-/

namespace P4Outline

open P4Outline.Text P4Outline.Source

/-- Whether a line is nothing but a closing brace, or has none and no other mark before its last
character that is no blank. -/
def Conventional (line : List Char) : Prop :=
  trim line = ['}'] ∨ '}' ∉ line ∧ ∀ c ∈ (trimRight line).dropLast, c ≠ '{' ∧ c ≠ ';'

instance (line : List Char) : Decidable (Conventional line) :=
  inferInstanceAs (Decidable (_ ∨ '}' ∉ line ∧ ∀ c ∈ (trimRight line).dropLast, c ≠ '{' ∧ c ≠ ';'))

/-- The parts of a conventional line: a brace between white space, or a text without marks with at
most one mark and white space behind it. -/
theorem Conventional.cases {line : List Char} (h : Conventional line) :
    (∃ before behind, line = before ++ '}' :: behind ∧ ∀ c ∈ before ++ behind, isBlank c = true) ∨
      (∃ text m gap, line = text ++ m :: gap ∧ (m = '{' ∨ m = ';') ∧
        (∀ c ∈ text, isMark c = false) ∧
        ∀ c ∈ gap, isBlank c = true) ∨
      ∀ c ∈ line, isMark c = false := by
  obtain ⟨gap, hg, he⟩ := exists_trimRight line
  rcases h with htrim | ⟨hclosing, hdrop⟩
  · obtain ⟨before, hb, hline⟩ := exists_skipBlanks line
    obtain ⟨behind, hbehind, hskip⟩ := exists_trimRight (skipBlanks line)
    rw [← trim, htrim] at hskip
    exact .inl ⟨before, behind, by rw [hline, hskip]; rfl, List.forall_mem_append.2 ⟨hb, hbehind⟩⟩
  · right
    -- any other line has no closing brace, and opening braces and semicolons at its end at most
    have hnone {cs : List Char} (hcs : cs ⊆ line) (hm : ∀ c ∈ cs, c ≠ '{' ∧ c ≠ ';') :
        ∀ c ∈ cs, isMark c = false := by
      intro c hc
      have hne : c ≠ '}' := fun hce => hclosing (hce ▸ hcs hc)
      simp [isMark, hm c hc, hne]
    have htext : trimRight line ⊆ line := fun c hc => by
      rw [he]
      exact List.mem_append_left _ hc
    rcases List.eq_nil_or_concat (trimRight line) with hnil | ⟨text, m, hm⟩
    · refine .inr ?_
      rw [hnil, List.nil_append] at he
      rw [he]
      exact isMark_of_mem_gap hg
    · rw [List.concat_eq_append] at hm
      rw [hm, List.dropLast_concat] at hdrop
      rw [hm] at he htext
      have hmarks : ∀ c ∈ text, isMark c = false := hnone (List.append_subset.1 htext).1 hdrop
      by_cases hmark : m = '{' ∨ m = ';'
      · exact .inl ⟨text, m, gap, by rw [he]; simp, hmark, hmarks, hg⟩
      · refine .inr ?_
        rw [he]
        refine List.forall_mem_append.2 ⟨List.forall_mem_append.2 ⟨hmarks, ?_⟩,
          isMark_of_mem_gap hg⟩
        exact hnone (List.append_subset.1 htext).2 (by simpa using hmark)

theorem flatMap_spread_of_isMark {cs : List Char} (h : ∀ c ∈ cs, isMark c = false) :
    cs.flatMap spread = cs :=
  Layout.keepingComments_broken h

section Run

variable {keyText : KeyText} {s : Scan} (hs : s.place.settle = s.place)

include hs

/-- White space around a text does nothing. -/
theorem Scan.run_between {before behind : List Char} (h : ∀ c ∈ before ++ behind, isBlank c = true)
    (cs : List Char) :
    s.run keyText (pieces '\n' (before ++ (cs ++ behind))) = s.run keyText (pieces '\n' cs) := by
  obtain ⟨hbefore, hbehind⟩ := List.forall_mem_append.1 h
  rw [Scan.run_indent hs hbefore, Scan.run_gap hbehind]

/-- A conventional line does the same when it is broken at its marks: this adds nothing but white
space around it. -/
theorem Scan.run_spread_line {line : List Char} (h : Conventional line) :
    s.run keyText (pieces '\n' (line.flatMap spread)) = s.run keyText (pieces '\n' line) := by
  rcases h.cases with ⟨before, behind, rfl, hblank⟩ | ⟨text, m, gap, rfl, hm, htext, hg⟩ | hnone
  -- the breaks around a lone brace are more white space around it
  · obtain ⟨hbefore, hbehind⟩ := List.forall_mem_append.1 hblank
    have hspread : (before ++ '}' :: behind).flatMap spread =
        (before ++ ['\n']) ++ (['}'] ++ ('\n' :: behind)) := by
      rw [List.flatMap_append, List.flatMap_cons,
        flatMap_spread_of_isMark (isMark_of_mem_gap hbefore),
        flatMap_spread_of_isMark (isMark_of_mem_gap hbehind), List.append_assoc]
      rfl
    have hbreaks : ∀ c ∈ (before ++ ['\n']) ++ ('\n' :: behind), isBlank c = true := by
      simp only [List.forall_mem_append, List.forall_mem_cons]
      exact ⟨⟨hbefore, by decide, by simp⟩, by decide, hbehind⟩
    rw [hspread, Scan.run_between hs hbreaks, ← Scan.run_between hs hblank]
    rfl
  · have hspread : (text ++ m :: gap).flatMap spread = (text ++ [m]) ++ ('\n' :: gap) := by
      have hmark : spread m = [m, '\n'] := by rcases hm with rfl | rfl <;> rfl
      rw [List.flatMap_append, List.flatMap_cons, flatMap_spread_of_isMark htext,
        flatMap_spread_of_isMark (isMark_of_mem_gap hg), hmark, List.append_assoc]
      rfl
    have hsplit : text ++ m :: gap = (text ++ [m]) ++ gap := by simp
    rw [hspread, Scan.run_gap (List.forall_mem_cons.2 ⟨by decide, hg⟩), hsplit, Scan.run_gap hg]
  · rw [flatMap_spread_of_isMark hnone]

/-- A text of conventional lines does the same when its lines are broken at the marks. -/
theorem Scan.run_spread {cs : List Char} (h : ∀ line ∈ pieces '\n' cs, Conventional line) :
    s.run keyText (pieces '\n' (cs.flatMap spread)) = s.run keyText (pieces '\n' cs) := by
  -- line by line, the scan being settled between two lines
  induction hl : cs.length using Nat.strongRecOn generalizing cs s with
  | _ n ih =>
    by_cases hn : '\n' ∈ cs
    · obtain ⟨line, below, rfl, hline⟩ := List.eq_append_cons_of_mem hn
      rw [pieces_append_cons, List.forall_mem_append, pieces_of_notMem hline,
        List.forall_mem_singleton] at h
      have hspread : (line ++ '\n' :: below).flatMap spread =
          line.flatMap spread ++ '\n' :: below.flatMap spread := by
        rw [List.flatMap_append, List.flatMap_cons]
        rfl
      rw [hspread, pieces_append_cons, pieces_append_cons]
      refine Scan.run_append_congr (Scan.run_spread_line hs h.1) fun t ht => ?_
      exact ih below.length (by rw [← hl]; simp; omega) (Scan.settle_of_run hs ht) h.2 rfl
    · rw [pieces_of_notMem hn, List.forall_mem_singleton] at h
      exact Scan.run_spread_line hs h

end Run

/-- The outline of a source with a statement to a line does not depend on whether lines are broken
at the marks, nor does its error. -/
theorem Outline.ofSource_of_conventional {stripComments : Bool} {keyText : KeyText}
    {source : String}
    (h : ∀ line ∈ Layout.lines ⟨false, stripComments⟩ source.toList, Conventional line) :
    Outline.ofSource ⟨⟨true, stripComments⟩, keyText⟩ source =
      Outline.ofSource ⟨⟨false, stripComments⟩, keyText⟩ source := by
  rw [Outline.ofSource_eq_run, Outline.ofSource_eq_run]
  exact congrArg _ (Scan.run_spread rfl h)

/-- A program with a statement to a line, a brace that hangs, a comment, and a block that is never
closed. -/
def conventional : String :=
"control C()
\x7b
  table t \x7b \t
    size = 8; // ports
  \x7d\t
  action a()
  \x7b
  \x7d
  table u \x7b
    actions = \x7b
      a;
"

/-- Broken or not, the lines of such a program give the same outline. -/
theorem Outline.ofSource_conventional :
    (∀ line ∈ Layout.lines ⟨false, true⟩ conventional.toList, Conventional line) ∧
      Outline.ofSource ⟨⟨true, true⟩, .field⟩ conventional = Outline.ofSource ⟨⟨false, true⟩,
        .field⟩ conventional ∧
        (Outline.ofSource ⟨⟨false, true⟩, .field⟩ conventional).toOption.map (·.tableCount) =
          some 2 := by
  have hchars : conventional.toList = _ := String.toList_ofList
  have hlines : ∀ line ∈ Layout.lines ⟨false, true⟩ conventional.toList, Conventional line := by
    rw [hchars]
    decide +kernel
  refine ⟨hlines, Outline.ofSource_of_conventional hlines, ?_⟩
  rw [Outline.ofSource_eq_run, hchars]
  decide +kernel

end P4Outline

import P4Outline.Proofs.Line

/-!
# The lines between marks

Where lines are broken at the marks `{`, `}` and `;`, and comments are left where they are, the
lines of a text up to a mark do not depend on what stands behind the mark.

* `Layout.lines_append_of_ended`: a text that ends in a mark has lines of its own.
* `Layout.lines_semicolon`, `Layout.lines_closing`, `Layout.lines_opening`: the lines up to the next
  mark.
* `Layout.exists_lines_brace`: the lines up to any opening brace.
* `bare_pieces_gap`: white space in front of a text adds nothing but indentation and blank lines.
-/

namespace P4Outline.Source

open P4Outline.Text

/-- Whether lines are broken at a character. -/
def isMark (c : Char) : Bool := c = '{' || c = '}' || c = ';'

theorem isBlank_of_isMark {c : Char} (h : isMark c = true) : isBlank c = false := by
  simp only [isMark, Bool.or_eq_true, decide_eq_true_eq] at h
  rcases h with (rfl | rfl) | rfl <;> decide

theorem isWord_of_isMark {c : Char} (h : isMark c = true) : isWord c = false := by
  simp only [isMark, Bool.or_eq_true, decide_eq_true_eq] at h
  rcases h with (rfl | rfl) | rfl <;> decide

theorem isMark_of_isWord {c : Char} (h : isWord c = true) : isMark c = false := by
  rw [← Bool.not_eq_true]
  intro hm
  rw [isWord_of_isMark hm] at h
  cases h

theorem isMark_of_mem_gap {gap : List Char} (hg : ∀ c ∈ gap, isBlank c = true) :
    ∀ c ∈ gap, isMark c = false := by
  intro c hc
  rw [← Bool.not_eq_true]
  intro hm
  have hblank := hg c hc
  rw [isBlank_of_isMark hm] at hblank
  cases hblank

/-! ### Pieces -/

/-- What is not in the front part of a list stands behind it. -/
theorem exists_of_append_eq {α : Type _} {c : α} {front rest p s : List α} (hc : c ∉ front)
    (he : front ++ rest = p ++ c :: s) :
    ∃ p', p = front ++ p' ∧ rest = p' ++ c :: s := by
  rcases List.append_eq_append_iff.1 he with ⟨p', rfl, hrest⟩ | ⟨mid, rfl, hmid⟩
  · exact ⟨p', rfl, hrest⟩
  · cases mid with
    | nil => exact ⟨[], by simp, by simpa using hmid.symm⟩
    | cons d mid =>
      cases hmid
      exact absurd (by simp) hc

/-- A text falls into pieces up to its last separator, and a part that goes on with what stands
behind the text. -/
theorem exists_pieces (sep : Char) (cs : List Char) :
    ∃ front line, pieces sep cs = front ++ [line] ∧
      ∀ more, pieces sep (cs ++ more) = front ++ (pieces sep more).modifyHead (line ++ ·) := by
  induction cs with
  | nil => exact ⟨[], [], rfl, fun more => by cases hp : pieces sep more <;> simp [hp]⟩
  | cons c cs ih =>
    obtain ⟨front, line, hcs, happend⟩ := ih
    by_cases hc : c = sep
    · refine ⟨[] :: front, line, by rw [pieces, if_pos hc, hcs]; rfl, fun more => ?_⟩
      rw [List.cons_append, pieces, if_pos hc, happend]
      rfl
    · cases front with
      | nil =>
        refine ⟨[], c :: line, by rw [pieces, if_neg hc, hcs]; rfl, fun more => ?_⟩
        rw [List.cons_append, pieces, if_neg hc, happend, List.nil_append,
          List.modifyHead_modifyHead]
        rfl
      | cons first front =>
        refine ⟨(c :: first) :: front, line, by rw [pieces, if_neg hc, hcs]; rfl, fun more => ?_⟩
        rw [List.cons_append, pieces, if_neg hc, happend]
        rfl

/-- White space in front of a text adds nothing but indentation and blank lines. -/
theorem bare_pieces_gap {gap : List Char} (hg : ∀ c ∈ gap, isBlank c = true) (cs : List Char) :
    bare (pieces '\n' (gap ++ cs)) = bare (pieces '\n' cs) := by
  induction gap with
  | nil => rfl
  | cons c gap ih =>
    have hrest := ih fun d hd => hg d (List.mem_cons_of_mem _ hd)
    rw [List.cons_append, pieces]
    split
    · rw [bare_cons, hrest]
      rfl
    · rw [← hrest, ← @bare_indent [c] (by simpa using hg c List.mem_cons_self)
        (pieces '\n' (gap ++ cs))]
      rfl

/-! ### Braces behind white space -/

/-- White space at the end of a text, cut off. -/
theorem exists_bareEnd (cs : List Char) :
    ∃ body gap, cs = body ++ gap ∧ BareEnd body ∧ ∀ c ∈ gap, isBlank c = true := by
  obtain ⟨gap, hg, he⟩ := exists_trimRight cs
  exact ⟨trimRight cs, gap, he, bareEnd_trimRight cs, hg⟩

/-- White space before an opening brace, with the brace pulled up to the line on which it begins. -/
def raised (gap : List Char) : List Char := (joinBraces (gap ++ ['{'])).dropLast

/-- White space before an opening brace stays white space, on one line. -/
theorem joinBraces_gap {gap : List Char} (hg : ∀ c ∈ gap, isBlank c = true) :
    joinBraces (gap ++ ['{']) = raised gap ++ ['{'] ∧ (∀ c ∈ raised gap, isBlank c = true) ∧
    '\n' ∉ raised gap := by
  suffices h : ∃ front, joinBraces (gap ++ ['{']) = front ++ ['{'] ∧
      (∀ c ∈ front, isBlank c = true) ∧ '\n' ∉ front by
    obtain ⟨front, hj, hb, hn⟩ := h
    have hr : raised gap = front := by rw [raised, hj, List.dropLast_concat]
    rw [hr]
    exact ⟨hj, hb, hn⟩
  have hskip {blanks : List Char} (hb : ∀ c ∈ blanks, isBlank c = true) (inside : List Char) :
      skipBlanks (blanks ++ '{' :: inside) = '{' :: inside := by
    rw [skipBlanks_append hb, skipBlanks_of_bareStart (bareStart_cons (by decide) inside)]
  induction gap with
  | nil => exact ⟨[], joinBraces_of_notMem (.inl (by decide)), by simp, by simp⟩
  | cons c gap ih =>
    have hgap : ∀ c ∈ gap, isBlank c = true := fun d hd => hg d (List.mem_cons_of_mem _ hd)
    cases hb : hangingBrace? (c :: gap ++ ['{']) with
    | some rest =>
      obtain ⟨blanks, he, -, hblanks, inside, rfl⟩ := exists_of_hangingBrace? hb
      have hinside : '{' :: inside = ['{'] := by rw [← hskip hblanks, ← he, hskip hg]
      refine ⟨[' '], ?_, by decide, by decide⟩
      rw [joinBraces_of_some hb, hinside, joinBraces_of_notMem (.inl (by decide))]
      rfl
    | none =>
      obtain ⟨front, hj, hf, hn⟩ := ih hgap
      refine ⟨c :: front, ?_, List.forall_mem_cons.2 ⟨hg c List.mem_cons_self, hf⟩, ?_⟩
      · rw [List.cons_append] at hb ⊢
        rw [joinBraces_cons_of_none hb, hj]
        rfl
      · rw [List.mem_cons, not_or]
        refine ⟨?_, hn⟩
        -- at a line break the brace would have been pulled up
        rintro rfl
        have hs : hangingBrace? ('\n' :: gap ++ ['{']) = some ['{'] :=
          hangingBrace?_eq_some_iff.2 ⟨gap ++ ['{'], [], rfl, hskip hgap [], rfl⟩
        rw [hb] at hs
        cases hs

/-- Pulling braces up leaves the end of a text as it is. -/
theorem exists_joinBraces_concat {c : Char} (hc : isBlank c = false) (cs : List Char) :
    ∃ joined, joinBraces (cs ++ [c]) = joined ++ [c] := by
  -- on the length, since a brace that is pulled up takes more than one character with it
  induction hl : cs.length using Nat.strongRecOn generalizing cs with
  | _ n ih =>
    cases cs with
    | nil =>
      have hbreak : '\n' ∉ [c] := by
        rw [List.mem_singleton]
        rintro rfl
        exact absurd hc (by decide)
      exact ⟨[], joinBraces_of_notMem (.inl hbreak)⟩
    | cons d cs =>
      cases hb : hangingBrace? (d :: cs ++ [c]) with
      | none =>
        obtain ⟨joined, hj⟩ := ih cs.length (by rw [← hl, List.length_cons]; omega) cs rfl
        rw [List.cons_append] at hb ⊢
        exact ⟨d :: joined, by rw [joinBraces_cons_of_none hb, hj]; rfl⟩
      | some rest =>
        obtain ⟨gap, he, hgap, -, inside, rfl⟩ := exists_of_hangingBrace? hb
        obtain ⟨front, last, hfront⟩ :=
          (List.eq_nil_or_concat ('{' :: inside)).resolve_left (by simp)
        rw [List.concat_eq_append] at hfront
        rw [hfront, ← List.append_assoc] at he
        obtain ⟨hcs, hlast⟩ := List.append_inj' he rfl
        cases hlast
        have hlt : front.length < n := by
          have h1 := congrArg List.length hcs
          have h2 := List.length_pos_of_mem hgap
          rw [List.length_append] at h1
          omega
        obtain ⟨joined, hj⟩ := ih front.length hlt front rfl
        exact ⟨' ' :: joined, by rw [joinBraces_of_some hb, hfront, hj]; rfl⟩

/-! ### Lines -/

/-- The layout under which lines are broken at the marks, and comments are left where they are. -/
def Layout.keepingComments : Layout := { stripComments := false }

namespace Layout

theorem keepingComments_lines (cs : List Char) :
    keepingComments.lines cs = pieces '\n' (keepingComments.broken (joinBraces cs)) := rfl

theorem keepingComments_lines_nil : keepingComments.lines [] = [[]] := by
  rw [keepingComments_lines, joinBraces]
  rfl

/-- Nothing is broken in a text without marks. -/
theorem keepingComments_broken {cs : List Char} (h : ∀ c ∈ cs, isMark c = false) :
    keepingComments.broken cs = cs := by
  refine keepingComments.broken_of_notMem fun c hc => ?_
  have hm := h c hc
  simpa [isMark, and_assoc] using hm

/-- A text that ends in a mark has lines of its own, and the text behind it has its own. -/
theorem lines_append_of_ended {cs ended : List Char} (he : BareEnd cs)
    (hcs : keepingComments.broken (joinBraces cs) = ended ++ ['\n']) (rest : List Char) :
    keepingComments.lines (cs ++ rest) = pieces '\n' ended ++ keepingComments.lines rest := by
  rw [keepingComments_lines, joinBraces_append he, broken_append, hcs, List.append_assoc,
    List.singleton_append, pieces_append_cons, keepingComments_lines]

/-- An opening brace ends a line, whatever stands behind it. -/
theorem exists_lines_brace (cs : List Char) :
    ∃ before line, '{' ∈ line ∧ keepingComments.lines (cs ++ ['{']) = before ++ [line, []] ∧
      ∀ rest, keepingComments.lines (cs ++ '{' :: rest) =
        before ++ line :: keepingComments.lines rest := by
  obtain ⟨joined, hj⟩ := exists_joinBraces_concat (c := '{') (by decide) cs
  have hended : keepingComments.broken (joinBraces (cs ++ ['{'])) =
      (keepingComments.broken joined ++ ['{']) ++ ['\n'] := by
    rw [hj, broken_append, List.append_assoc]
    rfl
  obtain ⟨before, stem, -, hpieces⟩ := exists_pieces '\n' (keepingComments.broken joined)
  have hlines (rest : List Char) :
      keepingComments.lines (cs ++ '{' :: rest) =
        before ++ (stem ++ ['{']) :: keepingComments.lines rest := by
    have happend := lines_append_of_ended (bareEnd_concat (by decide) cs) hended rest
    rw [hpieces, List.append_assoc, List.append_assoc] at happend
    exact happend
  exact ⟨before, stem ++ ['{'], by simp, by rw [hlines, keepingComments_lines_nil], hlines⟩

/-- An opening brace is the last character of its line. -/
theorem notMem_dropLast_of_mem_lines {cs line : List Char} (hm : line ∈ keepingComments.lines cs) :
    '{' ∉ line.dropLast := by
  suffices h : ∀ cs : List Char, ∀ line ∈ pieces '\n' (cs.flatMap spread), '{' ∉ line.dropLast
    from h _ line hm
  intro cs
  induction cs with
  | nil => simp
  | cons c cs ih =>
    rw [List.flatMap_cons, spread]
    split
    · show ∀ line ∈ ['{'] :: pieces '\n' (cs.flatMap spread), _
      exact List.forall_mem_cons.2 ⟨by decide, ih⟩
    · next hopen =>
      split
      · show ∀ line ∈ [] :: ['}'] :: pieces '\n' (cs.flatMap spread), _
        exact List.forall_mem_cons.2 ⟨by decide, List.forall_mem_cons.2 ⟨by decide, ih⟩⟩
      · split
        · show ∀ line ∈ [';'] :: pieces '\n' (cs.flatMap spread), _
          exact List.forall_mem_cons.2 ⟨by decide, ih⟩
        · rw [List.singleton_append, pieces]
          split
          · exact List.forall_mem_cons.2 ⟨by decide, ih⟩
          · -- the character goes to the front of the first line
            cases hp : pieces '\n' (cs.flatMap spread) with
            | nil => exact absurd hp (pieces_ne_nil _ _)
            | cons first others =>
              rw [hp, List.forall_mem_cons] at ih
              refine List.forall_mem_cons.2 ⟨?_, ih.2⟩
              cases first with
              | nil => simp
              | cons d first =>
                rw [List.dropLast_cons_cons, List.mem_cons, not_or]
                exact ⟨Ne.symm hopen, ih.1⟩

variable {cs : List Char} (h : ∀ c ∈ cs, isMark c = false)

include h

theorem notMem_of_isMark {c : Char} (hc : isMark c = true) : c ∉ cs := by
  intro hm
  rw [h c hm] at hc
  cases hc

theorem lines_of_noMark : keepingComments.lines cs = pieces '\n' cs := by
  rw [keepingComments_lines, joinBraces_of_notMem (.inr (notMem_of_isMark h (by decide))),
    keepingComments_broken h]

theorem lines_semicolon (rest : List Char) :
    keepingComments.lines (cs ++ ';' :: rest) =
      pieces '\n' (cs ++ [';']) ++ keepingComments.lines rest := by
  have hbrace : '{' ∉ cs ++ [';'] := by simpa using notMem_of_isMark h (by decide)
  have hended : keepingComments.broken (joinBraces (cs ++ [';'])) = (cs ++ [';']) ++ ['\n'] := by
    rw [joinBraces_of_notMem (.inr hbrace), broken_append, keepingComments_broken h,
      List.append_assoc]
    rfl
  rw [← lines_append_of_ended (bareEnd_concat (by decide) cs) hended, List.append_assoc]
  rfl

theorem lines_closing (rest : List Char) :
    keepingComments.lines (cs ++ '}' :: rest) =
      pieces '\n' cs ++ ['}'] :: keepingComments.lines rest := by
  have hbrace : '{' ∉ cs ++ ['}'] := by simpa using notMem_of_isMark h (by decide)
  have hended : keepingComments.broken (joinBraces (cs ++ ['}'])) =
      (cs ++ '\n' :: ['}']) ++ ['\n'] := by
    rw [joinBraces_of_notMem (.inr hbrace), broken_append, keepingComments_broken h,
      List.append_assoc]
    rfl
  have hlines := lines_append_of_ended (bareEnd_concat (by decide) cs) hended rest
  rw [pieces_append_cons, List.append_assoc, List.append_assoc] at hlines
  exact hlines

/-- An opening brace ends the line on which the white space before it begins. -/
theorem lines_opening (he : BareEnd cs) {gap : List Char} (hg : ∀ c ∈ gap, isBlank c = true)
    (rest : List Char) :
    keepingComments.lines (cs ++ (gap ++ '{' :: rest)) =
      pieces '\n' (cs ++ (raised gap ++ ['{'])) ++ keepingComments.lines rest := by
  obtain ⟨hj, hb, -⟩ := joinBraces_gap hg
  have hraised : ∀ c ∈ raised gap, isMark c = false := isMark_of_mem_gap hb
  have hended : keepingComments.broken (joinBraces (cs ++ (gap ++ ['{']))) =
      (cs ++ (raised gap ++ ['{'])) ++ ['\n'] := by
    rw [joinBraces_append he, joinBraces_of_notMem (.inr (notMem_of_isMark h (by decide))),
      hj, broken_append, broken_append, keepingComments_broken h, keepingComments_broken hraised,
      List.append_assoc, List.append_assoc]
    rfl
  have hend : BareEnd (cs ++ (gap ++ ['{'])) := by
    rw [← List.append_assoc]
    exact bareEnd_concat (by decide) _
  rw [← lines_append_of_ended hend hended]
  simp

/-- On one line no brace is pulled up. -/
theorem lines_brace (hn : '\n' ∉ cs) (rest : List Char) :
    keepingComments.lines (cs ++ '{' :: rest) = (cs ++ ['{']) :: keepingComments.lines rest := by
  have hn' : '\n' ∉ cs ++ ['{'] := by simpa using hn
  have hended : keepingComments.broken (joinBraces (cs ++ ['{'])) = (cs ++ ['{']) ++ ['\n'] := by
    rw [joinBraces_of_notMem (.inl hn'), broken_append, keepingComments_broken h, List.append_assoc]
    rfl
  have happend := lines_append_of_ended (bareEnd_concat (by decide) cs) hended rest
  rw [pieces_of_notMem hn', List.append_assoc] at happend
  exact happend

end Layout

end P4Outline.Source

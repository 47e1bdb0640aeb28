import P4Outline.Proofs.LineNumber

/-!
# Line numbers of a source that is cut

A long source is cut before its lines are numbered, be it within a line or between the two
characters of a line end, and a mark is put behind what is kept. Each line that is kept with its end
has the number that it has in the source. Behind those stand what is kept of the line that was cut,
if anything is, and the lines of the mark.

* `exists_wholeLinesAfter_append`: the lines of a beginning of a text and those of the text.
* `exists_linesAfter_newline`: the lines before a line feed and those behind it.
* `exists_cutLines`: the lines of a source that is cut.
* `QuestionParts.sourceLines_of_cut`: the numbered lines of a question.
-/

namespace P4Outline

open P4Outline.Text

namespace Text

/-! ### Lines of a text that goes on -/

theorem wholeLinesAfter_cons {c : Char} {cs : List Char} (h : c = '\r' → cs.head? ≠ some '\n')
    (begun : List Char) :
    wholeLinesAfter begun (c :: cs) =
      if isLineEnd c then (begun.reverse ++ [c]) :: wholeLinesAfter [] cs
          else wholeLinesAfter (c :: begun) cs := by
  refine wholeLinesAfter.eq_3 begun c cs fun below hc hcs => ?_
  exact h hc (by rw [hcs]; rfl)

theorem linesAfter_cons {c : Char} {cs : List Char} (h : c = '\r' → cs.head? ≠ some '\n')
    (begun : List Char) :
    linesAfter begun (c :: cs) =
      if isLineEnd c then begun.reverse :: linesAfter [] cs else linesAfter (c :: begun) cs := by
  refine linesAfter.eq_3 begun c cs fun below hc hcs => ?_
  exact h hc (by rw [hcs]; rfl)

theorem ne_return_of_not_isLineEnd {c : Char} (h : ¬ isLineEnd c = true) : c ≠ '\r' := by
  rintro rfl
  exact h (by decide)

/-- Two characters that make no line end together make none before another text, unless that begins
with the second. -/
theorem head?_append_ne {c : Char} {cs v : List Char}
    (hpair : ∀ below, c = '\r' → cs = '\n' :: below → False)
    (hv : ¬ (c = '\r' ∧ cs = [] ∧ v.head? = some '\n')) :
    c = '\r' → (cs ++ v).head? ≠ some '\n' := by
  intro hc hn
  cases cs with
  | nil => exact hv ⟨hc, rfl, hn⟩
  | cons d cs =>
    cases hn
    exact hpair cs hc rfl

/-- A text that goes on adds to the line that it goes on in. -/
theorem exists_wholeLinesAfter_of_ne_nil {begun cs : List Char} (h : cs ≠ []) :
    ∃ more below, wholeLinesAfter begun cs = (begun.reverse ++ more) :: below ∧ more ≠ [] := by
  fun_induction wholeLinesAfter begun cs with
  | case1 begun => exact absurd rfl h
  | case2 begun => exact absurd rfl h
  | case3 begun cs ih => exact ⟨['\r', '\n'], _, rfl, by simp⟩
  | case4 begun c cs hpair hend ih => exact ⟨[c], _, rfl, by simp⟩
  | case5 begun c cs hpair hend ih =>
    by_cases hcs : cs = []
    · subst hcs
      exact ⟨[c], [], by simp [wholeLinesAfter], by simp⟩
    · obtain ⟨more, below, hlines, -⟩ := ih hcs
      exact ⟨c :: more, below, by rw [hlines]; simp, by simp⟩

/-- Whether lines are the beginning of the first one of other lines, or none at all. -/
def CutOff (rest lines : List (List Char)) : Prop :=
  rest = [] ∨ ∃ part more below, part ≠ [] ∧ more ≠ [] ∧ rest = [part] ∧
    lines = (part ++ more) :: below

/-- The lines of a beginning of a text are lines of the text, up to one that may be cut off. -/
theorem exists_wholeLinesAfter_append (begun u v : List Char) :
    ∃ held rest behind, wholeLinesAfter begun u = held ++ rest ∧
      wholeLinesAfter begun (u ++ v) = held ++ behind ∧
      CutOff rest behind := by
  fun_induction wholeLinesAfter begun u with
  | case1 begun => exact ⟨[], [], _, rfl, rfl, .inl rfl⟩
  | case2 begun hbegun =>
    by_cases hv : v = []
    · refine ⟨[begun.reverse], [], [], rfl, ?_, .inl rfl⟩
      rw [hv, List.append_nil, wholeLinesAfter, if_neg hbegun]
      rfl
    · obtain ⟨more, below, hlines, hmore⟩ := @exists_wholeLinesAfter_of_ne_nil begun v hv
      exact ⟨[], [begun.reverse], _, rfl, hlines,
        .inr ⟨_, more, below, by simpa using hbegun, hmore, rfl, rfl⟩⟩
  | case3 begun cs ih =>
    obtain ⟨held, rest, behind, hu, huv, hcut⟩ := ih
    refine ⟨_ :: held, rest, behind, by rw [hu]; rfl, ?_, hcut⟩
    show (begun.reverse ++ ['\r', '\n']) :: wholeLinesAfter [] (cs ++ v) = _
    rw [huv]
    rfl
  | case4 begun c cs hpair hend ih =>
    by_cases hv : c = '\r' ∧ cs = [] ∧ v.head? = some '\n'
    · -- the cut is between the two characters of a line end
      obtain ⟨rfl, rfl, hv⟩ := hv
      obtain ⟨below, rfl⟩ := List.head?_eq_some_iff.1 hv
      refine ⟨[], [begun.reverse ++ ['\r']], _, rfl, rfl,
        .inr ⟨_, ['\n'], wholeLinesAfter [] below, ?_, ?_, rfl, ?_⟩⟩
      · simp
      · simp
      · simp
    · obtain ⟨held, rest, behind, hu, huv, hcut⟩ := ih
      refine ⟨_ :: held, rest, behind, by rw [hu]; rfl, ?_, hcut⟩
      rw [List.cons_append, wholeLinesAfter_cons (head?_append_ne hpair hv), if_pos hend, huv]
      rfl
  | case5 begun c cs hpair hend ih =>
    obtain ⟨held, rest, behind, hu, huv, hcut⟩ := ih
    refine ⟨held, rest, behind, hu, ?_, hcut⟩
    rw [List.cons_append,
      wholeLinesAfter_cons fun hc => absurd hc (ne_return_of_not_isLineEnd hend), if_neg hend, huv]

/-- A line feed ends a line, and one more line begins behind it. The line that it ends is empty if
another one ended just before it; but a carriage return and the line feed are one end. -/
theorem exists_linesAfter_newline (begun u behind : List Char) :
    ∃ gap, (gap = [] ∨ gap = [[]]) ∧
      linesAfter begun (u ++ '\n' :: behind) = linesAfter begun u ++ (gap ++ lines behind) := by
  have hnewline (begun : List Char) : linesAfter begun ('\n' :: behind) =
      begun.reverse :: lines behind := by
    have hreturn : '\n' ≠ '\r' := by decide
    rw [linesAfter_cons fun hc => absurd hc hreturn, if_pos (by decide), lines]
  fun_induction linesAfter begun u with
  | case1 begun hbegun =>
    refine ⟨[[]], .inr rfl, ?_⟩
    rw [List.nil_append, hnewline, List.isEmpty_iff.1 hbegun]
    rfl
  | case2 begun hbegun =>
    refine ⟨[], .inl rfl, ?_⟩
    rw [List.nil_append, hnewline]
    rfl
  | case3 begun cs ih =>
    obtain ⟨gap, hgap, hlines⟩ := ih
    refine ⟨gap, hgap, ?_⟩
    show begun.reverse :: linesAfter [] (cs ++ '\n' :: behind) = _
    rw [hlines]
    rfl
  -- a carriage return at the very end pairs with the line feed, which then begins no line
  | case4 begun c cs hpair hend ih =>
    by_cases hreturn : c = '\r' ∧ cs = []
    · obtain ⟨rfl, rfl⟩ := hreturn
      exact ⟨[], .inl rfl, rfl⟩
    · have hnext : ¬ (c = '\r' ∧ cs = [] ∧ ('\n' :: behind).head? = some '\n') :=
        fun h => hreturn ⟨h.1, h.2.1⟩
      obtain ⟨gap, hgap, hlines⟩ := ih
      refine ⟨gap, hgap, ?_⟩
      rw [List.cons_append, linesAfter_cons (head?_append_ne hpair hnext), if_pos hend, hlines]
      rfl
  | case5 begun c cs hpair hend ih =>
    obtain ⟨gap, hgap, hlines⟩ := ih
    refine ⟨gap, hgap, ?_⟩
    rw [List.cons_append, linesAfter_cons fun hc => absurd hc (ne_return_of_not_isLineEnd hend),
      if_neg hend, hlines]

theorem ne_nil_of_mem_wholeLinesAfter {begun cs line : List Char}
    (h : line ∈ wholeLinesAfter begun cs) : line ≠ [] := by
  fun_induction wholeLinesAfter begun cs with
  | case1 begun => cases h
  | case2 begun hbegun =>
    rw [List.mem_singleton.1 h]
    simpa using hbegun
  | case3 begun cs ih =>
    rcases List.mem_cons.1 h with rfl | h
    · simp
    · exact ih h
  | case4 begun c cs hpair hend ih =>
    rcases List.mem_cons.1 h with rfl | h
    · simp
    · exact ih h
  | case5 begun c cs hpair hend ih => exact ih h

end Text

/-! ### A source that is cut -/

/-- What is kept of a text that is cut to a budget. -/
def keptText (budget : Int) (cs : List Char) : List Char :=
  if (tokenCount cs : Int) ≤ budget then cs else keep (budget * charsPerToken) cs

/-- Whether a line of a source, counted from zero, is kept together with its end. If all of the
source is kept, so is every line of it. -/
def KeepsLine (kept source : List Char) (k : Nat) : Prop :=
  k < (wholeLines source).length ∧ ((wholeLines source).take (k + 1)).flatten <+: kept

instance (kept source : List Char) (k : Nat) : Decidable (KeepsLine kept source k) :=
  inferInstanceAs (Decidable (_ ∧ _))

/-- Whether a line is what is kept of a line of a source, counted from zero: the beginning of it,
and all lines above. -/
def KeepsPart (kept source : List Char) (k : Nat) (line : List Char) : Prop :=
  ∃ part more, (wholeLines source)[k]? = some (part ++ more) ∧
    kept = ((wholeLines source).take k).flatten ++ part ∧
    part ≠ [] ∧ more ≠ [] ∧ line = withoutEnd part

theorem keep_prefix (n : Int) (cs : List Char) : keep n cs <+: cs := by
  cases n with
  | ofNat n => exact List.take_prefix _ cs
  | negSucc n => exact List.take_prefix _ cs

/-- The lines of a source that is cut: `held` are kept with their ends, `rest` is what is kept of
the first one of those `behind` them, and `marked` are the last lines of the mark, if the source is
cut at all. -/
structure CutLines (budget : Int) (source : List Char)
    (held rest behind marked : List (List Char)) : Prop where
  wholeLines_eq : wholeLines source = held ++ behind
  cutOff : CutOff rest behind
  kept_eq : keptText budget source = held.flatten ++ rest.flatten
  lines_eq : lines (cutTo budget source) = held.map withoutEnd ++ (rest.map withoutEnd ++ marked)
  marked_suffix : marked <:+ lines cutMark
  lt_of_mem : ∀ line ∈ marked, budget < tokenCount source

theorem exists_cutLines (budget : Int) (source : List Char) :
    ∃ held rest behind marked, CutLines budget source held rest behind marked := by
  by_cases hb : (tokenCount source : Int) ≤ budget
  · refine ⟨wholeLines source, [], [], [], by simp, .inl rfl, ?_, ?_, List.nil_suffix, by simp⟩
    · rw [keptText, if_pos hb, flatten_wholeLines]
      simp
    · rw [cutTo, if_pos hb, ← map_withoutEnd_wholeLines]
      simp
  -- the text that is kept is a front of the source, and ends within a line or at its end
  · obtain ⟨cut, hcut⟩ := keep_prefix (budget * charsPerToken) source
    obtain ⟨held, rest, behind, hu, huv, hoff⟩ :=
      exists_wholeLinesAfter_append [] (keep (budget * charsPerToken) source) cut
    obtain ⟨gap, hgap, hlines⟩ :=
      exists_linesAfter_newline [] (keep (budget * charsPerToken) source) cutMark.tail
    rw [← wholeLines] at hu huv
    rw [← lines, ← lines] at hlines
    rw [hcut] at huv
    -- a break between the kept text and the mark may leave an empty line, which is the mark's
    refine ⟨held, rest, behind, gap ++ lines cutMark.tail, huv, hoff, ?_, ?_, ?_,
      fun _ _ => by omega⟩
    · rw [keptText, if_neg hb, ← List.flatten_append, ← hu, flatten_wholeLines]
    · have hcutTo : cutTo budget source =
          keep (budget * charsPerToken) source ++ '\n' :: cutMark.tail := by
        rw [cutTo, if_neg hb]
        rfl
      rw [hcutTo, hlines, ← map_withoutEnd_wholeLines, hu, List.map_append, List.append_assoc]
    · have hmark : lines cutMark = [] :: lines cutMark.tail := by decide
      rw [hmark]
      rcases hgap with rfl | rfl
      · exact List.suffix_cons [] _
      · exact List.suffix_refl _

namespace CutLines

variable {budget : Int} {source : List Char} {held rest behind marked : List (List Char)}
  (h : CutLines budget source held rest behind marked)

include h

/-- What is kept behind the lines that are held is no whole line. -/
theorem not_prefix {line : List Char} {below : List (List Char)} (hb : behind = line :: below)
    (more : List Char) :
    ¬ line ++ more <+: rest.flatten := by
  intro hprefix
  have hlength := hprefix.length_le
  rw [List.length_append] at hlength
  rcases h.cutOff with rfl | ⟨part, more', below', -, hmore, rfl, he⟩
  · have hmem : line ∈ wholeLinesAfter [] source := by
      rw [← wholeLines, h.wholeLines_eq, hb]
      simp
    have hpos := List.length_pos_iff.2 (ne_nil_of_mem_wholeLinesAfter hmem)
    rw [List.flatten_nil, List.length_nil] at hlength
    omega
  · obtain ⟨rfl, -⟩ := List.cons.inj (hb.symm.trans he)
    have hpos := List.length_pos_iff.2 hmore
    rw [List.flatten_singleton, List.length_append] at hlength
    omega

theorem keepsLine_iff (k : Nat) :
    KeepsLine (keptText budget source) source k ↔ k < held.length := by
  rw [KeepsLine, h.wholeLines_eq, h.kept_eq]
  constructor
  · rintro ⟨hlt, hprefix⟩
    by_contra hle
    -- a line that is not held would be one behind those that are
    obtain ⟨n, hn⟩ : ∃ n, k + 1 = held.length + (n + 1) := ⟨k - held.length, by omega⟩
    obtain ⟨line, below, hb⟩ : ∃ line below, behind = line :: below := by
      apply List.exists_cons_of_ne_nil
      rintro rfl
      rw [List.append_nil] at hlt
      exact hle hlt
    rw [hn, List.take_length_add_append, List.flatten_append, List.prefix_append_right_inj, hb,
      List.take_succ_cons, List.flatten_cons] at hprefix
    exact h.not_prefix hb _ hprefix
  · intro hlt
    refine ⟨by rw [List.length_append]; omega, (held.drop (k + 1)).flatten ++ rest.flatten, ?_⟩
    rw [List.take_append_of_le_length hlt, ← List.append_assoc, ← List.flatten_append,
      List.take_append_drop]

/-- A line that is held stands where it stands in the source. -/
theorem exists_line {k : Nat} (hk : k < held.length) :
    ∃ line, (lines source)[k]? = some line ∧ (lines (cutTo budget source))[k]? = some line := by
  refine ⟨withoutEnd held[k], ?_, ?_⟩
  · rw [← map_withoutEnd_wholeLines, h.wholeLines_eq, List.getElem?_map,
      List.getElem?_append_left hk, List.getElem?_eq_getElem hk]
    rfl
  · rw [h.lines_eq, List.getElem?_append_left (by rwa [List.length_map]), List.getElem?_map,
      List.getElem?_eq_getElem hk]
    rfl

/-- A line that is not held is what is kept of the next line, or one of the mark. -/
theorem keepsPart_or_mark {k : Nat} (hk : held.length ≤ k) {line : List Char}
    (hline : (lines (cutTo budget source))[k]? = some line) :
    KeepsPart (keptText budget source) source k line ∨
    budget < tokenCount source ∧ line ∈ lines cutMark := by
  obtain ⟨n, rfl⟩ := Nat.exists_eq_add_of_le hk
  rw [h.lines_eq, List.getElem?_append_right (by rw [List.length_map]; omega), List.length_map,
    Nat.add_sub_cancel_left] at hline
  have hmark (hm : line ∈ marked) : budget < tokenCount source ∧ line ∈ lines cutMark :=
    ⟨h.lt_of_mem line hm, h.marked_suffix.subset hm⟩
  rcases h.cutOff with rfl | ⟨part, more, below, hpart, hmore, rfl, hb⟩
  · exact .inr (hmark (List.mem_of_getElem? hline))
  · cases n with
    | zero =>
      refine .inl ⟨part, more, ?_, ?_, hpart, hmore, (Option.some.inj hline).symm⟩
      · rw [h.wholeLines_eq, hb, Nat.add_zero, List.getElem?_append_right (Nat.le_refl _),
          Nat.sub_self]
        rfl
      · rw [h.kept_eq, h.wholeLines_eq, Nat.add_zero, List.take_left, List.flatten_singleton]
    | succ n => exact .inr (hmark (List.mem_of_getElem? hline))

end CutLines

/-! ### Questions -/

/-- The lines of the numbered source of a question. -/
def QuestionParts.sourceLines (p : QuestionParts) : List (List Char) := pieces '\n' p.numberedSource

theorem numberedLine_eq_iff {number number' : Nat} {line line' : List Char} :
    numberedLine number line = numberedLine number' line' ↔ number = number' ∧ line = line' := by
  constructor
  · intro h
    obtain rfl := numberedLine_inj h
    exact ⟨rfl, List.append_cancel_left h⟩
  · rintro ⟨rfl, rfl⟩
    rfl

/-- What stands for a source that is empty is no numbered line. -/
theorem numberedLine_ne_notice (number : Nat) (line : List Char) :
    numberedLine number line ≠ "(no source provided)".toList := by
  intro h
  have hdigits := digits_numberedLine number line
  rw [h] at hdigits
  exact Nat.toDigits_ne_nil hdigits.symm

section Parts

variable (m : ModelSettings) (error source summary sourceName : List Char)

theorem QuestionParts.getElem?_sourceLines_of (h : lines (cutTo m.maxPromptTokens source) ≠ [])
    (k : Nat) :
    (QuestionParts.of m error source summary sourceName).sourceLines[k]? =
      (lines (cutTo m.maxPromptTokens source))[k]?.map (numberedLine (k + 1)) := by
  have hempty : (numbered (cutTo m.maxPromptTokens source)).isEmpty = false :=
    List.isEmpty_eq_false_iff.2 (numbered_ne_nil h)
  show (pieces '\n' ((nonEmpty? (numbered (cutTo m.maxPromptTokens source))).getD _))[k]? = _
  rw [nonEmpty?, hempty, ← getElem?_pieces_numbered h]
  rfl

/-- Without lines there is no numbered line. -/
theorem QuestionParts.sourceLines_of_nil (h : lines (cutTo m.maxPromptTokens source) = []) :
    (QuestionParts.of m error source summary sourceName).sourceLines =
    ["(no source provided)".toList] := by
  show pieces '\n' ((nonEmpty? (numbered (cutTo m.maxPromptTokens source))).getD _) = _
  rw [numbered, h]
  decide

/-- Every line that is kept with its end is numbered as in the source. Every other line that is
numbered is what is kept of the line that was cut, or one of the mark. -/
theorem QuestionParts.sourceLines_of_cut :
    (∀ k, KeepsLine (keptText m.maxPromptTokens source) source k →
      ∃ line, (lines source)[k]? = some line ∧
        (QuestionParts.of m error source summary sourceName).sourceLines[k]? =
          some (numberedLine (k + 1) line)) ∧
    ∀ k number line,
      (QuestionParts.of m error source summary sourceName).sourceLines[k]? =
        some (numberedLine number line) →
        ¬ KeepsLine (keptText m.maxPromptTokens source) source k →
          number = k + 1 ∧ (KeepsPart (keptText m.maxPromptTokens source) source k line ∨
            m.maxPromptTokens < tokenCount source ∧ line ∈ lines cutMark) := by
  obtain ⟨held, rest, behind, marked, h⟩ := exists_cutLines m.maxPromptTokens source
  refine ⟨fun k hk => ?_, fun k number line hk hnot => ?_⟩
  · obtain ⟨line, hsource, hline⟩ := h.exists_line ((h.keepsLine_iff k).1 hk)
    refine ⟨line, hsource, ?_⟩
    have hne : lines (cutTo m.maxPromptTokens source) ≠ [] := by
      intro hnil
      rw [hnil] at hline
      cases hline
    rw [getElem?_sourceLines_of m error source summary sourceName hne, hline]
    rfl
  · have hle : held.length ≤ k := by
      rw [h.keepsLine_iff] at hnot
      omega
    by_cases hne : lines (cutTo m.maxPromptTokens source) = []
    · rw [sourceLines_of_nil m error source summary sourceName hne] at hk
      have hnotice := List.mem_singleton.1 (List.mem_of_getElem? hk)
      exact absurd hnotice (numberedLine_ne_notice number line)
    · rw [getElem?_sourceLines_of m error source summary sourceName hne] at hk
      obtain ⟨line', hline, he⟩ := Option.map_eq_some_iff.1 hk
      obtain ⟨rfl, rfl⟩ := numberedLine_eq_iff.1 he
      exact ⟨rfl, h.keepsPart_or_mark hle hline⟩

end Parts

/-- A source with a line that a carriage return and a line feed end. -/
def pairedEnd : String := "a\nb\r\ncdefgh"

/-- The source is cut between the two: the line in front of them is none that is kept with its end,
but it has its number. -/
theorem QuestionParts.sourceLines_pairedEnd :
    KeepsLine (keptText 1 pairedEnd.toList) pairedEnd.toList 0 ∧
      (∃ line, (lines pairedEnd.toList)[0]? = some line ∧
        (QuestionParts.of { maxPromptTokens := 1 } [] pairedEnd.toList [] []).sourceLines[0]? =
          some (numberedLine 1 line)) ∧
      ¬ KeepsLine (keptText 1 pairedEnd.toList) pairedEnd.toList 1 ∧
        (QuestionParts.of { maxPromptTokens := 1 } [] pairedEnd.toList [] []).sourceLines[1]? =
            some (numberedLine 2 ['b']) ∧
          KeepsPart (keptText 1 pairedEnd.toList) pairedEnd.toList 1 ['b'] := by
  have hfirst : KeepsLine (keptText 1 pairedEnd.toList) pairedEnd.toList 0 := by decide +kernel
  have hsecond : ¬ KeepsLine (keptText 1 pairedEnd.toList) pairedEnd.toList 1 := by decide +kernel
  have hline :
    (QuestionParts.of { maxPromptTokens := 1 } [] pairedEnd.toList [] []).sourceLines[1]? =
      some (numberedLine 2 ['b']) := by decide +kernel
  obtain ⟨hkept, hother⟩ :=
    QuestionParts.sourceLines_of_cut { maxPromptTokens := 1 } [] pairedEnd.toList [] []
  obtain ⟨-, hpart | ⟨-, hmark⟩⟩ := hother 1 2 ['b'] hline hsecond
  · exact ⟨hfirst, hkept 0 hfirst, hsecond, hline, hpart⟩
  · exact absurd hmark (by decide +kernel)

example : numbered (cutTo 1 pairedEnd.toList) =
    "    1 | a\n    2 | b\n    3 | \n    4 | [... truncated due to token limit ...]".toList := by
  decide +kernel

end P4Outline

import P4Outline.Assistant.Question
import P4Outline.Declaration.Location
import P4Outline.Proofs.Head
import P4Outline.Proofs.Line
import P4Outline.Proofs.ReadBack

/-!
# Numbers of lines

A declaration is placed in a line by counting line feeds, a question numbers the lines between line
ends of any kind. The two agree as far as all line ends above the declaration are line feeds, alone
or behind carriage returns.

* `wholeLines`: the lines of a text with their ends, `linesAbove` those above the line that a
  character is in.
* `count_newline_of_linesAbove`: how many line feeds stand above a line.
* `getElem?_pieces_numbered`: the lines of a numbered text.
* `Kind.labels_locate?_iff`: where the line of a declaration is labelled with the number that it is
  placed at.
-/

namespace P4Outline

open P4Outline.Text P4Outline.Source

namespace Text

/-! ### Lines with their ends -/

/-- The lines of a text that goes on here, with their ends, within a line that began with `begun`,
read backwards. -/
def wholeLinesAfter (begun : List Char) : List Char → List (List Char)
  | [] => if begun.isEmpty then [] else [begun.reverse]
  | '\r' :: '\n' :: cs => (begun.reverse ++ ['\r', '\n']) :: wholeLinesAfter [] cs
  | c :: cs =>
    if isLineEnd c then (begun.reverse ++ [c]) :: wholeLinesAfter [] cs
      else wholeLinesAfter (c :: begun) cs

/-- The lines of a text, with their ends. -/
def wholeLines (cs : List Char) : List (List Char) := wholeLinesAfter [] cs

/-- A line without its end. -/
def withoutEnd (line : List Char) : List Char := line.takeWhile fun c => !isLineEnd c

/-- Whether a text has no line end but one that it ends with. -/
def OneLine (line : List Char) : Prop :=
  ∃ bare ending, line = bare ++ ending ∧ (∀ c ∈ bare, isLineEnd c = false) ∧
    (ending = [] ∨ ending = ['\r', '\n'] ∨ ∃ c, isLineEnd c = true ∧ ending = [c])

theorem flatten_wholeLinesAfter (begun cs : List Char) :
    (wholeLinesAfter begun cs).flatten = begun.reverse ++ cs := by
  fun_induction wholeLinesAfter begun cs with
  | case1 begun h => rw [List.isEmpty_iff.1 h]; rfl
  | case2 begun h => simp
  | case3 begun cs ih => simp [ih]
  | case4 begun c cs _ h ih => simp [ih]
  | case5 begun c cs _ h ih => simp [ih]

/-- The whole lines of a text make up the text. -/
theorem flatten_wholeLines (cs : List Char) : (wholeLines cs).flatten = cs :=
  flatten_wholeLinesAfter [] cs

theorem withoutEnd_append {bare : List Char} (h : ∀ c ∈ bare, isLineEnd c = false)
    {ending : List Char} (he : ∀ c ∈ ending.head?, isLineEnd c = true) :
    withoutEnd (bare ++ ending) = bare := by
  rw [withoutEnd, List.takeWhile_append_of_pos (by simpa using h)]
  cases ending with
  | nil => simp
  | cons c ending => simp [he c rfl]

theorem newline_notMem_of_bare {bare : List Char} (h : ∀ c ∈ bare, isLineEnd c = false) :
    '\n' ∉ bare := by
  intro hm
  exact absurd (h '\n' hm) (by decide)

theorem isLineEnd_of_mem_reverse {begun : List Char} (h : ∀ c ∈ begun, isLineEnd c = false) :
    ∀ c ∈ begun.reverse, isLineEnd c = false :=
  fun c hc => h c (List.mem_reverse.1 hc)

/-- The lines of a text are its whole lines without their ends. -/
theorem map_withoutEnd_wholeLinesAfter {begun : List Char} (h : ∀ c ∈ begun, isLineEnd c = false)
    (cs : List Char) :
    (wholeLinesAfter begun cs).map withoutEnd = linesAfter begun cs := by
  fun_induction wholeLinesAfter begun cs with
  | case1 begun hempty => simp [linesAfter, hempty]
  | case2 begun hempty =>
    have hline := @withoutEnd_append begun.reverse (isLineEnd_of_mem_reverse h) [] (by simp)
    rw [List.append_nil] at hline
    simp [linesAfter, hempty, hline]
  | case3 begun cs ih =>
    rw [linesAfter, List.map_cons, ih (by simp),
      withoutEnd_append (isLineEnd_of_mem_reverse h) (by simp; decide)]
  | case4 begun c cs hpair hend ih =>
    rw [linesAfter.eq_3 _ _ _ hpair, if_pos hend, List.map_cons, ih (by simp),
      withoutEnd_append (isLineEnd_of_mem_reverse h) (by simpa using hend)]
  | case5 begun c cs hpair hend ih =>
    rw [linesAfter.eq_3 _ _ _ hpair, if_neg hend]
    apply ih
    exact List.forall_mem_cons.2 ⟨by simpa using hend, h⟩

theorem map_withoutEnd_wholeLines (cs : List Char) : (wholeLines cs).map withoutEnd = lines cs :=
  map_withoutEnd_wholeLinesAfter (by simp) cs

theorem newline_notMem_of_mem_lines {cs line : List Char} (h : line ∈ lines cs) : '\n' ∉ line := by
  rw [← map_withoutEnd_wholeLines] at h
  obtain ⟨whole, -, rfl⟩ := List.mem_map.1 h
  apply newline_notMem_of_bare
  intro c hc
  simpa using List.mem_takeWhile_imp hc

theorem oneLine_of_mem_wholeLinesAfter {begun : List Char} (h : ∀ c ∈ begun, isLineEnd c = false)
    {cs line : List Char} (hm : line ∈ wholeLinesAfter begun cs) : OneLine line := by
  fun_induction wholeLinesAfter begun cs with
  | case1 => cases hm
  | case2 begun =>
    rw [List.mem_singleton.1 hm]
    exact ⟨begun.reverse, [], by simp, isLineEnd_of_mem_reverse h, .inl rfl⟩
  | case3 begun cs ih =>
    rcases List.mem_cons.1 hm with rfl | hm
    · exact ⟨begun.reverse, _, rfl, isLineEnd_of_mem_reverse h, .inr (.inl rfl)⟩
    · exact ih (by simp) hm
  | case4 begun c cs hpair hend ih =>
    rcases List.mem_cons.1 hm with rfl | hm
    · exact ⟨begun.reverse, _, rfl, isLineEnd_of_mem_reverse h, .inr (.inr ⟨c, hend, rfl⟩)⟩
    · exact ih (by simp) hm
  | case5 begun c cs hpair hend ih =>
    exact ih (List.forall_mem_cons.2 ⟨by simpa using hend, h⟩) hm

/-- A whole line has one line feed if it ends with one, and none otherwise. -/
theorem OneLine.count_newline {line : List Char} (h : OneLine line) :
    line.count '\n' = if line.getLast? = some '\n' then 1 else 0 := by
  obtain ⟨bare, ending, rfl, hbare, hending⟩ := h
  have hnone : '\n' ∉ bare := newline_notMem_of_bare hbare
  rw [List.count_append, List.count_eq_zero.2 hnone, Nat.zero_add]
  rcases hending with rfl | rfl | ⟨c, -, rfl⟩
  · have hlast : ¬ bare.getLast? = some '\n' := fun h => hnone (List.mem_of_getLast? h)
    simp [hlast]
  · rw [List.getLast?_append]
    rfl
  · rw [List.getLast?_concat, List.count_singleton]
    simp

/-! ### The lines above a character -/

/-- The lines that end within the first characters of a text. -/
def linesWithin : Nat → List (List Char) → List (List Char)
  | _, [] => []
  | n, line :: rest => if line.length ≤ n then line :: linesWithin (n - line.length) rest else []

/-- The lines of a text above the line that holds the character at an offset. -/
def linesAbove (cs : List Char) (offset : Nat) : List (List Char) :=
  linesWithin offset (wholeLines cs)

/-- A character is in the line behind those above it. -/
theorem exists_line_of_linesWithin {n : Nat} {ls : List (List Char)} (h : n < ls.flatten.length) :
    ∃ line below, ls = linesWithin n ls ++ line :: below ∧
      ∃ front c back, line = front ++ c :: back ∧
        (linesWithin n ls).flatten.length + front.length = n := by
  induction ls generalizing n with
  | nil => simp at h
  | cons line ls ih =>
    rw [List.flatten_cons, List.length_append] at h
    unfold linesWithin
    split
    · next hle =>
      obtain ⟨line', below, hls, front, c, back, hline, hn⟩ := ih (n := n - line.length) (by omega)
      refine ⟨line', below, congrArg (line :: ·) hls, front, c, back, hline, ?_⟩
      rw [List.flatten_cons, List.length_append]
      omega
    · next hle =>
      have hn : n < line.length := by omega
      refine ⟨line, ls, rfl, line.take n, line.get ⟨n, hn⟩, line.drop (n + 1), ?_, ?_⟩
      · rw [List.get_eq_getElem, List.getElem_cons_drop, List.take_append_drop]
      · rw [List.flatten_nil, List.length_nil, Nat.zero_add, List.length_take]
        omega

/-- Before a character that ends no line there is no line feed on its line. -/
theorem OneLine.newline_notMem_front {front back : List Char} {c : Char}
    (h : OneLine (front ++ c :: back)) (hc : isLineEnd c = false) : '\n' ∉ front := by
  obtain ⟨bare, ending, he, hbare, hending⟩ := h
  rcases List.append_eq_append_iff.1 he with ⟨rest, rfl, -⟩ | ⟨rest, rfl, hend⟩
  · exact newline_notMem_of_bare (List.forall_mem_append.1 hbare).1
  · -- the character would be part of the line's end
    have hmem : c ∈ ending := by
      rw [hend]
      exact List.mem_append_right rest List.mem_cons_self
    rcases hending with rfl | rfl | ⟨d, hd, rfl⟩
    · cases hmem
    · have hends : ∀ d ∈ ['\r', '\n'], isLineEnd d = true := by decide
      rw [hends c hmem] at hc
      cases hc
    · rw [List.mem_singleton.1 hmem, hd] at hc
      cases hc

theorem count_newline_flatten {ls : List (List Char)} (h : ∀ l ∈ ls, OneLine l) :
    ls.flatten.count '\n' = ls.countP (·.getLast? = some '\n') := by
  induction ls with
  | nil => rfl
  | cons l ls ih =>
    obtain ⟨hl, hls⟩ := List.forall_mem_cons.1 h
    rw [List.flatten_cons, List.count_append, hl.count_newline, ih hls,
      List.countP_cons, Nat.add_comm]
    simp

/-- Before a character that ends no line there are as many line feeds as lines above it that end
with one. -/
theorem count_newline_of_linesAbove {u v : List Char} {c : Char} (hc : isLineEnd c = false) :
    u.count '\n' = (linesAbove (u ++ c :: v) u.length).countP (·.getLast? = some '\n') := by
  have hlines := flatten_wholeLines (u ++ c :: v)
  have hone : ∀ l ∈ wholeLines (u ++ c :: v), OneLine l :=
    fun l => oneLine_of_mem_wholeLinesAfter (by simp)
  have hlt : u.length < (wholeLines (u ++ c :: v)).flatten.length := by
    rw [hlines, List.length_append, List.length_cons]
    omega
  -- the character stands on some line; the text before it is the lines above, and what is in front
  -- of it on its own line
  obtain ⟨line, below, hls, front, d, back, rfl, hlength⟩ := exists_line_of_linesWithin hlt
  rw [← linesAbove] at hls hlength
  rw [hls] at hlines hone
  simp only [List.flatten_append, List.flatten_cons, List.append_assoc, List.cons_append] at hlines
  rw [← List.append_assoc] at hlines
  obtain ⟨hu, hd⟩ := List.append_inj hlines.symm (by rw [List.length_append]; omega)
  obtain ⟨rfl, -⟩ := List.cons.inj hd
  obtain ⟨habove, hrest⟩ := List.forall_mem_append.1 hone
  have hfront : '\n' ∉ front := (hrest _ List.mem_cons_self).newline_notMem_front hc
  calc u.count '\n' =
      (linesAbove (u ++ c :: v) u.length).flatten.count '\n' + front.count '\n' := by
        rw [← List.count_append, ← hu]
    _ = (linesAbove (u ++ c :: v) u.length).countP (·.getLast? = some '\n') := by
        rw [List.count_eq_zero.2 hfront, Nat.add_zero, count_newline_flatten habove]

/-- The line of a character is one of the lines of its text. -/
theorem length_linesAbove_lt {cs : List Char} {offset : Nat} (h : offset < cs.length) :
    (linesAbove cs offset).length < (lines cs).length := by
  rw [← flatten_wholeLines cs] at h
  obtain ⟨line, below, hls, -⟩ := exists_line_of_linesWithin h
  have hlength := congrArg List.length hls
  rw [List.length_append, List.length_cons] at hlength
  rw [← map_withoutEnd_wholeLines, List.length_map, linesAbove]
  omega

end Text

/-! ### Numbered lines -/

theorem newline_notMem_numberedLine {number : Nat} {line : List Char} (h : '\n' ∉ line) :
    '\n' ∉ numberedLine number line := by
  have hdigits : '\n' ∉ natText number :=
    notMem_of_class (fun _ hc => isDigit_of_mem_natText hc) (by decide)
  simp only [numberedLine, List.mem_append, not_or]
  refine ⟨⟨⟨?_, hdigits⟩, by decide⟩, h⟩
  intro hm
  exact absurd (List.eq_of_mem_replicate hm) (by decide)

/-- The digits at the front of a numbered line are those of its number. -/
theorem digits_numberedLine (number : Nat) (line : List Char) :
    (skipBlanks (numberedLine number line)).takeWhile isDigit = natText number := by
  have hgap : ∀ c ∈ List.replicate (5 - (natText number).length) ' ', isBlank c = true := by
    intro c hc
    rw [List.eq_of_mem_replicate hc]
    decide
  have hbare : BareStart (natText number ++ (" | ".toList ++ line)) :=
    bareStart_append (bareStart_of_forall fun c hc => isBlank_of_isDigit
      (isDigit_of_mem_natText hc)) Nat.toDigits_ne_nil _
  simp only [numberedLine, List.append_assoc]
  rw [skipBlanks_append hgap, skipBlanks_of_bareStart hbare,
    List.takeWhile_append_of_pos fun c hc => isDigit_of_mem_natText hc]
  have hstop : (" | ".toList ++ line).takeWhile isDigit = [] := rfl
  rw [hstop, List.append_nil]

/-- A line tells its number. -/
theorem numberedLine_inj {number number' : Nat} {line line' : List Char}
    (h : numberedLine number line = numberedLine number' line') : number = number' := by
  apply natText_inj
  rw [← digits_numberedLine number line, h, digits_numberedLine number' line']

theorem getElem?_numberLinesFrom (number : Nat) (ls : List (List Char)) (i : Nat) :
    (numberLinesFrom number ls)[i]? = ls[i]?.map (numberedLine (number + i)) := by
  induction ls generalizing number i with
  | nil => rfl
  | cons line ls ih =>
    cases i with
    | zero => rfl
    | succ i =>
      rw [numberLinesFrom, List.getElem?_cons_succ, List.getElem?_cons_succ, ih, Nat.add_assoc,
        Nat.add_comm 1 i]

theorem newline_notMem_of_mem_numberLinesFrom {number : Nat} {ls : List (List Char)}
    (h : ∀ l ∈ ls, '\n' ∉ l) :
    ∀ l ∈ numberLinesFrom number ls, '\n' ∉ l := by
  induction ls generalizing number with
  | nil => intro l hl; cases hl
  | cons line ls ih =>
    obtain ⟨hline, hls⟩ := List.forall_mem_cons.1 h
    rw [numberLinesFrom]
    exact List.forall_mem_cons.2 ⟨newline_notMem_numberedLine hline, ih hls⟩

/-- The pieces of joined texts are the texts. -/
theorem pieces_join {sep : Char} {ls : List (List Char)} (hn : ls ≠ []) (h : ∀ l ∈ ls, sep ∉ l) :
    pieces sep (join [sep] ls) = ls := by
  induction ls with
  | nil => exact absurd rfl hn
  | cons l ls ih =>
    obtain ⟨hl, hls⟩ := List.forall_mem_cons.1 h
    cases ls with
    | nil => exact pieces_of_notMem hl
    | cons next ls =>
      rw [join_cons (by simp), List.append_assoc, List.singleton_append, pieces_append_cons,
        pieces_of_notMem hl, ih (by simp) hls]
      rfl

/-- The lines of a numbered text are those of the text, each labelled with its number. -/
theorem getElem?_pieces_numbered {cs : List Char} (h : lines cs ≠ []) (i : Nat) :
    (pieces '\n' (numbered cs))[i]? = (lines cs)[i]?.map (numberedLine (i + 1)) := by
  have hne : numberLinesFrom 1 (lines cs) ≠ [] := by
    cases hl : lines cs with
    | nil => exact absurd hl h
    | cons line ls => simp [numberLinesFrom]
  have hlines : ∀ l ∈ numberLinesFrom 1 (lines cs), '\n' ∉ l :=
    newline_notMem_of_mem_numberLinesFrom fun l => newline_notMem_of_mem_lines
  rw [numbered, pieces_join hne hlines, getElem?_numberLinesFrom, Nat.add_comm]

theorem numbered_ne_nil {cs : List Char} (h : lines cs ≠ []) : numbered cs ≠ [] := by
  intro hnil
  obtain ⟨line, ls, hlines⟩ := List.exists_cons_of_ne_nil h
  have hfirst := getElem?_pieces_numbered h 0
  rw [hnil, hlines] at hfirst
  have hempty : [] = numberedLine 1 line := Option.some.inj hfirst
  simp [numberedLine] at hempty

/-- Whether the line of a text that holds the character at an offset stands in a numbered text
behind a number. -/
def Labels (number : Nat) (numbered cs : List Char) (offset : Nat) : Prop :=
  ∃ line, (lines cs)[(linesAbove cs offset).length]? = some line ∧
    (pieces '\n' numbered)[(linesAbove cs offset).length]? = some (numberedLine number line)

/-- The line of a character is labelled with the number of lines above it and one more. -/
theorem labels_numbered_iff {cs : List Char} {offset : Nat} (h : offset < cs.length)
    (number : Nat) :
    Labels number (numbered cs) cs offset ↔ number = (linesAbove cs offset).length + 1 := by
  have hlt := length_linesAbove_lt h
  have hne : lines cs ≠ [] := List.ne_nil_of_length_pos (by omega)
  unfold Labels
  rw [getElem?_pieces_numbered hne, List.getElem?_eq_getElem hlt, Option.map_some]
  constructor
  · rintro ⟨line, -, hline⟩
    exact (numberedLine_inj (Option.some.inj hline)).symm
  · rintro rfl
    exact ⟨_, rfl, rfl⟩

/-! ### Declarations -/

/-- No line end is part of a word. -/
theorem isLineEnd_of_isWord {c : Char} (h : isWord c = true) : isLineEnd c = false := by
  have hblank : ∀ n ∈ [0xA, 0xB, 0xC, 0xD, 0x1C, 0x1D, 0x1E, 0x85, 0x2028, 0x2029],
      blankPoints.holds n = true := by
    decide
  rw [← Bool.not_eq_true]
  intro hend
  have hb : isBlank c = true := by
    apply hblank
    simp only [isLineEnd, Bool.or_eq_true, Bool.and_eq_true, decide_eq_true_eq] at hend
    simp only [List.mem_cons, List.not_mem_nil, or_false]
    omega
  rw [isBlank_of_isWord h] at hb
  cases hb

/-- A declaration stands where its keyword begins, in the line behind as many line feeds as stand
before it. -/
theorem Kind.exists_of_locate? {k : Kind} {name source : String} {place : Location}
    (h : k.locate? name source = some place) :
    ∃ front c rest, source.toList = front ++ c :: rest ∧ isWord c = true ∧
      place = ⟨front.length, front.count '\n' + 1⟩ := by
  obtain ⟨offset, hoffset, rfl⟩ := Option.map_eq_some_iff.1 h
  obtain ⟨⟨_, behind⟩, hfind, rfl⟩ := Option.map_eq_some_iff.1 hoffset
  unfold Kind.find? at hfind
  split at hfind
  · cases hfind
  · obtain ⟨front, head, hsource, rfl, -, hread⟩ := exists_at_of_first? hfind
    obtain ⟨named, hkeyword, -⟩ := Option.bind_eq_some_iff.1 hread
    have hhead := eq_append_of_isPrefixOf? hkeyword
    -- the place is where the keyword begins, whose first letter is a letter of a word
    obtain ⟨c, keyword, hk⟩ := List.exists_cons_of_ne_nil k.keyword_ne_nil
    rw [hk] at hhead
    refine ⟨front, c, keyword ++ named, by rw [hsource, hhead]; rfl, ?_, ?_⟩
    · have hmem : c ∈ k.keyword := by
        rw [hk]
        exact List.mem_cons_self
      exact Kind.isWord_of_mem_keyword c hmem
    · rw [lineOf, hsource, List.take_left]

/-- The line that a declaration is in is labelled with the number that the declaration is placed at
if and only if all lines above it end with line feeds. -/
theorem Kind.labels_locate?_iff {k : Kind} {name source : String} {place : Location}
    (m : ModelSettings) (error summary sourceName : List Char)
    (hbudget : (tokenCount source.toList : Int) ≤ m.maxPromptTokens)
    (h : k.locate? name source = some place) :
    Labels place.line (QuestionParts.of m error source.toList summary sourceName).numberedSource
      source.toList place.offset ↔
      ∀ line ∈ linesAbove source.toList place.offset, line.getLast? = some '\n' := by
  obtain ⟨front, c, rest, hsource, hc, rfl⟩ := Kind.exists_of_locate? h
  have hlt : front.length < source.toList.length := by
    rw [hsource, List.length_append, List.length_cons]
    omega
  have hne : lines source.toList ≠ [] :=
    List.ne_nil_of_length_pos (by have := length_linesAbove_lt hlt; omega)
  have hnumbered : (QuestionParts.of m error source.toList summary sourceName).numberedSource =
      numbered source.toList := by
    have hempty : (numbered source.toList).isEmpty = false :=
      List.isEmpty_eq_false_iff.2 (numbered_ne_nil hne)
    show (nonEmpty? (numbered (cutTo m.maxPromptTokens source.toList))).getD _ = _
    rw [cutTo, if_pos hbudget, nonEmpty?, hempty]
    rfl
  have hcount := count_newline_of_linesAbove (u := front) (v := rest) (isLineEnd_of_isWord hc)
  rw [← hsource] at hcount
  rw [hnumbered, labels_numbered_iff hlt, hcount, Nat.add_right_cancel_iff, List.countP_eq_length]
  simp

/-- A control below a line that a carriage return and a line feed end. -/
def pairedEnds : String := "// a switch\r\ncontrol C() \x7b\x7d\n"

theorem Kind.labels_locate?_pairedEnds : Kind.control.locate? "C" pairedEnds = some ⟨13, 2⟩ ∧
    Labels 2 (QuestionParts.of {} [] pairedEnds.toList [] []).numberedSource
      pairedEnds.toList 13 := by
  have hplace : Kind.control.locate? "C" pairedEnds = some ⟨13, 2⟩ := by decide +kernel
  refine ⟨hplace, (Kind.labels_locate?_iff {} [] [] [] (by decide +kernel) hplace).2 ?_⟩
  decide +kernel

/-- A control behind a form feed. -/
def formFed : String := "\x0ccontrol C() \x7b\x7d\n"

/-- A form feed ends a line of the question, but the control is placed in the first line. -/
theorem Kind.not_labels_locate?_formFed : Kind.control.locate? "C" formFed = some ⟨1, 1⟩ ∧
    (tokenCount formFed.toList : Int) ≤ ({} : ModelSettings).maxPromptTokens ∧
      ¬ Labels 1 (QuestionParts.of {} [] formFed.toList [] []).numberedSource formFed.toList 1 := by
  refine ⟨by decide +kernel, by decide +kernel, ?_⟩
  rintro ⟨line, -, hline⟩
  have hsecond :
    (pieces '\n' (QuestionParts.of {} [] formFed.toList [] []).numberedSource)[(linesAbove
      formFed.toList 1).length]? = some (numberedLine 2 "control C() \x7b\x7d".toList) := by
    decide +kernel
  rw [hsecond] at hline
  exact absurd (numberedLine_inj (Option.some.inj hline)) (by decide)

end P4Outline

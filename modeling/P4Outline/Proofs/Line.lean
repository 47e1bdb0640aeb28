import P4Outline.Proofs.Text
import P4Outline.Source.Line

/-!
# The lines of a text that is put together

How a text falls into lines under every layout, when it is put together of parts. Two things of a
line do not matter to a scan, and `Layout.bareLines` leaves them out: its indentation, and whether
it is blank.

* `joinBraces_append`: hanging braces are pulled up part by part, if the first part does not end in
  a blank.
* `Layout.bareLines_newline`: a line break parts the lines, if no brace hangs below it.
* `Layout.not_holdsWord_of_mem_bareLines`: no line holds a word that the text does not hold.
-/

namespace P4Outline.Source

open P4Outline.Text

/-- Whether a text breaks no line, under any layout: it has no braces, semicolons, line breaks and
slashes. -/
def Inline (cs : List Char) : Prop := ∀ c ∈ cs, c ≠ '{' ∧ c ≠ '}' ∧ c ≠ ';' ∧ c ≠ '\n' ∧ c ≠ '/'

instance (cs : List Char) : Decidable (Inline cs) :=
  inferInstanceAs (Decidable (∀ c ∈ cs, c ≠ '{' ∧ c ≠ '}' ∧ c ≠ ';' ∧ c ≠ '\n' ∧ c ≠ '/'))

theorem inline_append {cs ds : List Char} : Inline (cs ++ ds) ↔ Inline cs ∧ Inline ds :=
  List.forall_mem_append

/-- Characters of a class that has none of the five break no line. -/
theorem inline_of_class {p : Char → Bool} (hp : ∀ c ∈ ['{', '}', ';', '\n', '/'], p c = false)
    {cs : List Char} (h : ∀ c ∈ cs, p c = true) : Inline cs := by
  have hne {c d : Char} (hc : c ∈ cs) (hd : d ∈ ['{', '}', ';', '\n', '/']) : c ≠ d := by
    rintro rfl
    exact notMem_of_class h (hp c hd) hc
  intro c hc
  exact ⟨hne hc (by simp), hne hc (by simp), hne hc (by simp), hne hc (by simp), hne hc (by simp)⟩

theorem inline_of_isWord {cs : List Char} (h : ∀ c ∈ cs, isWord c = true) : Inline cs :=
  inline_of_class (by decide) h

namespace Inline

variable {cs : List Char} (h : Inline cs)

include h

theorem slash_notMem : '/' ∉ cs := fun hm => (h _ hm).2.2.2.2 rfl

theorem newline_notMem : '\n' ∉ cs := fun hm => (h _ hm).2.2.2.1 rfl

theorem brace_notMem : '{' ∉ cs := fun hm => (h _ hm).1 rfl

theorem closing_notMem : '}' ∉ cs := fun hm => (h _ hm).2.1 rfl

end Inline

/-! ### Stems -/

/-- The text of a statement before the mark that ends it or opens its body. -/
structure Stem (cs : List Char) : Prop where
  ne_nil : cs ≠ []
  inline : Inline cs
  bareStart : BareStart cs

theorem stem_of_isWord {cs : List Char} (hn : cs ≠ []) (hw : ∀ c ∈ cs, isWord c = true) :
    Stem cs where
  ne_nil := hn
  inline := inline_of_isWord hw
  bareStart := bareStart_of_forall fun c hc => isBlank_of_isWord (hw c hc)

theorem Stem.append {cs ds : List Char} (h : Stem cs) (hd : Inline ds) : Stem (cs ++ ds) where
  ne_nil := List.append_ne_nil_of_left_ne_nil h.ne_nil ds
  inline := inline_append.2 ⟨h.inline, hd⟩
  bareStart := bareStart_append h.bareStart h.ne_nil ds

/-! ### Comments -/

/-- A text without a slash has no comments. -/
theorem withoutComments_of_notMem {cs : List Char} (h : '/' ∉ cs) : withoutComments cs = cs := by
  have hblock : withoutBlockComments cs = cs := by
    induction cs with
    | nil => rw [withoutBlockComments]
    | cons c cs ih =>
      rw [withoutBlockComments, ih fun hm => h (List.mem_cons_of_mem _ hm)]
      rintro body rfl
      exact absurd List.mem_cons_self h
  rw [withoutComments, hblock]
  clear hblock
  induction cs with
  | nil => rw [withoutLineComments]
  | cons c cs ih =>
    rw [withoutLineComments, ih fun hm => h (List.mem_cons_of_mem _ hm)]
    rintro rest rfl
    exact absurd List.mem_cons_self h

/-! ### Hanging braces -/

/-- What drops nothing but blanks stops within a text that does not end in one. -/
theorem dropWhile_append_of_bareEnd {p : Char → Bool} (hp : ∀ c, p c = true → isBlank c = true)
    {cs : List Char} (hc : cs ≠ []) (he : BareEnd cs) (rest : List Char) :
    cs.dropWhile p ≠ [] ∧ (cs ++ rest).dropWhile p = cs.dropWhile p ++ rest := by
  have hd : cs.dropWhile p ≠ [] := by
    intro h
    have hl := hp _ (List.dropWhile_eq_nil_iff.1 h _ (List.getLast_mem hc))
    rw [he _ (List.getLast?_eq_some_getLast hc)] at hl
    simp at hl
  refine ⟨hd, ?_⟩
  rw [List.dropWhile_append, if_neg]
  simpa using hd

theorem bareEnd_of_suffix {cs part : List Char} (h : part <:+ cs) (he : BareEnd cs) :
    BareEnd part := by
  intro c hc
  obtain ⟨front, rfl⟩ := h
  apply he c
  rw [Option.mem_def] at hc ⊢
  rw [List.getLast?_append, hc]
  rfl

/-- The blanks that a line may end in where a brace hangs below it. -/
def isGap (c : Char) : Bool := c = ' ' || c = '\t'

theorem isBlank_of_isGap {c : Char} (h : isGap c = true) : isBlank c = true := by
  rcases Bool.or_eq_true_iff.1 h with h | h
  · rw [of_decide_eq_true h]; decide
  · rw [of_decide_eq_true h]; decide

theorem hangingBrace?_eq_some_iff {cs rest : List Char} :
    hangingBrace? cs = some rest ↔
      ∃ below inside, cs.dropWhile isGap = '\n' :: below ∧ skipBlanks below = '{' :: inside ∧
        rest = '{' :: inside := by
  have hgap : cs.dropWhile (fun c => c = ' ' || c = '\t') = cs.dropWhile isGap := rfl
  rw [hangingBrace?, hgap]
  constructor
  · intro h
    split at h
    · next below hd =>
      split at h
      · next inside hs => cases h; exact ⟨below, inside, hd, hs, rfl⟩
      · simp at h
    · simp at h
  · rintro ⟨below, inside, hd, hs, rfl⟩
    simp only [hd, hs]

theorem hangingBrace?_append {cs : List Char} (hc : cs ≠ []) (he : BareEnd cs) (rest : List Char) :
    hangingBrace? (cs ++ rest) = (hangingBrace? cs).map (· ++ rest) := by
  obtain ⟨hd, happend⟩ := dropWhile_append_of_bareEnd (fun c => isBlank_of_isGap) hc he rest
  -- the blanks below the line break end within the part too
  have hskip {below : List Char} (h : cs.dropWhile isGap = '\n' :: below) :
      skipBlanks below ≠ [] ∧ skipBlanks (below ++ rest) = skipBlanks below ++ rest := by
    have hb : BareEnd ('\n' :: below) := bareEnd_of_suffix (h ▸ List.dropWhile_suffix _) he
    have hne : below ≠ [] := by
      rintro rfl
      exact absurd (hb '\n' rfl) (by decide)
    exact dropWhile_append_of_bareEnd (fun c hc => hc) hne
      (bareEnd_of_suffix (List.suffix_cons _ _) hb) rest
  ext brace
  rw [hangingBrace?_eq_some_iff, happend, Option.map_eq_some_iff]
  constructor
  · rintro ⟨below, inside, hcs, hs, rfl⟩
    cases hline : cs.dropWhile isGap with
    | nil => exact absurd hline hd
    | cons c below' =>
      rw [hline, List.cons_append] at hcs
      obtain ⟨rfl, rfl⟩ := List.cons.inj hcs
      obtain ⟨hne, happend'⟩ := hskip hline
      rw [happend'] at hs
      cases hs' : skipBlanks below' with
      | nil => exact absurd hs' hne
      | cons d inside' =>
        rw [hs', List.cons_append] at hs
        obtain ⟨rfl, rfl⟩ := List.cons.inj hs
        exact ⟨'{' :: inside', hangingBrace?_eq_some_iff.2 ⟨below', inside', hline, hs', rfl⟩, rfl⟩
  · rintro ⟨front, hf, rfl⟩
    obtain ⟨below, inside, hline, hs, rfl⟩ := hangingBrace?_eq_some_iff.1 hf
    refine ⟨below ++ rest, inside ++ rest, by rw [hline]; rfl, ?_, rfl⟩
    rw [(hskip hline).2, hs]
    rfl

/-- A hanging brace stands behind blanks, one of which is a line break. -/
theorem exists_of_hangingBrace? {cs rest : List Char} (h : hangingBrace? cs = some rest) :
    ∃ gap, cs = gap ++ rest ∧ '\n' ∈ gap ∧ (∀ c ∈ gap, isBlank c = true) ∧
      ∃ inside, rest = '{' :: inside := by
  obtain ⟨below, inside, hd, hs, rfl⟩ := hangingBrace?_eq_some_iff.1 h
  obtain ⟨gap, hg, he⟩ := exists_skipBlanks below
  refine ⟨cs.takeWhile isGap ++ '\n' :: gap, ?_, by simp, ?_, inside, rfl⟩
  · rw [List.append_assoc, List.cons_append, ← hs, ← he, ← hd, List.takeWhile_append_dropWhile]
  · intro c hc
    rcases List.mem_append.1 hc with hc | hc
    · exact isBlank_of_isGap (List.mem_takeWhile_imp hc)
    · rcases List.mem_cons.1 hc with rfl | hc
      · decide
      · exact hg c hc

theorem joinBraces_cons_of_none {c : Char} {cs : List Char} (h : hangingBrace? (c :: cs) = none) :
    joinBraces (c :: cs) = c :: joinBraces cs := by
  rw [joinBraces]
  split
  · next hs => rw [h] at hs; simp at hs
  · rfl

theorem joinBraces_of_some {cs rest : List Char} (h : hangingBrace? cs = some rest) :
    joinBraces cs = ' ' :: joinBraces rest := by
  cases cs with
  | nil => simp [hangingBrace?] at h
  | cons c cs =>
    rw [joinBraces]
    split
    · next hs => rw [h] at hs; cases hs; rfl
    · next hs => rw [h] at hs; simp at hs

/-- Hanging braces are pulled up part by part, if the first part does not end in a blank. -/
theorem joinBraces_append {cs : List Char} (he : BareEnd cs) (rest : List Char) :
    joinBraces (cs ++ rest) = joinBraces cs ++ joinBraces rest := by
  fun_induction joinBraces cs with
  | case1 => rfl
  | case2 c cs brace hb ih =>
    obtain ⟨gap, hcs, -, -, below, rfl⟩ := exists_of_hangingBrace? hb
    have hbe : BareEnd ('{' :: below) := bareEnd_of_suffix ⟨gap, hcs.symm⟩ he
    -- the text ends with no gap, so that no brace behind it can hang on it
    have hb' : hangingBrace? (c :: cs ++ rest) = some ('{' :: below ++ rest) := by
      rw [hangingBrace?_append (by simp) he, hb]
      rfl
    rw [joinBraces_of_some hb', ih hbe]
    rfl
  | case3 c cs hb ih =>
    have hb' : hangingBrace? (c :: (cs ++ rest)) = none := by
      rw [← List.cons_append, hangingBrace?_append (by simp) he, hb]
      rfl
    rw [List.cons_append, joinBraces_cons_of_none hb',
      ih (bareEnd_of_suffix (List.suffix_cons _ _) he)]
    rfl

/-- On one line no brace hangs, nor where there is none. -/
theorem joinBraces_of_notMem {cs : List Char} (h : '\n' ∉ cs ∨ '{' ∉ cs) : joinBraces cs = cs := by
  induction cs with
  | nil => rw [joinBraces]
  | cons c cs ih =>
    have hb : hangingBrace? (c :: cs) = none := by
      cases hb : hangingBrace? (c :: cs) with
      | none => rfl
      | some rest =>
        obtain ⟨gap, he, hn, -, inside, rfl⟩ := exists_of_hangingBrace? hb
        rw [he] at h
        simp [hn] at h
    have hrest {d : Char} (hd : d ∉ c :: cs) : d ∉ cs := fun hm => hd (List.mem_cons_of_mem _ hm)
    rw [joinBraces_cons_of_none hb, ih (h.imp hrest hrest)]

theorem joinBraces_newline {below : List Char} (h : (skipBlanks below).head? ≠ some '{') :
    joinBraces ('\n' :: below) = '\n' :: joinBraces below := by
  apply joinBraces_cons_of_none
  cases hb : hangingBrace? ('\n' :: below) with
  | none => rfl
  | some rest =>
    obtain ⟨below', inside, hd, hs, -⟩ := hangingBrace?_eq_some_iff.1 hb
    cases hd
    rw [hs] at h
    exact absurd rfl h

/-- No brace hangs below the indentation of a line. -/
theorem hangingBrace?_indent {gap : List Char} (hg : ∀ c ∈ gap, c = ' ') {cs : List Char}
    (hs : BareStart cs) :
    hangingBrace? (gap ++ cs) = none := by
  have hgap : ∀ c ∈ gap, isGap c = true := fun c hc => by rw [hg c hc]; rfl
  cases hb : hangingBrace? (gap ++ cs) with
  | none => rfl
  | some rest =>
    -- the indentation would have to end at a line break, which is a blank
    obtain ⟨below, inside, hd, -⟩ := hangingBrace?_eq_some_iff.1 hb
    rw [List.dropWhile_append_of_pos hgap] at hd
    cases cs with
    | nil => simp at hd
    | cons c cs =>
      have hc : isBlank c = false := hs c rfl
      have hne : isGap c = false := by
        rw [← Bool.not_eq_true]
        intro h
        rw [isBlank_of_isGap h] at hc
        simp at hc
      rw [List.dropWhile_cons, hne] at hd
      cases hd
      exact absurd hc (by decide)

theorem joinBraces_indent {gap : List Char} (hg : ∀ c ∈ gap, c = ' ') {cs : List Char}
    (hs : BareStart cs) :
    joinBraces (gap ++ cs) = gap ++ joinBraces cs := by
  induction gap with
  | nil => rfl
  | cons c gap ih =>
    have hb : hangingBrace? (c :: (gap ++ cs)) = none := hangingBrace?_indent hg hs
    rw [List.cons_append, joinBraces_cons_of_none hb,
      ih fun d hd => hg d (List.mem_cons_of_mem _ hd)]
    rfl

/-! ### Words and hanging braces -/

theorem word_cons_congr {c : Char} {cs ds : List Char} (h : word cs = word ds) :
    word (c :: cs) = word (c :: ds) := by
  rw [word, word, List.takeWhile_cons, List.takeWhile_cons, ← word, ← word, h]

theorem word_joinBraces (cs : List Char) : word (joinBraces cs) = word cs := by
  fun_induction joinBraces cs with
  | case1 => rfl
  | case2 c cs rest hb ih =>
    obtain ⟨gap, he, hn, hg, -⟩ := exists_of_hangingBrace? hb
    have hc : isBlank c = true := by
      cases gap with
      | nil => simp at hn
      | cons d gap => rw [(List.cons.inj he).1]; exact hg d List.mem_cons_self
    rw [word_cons_of_false (by decide), word_cons_of_false (isWord_of_isBlank hc)]
  | case3 c cs hb ih => exact word_cons_congr ih

theorem holdsWordFrom_joinBraces {free : Bool} {w : List Char} (hw : w ≠ []) (cs : List Char) :
    HoldsWordFrom free w (joinBraces cs) ↔ HoldsWordFrom free w cs := by
  fun_induction joinBraces cs generalizing free with
  | case1 => rfl
  | case2 c cs rest hb ih =>
    obtain ⟨gap, he, hn, hg, -⟩ := exists_of_hangingBrace? hb
    rw [holdsWordFrom_cons_of_false hw (by decide), he, HoldsWord, ih,
      holdsWordFrom_append_of_false hw (fun c hc => isWord_of_isBlank (hg c hc))
        (List.ne_nil_of_mem hn), HoldsWord]
  | case3 c cs hb ih =>
    rw [holdsWordFrom_cons, ih, holdsWordFrom_cons, word_cons_congr (word_joinBraces cs)]

/-! ### Line breaks around braces -/

theorem word_flatMap_spread (cs : List Char) : word (cs.flatMap spread) = word cs := by
  induction cs with
  | nil => rfl
  | cons c cs ih =>
    rw [List.flatMap_cons, spread]
    split
    · next hc => rw [hc]; rfl
    · split
      · next hc => rw [hc]; rfl
      · split
        · next hc => rw [hc]; rfl
        · exact word_cons_congr ih

theorem holdsWordFrom_flatMap_spread {free : Bool} {w : List Char} (hw : w ≠ []) (cs : List Char) :
    HoldsWordFrom free w (cs.flatMap spread) ↔ HoldsWordFrom free w cs := by
  induction cs generalizing free with
  | nil => rfl
  | cons c cs ih =>
    -- a mark is no part of a word, nor is the break that is put around it
    have hmark {text : List Char} (ht : ∀ d ∈ text, isWord d = false) (hne : text ≠ [])
        (hc : isWord c = false) :
        HoldsWordFrom free w (text ++ cs.flatMap spread) ↔ HoldsWordFrom free w (c :: cs) := by
      rw [holdsWordFrom_append_of_false hw ht hne, HoldsWord, ih,
        holdsWordFrom_cons_of_false hw hc, HoldsWord]
    rw [List.flatMap_cons, spread]
    split
    · next hc => exact hmark (by decide) (by simp) (by rw [hc]; decide)
    · split
      · next hc => exact hmark (by decide) (by simp) (by rw [hc]; decide)
      · split
        · next hc => exact hmark (by decide) (by simp) (by rw [hc]; decide)
        · rw [List.cons_append, List.nil_append, holdsWordFrom_cons, ih, holdsWordFrom_cons,
            word_cons_congr (word_flatMap_spread cs)]

/-! ### Pieces -/

theorem pieces_of_notMem {sep : Char} {cs : List Char} (h : sep ∉ cs) : pieces sep cs = [cs] := by
  induction cs with
  | nil => rfl
  | cons c cs ih =>
    rw [List.mem_cons, not_or] at h
    rw [pieces, if_neg (Ne.symm h.1), ih h.2]
    rfl

theorem pieces_append_of_notMem {sep : Char} {front : List Char} (h : sep ∉ front)
    (cs : List Char) :
    pieces sep (front ++ cs) = (pieces sep cs).modifyHead (front ++ ·) := by
  induction front with
  | nil => cases hp : pieces sep cs <;> simp [hp]
  | cons c front ih =>
    rw [List.mem_cons, not_or] at h
    rw [List.cons_append, pieces, if_neg (Ne.symm h.1), ih h.2, List.modifyHead_modifyHead]
    rfl

/-- A piece stands in its text between separators, or at one of the text's ends. -/
theorem exists_of_mem_pieces {sep : Char} {cs piece : List Char} (hm : piece ∈ pieces sep cs) :
    ∃ front behind, cs = front ++ (piece ++ behind) ∧ (∀ c ∈ front.getLast?, c = sep) ∧
      ∀ c ∈ behind.head?, c = sep := by
  induction hl : cs.length using Nat.strongRecOn generalizing cs with
  | _ n ih =>
    by_cases hn : sep ∈ cs
    · obtain ⟨before, after, rfl, hb⟩ := List.eq_append_cons_of_mem hn
      rw [pieces_append_cons, pieces_of_notMem hb] at hm
      rcases List.mem_cons.1 hm with rfl | hm
      · exact ⟨[], sep :: after, rfl, by simp, by simp⟩
      · obtain ⟨front, behind, rfl, hf, hbehind⟩ :=
          ih after.length (by rw [← hl]; simp; omega) hm rfl
        refine ⟨before ++ sep :: front, behind, by simp, ?_, hbehind⟩
        cases front with
        | nil => simp
        | cons c front => simpa using hf
    · rw [pieces_of_notMem hn, List.mem_singleton] at hm
      exact ⟨[], [], by simp [hm], by simp, by simp⟩

theorem mem_of_mem_pieces {sep : Char} {cs line : List Char} (hm : line ∈ pieces sep cs) :
    line ⊆ cs := by
  obtain ⟨front, behind, rfl, -⟩ := exists_of_mem_pieces hm
  simp

/-- A word may start at the front of a line. -/
theorem freeAfter_of_line {front : List Char} (h : ∀ c ∈ front.getLast?, c = '\n') :
    freeAfter endsWord true front = true := by
  rw [freeAfter]
  cases hl : front.getLast? with
  | none => rfl
  | some c =>
    rw [h c hl]
    decide

/-- A word of a line is a word of the text. -/
theorem holdsWord_of_mem_pieces {w : List Char} {cs line : List Char} (hm : line ∈ pieces '\n' cs)
    (h : HoldsWord w line) : HoldsWord w cs := by
  obtain ⟨front, behind, rfl, hf, hb⟩ := exists_of_mem_pieces hm
  obtain ⟨u, v, rfl, hu, rfl⟩ := h
  have hstop : WordStop behind := by
    intro c hc
    rw [hb c hc]
    decide
  refine ⟨front ++ u, v ++ behind, by simp, ?_, word_append_of_wordStop hstop v⟩
  rw [freeAfter_append, freeAfter_of_line hf]
  exact hu

/-! ### Lines without indentation -/

/-- Lines without their indentation, and no blank ones. -/
def bare (lines : List (List Char)) : List (List Char) := (lines.map skipBlanks).filter (!·.isEmpty)

theorem bare_append (lines more : List (List Char)) :
    bare (lines ++ more) = bare lines ++ bare more := by
  rw [bare, List.map_append, List.filter_append, bare, bare]

theorem bare_cons (line : List Char) (lines : List (List Char)) :
    bare (line :: lines) = bare [line] ++ bare lines :=
  bare_append [line] lines

theorem bare_of_isBlank {line : List Char} (h : ∀ c ∈ line, isBlank c = true) :
    bare [line] = [] := by
  rw [bare, List.map_singleton, skipBlanks_eq_nil h]
  rfl

theorem bare_of_bareStart {line : List Char} (hs : BareStart line) (hne : line ≠ []) :
    bare [line] = [line] := by
  rw [bare, List.map_singleton, skipBlanks_of_bareStart hs]
  cases line with
  | nil => exact absurd rfl hne
  | cons c line => rfl

theorem bare_indent {gap : List Char} (hg : ∀ c ∈ gap, isBlank c = true)
    (lines : List (List Char)) :
    bare (lines.modifyHead (gap ++ ·)) = bare lines := by
  cases lines with
  | nil => rfl
  | cons line lines =>
    rw [List.modifyHead, bare, List.map_cons, skipBlanks_append hg, bare, List.map_cons]

theorem not_holdsWord_of_mem_bare {w line : List Char} {lines : List (List Char)} (hw : w ≠ [])
    (h : ∀ line ∈ lines, ¬ HoldsWord w line) (hm : line ∈ bare lines) : ¬ HoldsWord w line := by
  intro hl
  obtain ⟨hmap, -⟩ := List.mem_filter.1 hm
  obtain ⟨full, hf, rfl⟩ := List.mem_map.1 hmap
  obtain ⟨gap, hg, he⟩ := exists_skipBlanks full
  apply h full hf
  by_cases hne : gap = []
  · rw [he, hne]
    exact hl
  · rw [he]
    exact (holdsWordFrom_append_of_false hw (fun c hc => isWord_of_isBlank (hg c hc)) hne _).2 hl

/-! ### Lines of a text -/

namespace Layout

variable (layout : Layout)

/-- A text with the line breaks that the layout adds. -/
def broken (cs : List Char) : List Char := if layout.splitStatements then cs.flatMap spread else cs

/-- The lines of a text that bear on a scan. -/
def bareLines (cs : List Char) : List (List Char) := bare (layout.lines cs)

theorem lines_of_notMem {cs : List Char} (h : '/' ∉ cs) :
    layout.lines cs = pieces '\n' (layout.broken (joinBraces cs)) := by
  rw [lines, withoutComments_of_notMem h, ite_self]
  rfl

theorem broken_append (cs rest : List Char) :
    layout.broken (cs ++ rest) = layout.broken cs ++ layout.broken rest := by
  rw [broken, broken, broken]
  split
  · exact List.flatMap_append
  · rfl

/-- Nothing is broken in a text without braces and semicolons. -/
theorem broken_of_notMem {cs : List Char} (h : ∀ c ∈ cs, c ≠ '{' ∧ c ≠ '}' ∧ c ≠ ';') :
    layout.broken cs = cs := by
  rw [broken]
  split
  · induction cs with
    | nil => rfl
    | cons c cs ih =>
      obtain ⟨h1, h2, h3⟩ := h c List.mem_cons_self
      rw [List.flatMap_cons, spread, if_neg h1, if_neg h2, if_neg h3,
        ih fun d hd => h d (List.mem_cons_of_mem _ hd)]
      rfl
  · rfl

theorem broken_of_inline {cs : List Char} (h : Inline cs) : layout.broken cs = cs :=
  layout.broken_of_notMem fun c hc => ⟨(h c hc).1, (h c hc).2.1, (h c hc).2.2.1⟩

theorem holdsWord_broken_joinBraces {w : List Char} (hw : w ≠ []) (cs : List Char) :
    HoldsWord w (layout.broken (joinBraces cs)) ↔ HoldsWord w cs := by
  rw [broken, HoldsWord]
  split
  · rw [holdsWordFrom_flatMap_spread hw, holdsWordFrom_joinBraces hw, HoldsWord]
  · rw [holdsWordFrom_joinBraces hw, HoldsWord]

/-- A line break parts the lines, if no brace hangs below it. -/
theorem bareLines_newline {cs below : List Char} (hcs : '/' ∉ cs) (hbelow : '/' ∉ below)
    (he : BareEnd cs) (hb : (skipBlanks below).head? ≠ some '{') :
    layout.bareLines (cs ++ '\n' :: below) = layout.bareLines cs ++ layout.bareLines below := by
  have hall : '/' ∉ cs ++ '\n' :: below := by simp [hcs, hbelow]
  have hbreak : layout.broken ('\n' :: joinBraces below) =
      '\n' :: layout.broken (joinBraces below) := by
    rw [← List.singleton_append, broken_append, layout.broken_of_notMem (by decide)]
    rfl
  rw [bareLines, layout.lines_of_notMem hall, joinBraces_append he, joinBraces_newline hb,
    broken_append, hbreak, pieces_append_cons, bare_append, bareLines, layout.lines_of_notMem hcs,
    bareLines, layout.lines_of_notMem hbelow]

/-- Indentation does not matter. -/
theorem bareLines_indent {gap : List Char} (hg : ∀ c ∈ gap, c = ' ') {cs : List Char}
    (hcs : '/' ∉ cs) (hs : BareStart cs) : layout.bareLines (gap ++ cs) = layout.bareLines cs := by
  have hgap {p : Char → Prop} (hp : p ' ') : ∀ c ∈ gap, p c := fun c hc => hg c hc ▸ hp
  have hall : '/' ∉ gap ++ cs := by
    rw [List.mem_append]
    rintro (h | h)
    · exact absurd (hg _ h) (by decide)
    · exact hcs h
  have hnl : '\n' ∉ gap := fun h => absurd (hg _ h) (by decide)
  rw [bareLines, layout.lines_of_notMem hall, joinBraces_indent hg hs, broken_append,
    layout.broken_of_notMem (hgap (by decide)), pieces_append_of_notMem hnl,
    bare_indent (hgap (by decide)), bareLines, layout.lines_of_notMem hcs]

/-- A blank text has no lines that bear on a scan. -/
theorem bareLines_of_isBlank {cs : List Char} (h : ∀ c ∈ cs, isBlank c = true) :
    layout.bareLines cs = [] := by
  have hne {d : Char} (hd : isBlank d = false) : d ∉ cs := notMem_of_class h hd
  have hsame : layout.broken cs = cs := by
    refine layout.broken_of_notMem fun c hc => ⟨?_, ?_, ?_⟩ <;> rintro rfl <;>
      exact absurd hc (hne (by decide))
  have hbare (lines : List (List Char)) (hl : ∀ line ∈ lines, line ⊆ cs) : bare lines = [] := by
    induction lines with
    | nil => rfl
    | cons line lines ih =>
      have hb : ∀ c ∈ line, isBlank c = true := fun c hc => h c (hl line List.mem_cons_self hc)
      rw [bare_cons, bare_of_isBlank hb, ih fun l hm => hl l (List.mem_cons_of_mem _ hm)]
      rfl
  rw [bareLines, layout.lines_of_notMem (hne (by decide)),
    joinBraces_of_notMem (.inr (hne (by decide))), hsame]
  exact hbare _ fun line hm => mem_of_mem_pieces hm

theorem not_holdsWord_of_mem_pieces {w cs line : List Char} (hw : w ≠ []) (h : ¬ HoldsWord w cs)
    (hm : line ∈ pieces '\n' (layout.broken (joinBraces cs))) : ¬ HoldsWord w line :=
  fun hl => h ((layout.holdsWord_broken_joinBraces hw cs).1 (holdsWord_of_mem_pieces hm hl))

/-- No line holds a word that the text does not hold. -/
theorem not_holdsWord_of_mem_bareLines {w cs line : List Char} (hw : w ≠ []) (hcs : '/' ∉ cs)
    (h : ¬ HoldsWord w cs) (hm : line ∈ layout.bareLines cs) : ¬ HoldsWord w line := by
  rw [bareLines, layout.lines_of_notMem hcs] at hm
  exact not_holdsWord_of_mem_bare hw (fun l hl => layout.not_holdsWord_of_mem_pieces hw h hl) hm

/-- A stem and the mark that ends it are one line. -/
theorem bareLines_of_end {front : List Char} (hf : Stem front) {m : Char} (hm : m = '{' ∨ m = ';') :
    layout.bareLines (front ++ [m]) = [front ++ [m]] := by
  have hmark : m ≠ '\n' ∧ m ≠ '/' := by rcases hm with rfl | rfl <;> decide
  have hmem {d : Char} (h1 : d ∉ front) (h2 : m ≠ d) : d ∉ front ++ [m] := by
    rw [List.mem_append, List.mem_singleton]
    rintro (h | h)
    · exact h1 h
    · exact h2 h.symm
  have hnl : '\n' ∉ front ++ [m] := hmem hf.inline.newline_notMem hmark.1
  have hsl : '/' ∉ front ++ [m] := hmem hf.inline.slash_notMem hmark.2
  have hbreak : layout.broken [m] = [m] ∨ layout.broken [m] = [m, '\n'] := by
    rw [broken]
    split
    · exact .inr (by rcases hm with rfl | rfl <;> rfl)
    · exact .inl rfl
  have hline : bare [front ++ [m]] = [front ++ [m]] :=
    bare_of_bareStart (bareStart_append hf.bareStart hf.ne_nil _) (by simp)
  rw [bareLines, layout.lines_of_notMem hsl, joinBraces_of_notMem (.inl hnl), broken_append,
    layout.broken_of_inline hf.inline]
  rcases hbreak with hbreak | hbreak
  · rw [hbreak, pieces_of_notMem hnl, hline]
  · have hpieces : pieces '\n' (front ++ [m, '\n']) = [front ++ [m]] ++ [[]] := by
      rw [← pieces_of_notMem hnl, ← pieces_nil '\n', ← pieces_append_cons, List.append_assoc]
      rfl
    rw [hbreak, hpieces, bare_append, hline]
    rfl

/-- A closing brace is one line. -/
theorem bareLines_brace : layout.bareLines ['}'] = [['}']] := by
  have hbare : bare [['}']] = [['}']] := bare_of_bareStart (by simp [BareStart]; decide) (by simp)
  rw [bareLines, layout.lines_of_notMem (by decide),
    joinBraces_of_notMem (.inl (by decide)), broken]
  split
  · show bare ([[]] ++ ([['}']] ++ [[]])) = _
    rw [bare_append, bare_append, hbare]
    rfl
  · exact hbare

/-- No brace hangs in a stem, and nothing of it is broken. -/
theorem bareLines_append_brace {front : List Char} (hf : Stem front) {rest : List Char}
    (hr : '/' ∉ rest) :
    layout.bareLines (front ++ '{' :: rest) =
      bare (pieces '\n' (front ++ (layout.broken ['{'] ++ layout.broken (joinBraces rest)))) := by
  have hnl : '\n' ∉ front ++ ['{'] := by
    intro hm
    rcases List.mem_append.1 hm with hm | hm
    · exact hf.inline.newline_notMem hm
    · exact absurd hm (by decide)
  have hsl : '/' ∉ front ++ '{' :: rest := by
    simp only [List.mem_append, List.mem_cons, not_or]
    exact ⟨hf.inline.slash_notMem, by decide, hr⟩
  have he : BareEnd (front ++ ['{']) := bareEnd_concat (by decide) front
  have hsplit : front ++ '{' :: rest = (front ++ ['{']) ++ rest := by simp
  rw [bareLines, layout.lines_of_notMem hsl, hsplit, joinBraces_append he,
    joinBraces_of_notMem (.inl hnl), broken_append, broken_append,
    layout.broken_of_inline hf.inline, List.append_assoc]

/-- The text up to an opening brace begins the first line, and the lines hold no more words than
what stands behind. -/
theorem exists_bareLines_of_brace {front : List Char} (hf : Stem front) {rest : List Char}
    (hr : '/' ∉ rest) :
    ∃ first others, layout.bareLines (front ++ '{' :: rest) = (front ++ '{' :: first) :: others ∧
      ∀ w ≠ [], ¬ HoldsWord w rest → ∀ line ∈ first :: others, ¬ HoldsWord w line := by
  have hnl : '\n' ∉ front := hf.inline.newline_notMem
  have hfirst (line : List Char) : bare [front ++ '{' :: line] = [front ++ '{' :: line] :=
    bare_of_bareStart (bareStart_append hf.bareStart hf.ne_nil _) (by simp)
  have hwords {w : List Char} (hw : w ≠ []) (h : ¬ HoldsWord w rest) :
      ∀ line ∈ pieces '\n' (layout.broken (joinBraces rest)), ¬ HoldsWord w line :=
    fun line hm => layout.not_holdsWord_of_mem_pieces hw h hm
  rw [layout.bareLines_append_brace hf hr]
  by_cases hsp : layout.splitStatements
  · -- the brace ends the first line
    have hopen : layout.broken ['{'] = ['{', '\n'] := by rw [broken, if_pos hsp]; rfl
    refine ⟨[], bare (pieces '\n' (layout.broken (joinBraces rest))), ?_, ?_⟩
    · have hcut : pieces '\n' (['{', '\n'] ++ layout.broken (joinBraces rest)) =
          ['{'] :: pieces '\n' (layout.broken (joinBraces rest)) := pieces_append_cons '\n' ['{'] _
      rw [hopen, pieces_append_of_notMem hnl, hcut, List.modifyHead, bare_cons, hfirst]
      rfl
    · intro w hw h line hm
      rcases List.mem_cons.1 hm with rfl | hm
      · exact fun hl => hw (holdsWordFrom_nil.1 hl).2
      · exact not_holdsWord_of_mem_bare hw (hwords hw h) hm
  · -- what stands behind the brace goes on with the first line
    have hopen : layout.broken ['{'] = ['{'] := by rw [broken, if_neg hsp]
    cases hp : pieces '\n' (layout.broken (joinBraces rest)) with
    | nil => exact absurd hp (pieces_ne_nil _ _)
    | cons first others =>
      rw [hp] at hwords
      refine ⟨first, bare others, ?_, ?_⟩
      · have hcut : pieces '\n' (['{'] ++ layout.broken (joinBraces rest)) =
            ('{' :: first) :: others := by
          rw [pieces_append_of_notMem (by decide), hp]
          rfl
        rw [hopen, pieces_append_of_notMem hnl, hcut, List.modifyHead, bare_cons, hfirst]
        rfl
      · intro w hw h line hm
        rcases List.mem_cons.1 hm with rfl | hm
        · exact hwords hw h _ List.mem_cons_self
        · exact not_holdsWord_of_mem_bare hw
            (fun l hl => hwords hw h l (List.mem_cons_of_mem _ hl)) hm

end Layout

end P4Outline.Source

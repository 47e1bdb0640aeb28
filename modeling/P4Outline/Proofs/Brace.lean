import Mathlib.Algebra.Ring.Int.Defs
import P4Outline.Proofs.Segment
import P4Outline.Proofs.Step
import P4Outline.Source.Brace

/-!
# Braces of a text and of its lines

Bringing a text into lines neither adds nor drops a brace, so the braces that are counted line by
line are those of the text. The brace that closes a block is found in the text as the first one
behind which fewer braces are open.

* `exists_of_block?`: the block behind an opening brace.
* `filter_isBrace_lines`: the braces of the lines are those of the text.
* `exists_brace_of_mem_lines`: the brace of the text that ends a line.
* `exists_lines_block`: the lines of a block close it with the last of them and no sooner.
-/

namespace P4Outline.Source

open P4Outline.Text

/-- An opening or a closing brace. -/
def isBrace (c : Char) : Bool := c = '{' || c = '}'

/-! ### The block behind an opening brace -/

theorem balance_cons (c : Char) (cs : List Char) : balance (c :: cs) = balance [c] + balance cs :=
  balance_append [c] cs

/-- A bound on what the beginnings of a text leave open, with one more character in front. -/
theorem le_balance_of_prefix_cons {c : Char} {cs front : List Char} {n : Int} (hn : n ≤ 0)
    (h : ∀ front, front <+: cs → n - balance [c] ≤ balance front) (hf : front <+: c :: cs) :
    n ≤ balance front := by
  rcases List.prefix_cons_iff.1 hf with rfl | ⟨behind, rfl, hb⟩
  · exact hn
  · have hbehind := h behind hb
    rw [balance_cons]
    omega

/-- Whether a text is closed by its `n`-th character: as many braces are open before it as stand
outside, and never fewer. -/
def ClosedAt (inner : Nat) (cs : List Char) (n : Nat) : Prop :=
  ∃ inside rest, cs = inside ++ '}' :: rest ∧ n = inside.length + 1 ∧ balance inside = -inner ∧
    ∀ front, front <+: inside → -(inner : Int) ≤ balance front

theorem ClosedAt.cons {inner inner' n : Nat} {c : Char} {cs : List Char} (h : ClosedAt inner' cs n)
    (hc : balance [c] = inner' - inner) : ClosedAt inner (c :: cs) (n + 1) := by
  obtain ⟨inside, rest, rfl, rfl, hb, hf⟩ := h
  refine ⟨c :: inside, rest, rfl, rfl, by rw [balance_cons]; omega, fun front hp => ?_⟩
  refine le_balance_of_prefix_cons (by omega) (fun front hp => ?_) hp
  have hfront := hf front hp
  omega

/-- A text is closed by the closing brace that is found. -/
theorem closedAt_of_closing? {inner n : Nat} {cs : List Char} (h : closing? inner cs = some n) :
    ClosedAt inner cs n := by
  fun_induction closing? inner cs generalizing n with
  | case1 => cases h
  | case2 inner cs ih =>
    have hopen : balance ['{'] = 1 := rfl
    -- an opening brace is one more to close, so the rest closes one more than the text
    obtain ⟨m, hm, rfl⟩ := Option.map_eq_some_iff.1 h
    exact (ih hm).cons (by omega)
  | case3 cs =>
    cases h
    refine ⟨[], cs, rfl, rfl, rfl, fun front hp => ?_⟩
    rw [List.prefix_nil.1 hp]
    exact Int.le_refl 0
  | case4 cs _ inner ih =>
    have hclose : balance ['}'] = -1 := rfl
    obtain ⟨m, hm, rfl⟩ := Option.map_eq_some_iff.1 h
    exact (ih hm).cons (by omega)
  | case5 inner c cs ho hc ih =>
    have hnone : balance [c] = 0 :=
      balance_of_notMem (by simpa using Ne.symm ho) (by simpa using Ne.symm hc)
    obtain ⟨m, hm, rfl⟩ := Option.map_eq_some_iff.1 h
    exact (ih hm).cons (by omega)

/-- A block is closed by its last brace, and by none before it. -/
theorem exists_of_block? {cs body : List Char} (h : block? cs = some body) :
    ∃ inside rest, cs = body ++ rest ∧ body = inside ++ ['}'] ∧ balance inside = 0 ∧
      ∀ front, front <+: inside → 0 ≤ balance front := by
  obtain ⟨n, hn, rfl⟩ := Option.map_eq_some_iff.1 h
  obtain ⟨inside, rest, rfl, rfl, hb, hf⟩ := closedAt_of_closing? hn
  have htake : (inside ++ '}' :: rest).take (inside.length + 1) = inside ++ ['}'] := by
    rw [← List.singleton_append, ← List.append_assoc, List.take_append_of_le_length (by simp),
      List.take_of_length_le (by simp)]
  refine ⟨inside, rest, by rw [htake]; simp, htake, hb, hf⟩

/-! ### The braces of the lines -/

theorem filter_isBrace_gap {gap : List Char} (hg : ∀ c ∈ gap, isBlank c = true) :
    gap.filter isBrace = [] := by
  rw [List.filter_eq_nil_iff]
  intro c hc hb
  have hblank := hg c hc
  rw [isBlank_of_isMark (by simp only [isBrace, isMark] at hb ⊢; simp [hb])] at hblank
  cases hblank

theorem filter_isBrace_joinBraces (cs : List Char) :
    (joinBraces cs).filter isBrace = cs.filter isBrace := by
  fun_induction joinBraces cs with
  | case1 => rfl
  | case2 c cs rest hb ih =>
    obtain ⟨gap, he, -, hg, -⟩ := exists_of_hangingBrace? hb
    rw [he, List.filter_append, filter_isBrace_gap hg, List.nil_append, ← ih]
    rfl
  | case3 c cs hb ih => rw [List.filter_cons, List.filter_cons, ih]

theorem filter_isBrace_spread (cs : List Char) :
    (cs.flatMap spread).filter isBrace = cs.filter isBrace := by
  induction cs with
  | nil => rfl
  | cons c cs ih =>
    have hc : (spread c).filter isBrace = [c].filter isBrace := by
      rw [spread]
      split
      · next h => rw [h]; rfl
      · split
        · next h => rw [h]; rfl
        · split
          · next h => rw [h]; rfl
          · rfl
    rw [List.flatMap_cons, List.filter_append, hc, ih, ← List.filter_append, List.singleton_append]

theorem flatten_pieces (sep : Char) (cs : List Char) :
    (pieces sep cs).flatten = cs.filter (· ≠ sep) := by
  induction cs with
  | nil => rfl
  | cons c cs ih =>
    rw [pieces, List.filter_cons]
    by_cases hc : c = sep
    · simp [hc, ih]
    · cases hp : pieces sep cs with
      | nil => exact absurd hp (pieces_ne_nil sep cs)
      | cons piece others =>
        rw [hp] at ih
        rw [if_neg hc, if_pos (by simpa using hc), ← ih]
        rfl

/-- The braces of the lines are those of the text. -/
theorem filter_isBrace_lines (cs : List Char) :
    (Layout.keepingComments.lines cs).flatten.filter isBrace = cs.filter isBrace := by
  have hbreak : ∀ c, (isBrace c && decide (c ≠ '\n')) = isBrace c := by
    intro c
    by_cases hc : c = '\n'
    · rw [hc]; rfl
    · simp [hc]
  rw [Layout.keepingComments_lines, flatten_pieces, List.filter_filter]
  simp only [hbreak]
  exact (filter_isBrace_spread _).trans (filter_isBrace_joinBraces cs)

/-- A line with an opening brace ends in a brace of the text, and the lines of the text up to the
brace are those up to that line, and an empty one behind it. -/
theorem exists_brace_of_mem_lines {cs line : List Char} {before after : List (List Char)}
    (h : Layout.keepingComments.lines cs = before ++ line :: after) (hm : '{' ∈ line) :
    ∃ front rest, cs = front ++ '{' :: rest ∧
      Layout.keepingComments.lines (front ++ ['{']) = before ++ [line, []] := by
  induction hl : cs.length using Nat.strongRecOn generalizing cs before with
  | _ n ih =>
    have hbrace : '{' ∈ cs := by
      have hall : '{' ∈ (Layout.keepingComments.lines cs).flatten.filter isBrace :=
        List.mem_filter.2 ⟨by rw [h]; simp [hm], rfl⟩
      rw [filter_isBrace_lines] at hall
      exact (List.mem_filter.1 hall).1
    -- the lines up to the first brace hold no other one
    obtain ⟨front, rest, rfl, hfront⟩ := List.eq_append_cons_of_mem hbrace
    obtain ⟨before', line', hline', hfirst, hwhole⟩ := Layout.exists_lines_brace front
    have hnot : line ∉ before' := by
      intro hmem
      have hcount := congrArg (List.count '{') (filter_isBrace_lines (front ++ ['{']))
      rw [List.count_filter rfl, List.count_filter rfl, List.count_append,
        List.count_eq_zero_of_not_mem hfront, hfirst, List.flatten_append,
        List.count_append] at hcount
      have hbefore : 0 < List.count '{' before'.flatten :=
        List.count_pos_iff.2 (List.mem_flatten.2 ⟨line, hmem, hm⟩)
      have hlast : 0 < List.count '{' [line', []].flatten :=
        List.count_pos_iff.2 (by simpa using hline')
      have hone : List.count '{' ['{'] = 1 := rfl
      omega
    obtain ⟨between, rfl, hbetween⟩ := exists_of_append_eq hnot ((hwhole rest).symm.trans h)
    cases between with
    | nil =>
      cases hbetween
      exact ⟨front, rest, rfl, by rw [List.append_nil]; exact hfirst⟩
    | cons first between =>
      obtain ⟨rfl, hrest⟩ := List.cons.inj hbetween
      have hlt : rest.length < n := by
        rw [← hl, List.length_append, List.length_cons]
        omega
      obtain ⟨front', rest', rfl, hfront'⟩ := ih rest.length hlt hrest rfl
      refine ⟨front ++ '{' :: front', rest', by simp, ?_⟩
      have hlines := hwhole (front' ++ ['{'])
      rw [hfront'] at hlines
      simpa using hlines

theorem balance_filter_isBrace (cs : List Char) : balance (cs.filter isBrace) = balance cs := by
  rw [balance, List.count_filter rfl, List.count_filter rfl, balance]

theorem sum_balance (lines : List (List Char)) :
    (lines.map balance).sum = balance lines.flatten := by
  induction lines with
  | nil => rfl
  | cons line lines ih => rw [List.map_cons, List.sum_cons, ih, List.flatten_cons, balance_append]

/-- The lines of a block, whatever stands behind it: the last of them is its closing brace, and
before it more braces are open than outside the block. -/
theorem exists_lines_block {cs body : List Char} (h : block? cs = some body) :
    ∃ lines, (∀ rest, Layout.keepingComments.lines (body ++ rest) =
        (lines ++ [['}']]) ++ Layout.keepingComments.lines rest) ∧
      (lines.map balance).sum = 0 ∧ ∀ front, front <+: lines → 0 ≤ (front.map balance).sum := by
  obtain ⟨inside, after, -, rfl, hb, hfront⟩ := exists_of_block? h
  obtain ⟨joined, hj⟩ := exists_joinBraces_concat (c := '}') (by decide) inside
  have hended : Layout.keepingComments.broken (joinBraces (inside ++ ['}'])) =
      (Layout.keepingComments.broken joined ++ '\n' :: ['}']) ++ ['\n'] := by
    rw [hj, Layout.broken_append, List.append_assoc]
    rfl
  have hlines (rest : List Char) : Layout.keepingComments.lines (inside ++ ['}'] ++ rest) =
      (pieces '\n' (Layout.keepingComments.broken joined) ++ [['}']]) ++
        Layout.keepingComments.lines rest := by
    rw [Layout.lines_append_of_ended (bareEnd_concat (by decide) inside) hended, pieces_append_cons]
    rfl
  have hbraces : (pieces '\n' (Layout.keepingComments.broken joined)).flatten.filter isBrace =
      inside.filter isBrace := by
    have hall := filter_isBrace_lines (inside ++ ['}'])
    rw [← List.append_nil (inside ++ ['}']), hlines, Layout.keepingComments_lines_nil,
      List.append_nil] at hall
    simpa [isBrace] using hall
  have hsum (lines : List (List Char)) : (lines.map balance).sum =
      balance (lines.flatten.filter isBrace) := by
    rw [sum_balance, balance_filter_isBrace]
  refine ⟨pieces '\n' (Layout.keepingComments.broken joined), hlines, ?_, fun front hf => ?_⟩
  · rw [hsum, hbraces, balance_filter_isBrace, hb]
  · -- what the beginning of the lines leaves open, a beginning of the text leaves open
    obtain ⟨behind, hbehind⟩ := hf
    have hprefix : front.flatten.filter isBrace <+: inside.filter isBrace := by
      rw [← hbraces, ← hbehind, List.flatten_append, List.filter_append]
      exact List.prefix_append _ _
    obtain ⟨part, hpart, he⟩ := List.prefix_filter_iff.1 hprefix
    rw [hsum, he, balance_filter_isBrace]
    exact hfront part hpart

end P4Outline.Source

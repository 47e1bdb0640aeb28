import Mathlib.Algebra.Ring.Nat
import Mathlib.Data.List.Induction
import Mathlib.Data.List.TakeWhile
import P4Outline.Text.Blank
import P4Outline.Text.Digit
import P4Outline.Text.Search

/-!
# Texts: words, blanks and searches

What the readers of words and blanks do with a text that is put together of parts, and what a search
finds.

* `isWord_of_isBlank`: no blank is part of a word.
* `first?_eq_none_iff`, `exists_at_of_first?`: a search looks at every free place, from the front
  on.
* `first?_append`: a part in which nothing is read is passed over.
* `HoldsWord`: whether a word stands in a text as a whole.
-/

namespace P4Outline.Text

/-! ### Classes of characters -/

/-- What holds of all characters of a text is decided along the text, not over all characters that
there are. -/
instance (priority := high) decidableForallMem (p : Char → Prop) [DecidablePred p]
    (cs : List Char) :
    Decidable (∀ c ∈ cs, p c) :=
  List.decidableBAll p cs

/-- A character outside a class is not in a text of the class. -/
theorem notMem_of_class {p : Char → Bool} {cs : List Char} (h : ∀ c ∈ cs, p c = true) {d : Char}
    (hd : p d = false) :
    d ∉ cs := by
  intro hm
  rw [h d hm] at hd
  simp at hd

/-- A run of characters of a class ends before the first one of another class. -/
theorem takeWhile_dropWhile_append {p : Char → Bool} {cs : List Char} (h : ∀ c ∈ cs, p c = true)
    {c : Char} (hc : p c = false) (rest : List Char) :
    (cs ++ c :: rest).takeWhile p = cs ∧ (cs ++ c :: rest).dropWhile p = c :: rest := by
  rw [List.takeWhile_append_of_pos h, List.dropWhile_append_of_pos h, List.takeWhile_cons,
    List.dropWhile_cons, hc]
  simp

/-- A point of a set lies between the ends of one of its intervals. -/
theorem CodePoints.exists_of_holds {ps : CodePoints} {n : Nat} (h : ps.holds n = true) :
    ∃ p ∈ ps, p.1 ≤ n ∧ n ≤ p.2 := by
  induction ps with
  | nil => simp at h
  | cons p ps ih =>
    obtain ⟨lo, hi⟩ := p
    rw [holds] at h
    split at h
    · simp at h
    · next hlo =>
      rcases Bool.or_eq_true_iff.1 h with hhi | h
      · exact ⟨(lo, hi), List.mem_cons_self, by omega, by simpa using hhi⟩
      · obtain ⟨q, hq, hb⟩ := ih h
        exact ⟨q, List.mem_cons_of_mem _ hq, hb⟩

/-- The points of a set, one by one. -/
def CodePoints.points (ps : CodePoints) : List Nat :=
  ps.flatMap fun p => List.range' p.1 (p.2 + 1 - p.1)

theorem CodePoints.mem_points {ps : CodePoints} {n : Nat} (h : ps.holds n = true) :
    n ∈ ps.points := by
  obtain ⟨p, hp, hlo, hhi⟩ := exists_of_holds h
  exact List.mem_flatMap.2 ⟨p, hp, List.mem_range'_1.2 ⟨hlo, by omega⟩⟩

/-- Whether the intervals of a set lie within those of another one, which are taken in order. -/
def CodePoints.covers : CodePoints → CodePoints → Bool
  | [], qs => qs.isEmpty
  | (lo, hi) :: ps, qs => covers ps (qs.dropWhile fun q => lo ≤ q.1 && q.2 ≤ hi)

theorem CodePoints.le_of_holds {ps : CodePoints} {start n : Nat} (hi : ps.Increasing start = true)
    (h : ps.holds n = true) :
    start ≤ n := by
  cases ps with
  | nil => simp at h
  | cons p ps =>
    obtain ⟨lo, hi'⟩ := p
    rw [holds] at h
    simp only [Increasing, Bool.and_eq_true, decide_eq_true_eq] at hi
    split at h
    · simp at h
    · omega

/-- A point within a set is within a set that covers it. -/
theorem CodePoints.holds_of_covers {ps qs : CodePoints} {start n : Nat}
    (hi : ps.Increasing start = true) (hc : ps.covers qs = true) (h : qs.holds n = true) :
    ps.holds n = true := by
  obtain ⟨q, hq, hlo, hhi⟩ := exists_of_holds h
  clear h
  induction ps generalizing qs start with
  | nil =>
    rw [List.isEmpty_iff.1 hc] at hq
    cases hq
  | cons p ps ih =>
    obtain ⟨lo, hi'⟩ := p
    simp only [Increasing, Bool.and_eq_true, decide_eq_true_eq] at hi
    have hsplit : q ∈ qs.takeWhile (fun q => decide (lo ≤ q.1) && decide (q.2 ≤ hi')) ++
        qs.dropWhile fun q => decide (lo ≤ q.1) && decide (q.2 ≤ hi') := by
      rwa [List.takeWhile_append_dropWhile]
    rw [holds]
    rcases List.mem_append.1 hsplit with hq | hq
    · have hin := List.mem_takeWhile_imp hq
      simp only [Bool.and_eq_true, decide_eq_true_eq] at hin
      rw [if_neg (by omega), decide_eq_true (by omega), Bool.true_or]
    · have hrest := ih hi.2 hc hq
      have hle := le_of_holds hi.2 hrest
      rw [if_neg (by omega), hrest, Bool.or_true]

/-- No blank is part of a word. -/
theorem isWord_of_isBlank {c : Char} (h : isBlank c = true) : isWord c = false := by
  have hall : ∀ n ∈ blankPoints.points, wordPoints.holds n = false := by decide +kernel
  exact hall c.toNat (CodePoints.mem_points h)

theorem isBlank_of_isWord {c : Char} (h : isWord c = true) : isBlank c = false := by
  rw [← Bool.not_eq_true]
  intro hb
  rw [isWord_of_isBlank hb] at h
  simp at h

/-! ### Digits -/

/-- No digit is blank. -/
theorem isBlank_of_isDigit {c : Char} (h : isDigit c = true) : isBlank c = false := by
  have hall : ∀ n ∈ blankPoints.points, digitPoints.holds n = false := by decide +kernel
  rw [← Bool.not_eq_true]
  intro hb
  rw [isDigit, hall c.toNat (CodePoints.mem_points hb)] at h
  simp at h

theorem isDigit_of_mem_natText {n : Nat} {c : Char} (h : c ∈ natText n) : isDigit c = true := by
  have hc : c.isDigit = true := Nat.isDigit_of_mem_toDigits (by decide) (by decide) h
  simp only [Char.isDigit, Bool.and_eq_true, decide_eq_true_eq] at hc
  have hall : ∀ n ∈ List.range' 48 10, digitPoints.holds n = true := by decide
  exact hall c.toNat (List.mem_range'_1.2 ⟨hc.1, Nat.lt_succ_of_le hc.2⟩)

theorem digitsValue_concat (cs : List Char) (c : Char) :
    digitsValue (cs ++ [c]) = digitsValue cs * 10 + (digitValue? c).getD 0 := by
  rw [digitsValue, List.foldl_append]
  rfl

/-- The digits of a number write the number. -/
theorem digitsValue_natText (n : Nat) : digitsValue (natText n) = n := by
  have hdigit : ∀ d < 10, (digitValue? d.digitChar).getD 0 = d := by decide
  induction n using Nat.strongRecOn with
  | _ n ih =>
    by_cases hn : n < 10
    · rw [natText, Nat.toDigits_of_lt_base hn, ← List.nil_append [n.digitChar],
        digitsValue_concat, hdigit n hn]
      exact Nat.zero_add n
    · rw [natText, Nat.toDigits_of_base_le (by decide) (by omega), digitsValue_concat, ← natText,
        ih (n / 10) (by omega), hdigit _ (by omega)]
      omega

theorem length_natText_le {n k : Nat} (hk : 0 < k) (h : n < 10 ^ k) : (natText n).length ≤ k :=
  (Nat.length_toDigits_le_iff (by decide) hk).2 h

/-- Digits write a number of no more digits. -/
theorem digitsValue_lt (cs : List Char) : digitsValue cs < 10 ^ cs.length := by
  have hdigit (c : Char) : (digitValue? c).getD 0 < 10 := by
    unfold digitValue?
    generalize digitPoints.find? _ = found
    cases found with
    | none => exact Nat.zero_lt_succ 9
    | some points => exact Nat.mod_lt _ (by decide)
  induction cs using List.reverseRecOn with
  | nil => exact Nat.one_pos
  | append_singleton cs c ih =>
    have hc := hdigit c
    rw [digitsValue_concat, List.length_append, List.length_singleton, Nat.pow_succ]
    omega

/-! ### Blanks -/

/-- The first character, if there is one, is no blank. -/
def BareStart (cs : List Char) : Prop := ∀ c ∈ cs.head?, isBlank c = false

/-- The last character, if there is one, is no blank. -/
def BareEnd (cs : List Char) : Prop := ∀ c ∈ cs.getLast?, isBlank c = false

theorem skipBlanks_append {gap : List Char} (h : ∀ c ∈ gap, isBlank c = true) (cs : List Char) :
    skipBlanks (gap ++ cs) = skipBlanks cs :=
  List.dropWhile_append_of_pos h

theorem skipBlanks_of_bareStart {cs : List Char} (h : BareStart cs) : skipBlanks cs = cs := by
  cases cs with
  | nil => rfl
  | cons c cs =>
    have hc : isBlank c = false := h c rfl
    rw [skipBlanks, List.dropWhile_cons, hc]
    rfl

theorem bareStart_cons {c : Char} (h : isBlank c = false) (cs : List Char) :
    BareStart (c :: cs) := by
  intro d hd
  cases hd
  exact h

theorem bareStart_of_forall {cs : List Char} (h : ∀ c ∈ cs, isBlank c = false) : BareStart cs :=
  fun c hc => h c (List.mem_of_mem_head? hc)

theorem bareStart_append {cs : List Char} (h : BareStart cs) (hn : cs ≠ []) (rest : List Char) :
    BareStart (cs ++ rest) := by
  intro c hc
  cases cs with
  | nil => exact absurd rfl hn
  | cons d cs => exact h c hc

theorem bareEnd_concat {c : Char} (h : isBlank c = false) (cs : List Char) :
    BareEnd (cs ++ [c]) := by
  intro d hd
  rw [List.getLast?_concat] at hd
  cases hd
  exact h

theorem skipBlanks_space {cs : List Char} (h : BareStart cs) : skipBlanks (' ' :: cs) = cs := by
  rw [← List.singleton_append, skipBlanks_append (by decide), skipBlanks_of_bareStart h]

theorem exists_skipBlanks (cs : List Char) :
    ∃ gap, (∀ c ∈ gap, isBlank c = true) ∧ cs = gap ++ skipBlanks cs :=
  ⟨cs.takeWhile isBlank, fun _ hc => List.mem_takeWhile_imp hc,
    List.takeWhile_append_dropWhile.symm⟩

theorem skipBlanks_eq_nil {cs : List Char} (h : ∀ c ∈ cs, isBlank c = true) :
    skipBlanks cs = [] := by
  have hs := skipBlanks_append h []
  rwa [List.append_nil] at hs

theorem bareStart_skipBlanks (cs : List Char) : BareStart (skipBlanks cs) := by
  intro c hc
  have h := List.head?_dropWhile_not isBlank cs
  rw [← skipBlanks, Option.mem_def.1 hc] at h
  simpa using h

/-- A text is cut by `trimRight` at white space that goes up to its end. -/
theorem exists_trimRight (cs : List Char) :
    ∃ gap, (∀ c ∈ gap, isBlank c = true) ∧ cs = trimRight cs ++ gap := by
  obtain ⟨gap, hg, he⟩ := exists_skipBlanks cs.reverse
  refine ⟨gap.reverse, fun c hc => hg c (List.mem_reverse.1 hc), ?_⟩
  show cs = (skipBlanks cs.reverse).reverse ++ gap.reverse
  rw [← List.reverse_append, ← he, List.reverse_reverse]

theorem bareEnd_trimRight (cs : List Char) : BareEnd (trimRight cs) := by
  intro c hc
  rw [trimRight, List.getLast?_reverse] at hc
  exact bareStart_skipBlanks cs.reverse c hc

theorem trim_append {gap : List Char} (h : ∀ c ∈ gap, isBlank c = true) (cs : List Char) :
    trim (gap ++ cs) = trim cs := by
  rw [trim, trim, skipBlanks_append h]

theorem trimRight_of_bareEnd {cs : List Char} (h : BareEnd cs) : trimRight cs = cs := by
  have hr : skipBlanks cs.reverse = cs.reverse :=
    skipBlanks_of_bareStart fun c hc => h c (by rwa [List.head?_reverse] at hc)
  rw [trimRight, ← skipBlanks, hr, List.reverse_reverse]

theorem trim_of_bare {cs : List Char} (hs : BareStart cs) (he : BareEnd cs) : trim cs = cs := by
  rw [trim, skipBlanks_of_bareStart hs, trimRight_of_bareEnd he]

/-! ### Words -/

/-- The first character, if there is one, is part of no word. -/
def WordStop (cs : List Char) : Prop := ∀ c ∈ cs.head?, isWord c = false

theorem wordStop_cons {c : Char} (h : isWord c = false) (cs : List Char) : WordStop (c :: cs) := by
  intro d hd
  cases hd
  exact h

theorem word_append {w rest : List Char} (hw : ∀ c ∈ w, isWord c = true) (hr : WordStop rest) :
    word (w ++ rest) = w := by
  rw [word, List.takeWhile_append_of_pos hw]
  cases rest with
  | nil => simp
  | cons c rest =>
    have hc : isWord c = false := hr c rfl
    rw [List.takeWhile_cons, hc]
    simp

theorem afterWord_append {w rest : List Char} (hw : ∀ c ∈ w, isWord c = true) (hr : WordStop rest) :
    afterWord (w ++ rest) = rest := by
  have h := word_append_afterWord (w ++ rest)
  rw [word_append hw hr] at h
  exact List.append_cancel_left h

theorem isWord_of_mem_word {c : Char} {cs : List Char} (h : c ∈ word cs) : isWord c = true :=
  List.mem_takeWhile_imp h

theorem wordStop_afterWord (cs : List Char) : WordStop (afterWord cs) := by
  intro c hc
  have h := List.head?_dropWhile_not isWord cs
  rw [Option.mem_def, afterWord] at hc
  rw [hc] at h
  simpa using h

theorem word_cons_of_false {c : Char} (h : isWord c = false) (cs : List Char) :
    word (c :: cs) = [] := by
  rw [word, List.takeWhile_cons, h]
  rfl

theorem wordStop_gap_cons {gap : List Char} (hg : ∀ c ∈ gap, isBlank c = true) {c : Char}
    (hc : isWord c = false) (rest : List Char) : WordStop (gap ++ c :: rest) := by
  cases gap with
  | nil => exact wordStop_cons hc rest
  | cons d gap => exact wordStop_cons (isWord_of_isBlank (hg d List.mem_cons_self)) _

theorem word_of_wordStop {cs : List Char} (h : WordStop cs) : word cs = [] := by
  have hw := @word_append [] cs (by simp) h
  rwa [List.nil_append] at hw

theorem afterWord_of_wordStop {cs : List Char} (h : WordStop cs) : afterWord cs = cs := by
  have hw := @afterWord_append [] cs (by simp) h
  rwa [List.nil_append] at hw

/-! ### Searches -/

/-- Whether a reader may start behind a text, the place before which is free or not. -/
def freeAfter (after : Char → Bool) (free : Bool) (u : List Char) : Bool :=
  (u.getLast?.map after).getD free

@[simp] theorem freeAfter_nil (after : Char → Bool) (free : Bool) :
    freeAfter after free [] = free := rfl

@[simp] theorem freeAfter_cons (after : Char → Bool) (free : Bool) (c : Char) (u : List Char) :
    freeAfter after free (c :: u) = freeAfter after (after c) u := by
  cases u with
  | nil => rfl
  | cons d u => rw [freeAfter, List.getLast?_cons_cons, freeAfter, List.getLast?_cons]; rfl

@[simp] theorem freeAfter_concat (after : Char → Bool) (free : Bool) (u : List Char) (c : Char) :
    freeAfter after free (u ++ [c]) = after c := by
  rw [freeAfter, List.getLast?_concat]
  rfl

theorem freeAfter_append (after : Char → Bool) (free : Bool) (u v : List Char) :
    freeAfter after free (u ++ v) = freeAfter after (freeAfter after free u) v := by
  induction u generalizing free with
  | nil => rfl
  | cons c u ih => rw [List.cons_append, freeAfter_cons, freeAfter_cons, ih]

section Search

variable {α : Type _} {read? : List Char → Option α} {after : Char → Bool}

/-- What a search finds was read where it says, at a free place. -/
theorem exists_at_of_first? {free : Bool} {cs : List Char} {n : Nat} {a : α}
    (h : first? read? after free cs = some (n, a)) :
    ∃ u v, cs = u ++ v ∧ u.length = n ∧ freeAfter after free u = true ∧ read? v = some a := by
  induction cs generalizing free n with
  | nil => simp [first?] at h
  | cons c cs ih =>
    rw [first?] at h
    split at h
    · next b hb =>
      cases h
      cases free with
      | false => simp at hb
      | true => exact ⟨[], c :: cs, rfl, rfl, rfl, hb⟩
    · obtain ⟨⟨m, b⟩, hm, he⟩ := Option.map_eq_some_iff.1 h
      cases he
      obtain ⟨u, v, rfl, rfl, hu, hv⟩ := ih hm
      exact ⟨c :: u, v, rfl, rfl, by rwa [freeAfter_cons], hv⟩

theorem exists_of_first? {free : Bool} {cs : List Char} {n : Nat} {a : α}
    (h : first? read? after free cs = some (n, a)) :
    ∃ u v, cs = u ++ v ∧ freeAfter after free u = true ∧ read? v = some a := by
  obtain ⟨u, v, he, -, hu, hv⟩ := exists_at_of_first? h
  exact ⟨u, v, he, hu, hv⟩

/-- A part of a text in which nothing is read is passed over. -/
theorem first?_append {free : Bool} {part rest : List Char}
    (h : ∀ u v, part = u ++ v → v ≠ [] → freeAfter after free u = true → read? (v ++ rest) = none) :
    (first? read? after free (part ++ rest)).map (·.2) =
      (first? read? after (freeAfter after free part) rest).map (·.2) := by
  induction part generalizing free with
  | nil => rfl
  | cons c part ih =>
    have hc : (if free then read? (c :: (part ++ rest)) else none) = none := by
      cases free with
      | false => rfl
      | true => exact h [] (c :: part) rfl (by simp) rfl
    rw [List.cons_append, first?, hc, freeAfter_cons]
    dsimp only
    rw [Option.map_map, ← ih fun u v he hv hu => h (c :: u) v (by rw [he]; rfl) hv
      (by rwa [freeAfter_cons])]
    rfl

/-- A search fails if and only if nothing is read at any free place. -/
theorem first?_eq_none_iff {free : Bool} {cs : List Char} :
    first? read? after free cs = none ↔
      ∀ u v, cs = u ++ v → v ≠ [] → freeAfter after free u = true → read? v = none := by
  constructor
  · intro h u v he hv hu
    induction cs generalizing free u with
    | nil => exact absurd (List.append_eq_nil_iff.1 he.symm).2 hv
    | cons c cs ih =>
      rw [first?] at h
      split at h
      · simp at h
      · next hc =>
        cases u with
        | nil =>
          rw [List.nil_append] at he
          rw [freeAfter_nil] at hu
          rwa [hu, if_pos rfl, he] at hc
        | cons d u =>
          rw [List.cons_append] at he
          obtain ⟨rfl, he'⟩ := List.cons.inj he
          exact ih (Option.map_eq_none_iff.1 h) u he' (by rwa [freeAfter_cons] at hu)
  · intro h
    have hp : ∀ u v, cs = u ++ v → v ≠ [] → freeAfter after free u = true →
        read? (v ++ []) = none :=
      fun u v he hv hu => (List.append_nil v).symm ▸ h u v he hv hu
    have hs := first?_append hp
    rwa [List.append_nil, first?, Option.map_none, Option.map_eq_none_iff] at hs

/-- What stands at the front is found first. -/
theorem first?_of_front {cs : List Char} {a : α} (hc : cs ≠ []) (h : read? cs = some a) :
    first? read? after true cs = some (0, a) := by
  cases cs with
  | nil => exact absurd rfl hc
  | cons c cs => rw [first?, if_pos rfl, h]

end Search

/-! ### Whole words -/

/-- Whether a word stands in a text as a whole: between characters that are part of no word, or the
text's ends. The place before the text is free or not. -/
def HoldsWordFrom (free : Bool) (w cs : List Char) : Prop :=
  ∃ u v, cs = u ++ v ∧ freeAfter endsWord free u = true ∧ word v = w

/-- Whether a word stands in a text as a whole. -/
def HoldsWord (w cs : List Char) : Prop := HoldsWordFrom true w cs

theorem holdsWordFrom_nil {free : Bool} {w : List Char} :
    HoldsWordFrom free w [] ↔ free = true ∧ w = [] := by
  constructor
  · rintro ⟨u, v, he, hu, rfl⟩
    obtain ⟨rfl, rfl⟩ := List.append_eq_nil_iff.1 he.symm
    exact ⟨hu, rfl⟩
  · rintro ⟨hf, rfl⟩
    exact ⟨[], [], rfl, hf, rfl⟩

theorem holdsWordFrom_cons {free : Bool} {w : List Char} {c : Char} {cs : List Char} :
    HoldsWordFrom free w (c :: cs) ↔
      (free = true ∧ word (c :: cs) = w) ∨ HoldsWordFrom (endsWord c) w cs := by
  constructor
  · rintro ⟨u, v, he, hu, hv⟩
    cases u with
    | nil =>
      rw [List.nil_append] at he
      exact .inl ⟨hu, he ▸ hv⟩
    | cons d u =>
      obtain ⟨rfl, rfl⟩ := List.cons.inj he
      exact .inr ⟨u, v, rfl, by rwa [freeAfter_cons] at hu, hv⟩
  · rintro (⟨hf, hw⟩ | ⟨u, v, rfl, hu, hv⟩)
    · exact ⟨[], c :: cs, rfl, hf, hw⟩
    · exact ⟨c :: u, v, rfl, by rwa [freeAfter_cons], hv⟩

section WholeWord

variable {free : Bool} {w : List Char}

theorem word_append_of_wordStop {rest : List Char} (h : WordStop rest) (cs : List Char) :
    word (cs ++ rest) = word cs := by
  have hw : ∀ c ∈ word cs, isWord c = true := fun c hc => isWord_of_mem_word hc
  have hs : WordStop (afterWord cs ++ rest) := by
    cases ha : afterWord cs with
    | nil => exact h
    | cons c cs' => exact fun d hd => wordStop_afterWord cs d (by rw [ha]; exact hd)
  rw [← word_append hw hs, ← List.append_assoc, word_append_afterWord]

/-- Behind a character that is part of no word a text starts anew. -/
theorem holdsWordFrom_append_cons (hw : w ≠ []) {c : Char} (hc : isWord c = false)
    (before after : List Char) :
    HoldsWordFrom free w (before ++ c :: after) ↔
      HoldsWordFrom free w before ∨ HoldsWord w after := by
  induction before generalizing free with
  | nil =>
    have hends : endsWord c = true := by rw [endsWord, hc]; rfl
    rw [List.nil_append, holdsWordFrom_cons, holdsWordFrom_nil, word_cons_of_false hc, hends]
    simp [hw, hw.symm, HoldsWord]
  | cons d before ih =>
    rw [List.cons_append, holdsWordFrom_cons, ih, holdsWordFrom_cons, ← List.cons_append,
      word_append_of_wordStop (wordStop_cons hc after), or_assoc]

theorem holdsWordFrom_cons_of_false (hw : w ≠ []) {c : Char} (hc : isWord c = false)
    (cs : List Char) :
    HoldsWordFrom free w (c :: cs) ↔ HoldsWord w cs := by
  rw [← List.nil_append (c :: cs), holdsWordFrom_append_cons hw hc, holdsWordFrom_nil]
  simp [hw]

theorem holdsWordFrom_append_of_false (hw : w ≠ []) {gap : List Char}
    (hg : ∀ c ∈ gap, isWord c = false) (hne : gap ≠ []) (cs : List Char) :
    HoldsWordFrom free w (gap ++ cs) ↔ HoldsWord w cs := by
  induction gap generalizing free with
  | nil => exact absurd rfl hne
  | cons c gap ih =>
    rw [List.cons_append, holdsWordFrom_cons_of_false hw (hg c List.mem_cons_self)]
    cases gap with
    | nil => rfl
    | cons d gap => exact ih (fun e he => hg e (List.mem_cons_of_mem _ he)) (by simp)

end WholeWord

/-- Whether a word stands in a text as a whole can be told character by character. -/
def decideHoldsWordFrom (w : List Char) :
    ∀ (free : Bool) (cs : List Char), Decidable (HoldsWordFrom free w cs)
  | _, [] => decidable_of_iff _ holdsWordFrom_nil.symm
  | _, c :: cs =>
    have := decideHoldsWordFrom w (endsWord c) cs
    decidable_of_iff _ holdsWordFrom_cons.symm

instance (w cs : List Char) : Decidable (HoldsWord w cs) := decideHoldsWordFrom w true cs

end P4Outline.Text

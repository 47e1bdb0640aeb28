import Mathlib.Data.List.Infix
import P4Outline.Proofs.Occurrence
import P4Outline.Proofs.Spacing

/-!
# Listings of texts that are put together

A semicolon is part of no head but between the angle brackets of type parameters. So the listing of
two texts with a semicolon between them is the listing of the one and then that of the other, if no
head of the first can have its brackets closed in the second.

* `BracketsClose`: texts that leave no angle bracket open to the end.
* `Kind.head?_semicolon`: a head before a semicolon is read without what stands behind it.
* `Kind.occurrencesFrom_shift`: heads are listed alike wherever a text starts.
* `Kind.occurrences_semicolon`, `Kind.namesIn_semicolon`: the listing of two texts.
-/

namespace P4Outline

open P4Outline.Text

/-- Whether every angle bracket that a text opens has a closing one behind it. -/
def BracketsClose (cs : List Char) : Prop := ∀ part ∈ cs.tails, part.head? = some '<' → '>' ∈ part

instance (cs : List Char) : Decidable (BracketsClose cs) := List.decidableBAll _ cs.tails

theorem BracketsClose.of_suffix {cs part : List Char} (h : BracketsClose cs) (hp : part <:+ cs) :
    BracketsClose part := by
  intro part' hp'
  exact h part' ((List.mem_tails _ _).2 (((List.mem_tails _ _).1 hp').trans hp))

theorem BracketsClose.mem_of_bracket {rest : List Char} (h : BracketsClose ('<' :: rest)) :
    '>' ∈ rest := by
  have hm := h ('<' :: rest) ((List.mem_tails _ _).2 (List.suffix_refl _)) rfl
  simpa using hm

/-! ### Heads before a semicolon -/

section Semicolon

variable (cs after : List Char)

theorem skipBlanks_semicolon : skipBlanks (cs ++ ';' :: after) = skipBlanks cs ++ ';' :: after := by
  by_cases hs : skipBlanks cs = []
  · rw [skipBlanks_append_of_eq_nil hs, hs,
      skipBlanks_of_bareStart (bareStart_cons (by decide) after)]
    rfl
  · exact skipBlanks_append_of_ne_nil hs _

theorem afterMark?_semicolon {mark : Char} (hm : mark ≠ ';') :
    afterMark? mark (cs ++ ';' :: after) = (afterMark? mark cs).map (· ++ ';' :: after) := by
  rw [afterMark?, skipBlanks_semicolon, afterMark?]
  cases skipBlanks cs with
  | nil => simp [Ne.symm hm]
  | cons c rest =>
    simp only [List.cons_append]
    split <;> rfl

variable {cs}

theorem afterTypeParameters?_semicolon (h : BracketsClose cs) :
    afterTypeParameters? (cs ++ ';' :: after) =
      (afterTypeParameters? cs).map (· ++ ';' :: after) := by
  have hclose := h.of_suffix (List.dropWhile_suffix isBlank)
  rw [afterTypeParameters?, skipBlanks_semicolon, afterTypeParameters?, skipBlanks]
  cases hs : cs.dropWhile isBlank with
  | nil => rfl
  | cons c rest =>
    by_cases hc : c = '<'
    · subst hc
      rw [hs] at hclose
      cases hd : rest.dropWhile (· ≠ '>') with
      -- a bracket that opens in the first text is closed in it, which is where the two texts meet
      -- without harm
      | nil =>
        have hnone := List.dropWhile_eq_nil_iff.1 hd '>' hclose.mem_of_bracket
        simp at hnone
      | cons d inside =>
        have hsome : (rest ++ ';' :: after).dropWhile (· ≠ '>') =
            d :: (inside ++ ';' :: after) := by
          rw [List.dropWhile_append, if_neg (by rw [hd]; simp), hd]
          rfl
        simp only [List.cons_append, hd, hsome]
        rfl
    · simp [hc]

theorem Opening.after?_semicolon {o : Opening} (h : o = .typeParameters → BracketsClose cs) :
    o.after? (cs ++ ';' :: after) = (o.after? cs).map (· ++ ';' :: after) := by
  cases o with
  | brace => exact afterMark?_semicolon cs after (by decide)
  | parenthesis => exact afterMark?_semicolon cs after (by decide)
  | typeParameters =>
    show (afterTypeParameters? (cs ++ ';' :: after)).bind (afterMark? '(') =
      ((afterTypeParameters? cs).bind (afterMark? '(')).map (· ++ ';' :: after)
    rw [afterTypeParameters?_semicolon after (h rfl), Option.bind_map, Option.map_bind]
    congr 1
    funext inside
    exact afterMark?_semicolon inside after (by decide)

/-- A head before a semicolon is read without what stands behind it. -/
theorem Kind.head?_semicolon {k : Kind} (h : k.opening = .typeParameters → BracketsClose cs) :
    k.head? (cs ++ ';' :: after) =
      (k.head? cs).map fun head => (head.1, head.2 ++ ';' :: after) := by
  have hstop : WordStop (';' :: after) := wordStop_cons (by decide) after
  have hsuffix : afterWord (skipBlanks (afterWord cs)) <:+ cs :=
    ((List.dropWhile_suffix _).trans (List.dropWhile_suffix _)).trans (List.dropWhile_suffix _)
  have hblank : (∃ c t, afterWord cs ++ ';' :: after = c :: t ∧ isBlank c = true) ↔
      ∃ c t, afterWord cs = c :: t ∧ isBlank c = true := by
    cases afterWord cs with
    | nil =>
      have hsemicolon : isBlank ';' = false := by decide
      simp [hsemicolon]
    | cons c t => simp
  ext ⟨name, behind⟩
  rw [Kind.head?_eq_some_iff, word_append_of_wordStop hstop,
    afterWord_append_of_wordStop hstop, hblank, skipBlanks_semicolon, word_append_of_wordStop hstop,
    afterWord_append_of_wordStop hstop, Opening.after?_semicolon after fun ho =>
      (h ho).of_suffix hsuffix, Option.map_eq_some_iff, Option.map_eq_some_iff]
  constructor
  · rintro ⟨hw, hb, hname, hne, rest, hr, rfl⟩
    exact ⟨(name, rest), Kind.head?_eq_some_iff.2 ⟨hw, hb, hname, hne, hr⟩, rfl⟩
  · rintro ⟨⟨name', rest⟩, hh, he⟩
    cases he
    obtain ⟨hw, hb, hname, hne, hr⟩ := Kind.head?_eq_some_iff.1 hh
    exact ⟨hw, hb, hname, hne, rest, hr, rfl⟩

end Semicolon

/-! ### Listings -/

/-- An occurrence in a text that stands behind others. -/
def Occurrence.shift (n : Nat) (m : Occurrence) : Occurrence := ⟨m.start + n, m.name, m.stop + n⟩

namespace Kind

/-- Heads are listed alike wherever a text starts. -/
theorem occurrencesFrom_shift (k : Kind) (offset n : Nat) (free : Bool) (cs : List Char) :
    k.occurrencesFrom (offset + n) free cs =
      (k.occurrencesFrom offset free cs).map (Occurrence.shift n) := by
  induction offset, free, cs using @occurrences_ind k with
  | nil offset free =>
    rw [occurrencesFrom, occurrencesFrom]
    rfl
  | head offset cs name rest hh ih =>
    have hstop : offset + n + (cs.length - rest.length) =
      offset + (cs.length - rest.length) + n := by omega
    rw [occurrencesFrom_of_head? hh, occurrencesFrom_of_head? hh, hstop, ih]
    rfl
  | cons offset free c cs hn ih =>
    have hnext : offset + n + 1 = offset + 1 + n := by omega
    rw [occurrencesFrom_cons hn, occurrencesFrom_cons hn, hnext, ih]

/-- Behind a semicolon a listing starts anew. -/
theorem occurrencesFrom_semicolon (k : Kind) (offset : Nat) (free : Bool) {cs : List Char}
    (h : k.opening = .typeParameters → BracketsClose cs) (after : List Char) :
    k.occurrencesFrom offset free (cs ++ ';' :: after) =
      k.occurrencesFrom offset free cs ++
        k.occurrencesFrom (offset + cs.length + 1) true after := by
  induction offset, free, cs using @occurrences_ind k with
  | nil offset free =>
    have hnone : free = true → k.head? (';' :: after) = none :=
      fun _ => Kind.head?_eq_none_of_not_isWord (by decide)
    rw [List.nil_append, occurrencesFrom_cons hnone, occurrencesFrom]
    rfl
  | head offset cs name rest hh ih =>
    -- the head ends before the semicolon, so both listings go on from the same place
    obtain ⟨text, rfl, -, -⟩ := Kind.exists_text_of_head? hh
    have hread : k.head? (text ++ rest ++ ';' :: after) = some (name, rest ++ ';' :: after) := by
      rw [Kind.head?_semicolon after h, hh]
      rfl
    have hrest : k.opening = .typeParameters → BracketsClose rest :=
      fun ho => (h ho).of_suffix (List.suffix_append _ _)
    have hstop : (text ++ rest ++ ';' :: after).length - (rest ++ ';' :: after).length =
        (text ++ rest).length - rest.length := by
      simp only [List.length_append]
      omega
    have hnext : offset + ((text ++ rest).length - rest.length) + rest.length + 1 =
        offset + (text ++ rest).length + 1 := by
      rw [List.length_append]
      omega
    rw [occurrencesFrom_of_head? hread, hstop, ih hrest, occurrencesFrom_of_head? hh, hnext]
    rfl
  | cons offset free c cs hn ih =>
    have hread : free = true → k.head? (c :: (cs ++ ';' :: after)) = none := by
      intro hf
      rw [← List.cons_append, Kind.head?_semicolon after h, hn hf]
      rfl
    have hrest : k.opening = .typeParameters → BracketsClose cs :=
      fun ho => (h ho).of_suffix (List.suffix_cons c cs)
    have hnext : offset + 1 + cs.length + 1 = offset + (c :: cs).length + 1 := by
      rw [List.length_cons]
      omega
    rw [List.cons_append, occurrencesFrom_cons hread, ih hrest, occurrencesFrom_cons hn, hnext]

/-- The heads of two texts with a semicolon between them are those of the first and then those of
the second, each where it stands. -/
theorem occurrences_semicolon (k : Kind) (s t : String)
    (h : k.opening = .typeParameters → BracketsClose s.toList) :
    k.occurrences (s ++ ";" ++ t) =
      k.occurrences s ++ (k.occurrences t).map (Occurrence.shift (s.toList.length + 1)) := by
  have htext : (s ++ ";" ++ t).toList = s.toList ++ ';' :: t.toList := by simp
  rw [occurrences, htext, occurrencesFrom_semicolon k 0 true h, occurrences, occurrences,
    ← occurrencesFrom_shift, Nat.add_assoc]

/-- What two texts with a semicolon between them declare is what the first declares and then what
the second declares. For controls and parsers this is so if every angle bracket that the first text
opens has a closing one behind it there. -/
theorem namesIn_semicolon (k : Kind) (s t : String)
    (h : k ∈ [Kind.control, .parser] → BracketsClose s.toList) :
    k.namesIn (s ++ ";" ++ t) = k.namesIn s ++ k.namesIn t := by
  have hclose : k.opening = .typeParameters → BracketsClose s.toList := by
    intro ho
    apply h
    cases k with
    | control | parser => decide
    | _ => cases ho
  have hnames : (k.occurrences t).map ((·.name) ∘ Occurrence.shift (s.toList.length + 1)) =
    k.namesIn t := rfl
  rw [namesIn, occurrences_semicolon k s t hclose, List.map_append, List.map_map, hnames]
  rfl

/-- A control with another one among its type parameters, and a third one whose parameters are
missing. -/
def openSeam : String := "control A<H, control B(b)>(a) \x7b\x7d control C<M>"

theorem namesIn_semicolon_openSeam : BracketsClose openSeam.toList ∧
    Kind.control.namesIn (openSeam ++ ";" ++ "(c) control D(d)") =
      Kind.control.namesIn openSeam ++ Kind.control.namesIn "(c) control D(d)" ∧
        Kind.control.namesIn openSeam ++ Kind.control.namesIn "(c) control D(d)" = ["A", "D"] := by
  have hclose : BracketsClose openSeam.toList := by decide +kernel
  exact ⟨hclose, namesIn_semicolon .control openSeam "(c) control D(d)" fun _ =>
    hclose, by decide +kernel⟩

/-- A bracket that is left open may be closed behind the semicolon. -/
example : Kind.control.namesIn ("control A<" ++ ";" ++ ">(a)") = ["A"] := by decide +kernel

end Kind

end P4Outline

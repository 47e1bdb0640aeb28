import Mathlib.Data.List.Pairwise
import P4Outline.Declaration.Listing
import P4Outline.Proofs.HeadPlace

/-!
# Heads that are listed and heads that are found

A listing takes the heads of a source one behind the other, and passes over what stands within a
head that it took. A look-up takes the first head of a name, wherever that stands. Both are read off
`Kind.headsFrom`, which has every head.

* `Kind.headNamed?_eq_some_iff`: a head is read by its name if and only if it is read without it.
* `Kind.offset?_eq_find?`: the first of all heads of a name is the one that is found.
* `Kind.occurrencesFrom_sublist`, `Kind.mem_or_within_occurrencesFrom`: a head is listed, or it
  stands within one that is.
* `Kind.occurrencesFrom_eq_headsFrom`: no head stands within another one without type parameters.
* `Kind.offset?_of_occurrences`: where the head that is found stands among those that are listed.
-/

namespace P4Outline

open P4Outline.Text P4Outline.Source

/-! ### Openings -/

/-- An opening without type parameters is its mark behind white space. -/
theorem Opening.exists_gap_of_after? {o : Opening} (ho : o ≠ .typeParameters) {cs rest : List Char}
    (h : o.after? cs = some rest) :
    ∃ gap, (∀ c ∈ gap, isBlank c = true) ∧ cs = gap ++ o.mark :: rest := by
  cases o with
  | brace => exact exists_of_afterMark? h
  | parenthesis => exact exists_of_afterMark? h
  | typeParameters => exact absurd rfl ho

/-- An opening ends in its mark. -/
theorem Opening.exists_mark_of_after? {o : Opening} {cs rest : List Char}
    (h : o.after? cs = some rest) :
    ∃ front, cs = front ++ o.mark :: rest := by
  by_cases ho : o = .typeParameters
  · subst ho
    obtain ⟨inside, hi, hr⟩ := Option.bind_eq_some_iff.1 h
    obtain ⟨front, rfl⟩ := exists_of_afterTypeParameters? hi
    obtain ⟨gap, -, rfl⟩ := exists_of_afterMark? hr
    exact ⟨front ++ gap, by rw [List.append_assoc]; rfl⟩
  · obtain ⟨gap, -, he⟩ := Opening.exists_gap_of_after? ho h
    exact ⟨gap, he⟩

/-- No opening begins with a part of a word. -/
theorem Opening.wordStop_of_after? {o : Opening} {cs rest : List Char}
    (h : o.after? cs = some rest) :
    WordStop cs := by
  by_cases ho : o = .typeParameters
  · subst ho
    obtain ⟨inside, hi, hr⟩ := Option.bind_eq_some_iff.1 h
    obtain ⟨gap, hg, ⟨params, -, rfl⟩ | ⟨rfl, -, -⟩⟩ := cases_of_afterTypeParameters? hi
    · exact wordStop_gap_cons hg (by decide) _
    · obtain ⟨gap', hg', rfl⟩ := exists_of_afterMark? hr
      rw [← List.append_assoc]
      exact wordStop_gap_cons (List.forall_mem_append.2 ⟨hg, hg'⟩) (by decide) _
  · obtain ⟨gap, hg, rfl⟩ := Opening.exists_gap_of_after? ho h
    exact wordStop_gap_cons hg o.isWord_mark rest

namespace Kind

/-! ### Every head -/

/-- The head at the front of the part of a source that starts at `offset`, which may be one only if
`free`. -/
def occurrence? (k : Kind) (offset : Nat) (free : Bool) (cs : List Char) : Option Occurrence :=
  if free then
    (k.head? cs).map fun (name, rest) =>
      ⟨offset, String.ofList name, offset + (cs.length - rest.length)⟩
  else none

/-- Every head of a kind in the part of a source that starts at `offset`, also those within other
heads. -/
def headsFrom (k : Kind) (offset : Nat) (free : Bool) : List Char → List Occurrence
  | [] => []
  | c :: cs =>
    (k.occurrence? offset free (c :: cs)).toList ++ k.headsFrom (offset + 1) (endsWord c) cs

/-- Every head of a kind in a source. -/
def heads (k : Kind) (source : String) : List Occurrence := k.headsFrom 0 true source.toList

variable {k : Kind} {offset : Nat} {free : Bool} {cs : List Char}

@[simp] theorem occurrence?_false : k.occurrence? offset false cs = none := rfl

theorem occurrence?_of_head? {name rest : List Char} (h : k.head? cs = some (name, rest)) :
    k.occurrence? offset true cs =
      some ⟨offset, String.ofList name, offset + (cs.length - rest.length)⟩ := by
  rw [occurrence?, if_pos rfl, h]
  rfl

theorem occurrence?_eq_none (h : free = true → k.head? cs = none) :
    k.occurrence? offset free cs = none := by
  rw [occurrence?]
  split
  · next hf =>
    rw [h hf]
    rfl
  · rfl

theorem exists_of_occurrence? {m : Occurrence} (h : k.occurrence? offset free cs = some m) :
    free = true ∧ m.start = offset ∧ ∃ name rest, k.head? cs = some (name, rest) ∧
      m.name = String.ofList name := by
  rw [occurrence?] at h
  split at h
  · next hf =>
    obtain ⟨⟨name, rest⟩, hh, rfl⟩ := Option.map_eq_some_iff.1 h
    exact ⟨hf, rfl, name, rest, hh, rfl⟩
  · cases h

theorem ne_nil_of_head? {x : List Char × List Char} (h : k.head? cs = some x) : cs ≠ [] := by
  rintro rfl
  exact absurd (Kind.mem_of_head? h) (by simp)

/-- A head ends in the mark of its kind. -/
theorem exists_mark_of_head? {name rest : List Char} (h : k.head? cs = some (name, rest)) :
    ∃ front, cs = front ++ k.opening.mark :: rest := by
  obtain ⟨gap, opening, rfl, -, -, -, -, -, hafter⟩ := Kind.exists_parts_of_head? h
  obtain ⟨front, rfl⟩ := Opening.exists_mark_of_after? hafter
  exact ⟨k.keyword ++ (gap ++ (name ++ front)), by simp⟩

/-! ### Texts that are put together -/

/-- No head begins at a character that is part of no word. -/
theorem headsFrom_gap {gap : List Char} (hg : ∀ c ∈ gap, isWord c = false) (cs : List Char) :
    k.headsFrom offset free (gap ++ cs) =
      k.headsFrom (offset + gap.length) (freeAfter endsWord free gap) cs := by
  induction gap generalizing offset free with
  | nil => rfl
  | cons c gap ih =>
    have hnone : k.occurrence? offset free (c :: (gap ++ cs)) = none :=
      occurrence?_eq_none fun _ => Kind.head?_eq_none_of_not_isWord (hg c List.mem_cons_self)
    rw [List.cons_append, headsFrom, hnone, ih fun d hd => hg d (List.mem_cons_of_mem _ hd),
      freeAfter_cons, List.length_cons, Nat.add_assoc, Nat.add_comm 1]
    rfl

/-- Behind a character of a word, no head begins up to the end of the word. -/
theorem headsFrom_within {w : List Char} (hw : ∀ c ∈ w, isWord c = true) (cs : List Char) :
    k.headsFrom offset false (w ++ cs) = k.headsFrom (offset + w.length) false cs := by
  induction w generalizing offset with
  | nil => rfl
  | cons c w ih =>
    have hends : endsWord c = false := by rw [endsWord, hw c List.mem_cons_self]; rfl
    rw [List.cons_append, headsFrom, hends, ih fun d hd => hw d (List.mem_cons_of_mem _ hd),
      List.length_cons, Nat.add_assoc, Nat.add_comm 1]
    rfl

/-- A word begins no head but at its front. -/
theorem headsFrom_word {w : List Char} (hw : ∀ c ∈ w, isWord c = true) (hne : w ≠ [])
    (cs : List Char) :
    k.headsFrom offset free (w ++ cs) =
      (k.occurrence? offset free (w ++ cs)).toList ++ k.headsFrom (offset + w.length) false cs := by
  obtain ⟨c, t, rfl⟩ := List.exists_cons_of_ne_nil hne
  have hends : endsWord c = false := by rw [endsWord, hw c List.mem_cons_self]; rfl
  rw [List.cons_append, headsFrom, hends,
    headsFrom_within fun d hd => hw d (List.mem_cons_of_mem _ hd), List.length_cons,
      Nat.add_assoc, Nat.add_comm 1]

/-- The heads of a text that is put together of two are those that begin in the first and those of
the second. -/
theorem exists_headsFrom_append (u v : List Char) :
    ∃ inside, k.headsFrom offset free (u ++ v) =
        inside ++ k.headsFrom (offset + u.length) (freeAfter endsWord free u) v ∧
      ∀ m ∈ inside, offset ≤ m.start ∧ m.start < offset + u.length := by
  induction u generalizing offset free with
  | nil => exact ⟨[], rfl, by simp⟩
  | cons c u ih =>
    obtain ⟨inside, hu, hstart⟩ := @ih (offset + 1) (endsWord c)
    refine ⟨(k.occurrence? offset free (c :: (u ++ v))).toList ++ inside, ?_, ?_⟩
    · rw [List.cons_append, headsFrom, hu, freeAfter_cons, List.append_assoc,
        List.length_cons, Nat.add_assoc, Nat.add_comm 1]
    · intro m hm
      rw [List.length_cons]
      rcases List.mem_append.1 hm with hm | hm
      · obtain ⟨-, hs, -⟩ := exists_of_occurrence? (Option.mem_toList.1 hm)
        omega
      · obtain ⟨h1, h2⟩ := hstart m hm
        omega

/-- A head comes first of the heads that begin at its place or behind it, then come those within
it. -/
theorem exists_headsFrom_of_head? {name rest : List Char} (h : k.head? cs = some (name, rest)) :
    ∃ inside, k.headsFrom offset true cs =
      ⟨offset, String.ofList name, offset + (cs.length - rest.length)⟩ ::
        (inside ++ k.headsFrom (offset + (cs.length - rest.length)) true rest) ∧
      ∀ m ∈ inside, offset < m.start ∧ m.start < offset + (cs.length - rest.length) := by
  obtain ⟨front, rfl⟩ := exists_mark_of_head? h
  obtain ⟨c, t, ht⟩ := List.exists_cons_of_ne_nil (l := front ++ [k.opening.mark]) (by simp)
  have hcs : front ++ k.opening.mark :: rest = c :: (t ++ rest) := by
    rw [← List.cons_append, ← ht, List.append_assoc]
    rfl
  have hfree : freeAfter endsWord (endsWord c) t = true := by
    rw [← freeAfter_cons endsWord true, ← ht, freeAfter_concat, endsWord, Opening.isWord_mark]
    rfl
  obtain ⟨inside, hinside, hstart⟩ := @exists_headsFrom_append k (offset + 1) (endsWord c) t rest
  rw [hcs] at h ⊢
  have hstop : offset + ((c :: (t ++ rest)).length - rest.length) = offset + 1 + t.length := by
    rw [List.length_cons, List.length_append]
    omega
  rw [hstop]
  refine ⟨inside, ?_, fun m hm => ?_⟩
  · rw [headsFrom, occurrence?_of_head? h, hinside, hfree, hstop]
    rfl
  · obtain ⟨h1, h2⟩ := hstart m hm
    omega

/-- Heads begin one behind the other. -/
theorem headsFrom_sorted : (k.headsFrom offset free cs).Pairwise (fun m m' => m.start < m'.start) ∧
    ∀ m ∈ k.headsFrom offset free cs, offset ≤ m.start := by
  induction cs generalizing offset free with
  | nil => exact ⟨List.Pairwise.nil, by simp [headsFrom]⟩
  | cons c cs ih =>
    obtain ⟨hsorted, hstart⟩ := @ih (offset + 1) (endsWord c)
    have hhere : ∀ m ∈ (k.occurrence? offset free (c :: cs)).toList, m.start = offset :=
      fun m hm => (exists_of_occurrence? (Option.mem_toList.1 hm)).2.1
    rw [headsFrom]
    refine ⟨List.pairwise_append.2 ⟨?_, hsorted, ?_⟩, ?_⟩
    · cases k.occurrence? offset free (c :: cs) <;> simp
    · intro m hm m' hm'
      have h1 := hhere m hm
      have h2 := hstart m' hm'
      omega
    · intro m hm
      rcases List.mem_append.1 hm with hm | hm
      · exact Nat.le_of_eq (hhere m hm).symm
      · have := hstart m hm
        omega

/-! ### Heads that are listed -/

theorem occurrencesFrom_of_head? {name rest : List Char} (h : k.head? cs = some (name, rest)) :
    k.occurrencesFrom offset true cs =
      ⟨offset, String.ofList name, offset + (cs.length - rest.length)⟩ ::
      k.occurrencesFrom (offset + (cs.length - rest.length)) true rest := by
  obtain ⟨c, t, rfl⟩ := List.exists_cons_of_ne_nil (ne_nil_of_head? h)
  rw [occurrencesFrom]
  split
  · next name' rest' h' =>
    rw [h] at h'
    cases h'
    rfl
  · next h' =>
    rw [h] at h'
    cases h'

theorem occurrencesFrom_cons {c : Char} (h : free = true → k.head? (c :: cs) = none) :
    k.occurrencesFrom offset free (c :: cs) = k.occurrencesFrom (offset + 1) (endsWord c) cs := by
  have hnone : (if free then k.head? (c :: cs) else none) = none := by
    cases free with
    | false => rfl
    | true => exact h rfl
  rw [occurrencesFrom]
  split
  · next h' =>
    rw [hnone] at h'
    cases h'
  · rfl

/-- A listing goes on behind the head that stands at its place, and behind the next character if
none does. -/
theorem occurrences_ind {motive : Nat → Bool → List Char → Prop}
    (nil : ∀ offset free, motive offset free [])
    (head : ∀ offset cs name rest, k.head? cs = some (name, rest) →
      motive (offset + (cs.length - rest.length)) true rest → motive offset true cs)
    (cons : ∀ offset free c cs, (free = true → k.head? (c :: cs) = none) →
      motive (offset + 1) (endsWord c) cs → motive offset free (c :: cs))
    (offset : Nat) (free : Bool) (cs : List Char) : motive offset free cs := by
  -- the induction is on the length, since the listing goes on behind the opening of a head
  induction hl : cs.length using Nat.strongRecOn generalizing offset free cs with
  | _ n ih =>
    cases cs with
    | nil => exact nil offset free
    | cons c cs =>
      cases hh : k.head? (c :: cs) with
      | none => exact cons offset free c cs (fun _ => hh) (ih cs.length (by simp [← hl]) _ _ cs rfl)
      | some x =>
        obtain ⟨name, rest⟩ := x
        cases free with
        | false => exact cons offset false c cs nofun (ih cs.length (by simp [← hl]) _ _ cs rfl)
        | true =>
          exact head offset _ name rest hh
            (ih rest.length (hl ▸ Kind.length_lt_of_head? hh) _ _ rest rfl)

/-- What is listed are some of the heads, in their order. -/
theorem occurrencesFrom_sublist :
    (k.occurrencesFrom offset free cs).Sublist (k.headsFrom offset free cs) := by
  induction offset, free, cs using @occurrences_ind k with
  | nil offset free =>
    rw [occurrencesFrom]
    exact List.nil_sublist _
  | head offset cs name rest hh ih =>
    obtain ⟨inside, hinside, -⟩ := @exists_headsFrom_of_head? k offset _ _ _ hh
    rw [hinside, occurrencesFrom_of_head? hh]
    exact (ih.trans (List.sublist_append_right _ _)).cons_cons _
  | cons offset free c cs hn ih =>
    rw [headsFrom, occurrencesFrom_cons hn]
    exact ih.trans (List.sublist_append_right _ _)

/-- A head is listed, or it stands within one that is listed. -/
theorem mem_or_within_occurrencesFrom {m : Occurrence} (hm : m ∈ k.headsFrom offset free cs) :
    m ∈ k.occurrencesFrom offset free cs ∨
      ∃ m' ∈ k.occurrencesFrom offset free cs, m'.start < m.start ∧ m.start < m'.stop := by
  induction offset, free, cs using @occurrences_ind k with
  | nil offset free => cases hm
  | head offset cs name rest hh ih =>
    -- heads within this one are passed over, and those behind it are left to the rest
    obtain ⟨inside, hinside, hstart⟩ := @exists_headsFrom_of_head? k offset _ _ _ hh
    rw [occurrencesFrom_of_head? hh]
    rw [hinside] at hm
    rcases List.mem_cons.1 hm with rfl | hm
    · exact .inl List.mem_cons_self
    · rcases List.mem_append.1 hm with hm | hm
      · exact .inr ⟨_, List.mem_cons_self, hstart m hm⟩
      · rcases ih hm with hm | ⟨m', hm', hwithin⟩
        · exact .inl (List.mem_cons_of_mem _ hm)
        · exact .inr ⟨m', List.mem_cons_of_mem _ hm', hwithin⟩
  | cons offset free c cs hn ih =>
    rw [headsFrom, occurrence?_eq_none hn] at hm
    rw [occurrencesFrom_cons hn]
    exact ih hm

/-! ### Heads without type parameters -/

/-- No head begins at a word with a mark behind it. -/
theorem head?_eq_none_of_gap_mark {w gap : List Char} (hw : ∀ c ∈ w, isWord c = true)
    (hg : ∀ c ∈ gap, isBlank c = true) {m : Char} (hm : isWord m = false) (hb : isBlank m = false)
    (rest : List Char) :
    k.head? (w ++ (gap ++ m :: rest)) = none := by
  cases hh : k.head? (w ++ (gap ++ m :: rest)) with
  | none => rfl
  | some x =>
    obtain ⟨name, behind⟩ := x
    obtain ⟨-, -, hname, hne, -⟩ := Kind.head?_eq_some_iff.1 hh
    rw [afterWord_append hw (wordStop_gap_cons hg hm rest), skipBlanks_append hg,
      skipBlanks_of_bareStart (bareStart_cons hb rest), word_cons_of_false hm] at hname
    exact absurd hname hne

/-- Within a head that ends in a brace or in a parenthesis no head stands. -/
theorem headsFrom_of_head? (hk : k.opening ≠ .typeParameters) {name rest : List Char}
    (h : k.head? cs = some (name, rest)) :
    k.headsFrom offset true cs = ⟨offset, String.ofList name, offset + (cs.length - rest.length)⟩ ::
      k.headsFrom (offset + (cs.length - rest.length)) true rest := by
  have hhere := @occurrence?_of_head? k offset _ _ _ h
  obtain ⟨gap, opening, rfl, hg, hgap, hname, hne, -, hafter⟩ := Kind.exists_parts_of_head? h
  obtain ⟨gap', hg', rfl⟩ := Opening.exists_gap_of_after? hk hafter
  have hblanks {blanks : List Char} (hb : ∀ c ∈ blanks, isBlank c = true) :
      ∀ c ∈ blanks, isWord c = false :=
    fun c hc => isWord_of_isBlank (hb c hc)
  have hmark : ∀ c ∈ gap' ++ [k.opening.mark], isWord c = false :=
    List.forall_mem_append.2 ⟨hblanks hg', by simpa using k.opening.isWord_mark⟩
  have hfree : freeAfter endsWord false (gap' ++ [k.opening.mark]) = true := by
    rw [freeAfter_concat, endsWord, k.opening.isWord_mark]
    rfl
  have hsplit : gap' ++ k.opening.mark :: rest = (gap' ++ [k.opening.mark]) ++ rest := by simp
  -- the keyword begins the head, and the name none
  rw [headsFrom_word Kind.isWord_of_mem_keyword k.keyword_ne_nil, hhere, headsFrom_gap (hblanks hg),
    headsFrom_word hname hne,
    occurrence?_eq_none fun _ => head?_eq_none_of_gap_mark hname hg' k.opening.isWord_mark
      k.opening.isBlank_mark rest, hsplit, headsFrom_gap hmark, hfree]
  have hstop {a b c d : List Char} : (a ++ (b ++ (c ++ (d ++ rest)))).length - rest.length =
      a.length + b.length + c.length + d.length := by
    simp only [List.length_append]
    omega
  rw [hstop]
  simp only [Option.toList_some, Option.toList_none, List.nil_append, List.singleton_append,
    Nat.add_assoc]

/-- No head stands within another one without type parameters, so that every head is listed. -/
theorem occurrencesFrom_eq_headsFrom (hk : k.opening ≠ .typeParameters) (offset : Nat) (free : Bool)
    (cs : List Char) :
    k.occurrencesFrom offset free cs = k.headsFrom offset free cs := by
  induction offset, free, cs using @occurrences_ind k with
  | nil offset free =>
    rw [occurrencesFrom]
    rfl
  | head offset cs name rest hh ih => rw [occurrencesFrom_of_head? hh, headsFrom_of_head? hk hh, ih]
  | cons offset free c cs hn ih =>
    rw [headsFrom, occurrence?_eq_none hn, occurrencesFrom_cons hn, ih]
    rfl

/-- What is listed does not overlap. -/
theorem occurrencesFrom_apart :
    (k.occurrencesFrom offset free cs).Pairwise (fun m m' => m.stop ≤ m'.start) ∧
      ∀ m ∈ k.occurrencesFrom offset free cs, offset ≤ m.start ∧ m.start < m.stop := by
  induction offset, free, cs using @occurrences_ind k with
  | nil offset free =>
    rw [occurrencesFrom]
    exact ⟨List.Pairwise.nil, by simp⟩
  | head offset cs name rest hh ih =>
    have hlength := Kind.length_lt_of_head? hh
    rw [occurrencesFrom_of_head? hh]
    refine ⟨List.pairwise_cons.2 ⟨fun m hm => (ih.2 m hm).1, ih.1⟩,
      List.forall_mem_cons.2 ⟨?_, fun m hm => ?_⟩⟩
    · exact ⟨Nat.le_refl _, by show offset < offset + _; omega⟩
    · have := ih.2 m hm
      omega
  | cons offset free c cs hn ih =>
    rw [occurrencesFrom_cons hn]
    refine ⟨ih.1, fun m hm => ?_⟩
    have := ih.2 m hm
    omega

/-! ### Heads that are found -/

theorem exists_of_pastBlanks? {α : Type _} {read? : List Char → Option α} {a : α}
    (h : pastBlanks? read? cs = some a) :
    ∃ gap behind, cs = gap ++ behind ∧ (∀ c ∈ gap, isBlank c = true) ∧ gap ≠ [] ∧
      read? behind = some a := by
  induction cs with
  | nil => cases h
  | cons c cs ih =>
    rw [pastBlanks?] at h
    split at h
    · next hc =>
      rcases Option.or_eq_some_iff.1 h with h | ⟨-, h⟩
      · obtain ⟨gap, behind, rfl, hg, -, hr⟩ := ih h
        exact ⟨c :: gap, behind, rfl, List.forall_mem_cons.2 ⟨hc, hg⟩, by simp, hr⟩
      · exact ⟨[c], cs, rfl, by simpa using hc, by simp, h⟩
    · cases h

/-- A head is read by its name if and only if it is read without it. -/
theorem headNamed?_eq_some_iff {name : List Char} (hname : ∀ c ∈ name, isWord c = true)
    (hne : name ≠ []) {rest : List Char} :
    k.headNamed? name cs = some rest ↔ k.head? cs = some (name, rest) := by
  have hread {rest : List Char} (h : k.headNamed? name cs = some rest) :
      k.head? cs = some (name, rest) := by
    obtain ⟨behind, hp, hb⟩ := Option.bind_eq_some_iff.1 h
    obtain ⟨gap, named, rfl, hg, hgap, hn⟩ := exists_of_pastBlanks? hb
    obtain ⟨opening, ho, hafter⟩ := Option.bind_eq_some_iff.1 hn
    rw [eq_append_of_isPrefixOf? hp, eq_append_of_isPrefixOf? ho]
    exact k.head?_of_parts hg hgap hname hne (Opening.wordStop_of_after? hafter) hafter
  refine ⟨hread, fun h => ?_⟩
  obtain ⟨rest', hr⟩ := Option.isSome_iff_exists.1 (Kind.isSome_headNamed? h)
  have hsame := hread hr
  rw [h] at hsame
  cases hsame
  exact hr

/-- The first of all heads of a name is the one that is found. -/
theorem first?_headNamed? {name : List Char} (hname : ∀ c ∈ name, isWord c = true)
    (hne : name ≠ []) :
    (first? (k.headNamed? name) endsWord free cs).map (fun found => offset + found.1) =
      ((k.headsFrom offset free cs).find? (·.name = String.ofList name)).map (·.start) := by
  induction cs generalizing offset free with
  | nil => rfl
  | cons c cs ih =>
    rw [first?, headsFrom, List.find?_append]
    cases hr : (if free then k.headNamed? name (c :: cs) else none) with
    | some rest =>
      cases free with
      | false => cases hr
      | true =>
        rw [occurrence?_of_head? ((headNamed?_eq_some_iff hname hne).1 hr)]
        simp
    | none =>
      have hother :
          (k.occurrence? offset free (c :: cs)).toList.find? (·.name = String.ofList name) =
            none := by
        refine List.find?_eq_none.2 fun m hm hn => ?_
        obtain ⟨rfl, -, name', rest, hh, hm'⟩ := exists_of_occurrence? (Option.mem_toList.1 hm)
        rw [hm', decide_eq_true_eq, String.ofList_inj] at hn
        rw [if_pos rfl, (headNamed?_eq_some_iff hname hne).2 (hn ▸ hh)] at hr
        cases hr
      rw [hother, Option.none_or, ← ih, Option.map_map]
      congr 1
      funext found
      show offset + (found.1 + 1) = offset + 1 + found.1
      omega

/-- The head that is found by a name is the first of all that have it. -/
theorem offset?_eq_find? (source : String) {name : String} (hne : name ≠ "")
    (hw : ∀ c ∈ name.toList, isWord c = true) :
    k.offset? name source = ((k.heads source).find? (·.name = name)).map (·.start) := by
  have hchars : name.toList ≠ [] := by simpa using hne
  have hfirst := @first?_headNamed? k 0 true source.toList _ hw hchars
  rw [String.ofList_toList] at hfirst
  rw [offset?, find?, String.isEmpty_eq_false_iff.2 hne, heads, ← hfirst]
  congr 1
  funext found
  exact (Nat.zero_add _).symm

section Name

variable {source name : String} (hne : name ≠ "") (hw : ∀ c ∈ name.toList, isWord c = true)

include hne hw

/-- What is found is a head of the name. -/
theorem exists_head_of_offset? {p : Nat} (h : k.offset? name source = some p) :
    ∃ m ∈ k.heads source, m.start = p ∧ m.name = name := by
  rw [offset?_eq_find? source hne hw] at h
  obtain ⟨m, hm, rfl⟩ := Option.map_eq_some_iff.1 h
  exact ⟨m, List.mem_of_find?_eq_some hm, rfl, by simpa using List.find?_some hm⟩

/-- No head of the name stands before the one that is found. -/
theorem exists_offset?_le {m : Occurrence} (hm : m ∈ k.heads source) (hn : m.name = name) :
    ∃ p, k.offset? name source = some p ∧ p ≤ m.start := by
  have hsome : ((k.heads source).find? (·.name = name)).isSome :=
    List.find?_isSome.2 ⟨m, hm, by simpa using hn⟩
  obtain ⟨first, hf⟩ := Option.isSome_iff_exists.1 hsome
  refine ⟨first.start, by rw [offset?_eq_find? source hne hw, hf]; rfl, ?_⟩
  obtain ⟨-, before, behind, he, hbefore⟩ := List.find?_eq_some_iff_append.1 hf
  have hsorted := (@headsFrom_sorted k 0 true source.toList).1
  rw [← heads, he] at hsorted
  rw [he] at hm
  rcases List.mem_append.1 hm with hm | hm
  · have hother := hbefore m hm
    simp [hn] at hother
  · rcases List.mem_cons.1 hm with rfl | hm
    · exact Nat.le_refl _
    · exact Nat.le_of_lt (List.rel_of_pairwise_cons (List.pairwise_append.1 hsorted).2.1 hm)

end Name

/-! ### Heads that are found among those that are listed -/

/-- The first head of a name that a listing of a source has. -/
def listed? (k : Kind) (name source : String) : Option Occurrence :=
  (k.occurrences source).find? (·.name = name)

theorem isSome_listed?_iff {source name : String} :
    (k.listed? name source).isSome ↔ name ∈ k.namesIn source := by
  rw [listed?, List.find?_isSome, namesIn, List.mem_map]
  simp

theorem mem_of_listed? {source name : String} {m : Occurrence}
    (h : k.listed? name source = some m) :
    m ∈ k.occurrences source ∧ m.name = name :=
  ⟨List.mem_of_find?_eq_some h, by simpa using List.find?_some h⟩

theorem occurrences_subset_heads (source : String) : k.occurrences source ⊆ k.heads source :=
  occurrencesFrom_sublist.subset

/-- Nothing that is listed stands within something that is listed. -/
theorem not_within_occurrences {source : String} {m m' : Occurrence} (hm : m ∈ k.occurrences source)
    (hm' : m' ∈ k.occurrences source) : ¬ (m.start < m'.start ∧ m'.start < m.stop) := by
  obtain ⟨hapart, hstart⟩ := @occurrencesFrom_apart k 0 true source.toList
  by_cases he : m = m'
  · rw [he]
    omega
  -- one of the two stops before the other one starts
  · have hsymm : Std.Symm fun m m' : Occurrence => m.stop ≤ m'.start ∨ m'.stop ≤ m.start :=
      ⟨fun _ _ => Or.symm⟩
    have heither : (k.occurrences source).Pairwise fun m m' => m.stop ≤ m'.start ∨
        m'.stop ≤ m.start :=
      hapart.imp .inl
    have hor := heither.forall hm hm' he
    have h1 := hstart m hm
    have h2 := hstart m' hm'
    omega

/-- What is found stands where a head of the name is listed or before, if one is listed. What is
found is listed, or it stands within another head that is listed. The latter is so for kinds with
type parameters only: for the others, the first head that is listed is the one that is found. -/
theorem offset?_of_occurrences (k : Kind) (source : String) {name : String} (hne : name ≠ "")
    (hw : ∀ c ∈ name.toList, isWord c = true) :
    (name ∈ k.namesIn source →
      ∃ p m, k.offset? name source = some p ∧ k.listed? name source = some m ∧ p ≤ m.start) ∧
    (∀ p, k.offset? name source = some p →
      (∃ m ∈ k.occurrences source, m.start = p ∧ m.name = name) ∨
        ∃ m ∈ k.occurrences source, m.start < p ∧ p < m.stop) ∧
    (k ∈ [Kind.action, .table, .struct, .header] →
      (∀ p, k.offset? name source = some p →
        ∀ m ∈ k.occurrences source, ¬ (m.start < p ∧ p < m.stop)) ∧
        ((k.offset? name source).isSome ↔ name ∈ k.namesIn source) ∧
          k.offset? name source = (k.listed? name source).map (·.start)) := by
  refine ⟨fun hlisted => ?_, fun p hp => ?_, fun hk => ?_⟩
  · obtain ⟨m, hm⟩ := Option.isSome_iff_exists.1 (isSome_listed?_iff.2 hlisted)
    obtain ⟨hmem, hn⟩ := mem_of_listed? hm
    obtain ⟨p, hp, hle⟩ := exists_offset?_le hne hw (occurrences_subset_heads source hmem) hn
    exact ⟨p, m, hp, hm, hle⟩
  -- the listing passes over heads within a head only
  · obtain ⟨m, hm, rfl, hn⟩ := exists_head_of_offset? hne hw hp
    rcases mem_or_within_occurrencesFrom hm with hm | hwithin
    · exact .inl ⟨m, hm, rfl, hn⟩
    · exact .inr hwithin
  · have hopening : k.opening ≠ .typeParameters := by
      simp only [List.mem_cons, List.not_mem_nil, or_false] at hk
      rcases hk with rfl | rfl | rfl | rfl <;> decide
    -- without type parameters nothing fits between a keyword and its opening that could be a head
    have hall : k.heads source = k.occurrences source :=
      (occurrencesFrom_eq_headsFrom hopening 0 true _).symm
    have hfound : k.offset? name source = (k.listed? name source).map (·.start) := by
      rw [offset?_eq_find? source hne hw, hall, listed?]
    refine ⟨fun p hp m hm => ?_, ?_, hfound⟩
    · obtain ⟨m', hm', rfl, -⟩ := exists_head_of_offset? hne hw hp
      exact not_within_occurrences hm (hall ▸ hm')
    · rw [hfound, Option.isSome_map, isSome_listed?_iff]

/-- A control whose type parameters hold the head of another one. -/
def nestedHeads : String := "control A<control B(x)>(y) \x7b\x7d"

/-- A head in type parameters is found, though it is not listed: it stands within the one that
is. -/
theorem offset?_nestedHeads :
    "B" ≠ "" ∧ (∀ c ∈ "B".toList, isWord c = true) ∧
    Kind.control.offset? "B" nestedHeads = some 10 ∧
      "B" ∉ Kind.control.namesIn nestedHeads ∧
        ∃ m ∈ Kind.control.occurrences nestedHeads, m.start < 10 ∧ 10 < m.stop := by
  have hne : "B" ≠ "" := by decide
  have hw : ∀ c ∈ "B".toList, isWord c = true := by decide
  have hfound : Kind.control.offset? "B" nestedHeads = some 10 := by decide +kernel
  have hunlisted : "B" ∉ Kind.control.namesIn nestedHeads := by decide +kernel
  refine ⟨hne, hw, hfound, hunlisted, ?_⟩
  obtain ⟨-, hplace, -⟩ := offset?_of_occurrences .control nestedHeads hne hw
  rcases hplace 10 hfound with ⟨m, hm, -, hn⟩ | hwithin
  · exact absurd (List.mem_map.2 ⟨m, hm, hn⟩) hunlisted
  · exact hwithin

end Kind

end P4Outline

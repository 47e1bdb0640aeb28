import P4Outline.Declaration.Location
import P4Outline.Proofs.Head
import P4Outline.Proofs.Segment

/-!
# Heads in a text and in its lines

A head that is read on a line is a head of the text that the lines come from: pulling braces up and
breaking lines changes white space around marks, and that makes no head where there was none. And
where a head is read, it is found by its name.

* `Kind.exists_text_of_head?`: the text of a head, which is a head whatever stands behind it.
* `Relaid.hasHead`: a text with other white space around its marks has no other heads.
* `Kind.hasHead_of_mem_lines`: a head on a line is a head of the text.
* `Kind.HasHead.isSome_offset?`: a head of a text is found by its name.
-/

namespace P4Outline

open P4Outline.Text P4Outline.Source

/-! ### The text of a head -/

theorem afterTypeParameters?_brackets {gap params : List Char} (hg : ∀ c ∈ gap, isBlank c = true)
    (hp : '>' ∉ params) (inside : List Char) :
    afterTypeParameters? (gap ++ '<' :: (params ++ '>' :: inside)) = some inside := by
  have hparams : ∀ c ∈ params, decide (c ≠ '>') = true := by
    intro c hc
    refine decide_eq_true ?_
    rintro rfl
    exact hp hc
  rw [afterTypeParameters?, skipBlanks_append hg,
    skipBlanks_of_bareStart (bareStart_cons (by decide) _)]
  simp only [List.dropWhile_append_of_pos hparams, List.dropWhile_cons]
  rfl

theorem afterTypeParameters?_none {gap inside : List Char} (hg : ∀ c ∈ gap, isBlank c = true)
    (hs : BareStart inside) (h : inside.head? ≠ some '<') :
    afterTypeParameters? (gap ++ inside) = some inside := by
  rw [afterTypeParameters?, skipBlanks_append hg, skipBlanks_of_bareStart hs]
  split
  · exact absurd rfl h
  · rfl

/-- Type parameters stand in angle brackets, or there are none. -/
theorem cases_of_afterTypeParameters? {cs inside : List Char}
    (h : afterTypeParameters? cs = some inside) :
    ∃ gap, (∀ c ∈ gap, isBlank c = true) ∧
      ((∃ params, '>' ∉ params ∧ cs = gap ++ '<' :: (params ++ '>' :: inside)) ∨
        (cs = gap ++ inside ∧ BareStart inside ∧ inside.head? ≠ some '<')) := by
  obtain ⟨gap, hg, he⟩ := exists_skipBlanks cs
  refine ⟨gap, hg, ?_⟩
  have hs := bareStart_skipBlanks cs
  rw [afterTypeParameters?] at h
  split at h
  · next r hr =>
    cases hd : r.dropWhile (· ≠ '>') with
    | nil => rw [hd] at h; cases h
    | cons c t =>
      rw [hd] at h
      cases h
      have hc : c = '>' := by
        have hhead := List.head?_dropWhile_not (fun c => decide (c ≠ '>')) r
        rw [hd] at hhead
        simpa using hhead
      subst hc
      refine .inl ⟨r.takeWhile (· ≠ '>'), ?_, ?_⟩
      · intro hm
        simpa using List.mem_takeWhile_imp hm
      · rw [← hd, List.takeWhile_append_dropWhile, ← hr]
        exact he
  · next hne =>
    cases h
    refine .inr ⟨he, hs, ?_⟩
    intro hhead
    cases hr : skipBlanks cs with
    | nil => rw [hr] at hhead; cases hhead
    | cons c t =>
      rw [hr] at hhead
      cases hhead
      exact hne t hr

/-- The text of an opening, which is one whatever stands behind it. -/
theorem Opening.exists_text_of_after? {o : Opening} {cs rest : List Char}
    (h : o.after? cs = some rest) :
    ∃ text, cs = text ++ rest ∧ text ≠ [] ∧ ∀ more, o.after? (text ++ more) = some more := by
  have hmark {mark : Char} (hm : isBlank mark = false) {cs : List Char}
      (h : afterMark? mark cs = some rest) :
      ∃ gap, cs = gap ++ mark :: rest ∧
        ∀ more, afterMark? mark (gap ++ mark :: more) = some more := by
    obtain ⟨gap, hg, rfl⟩ := exists_of_afterMark? h
    exact ⟨gap, rfl, afterMark?_append hm hg⟩
  cases o with
  | brace =>
    obtain ⟨gap, rfl, hgap⟩ := hmark (by decide) h
    exact ⟨gap ++ ['{'], by simp, by simp, fun more => by rw [List.append_assoc]; exact hgap more⟩
  | parenthesis =>
    obtain ⟨gap, rfl, hgap⟩ := hmark (by decide) h
    exact ⟨gap ++ ['('], by simp, by simp, fun more => by rw [List.append_assoc]; exact hgap more⟩
  | typeParameters =>
    obtain ⟨inside, hi, hr⟩ := Option.bind_eq_some_iff.1 h
    obtain ⟨gap', rfl, hgap'⟩ := hmark (by decide) hr
    obtain ⟨gap, hg, ⟨params, hp, rfl⟩ | ⟨rfl, hs, hne⟩⟩ := cases_of_afterTypeParameters? hi
    · refine ⟨gap ++ '<' :: (params ++ '>' :: (gap' ++ ['('])), by simp, by simp, fun more => ?_⟩
      have hall : gap ++ '<' :: (params ++ '>' :: (gap' ++ ['('])) ++ more =
          gap ++ '<' :: (params ++ '>' :: (gap' ++ '(' :: more)) := by simp
      show (afterTypeParameters? _).bind (afterMark? '(') = some more
      rw [hall, afterTypeParameters?_brackets hg hp]
      exact hgap' more
    · refine ⟨gap ++ (gap' ++ ['(']), by simp, by simp, fun more => ?_⟩
      have hall : gap ++ (gap' ++ ['(']) ++ more = gap ++ (gap' ++ '(' :: more) := by simp
      -- what stands before the parenthesis does not depend on what stands behind it
      have hstart {t t' : List Char} : (gap' ++ '(' :: t).head? = (gap' ++ '(' :: t').head? := by
        cases gap' <;> rfl
      have hs' : BareStart (gap' ++ '(' :: more) := by
        intro c hc
        rw [@hstart more rest] at hc
        exact hs c hc
      show (afterTypeParameters? _).bind (afterMark? '(') = some more
      rw [hall, afterTypeParameters?_none hg hs' (by rw [@hstart more rest]; exact hne)]
      exact hgap' more

/-- A head, put together of its parts. -/
theorem Kind.head?_of_parts (k : Kind) {gap name opening : List Char}
    (hg : ∀ c ∈ gap, isBlank c = true) (hgap : gap ≠ []) (hname : ∀ c ∈ name, isWord c = true)
    (hne : name ≠ []) (hs : WordStop opening) {rest : List Char}
    (ho : k.opening.after? opening = some rest) :
    k.head? (k.keyword ++ (gap ++ (name ++ opening))) = some (name, rest) := by
  obtain ⟨b, gap', rfl⟩ := List.exists_cons_of_ne_nil hgap
  have hblank : isBlank b = true := hg b List.mem_cons_self
  have hstop : WordStop (b :: gap' ++ (name ++ opening)) :=
    wordStop_cons (isWord_of_isBlank hblank) _
  have hstart : BareStart (name ++ opening) :=
    bareStart_append (bareStart_of_forall fun c hc => isBlank_of_isWord (hname c hc)) hne _
  have hskip : skipBlanks (b :: gap' ++ (name ++ opening)) = name ++ opening := by
    rw [skipBlanks_append hg, skipBlanks_of_bareStart hstart]
  refine Kind.head?_eq_some_iff.2 ?_
  rw [word_append Kind.isWord_of_mem_keyword hstop,
    afterWord_append Kind.isWord_of_mem_keyword hstop, hskip, word_append hname hs,
    afterWord_append hname hs]
  exact ⟨rfl, ⟨b, _, rfl, hblank⟩, rfl, hne, ho⟩

/-- The parts of a head. -/
theorem Kind.exists_parts_of_head? {k : Kind} {cs name rest : List Char}
    (h : k.head? cs = some (name, rest)) :
    ∃ gap opening, cs = k.keyword ++ (gap ++ (name ++ opening)) ∧ (∀ c ∈ gap, isBlank c = true) ∧
      gap ≠ [] ∧
      (∀ c ∈ name, isWord c = true) ∧ name ≠ [] ∧ WordStop opening ∧
      k.opening.after? opening = some rest := by
  obtain ⟨hw, ⟨b, t, hb, hblank⟩, hname, hne, hafter⟩ := Kind.head?_eq_some_iff.1 h
  obtain ⟨gap, hg, he⟩ := exists_skipBlanks (afterWord cs)
  refine ⟨gap, afterWord (skipBlanks (afterWord cs)), ?_, hg, ?_,
    fun c hc => isWord_of_mem_word (hname ▸ hc), hne, wordStop_afterWord _, hafter⟩
  · rw [hname, word_append_afterWord, ← he, ← hw, word_append_afterWord]
  · rintro rfl
    rw [List.nil_append] at he
    have hbare := bareStart_skipBlanks (afterWord cs) b (by rw [← he, hb]; rfl)
    rw [hblank] at hbare
    cases hbare

/-- The text of a head, which is a head whatever stands behind it. -/
theorem Kind.exists_text_of_head? {k : Kind} {cs name rest : List Char}
    (h : k.head? cs = some (name, rest)) :
    ∃ text, cs = text ++ rest ∧ text ≠ [] ∧ ∀ more, k.head? (text ++ more) = some (name, more) := by
  obtain ⟨gap, behind, rfl, hg, hgap, hname, hne, hs, hafter⟩ := Kind.exists_parts_of_head? h
  obtain ⟨opening, rfl, ho, hopening⟩ := Opening.exists_text_of_after? hafter
  refine ⟨k.keyword ++ (gap ++ (name ++ opening)), by simp, by simp [k.keyword_ne_nil],
    fun more => ?_⟩
  have hs' : WordStop (opening ++ more) := by
    obtain ⟨c, t, rfl⟩ := List.exists_cons_of_ne_nil ho
    exact wordStop_cons (hs c rfl) _
  have hhead := k.head?_of_parts hg hgap hname hne hs' (hopening more)
  simpa using hhead

/-! ### Texts laid out anew -/

/-- Whether a text is another one with other white space around some of its marks. -/
inductive Relaid : List Char → List Char → Prop
  /-- Nothing is left. -/
  | nil : Relaid [] []
  /-- A character stays. -/
  | char (c : Char) {cs ds : List Char} (h : Relaid cs ds) : Relaid (c :: cs) (c :: ds)
  /-- A mark gets other white space around it. -/
  | mark {m : Char} (hm : isMark m = true) {before before' behind behind' : List Char}
      (hb : ∀ c ∈ before ++ behind, isBlank c = true)
        (hb' : ∀ c ∈ before' ++ behind', isBlank c = true)
      {cs ds : List Char} (h : Relaid cs ds) :
      Relaid (before ++ m :: (behind ++ cs)) (before' ++ m :: (behind' ++ ds))

theorem relaid_joinBraces (cs : List Char) : Relaid cs (joinBraces cs) := by
  -- the induction is on the length, since the whole gap in front of a hanging brace goes in one
  -- step
  induction hl : cs.length using Nat.strongRecOn generalizing cs with
  | _ n ih =>
    cases cs with
    | nil =>
      rw [joinBraces]
      exact .nil
    | cons c cs =>
      cases hb : hangingBrace? (c :: cs) with
      | none =>
        rw [joinBraces_cons_of_none hb]
        exact .char c (ih cs.length (by rw [← hl, List.length_cons]; omega) cs rfl)
      | some rest =>
        obtain ⟨gap, he, -, hg, inside, rfl⟩ := exists_of_hangingBrace? hb
        have hbrace : hangingBrace? ('{' :: inside) = none := by
          cases hi : hangingBrace? ('{' :: inside) with
          | none => rfl
          | some _ =>
            obtain ⟨below, _, hd, -⟩ := hangingBrace?_eq_some_iff.1 hi
            simp [isGap] at hd
        have hinside : Relaid inside (joinBraces inside) := by
          refine ih inside.length ?_ inside rfl
          rw [← hl, he]
          simp
          omega
        rw [joinBraces_of_some hb, joinBraces_cons_of_none hbrace, he]
        exact @Relaid.mark '{' (by decide) gap [' '] [] [] (by simpa using hg)
          (by decide) _ _ hinside

theorem relaid_spread (cs : List Char) : Relaid cs (cs.flatMap spread) := by
  induction cs with
  | nil => exact .nil
  | cons c cs ih =>
    rw [List.flatMap_cons, spread]
    split
    · next hc =>
        exact hc ▸ @Relaid.mark '{' (by decide) [] [] [] ['\n'] (by simp) (by decide) _ _ ih
    · split
      · next hc =>
          exact hc ▸ @Relaid.mark '}' (by decide) [] ['\n'] [] ['\n'] (by simp) (by decide) _ _ ih
      · split
        · next hc =>
            exact hc ▸ @Relaid.mark ';' (by decide) [] [] [] ['\n'] (by simp) (by decide) _ _ ih
        · exact .char c ih

theorem relaid_refl (cs : List Char) : Relaid cs cs := by
  induction cs with
  | nil => exact .nil
  | cons c cs ih => exact .char c ih

theorem relaid_broken (layout : Layout) (cs : List Char) : Relaid cs (layout.broken cs) := by
  rw [Layout.broken]
  split
  · exact relaid_spread cs
  · exact relaid_refl cs

/-! ### Words and blanks in a text laid out anew -/

section Mark

variable {m : Char} (hm : isMark m = true) {gap : List Char} (hg : ∀ c ∈ gap, isBlank c = true)
    (rest : List Char)

include hm hg

theorem wordStop_gap_mark : WordStop (gap ++ m :: rest) :=
  wordStop_gap_cons hg (isWord_of_isMark hm) rest

theorem skipBlanks_gap_mark : skipBlanks (gap ++ m :: rest) = m :: rest := by
  rw [skipBlanks_append hg, skipBlanks_of_bareStart (bareStart_cons (isBlank_of_isMark hm) rest)]

end Mark

/-- A mark and white space around it hold nothing else. -/
theorem notMem_gap_mark {c m : Char} (hc : isBlank c = false) (hcm : isMark c = false)
    (hm : isMark m = true) {before behind : List Char}
    (hb : ∀ c ∈ before ++ behind, isBlank c = true) : c ∉ before ++ m :: behind := by
  intro h
  have hor : c = m ∨ c ∈ before ++ behind := by
    rcases List.mem_append.1 h with h | h
    · exact .inr (List.mem_append_left _ h)
    · exact (List.mem_cons.1 h).imp id (List.mem_append_right _)
  rcases hor with rfl | h
  · rw [hm] at hcm
    cases hcm
  · rw [hb c h] at hc
    cases hc

/-- A word may start behind white space and a mark. -/
theorem freeAfter_gap_mark {m : Char} (hm : isMark m = true) {behind : List Char}
    (hb : ∀ c ∈ behind, isBlank c = true) (free : Bool) (before : List Char) :
    freeAfter endsWord free (before ++ m :: behind) = true := by
  rw [freeAfter_append, freeAfter_cons, endsWord, isWord_of_isMark hm]
  exact freeAfter_blanks (fun c => endsWord_of_isBlank) hb

section Relaid

variable {cs ds : List Char} (h : Relaid cs ds)

include h

theorem Relaid.word_eq : word ds = word cs := by
  induction h with
  | nil => rfl
  | char c h ih => exact word_cons_congr ih
  | mark hm hb hb' h ih =>
    rw [word_of_wordStop (wordStop_gap_mark hm (List.forall_mem_append.1 hb).1 _),
      word_of_wordStop (wordStop_gap_mark hm (List.forall_mem_append.1 hb').1 _)]

theorem Relaid.afterWord : Relaid (afterWord cs) (afterWord ds) := by
  induction h with
  | nil => exact .nil
  | @char c cs ds h ih =>
    rw [Text.afterWord, Text.afterWord, List.dropWhile_cons, List.dropWhile_cons]
    split
    · exact ih
    · exact .char c h
  | mark hm hb hb' h ih =>
    rw [afterWord_of_wordStop (wordStop_gap_mark hm (List.forall_mem_append.1 hb).1 _),
      afterWord_of_wordStop (wordStop_gap_mark hm (List.forall_mem_append.1 hb').1 _)]
    exact .mark hm hb hb' h

/-- What stands first behind white space stands there before, and what stands behind that, if it is
no mark. -/
theorem Relaid.skipBlanks_eq_cons {c : Char} {t' : List Char} (hs : skipBlanks ds = c :: t') :
    ∃ t, skipBlanks cs = c :: t ∧ (isMark c = false → Relaid t t') := by
  induction h with
  | nil => cases hs
  | @char d cs ds h ih =>
    cases hd : isBlank d with
    | true =>
      have hblank : ∀ c ∈ [d], isBlank c = true := by simpa using hd
      rw [← List.singleton_append, skipBlanks_append hblank] at hs ⊢
      exact ih hs
    | false =>
      rw [skipBlanks_of_bareStart (bareStart_cons hd ds)] at hs
      cases hs
      exact ⟨cs, skipBlanks_of_bareStart (bareStart_cons hd cs), fun _ => h⟩
  -- the gaps around a mark may differ, but the mark is what is left in both
  | mark hm hb hb' h ih =>
    rw [skipBlanks_gap_mark hm (List.forall_mem_append.1 hb').1] at hs
    cases hs
    exact ⟨_, skipBlanks_gap_mark hm (List.forall_mem_append.1 hb).1 _,
      fun hn => absurd hm (by simp [hn])⟩

/-- A place of a text laid out anew at which no white space and no mark stands is a place of the
text. -/
theorem Relaid.split {c : Char} (hc : isBlank c = false) (hm : isMark c = false) {p s : List Char}
    (he : ds = p ++ c :: s) :
    ∃ u v, cs = u ++ c :: v ∧ Relaid v s ∧ (∀ d ∈ u, isBlank d = false → d ∈ p) ∧
      ∀ free, freeAfter endsWord free p = true → freeAfter endsWord free u = true := by
  induction h generalizing p with
  | nil => cases p <;> cases he
  | @char c' cs ds h ih =>
    cases p with
    | nil =>
      cases he
      exact ⟨[], cs, rfl, h, by simp, fun free hf => hf⟩
    | cons d p =>
      cases he
      obtain ⟨u, v, rfl, hv, hu, hf⟩ := ih rfl
      refine ⟨c' :: u, v, rfl, hv, ?_, fun free hp => ?_⟩
      · intro d hd hb
        rcases List.mem_cons.1 hd with rfl | hd
        · exact List.mem_cons_self
        · exact List.mem_cons_of_mem _ (hu d hd hb)
      · rw [freeAfter_cons] at hp ⊢
        exact hf _ hp
  | @mark m hmark before before' behind behind' hb hb' cs ds h ih =>
    -- the place is not among the white space and the mark that come first
    have he' : (before' ++ m :: behind') ++ ds = p ++ c :: s := by rw [← he]; simp
    obtain ⟨p', rfl, rfl⟩ := exists_of_append_eq (notMem_gap_mark hc hm hmark hb') he'
    obtain ⟨u, v, rfl, hv, hu, hf⟩ := ih rfl
    refine ⟨(before ++ m :: behind) ++ u, v, by simp, hv, ?_, fun free hp => ?_⟩
    · intro d hd hbare
      rcases List.mem_append.1 hd with hd | hd
      · -- of the part in front only the mark is no white space
        have hdm : d = m := by
          by_contra hne
          have hmem : d ∈ before ++ behind := by simpa [hne] using hd
          rw [hb d hmem] at hbare
          cases hbare
        rw [hdm]
        simp
      · exact List.mem_append_right _ (hu d hd hbare)
    · rw [freeAfter_append, freeAfter_gap_mark hmark (List.forall_mem_append.1 hb').2] at hp
      rw [freeAfter_append, freeAfter_gap_mark hmark (List.forall_mem_append.1 hb).2]
      exact hf true hp

end Relaid

/-! ### Heads in a text laid out anew -/

theorem afterMark?_eq_some_iff {mark : Char} {cs rest : List Char} :
    afterMark? mark cs = some rest ↔ skipBlanks cs = mark :: rest := by
  rw [afterMark?]
  constructor
  · intro h
    split at h
    · next c r hs =>
      split at h
      · next hc => cases h; rw [hs, hc]
      · cases h
    · cases h
  · intro h
    rw [h]
    exact if_pos rfl

section Relaid

variable {cs ds : List Char} (h : Relaid cs ds)

include h

theorem Relaid.afterMark? {mark : Char} {rest : List Char} (hr : afterMark? mark ds = some rest) :
    ∃ rest', P4Outline.afterMark? mark cs = some rest' := by
  obtain ⟨rest', hcs, -⟩ := h.skipBlanks_eq_cons (afterMark?_eq_some_iff.1 hr)
  exact ⟨rest', afterMark?_eq_some_iff.2 hcs⟩

theorem Relaid.after? {o : Opening} {rest : List Char} (hr : o.after? ds = some rest) :
    ∃ rest', o.after? cs = some rest' := by
  cases o with
  | brace => exact h.afterMark? hr
  | parenthesis => exact h.afterMark? hr
  | typeParameters =>
    suffices hs : ∃ inside rest', afterTypeParameters? cs = some inside ∧
        P4Outline.afterMark? '(' inside = some rest' by
      obtain ⟨inside, rest', hi, hr'⟩ := hs
      exact ⟨rest', Option.bind_eq_some_iff.2 ⟨inside, hi, hr'⟩⟩
    obtain ⟨inside, hi, hm⟩ := Option.bind_eq_some_iff.1 hr
    obtain ⟨gap', hg', he'⟩ := exists_skipBlanks cs
    obtain ⟨gap, hg, ⟨params, hp, rfl⟩ | ⟨rfl, hbare, hne⟩⟩ := cases_of_afterTypeParameters? hi
    · have hskip : skipBlanks (gap ++ '<' :: (params ++ '>' :: inside)) =
          '<' :: (params ++ '>' :: inside) := by
        rw [skipBlanks_append hg, skipBlanks_of_bareStart (bareStart_cons (by decide) _)]
      obtain ⟨t, hcs, ht⟩ := h.skipBlanks_eq_cons hskip
      -- the brackets close at the same place, since nothing between them but white space has
      -- changed
      obtain ⟨params', inside', rfl, hinside, hparams, -⟩ :=
        (ht (by decide)).split (by decide) (by decide) rfl
      obtain ⟨rest', hr'⟩ := hinside.afterMark? hm
      refine ⟨inside', rest', ?_, hr'⟩
      rw [he', hcs]
      exact afterTypeParameters?_brackets hg' (fun hm => hp (hparams '>' hm (by decide))) inside'
    · have hds : skipBlanks (gap ++ inside) = '(' :: rest := by
        rw [skipBlanks_append hg, afterMark?_eq_some_iff.1 hm]
      obtain ⟨rest', hcs, -⟩ := h.skipBlanks_eq_cons hds
      have hstart : BareStart ('(' :: rest') := bareStart_cons (by decide) rest'
      refine ⟨'(' :: rest', rest', ?_, afterMark?_eq_some_iff.2 (skipBlanks_of_bareStart hstart)⟩
      rw [he', hcs]
      exact afterTypeParameters?_none hg' hstart (by simp)

/-- A text with other white space around its marks has no other head at its front. -/
theorem Relaid.head? {k : Kind} {name rest : List Char} (hh : k.head? ds = some (name, rest)) :
    ∃ rest', k.head? cs = some (name, rest') := by
  obtain ⟨hw, -, rfl, hne, hafter⟩ := Kind.head?_eq_some_iff.1 hh
  cases hds : skipBlanks (Text.afterWord ds) with
  | nil =>
    rw [hds] at hne
    exact absurd rfl hne
  | cons c t' =>
    rw [hds] at hne hafter
    have hc : isWord c = true := by
      rw [← Bool.not_eq_false]
      intro hc
      exact hne (word_cons_of_false hc t')
    obtain ⟨t, hcs, ht⟩ := h.afterWord.skipBlanks_eq_cons hds
    have hnamed : Relaid (c :: t) (c :: t') := .char c (ht (isMark_of_isWord hc))
    obtain ⟨rest', hr'⟩ := hnamed.afterWord.after? hafter
    refine ⟨rest', Kind.head?_eq_some_iff.2 ⟨h.word_eq ▸ hw, ?_, by rw [hcs, hnamed.word_eq],
      hne, by rw [hcs]; exact hr'⟩⟩
    -- no word ends where the name begins
    obtain ⟨gap, hg, he⟩ := exists_skipBlanks (Text.afterWord cs)
    cases gap with
    | nil =>
      have hstop := wordStop_afterWord cs c (by rw [he, hcs]; rfl)
      rw [hc] at hstop
      cases hstop
    | cons b gap => exact ⟨b, _, he, hg b List.mem_cons_self⟩

end Relaid

/-! ### Heads anywhere in a text -/

/-- Whether the head of a declaration of a kind and a name stands anywhere in a text. -/
def Kind.HasHead (k : Kind) (name cs : List Char) : Prop :=
  ∃ u v rest, cs = u ++ v ∧ freeAfter endsWord true u = true ∧ k.head? v = some (name, rest)

theorem Kind.hasHead_of_inLine? {k : Kind} {line : List Char} {head : List Char × List Char}
    (h : k.inLine? line = some head) : k.HasHead head.1 line := by
  obtain ⟨u, v, he, hu, hv⟩ := Kind.exists_of_inLine? h
  exact ⟨u, v, head.2, he, hu, hv⟩

/-- A head on a line is a head of the text. -/
theorem Kind.HasHead.of_mem_pieces {k : Kind} {name cs line : List Char} (h : k.HasHead name line)
    (hm : line ∈ pieces '\n' cs) : k.HasHead name cs := by
  obtain ⟨front, behind, rfl, hfront, -⟩ := exists_of_mem_pieces hm
  obtain ⟨u, v, rest, rfl, hu, hv⟩ := h
  obtain ⟨text, rfl, -, htext⟩ := Kind.exists_text_of_head? hv
  refine ⟨front ++ u, text ++ rest ++ behind, rest ++ behind, by simp, ?_, ?_⟩
  · rw [freeAfter_append, freeAfter_of_line hfront]
    exact hu
  · rw [List.append_assoc]
    exact htext _

/-- A text with other white space around its marks has no other heads. -/
theorem Relaid.hasHead {cs ds : List Char} (h : Relaid cs ds) {k : Kind} {name : List Char}
    (hh : k.HasHead name ds) :
    k.HasHead name cs := by
  obtain ⟨p, s, rest, rfl, hp, hs⟩ := hh
  obtain ⟨c, w, hc⟩ := List.exists_cons_of_ne_nil k.keyword_ne_nil
  have hkeyword : isWord c = true :=
    Kind.isWord_of_mem_keyword c (by rw [hc]; exact List.mem_cons_self)
  obtain ⟨gap, opening, rfl, -⟩ := Kind.exists_parts_of_head? hs
  rw [hc] at h hs
  obtain ⟨u, v, rfl, hv, -, hfree⟩ :=
    h.split (isBlank_of_isWord hkeyword) (isMark_of_isWord hkeyword) rfl
  obtain ⟨rest', hr⟩ := (Relaid.char c hv).head? hs
  exact ⟨u, c :: v, rest', rfl, hfree true hp, hr⟩

/-- The text that the lines of a source are made of. -/
def Source.Layout.uncommented (layout : Layout) (cs : List Char) : List Char :=
  if layout.stripComments then withoutComments cs else cs

/-- A head on a line of a source is a head of the text that the lines are made of. -/
theorem Kind.hasHead_of_mem_lines {k : Kind} {layout : Layout} {cs line : List Char}
    (hm : line ∈ layout.lines cs) {name : List Char} (h : k.HasHead name line) :
    k.HasHead name (layout.uncommented cs) :=
  (relaid_joinBraces _).hasHead ((relaid_broken layout _).hasHead (h.of_mem_pieces hm))

/-! ### Heads of a given name -/

theorem isSome_pastBlanks? {α : Type _} {read? : List Char → Option α} {gap cs : List Char}
    (hg : ∀ c ∈ gap, isBlank c = true) (hne : gap ≠ []) (h : (read? cs).isSome) :
    (pastBlanks? read? (gap ++ cs)).isSome := by
  induction gap with
  | nil => exact absurd rfl hne
  | cons c gap ih =>
    rw [List.cons_append, pastBlanks?, if_pos (hg c List.mem_cons_self), Option.isSome_or,
      Bool.or_eq_true]
    cases gap with
    | nil => exact .inr h
    | cons d gap => exact .inl (ih (fun e he => hg e (List.mem_cons_of_mem _ he)) (by simp))

/-- A head is read by its name. -/
theorem Kind.isSome_headNamed? {k : Kind} {cs name rest : List Char}
    (h : k.head? cs = some (name, rest)) :
    (k.headNamed? name cs).isSome := by
  obtain ⟨gap, opening, rfl, hg, hgap, -, -, -, hafter⟩ := Kind.exists_parts_of_head? h
  have hname : k.afterName? name (name ++ opening) = some rest := by
    rw [Kind.afterName?, isPrefixOf?_eq_some_iff.2 rfl]
    exact hafter
  rw [Kind.headNamed?, isPrefixOf?_eq_some_iff.2 rfl]
  exact isSome_pastBlanks? hg hgap (by rw [hname]; rfl)

/-- A head of a text is found by its name. -/
theorem Kind.HasHead.isSome_offset? {k : Kind} {name cs : List Char} (h : k.HasHead name cs) :
    (k.offset? (String.ofList name) (String.ofList cs)).isSome := by
  obtain ⟨u, v, rest, rfl, hu, hv⟩ := h
  obtain ⟨-, -, -, hne, -⟩ := Kind.head?_eq_some_iff.1 hv
  have hv' : v ≠ [] := by
    rintro rfl
    exact absurd (Kind.mem_of_head? hv) (by simp)
  have hname : (String.ofList name).isEmpty = false :=
    String.isEmpty_eq_false_iff.2 (ofList_ne_empty hne)
  rw [Kind.offset?, Kind.find?, hname, String.toList_ofList, String.toList_ofList,
    Option.isSome_map]
  cases hf : first? (k.headNamed? name) endsWord true (u ++ v) with
  | some found => rfl
  | none =>
    have hnone := first?_eq_none_iff.1 hf u v rfl hv' hu
    have hsome := Kind.isSome_headNamed? hv
    rw [hnone] at hsome
    cases hsome

end P4Outline

import P4Outline.Command.Run
import P4Outline.Proofs.Brace
import P4Outline.Proofs.Occurrence

/-!
# The body of an action

The body of an action is cut out behind the head that its name finds, so that it belongs to the
place that is told with it. A search for a head with parameters and an opening brace behind it would
find no other one: what stands behind a later head of the name stands behind the first one, too.

* `Source.block?_eq_some_iff`: the block behind an opening brace is the least text that closes it.
* `Kind.headNamed?_eq_some_iff_parts`: the head of a given name, which may be any text.
* `BodyAt.first`: behind the first head of an action a body opens if behind any head of it one does.
* `actionBody?_of_ne_empty`: which body is found, and where it is said to be.
-/

namespace P4Outline

open P4Outline.Text P4Outline.Source

/-! ### The least text that closes a brace -/

namespace Source

/-- A closing brace at the end is one more, and no opening one. -/
theorem count_concat_closing (inside : List Char) :
    (inside ++ ['}']).count '{' = inside.count '{' ∧
    (inside ++ ['}']).count '}' = inside.count '}' + 1 := by
  rw [List.count_append, List.count_append]
  exact ⟨rfl, rfl⟩

/-- Whether a text holds more closing than opening braces, and no proper beginning of it does. -/
structure Closes (body : List Char) : Prop where
  more : body.count '{' < body.count '}'
  least : ∀ front, front <+: body → front ≠ body → front.count '}' ≤ front.count '{'

/-- A text that closes a brace does so with its last character. -/
theorem closes_iff {body : List Char} : Closes body ↔
    ∃ inside, body = inside ++ ['}'] ∧ balance inside = 0 ∧
      ∀ front, front <+: inside → 0 ≤ balance front := by
  constructor
  -- all beginnings of the text have not closed yet, so that only its last character can
  · intro h
    have hmore := h.more
    rcases List.eq_nil_or_concat body with rfl | ⟨inside, c, hbody⟩
    · exact absurd hmore (by decide)
    · rw [List.concat_eq_append] at hbody
      subst hbody
      have hfront {front : List Char} (hf : front <+: inside) : 0 ≤ balance front := by
        have hne : front ≠ inside ++ [c] := by
          rintro rfl
          have hlength := hf.length_le
          rw [List.length_append, List.length_singleton] at hlength
          omega
        have hle := h.least front (hf.trans (List.prefix_append _ _)) hne
        rw [balance]
        omega
      have hinside := hfront (List.prefix_refl inside)
      rw [balance] at hinside
      have hc : c = '}' := by
        by_contra hne
        have hnone : [c].count '}' = 0 := List.count_eq_zero_of_not_mem (by simpa using Ne.symm hne)
        rw [List.count_append, List.count_append] at hmore
        omega
      subst hc
      obtain ⟨hopen, hclose⟩ := count_concat_closing inside
      exact ⟨inside, rfl, by rw [balance]; omega, fun front => hfront⟩
  · rintro ⟨inside, rfl, hb, hfront⟩
    rw [balance] at hb
    obtain ⟨hopen, hclose⟩ := count_concat_closing inside
    refine ⟨?_, fun front hf hne => ?_⟩
    · rw [hopen, hclose]
      omega
    · have hle := hfront front ((List.prefix_concat_iff.1 hf).resolve_left hne)
      rw [balance] at hle
      omega

/-- The closing brace that is found is the one that closes a text. -/
theorem closing?_of_closedAt {inner n : Nat} {cs : List Char} (h : ClosedAt inner cs n) :
    closing? inner cs = some n := by
  obtain ⟨inside, rest, rfl, rfl, hb, hfront⟩ := h
  induction inside generalizing inner with
  | nil =>
    have hinner : inner = 0 := by
      have hzero : balance [] = 0 := rfl
      omega
    rw [hinner]
    rfl
  | cons c inside ih =>
    have hstep {inner' : Nat} (hc : balance [c] = inner' - inner) :
        closing? inner' (inside ++ '}' :: rest) = some (inside.length + 1) := by
      refine ih (by rw [balance_cons] at hb; omega) fun front hf => ?_
      have hle := hfront (c :: front) (List.cons_prefix_cons.2 ⟨rfl, hf⟩)
      rw [balance_cons] at hle
      omega
    rw [List.cons_append, closing?.eq_def]
    dsimp only
    by_cases ho : c = '{'
    · subst ho
      have hopen : balance ['{'] = 1 := rfl
      rw [if_pos rfl, @hstep (inner + 1) (by omega)]
      rfl
    · by_cases hc : c = '}'
      · subst hc
        have hclose : balance ['}'] = -1 := rfl
        -- one of the open braces is closed, so that there is one
        have hle := hfront ['}'] (List.cons_prefix_cons.2 ⟨rfl, List.nil_prefix⟩)
        obtain ⟨inner, rfl⟩ := Nat.exists_eq_add_of_lt (show 0 < inner by omega)
        rw [if_neg ho, if_pos rfl, Nat.zero_add]
        dsimp only
        rw [@hstep inner (by omega)]
        rfl
      · have hnone : balance [c] = 0 :=
          balance_of_notMem (by simpa using Ne.symm ho) (by simpa using Ne.symm hc)
        rw [if_neg ho, if_neg hc, @hstep inner (by omega)]
        rfl

/-- The block behind an opening brace is the least text that closes it. -/
theorem block?_eq_some_iff {cs body : List Char} :
    block? cs = some body ↔ ∃ rest, cs = body ++ rest ∧ Closes body := by
  constructor
  · intro h
    obtain ⟨inside, rest, hcs, hbody, hb, hfront⟩ := exists_of_block? h
    exact ⟨rest, hcs, closes_iff.2 ⟨inside, hbody, hb, hfront⟩⟩
  · rintro ⟨rest, rfl, hc⟩
    obtain ⟨inside, rfl, hb, hfront⟩ := closes_iff.1 hc
    have hclosed : ClosedAt 0 (inside ++ ['}'] ++ rest) (inside.length + 1) :=
      ⟨inside, rest, by simp, rfl, by simpa using hb, by simpa using hfront⟩
    rw [block?, closing?_of_closedAt hclosed, Option.map_some,
      List.take_append_of_le_length (by simp), List.take_of_length_le (by simp)]

end Source

/-! ### Searches -/

theorem afterFirst?_eq_some_iff {mark : Char} {cs rest : List Char} :
    afterFirst? mark cs = some rest ↔ ∃ before, cs = before ++ mark :: rest ∧ mark ∉ before := by
  constructor
  · intro h
    rw [afterFirst?] at h
    split at h
    · next c _ hd =>
      cases h
      have hc : c = mark := by
        have hhead := List.head?_dropWhile_not (fun d => decide (d ≠ mark)) cs
        rw [hd] at hhead
        simpa using hhead
      refine ⟨cs.takeWhile fun d => decide (d ≠ mark), ?_, fun hm => ?_⟩
      · rw [← hc, ← hd, ← hc, List.takeWhile_append_dropWhile]
      · simpa using List.mem_takeWhile_imp hm
    · cases h
  · rintro ⟨before, rfl, hm⟩
    have hother : ∀ c ∈ before, decide (c ≠ mark) = true := by
      intro c hc
      exact decide_eq_true fun he => hm (he ▸ hc)
    rw [afterFirst?, List.dropWhile_append_of_pos hother, List.dropWhile_cons, if_neg (by simp)]

/-- What can be read at a place is found there or before. -/
theorem exists_first?_le {α : Type _} {read? : List Char → Option α} {after : Char → Bool}
    {free : Bool} {u v : List Char} {a : α} (hv : v ≠ []) (hu : freeAfter after free u = true)
    (hr : read? v = some a) :
    ∃ n b, first? read? after free (u ++ v) = some (n, b) ∧ n ≤ u.length := by
  induction u generalizing free with
  | nil =>
    rw [freeAfter_nil] at hu
    exact ⟨0, a, by rw [hu]; exact first?_of_front hv hr, Nat.le_refl 0⟩
  | cons c u ih =>
    rw [freeAfter_cons] at hu
    obtain ⟨n, b, hf, hn⟩ := ih hu
    rw [List.cons_append, first?, hf]
    cases (if free then read? (c :: (u ++ v)) else none) with
    | some b' => exact ⟨0, b', rfl, Nat.zero_le _⟩
    | none => exact ⟨n + 1, b, rfl, Nat.succ_le_succ hn⟩

/-! ### Heads of a name that is any text -/

/-- A name and a mark are told apart from the white space in front of the name in one way only,
whatever the name is. -/
theorem eq_of_named_eq {mark : Char} (hm : isBlank mark = false)
    {name gap₁ gap₂ gap₁' gap₂' rest₁ rest₂ : List Char} (h₁ : ∀ c ∈ gap₁, isBlank c = true)
    (h₂ : ∀ c ∈ gap₂, isBlank c = true) (h₁' : ∀ c ∈ gap₁', isBlank c = true)
    (h₂' : ∀ c ∈ gap₂', isBlank c = true)
    (h : gap₁ ++ (name ++ (gap₁' ++ mark :: rest₁)) = gap₂ ++ (name ++ (gap₂' ++ mark :: rest₂))) :
    rest₁ = rest₂ := by
  have hskip {gap rest : List Char} (hg : ∀ c ∈ gap, isBlank c = true) :
      skipBlanks (gap ++ mark :: rest) = mark :: rest := by
    rw [skipBlanks_append hg, skipBlanks_of_bareStart (bareStart_cons hm rest)]
  -- the name may begin with white space itself, or be nothing else
  obtain ⟨lead, hlead, hname⟩ := exists_skipBlanks name
  have hbare := congrArg skipBlanks h
  rw [skipBlanks_append h₁, skipBlanks_append h₂, hname, List.append_assoc, List.append_assoc,
    skipBlanks_append hlead, skipBlanks_append hlead] at hbare
  by_cases hcore : skipBlanks name = []
  · rw [hcore, List.nil_append, List.nil_append, hskip h₁', hskip h₂'] at hbare
    exact (List.cons.inj hbare).2
  · have hstart := bareStart_skipBlanks name
    rw [skipBlanks_of_bareStart (bareStart_append hstart hcore _),
      skipBlanks_of_bareStart (bareStart_append hstart hcore _)] at hbare
    have hbehind := congrArg skipBlanks (List.append_cancel_left hbare)
    rw [hskip h₁', hskip h₂'] at hbehind
    exact (List.cons.inj hbehind).2

/-- A head of a name without type parameters: the keyword, white space, the name and the opening
mark. -/
theorem Kind.headNamed?_eq_some_iff_parts {k : Kind} (hk : k.opening ≠ .typeParameters)
    {name cs inside : List Char} :
    k.headNamed? name cs = some inside ↔
      ∃ gap gap', cs = k.keyword ++ (gap ++ (name ++ (gap' ++ k.opening.mark :: inside))) ∧
        gap ≠ [] ∧
        (∀ c ∈ gap, isBlank c = true) ∧ ∀ c ∈ gap', isBlank c = true := by
  have hread {inside : List Char} (h : k.headNamed? name cs = some inside) :
      ∃ gap gap', cs = k.keyword ++ (gap ++ (name ++ (gap' ++ k.opening.mark :: inside))) ∧
        gap ≠ [] ∧
        (∀ c ∈ gap, isBlank c = true) ∧ ∀ c ∈ gap', isBlank c = true := by
    obtain ⟨behind, hp, hb⟩ := Option.bind_eq_some_iff.1 h
    obtain ⟨gap, named, rfl, hg, hgap, hn⟩ := Kind.exists_of_pastBlanks? hb
    obtain ⟨opening, ho, hafter⟩ := Option.bind_eq_some_iff.1 hn
    obtain ⟨gap', hg', rfl⟩ := Opening.exists_gap_of_after? hk hafter
    exact ⟨gap, gap', by rw [eq_append_of_isPrefixOf? hp, eq_append_of_isPrefixOf? ho],
      hgap, hg, hg'⟩
  refine ⟨hread, ?_⟩
  rintro ⟨gap, gap', rfl, hgap, hg, hg'⟩
  have hafter : k.opening.after? (gap' ++ k.opening.mark :: inside) = some inside := by
    cases ho : k.opening with
    | brace => exact afterMark?_append (by decide) hg' inside
    | parenthesis => exact afterMark?_append (by decide) hg' inside
    | typeParameters => exact absurd ho hk
  -- that the reader finds anything is shown first; what it finds then has the same parts, and these
  -- are unique since neither a name nor a mark is blank
  have hsome :
      (k.headNamed? name
        (k.keyword ++ (gap ++ (name ++ (gap' ++ k.opening.mark :: inside))))).isSome := by
    rw [headNamed?, isPrefixOf?_eq_some_iff.2 rfl]
    refine isSome_pastBlanks? hg hgap ?_
    rw [afterName?, isPrefixOf?_eq_some_iff.2 rfl, Option.bind_some, hafter]
    rfl
  obtain ⟨inside₁, h₁⟩ := Option.isSome_iff_exists.1 hsome
  obtain ⟨gap₁, gap₁', he, -, hg₁, hg₁'⟩ := hread h₁
  rw [h₁, eq_of_named_eq k.opening.isBlank_mark hg₁ hg hg₁' hg' (List.append_cancel_left he).symm]

/-- Whether a head of an action of a name starts at an offset of a text, where `inside` is the text
behind its opening. -/
def ActionAt (name cs : List Char) (start : Nat) (inside : List Char) : Prop :=
  ∃ front gap gap', cs = front ++ ("action".toList ++ (gap ++ (name ++ (gap' ++ '(' :: inside)))) ∧
    front.length = start ∧
    freeAfter endsWord true front = true ∧ gap ≠ [] ∧ (∀ c ∈ gap, isBlank c = true) ∧
      ∀ c ∈ gap', isBlank c = true

theorem actionAt_iff {name cs inside : List Char} {start : Nat} : ActionAt name cs start inside ↔
    ∃ u v, cs = u ++ v ∧ u.length = start ∧ freeAfter endsWord true u = true ∧
      Kind.action.headNamed? name v = some inside := by
  have hparts {v : List Char} :=
    @Kind.headNamed?_eq_some_iff_parts .action (by decide) name v inside
  constructor
  · rintro ⟨front, gap, gap', rfl, hstart, hfree, hgap, hg, hg'⟩
    exact ⟨front, _, rfl, hstart, hfree, hparts.2 ⟨gap, gap', rfl, hgap, hg, hg'⟩⟩
  · rintro ⟨u, v, rfl, hstart, hfree, hv⟩
    obtain ⟨gap, gap', rfl, hgap, hg, hg'⟩ := hparts.1 hv
    exact ⟨u, gap, gap', rfl, hstart, hfree, hgap, hg, hg'⟩

/-- Where a head starts says what stands behind its opening. -/
theorem ActionAt.unique {name cs inside₁ inside₂ : List Char} {start : Nat}
    (h₁ : ActionAt name cs start inside₁) (h₂ : ActionAt name cs start inside₂) :
    inside₁ = inside₂ := by
  obtain ⟨u, v, rfl, rfl, -, h₁⟩ := actionAt_iff.1 h₁
  obtain ⟨u', v', he, hu', -, h₂⟩ := actionAt_iff.1 h₂
  obtain ⟨rfl, rfl⟩ := List.append_inj he hu'.symm
  exact Option.some.inj (h₁.symm.trans h₂)

/-- Behind the first occurrence of a mark stands all that stands behind another one. -/
theorem suffix_of_first_mark {mark : Char} {front rest p s : List Char} (hm : mark ∉ front)
    (he : front ++ mark :: rest = p ++ mark :: s) : s <:+ rest := by
  obtain ⟨between, -, hbetween⟩ := exists_of_append_eq hm he
  cases between with
  | nil =>
    cases hbetween
    exact List.suffix_refl _
  | cons c between =>
    obtain ⟨-, rfl⟩ := List.cons.inj hbetween
    exact (List.suffix_cons mark s).trans (List.suffix_append between _)

/-- What stands behind the opening of a later head stands behind that of the first one, too. -/
theorem ActionAt.suffix {name cs inside₁ inside₂ : List Char} {start₁ start₂ : Nat}
    (h₁ : ActionAt name cs start₁ inside₁) (h₂ : ActionAt name cs start₂ inside₂)
    (hlt : start₁ < start₂) : inside₂ <:+ inside₁ := by
  obtain ⟨front₁, gap₁, gap₁', rfl, rfl, -, -, hg₁, hg₁'⟩ := h₁
  obtain ⟨front₂, gap₂, gap₂', he, rfl, -, -, -, -⟩ := h₂
  have hkeyword : "action".toList = 'a' :: "ction".toList := by decide
  -- the later keyword stands behind the white space of the first head
  obtain ⟨between, hnamed⟩ : ∃ between, name ++ (gap₁' ++ '(' :: inside₁) =
      between ++ ("action".toList ++ (gap₂ ++ (name ++ (gap₂' ++ '(' :: inside₂)))) := by
    rcases List.append_eq_append_iff.1 he with ⟨d, rfl, hd⟩ | ⟨d, rfl, -⟩
    · have hnot : 'a' ∉ "ction".toList ++ gap₁ := by
        refine fun hm => (List.mem_append.1 hm).elim (by decide) fun hm => ?_
        exact absurd (hg₁ 'a' hm) (by decide)
      cases d with
      | nil => simp at hlt
      | cons c d =>
        rw [hkeyword, List.cons_append, List.cons_append] at hd
        have hbehind := (List.cons.inj hd).2
        rw [← List.append_assoc] at hbehind
        obtain ⟨between, -, hbetween⟩ := exists_of_append_eq hnot hbehind
        exact ⟨between, hbetween⟩
    · rw [List.length_append] at hlt
      omega
  -- so the later name ends behind the first one
  have hsplit : between ++ ("action".toList ++ (gap₂ ++ (name ++ (gap₂' ++ '(' :: inside₂)))) =
      (between ++ ("action".toList ++ (gap₂ ++ name))) ++ (gap₂' ++ '(' :: inside₂) := by
    simp only [List.append_assoc]
  rw [hsplit] at hnamed
  rcases List.append_eq_append_iff.1 hnamed with ⟨e, -, hopening⟩ | ⟨e, hname, -⟩
  · rw [← List.append_assoc] at hopening
    refine suffix_of_first_mark (fun hm => ?_) hopening
    have hblank := hg₁' _ hm
    exact absurd hblank (by decide)
  · have hlength := congrArg List.length hname
    simp only [List.length_append, hkeyword, List.length_cons] at hlength
    omega

/-- Whether a head of an action of a name starts at an offset of a text, where `inside` is the text
behind the first opening brace behind the first closing parenthesis of what follows. -/
def BodyAt (name cs : List Char) (start : Nat) (inside : List Char) : Prop :=
  ∃ parameters results, ActionAt name cs start (parameters ++ ')' :: (results ++ '{' :: inside)) ∧
    ')' ∉ parameters ∧
    '{' ∉ results

theorem ActionAt.bodyAt_iff {name cs opened inside : List Char} {start : Nat}
    (h : ActionAt name cs start opened) :
    BodyAt name cs start inside ↔
      (afterFirst? ')' opened).bind (afterFirst? '{') = some inside := by
  constructor
  · rintro ⟨parameters, results, h', hp, hr⟩
    rw [h.unique h', afterFirst?_eq_some_iff.2 ⟨parameters, rfl, hp⟩]
    exact afterFirst?_eq_some_iff.2 ⟨results, rfl, hr⟩
  · intro hopened
    obtain ⟨behind, hbehind, hinside⟩ := Option.bind_eq_some_iff.1 hopened
    obtain ⟨parameters, rfl, hp⟩ := afterFirst?_eq_some_iff.1 hbehind
    obtain ⟨results, rfl, hr⟩ := afterFirst?_eq_some_iff.1 hinside
    exact ⟨parameters, results, h, hp, hr⟩

/-- Whether a body opens behind a head can be told from the end of what stands behind it. -/
theorem ActionAt.exists_bodyAt {name cs opened behind : List Char} {start : Nat}
    (h : ActionAt name cs start opened) (hs : behind <:+ opened)
    {parameters results inside : List Char}
    (hb : behind = parameters ++ ')' :: (results ++ '{' :: inside)) :
    ∃ inside, BodyAt name cs start inside := by
  obtain ⟨front, rfl⟩ := hs
  obtain ⟨parameters', rest, he, hp⟩ :=
    List.eq_append_cons_of_mem (show ')' ∈ front ++ behind by rw [hb]; simp)
  have hsuffix : results ++ '{' :: inside <:+ rest := by
    refine suffix_of_first_mark hp (p := front ++ parameters) ?_
    rw [← he, hb, List.append_assoc]
  obtain ⟨results', inside', hrest, hr⟩ :=
    List.eq_append_cons_of_mem (hsuffix.subset (show '{' ∈ _ by simp))
  exact ⟨inside', parameters', results', by rw [← hrest, ← he]; exact h, hp, hr⟩

/-! ### Heads that are found -/

section Name

variable {name source : String} (hne : name ≠ "")

include hne

/-- The head of an action that is found by its name. -/
theorem actionAt_of_find? {start : Nat} {inside : List Char}
    (h : Kind.action.find? name source = some (start, inside)) :
    ActionAt name.toList source.toList start inside := by
  rw [Kind.find?, String.isEmpty_eq_false_iff.2 hne] at h
  exact actionAt_iff.2 (exists_at_of_first? h)

/-- No head of an action of a name starts before the one that is found. -/
theorem ActionAt.exists_find?_le {start : Nat} {inside : List Char}
    (h : ActionAt name.toList source.toList start inside) :
    ∃ first opened, Kind.action.find? name source = some (first, opened) ∧ first ≤ start := by
  obtain ⟨u, v, hsource, rfl, hu, hv⟩ := actionAt_iff.1 h
  have hv' : v ≠ [] := by
    rintro rfl
    cases hv
  rw [Kind.find?, String.isEmpty_eq_false_iff.2 hne, hsource]
  exact exists_first?_le hv' hu hv

/-- Behind the first head of an action a body opens if behind any head of it one does. -/
theorem BodyAt.first {start : Nat} {inside : List Char}
    (h : BodyAt name.toList source.toList start inside) :
    ∃ first inside, Kind.action.offset? name source = some first ∧ first ≤ start ∧
      BodyAt name.toList source.toList first inside := by
  obtain ⟨parameters, results, hhead, hp, hr⟩ := h
  obtain ⟨first, opened, hfind, hle⟩ := hhead.exists_find?_le hne
  have hfirst := actionAt_of_find? hne hfind
  have hsuffix : parameters ++ ')' :: (results ++ '{' :: inside) <:+ opened := by
    rcases Nat.lt_or_eq_of_le hle with hlt | rfl
    · exact hfirst.suffix hhead hlt
    · obtain rfl := hfirst.unique hhead
      exact List.suffix_refl _
  obtain ⟨inside', hinside⟩ := hfirst.exists_bodyAt hsuffix rfl
  exact ⟨first, inside', by rw [Kind.offset?, hfind]; rfl, hle, hinside⟩

/-- The body that is found is the least text that closes the brace behind the head that is found. -/
theorem actionBody?_eq_some_iff {body : String} : actionBody? name source = some body ↔
    ∃ start inside, Kind.action.offset? name source = some start ∧
      BodyAt name.toList source.toList start inside ∧
      ∃ rest, inside = body.toList ++ rest ∧ Closes body.toList := by
  have hbody {start : Nat} {opened : List Char}
      (hfind : Kind.action.find? name source = some (start, opened)) :
      actionBody? name source =
        ((afterFirst? ')' opened).bind (afterFirst? '{')).bind fun inside =>
          (block? inside).map String.ofList := by
    rw [actionBody?, hfind, Option.bind_assoc]
    rfl
  constructor
  · intro h
    cases hfind : Kind.action.find? name source with
    | none =>
      rw [actionBody?, hfind] at h
      cases h
    | some found =>
      obtain ⟨start, opened⟩ := found
      rw [hbody hfind] at h
      obtain ⟨inside, hinside, hblock⟩ := Option.bind_eq_some_iff.1 h
      obtain ⟨text, htext, rfl⟩ := Option.map_eq_some_iff.1 hblock
      refine ⟨start, inside, by rw [Kind.offset?, hfind]; rfl,
        (actionAt_of_find? hne hfind).bodyAt_iff.2 hinside, ?_⟩
      rw [String.toList_ofList]
      exact block?_eq_some_iff.1 htext
  · rintro ⟨start, inside, hoffset, hopen, hblock⟩
    obtain ⟨⟨start, opened⟩, hfind, rfl⟩ := Option.map_eq_some_iff.1 hoffset
    rw [hbody hfind, (actionAt_of_find? hne hfind).bodyAt_iff.1 hopen, Option.bind_some,
      block?_eq_some_iff.2 hblock, Option.map_some, String.ofList_toList]

end Name

/-! ### Bodies that are printed -/

/-- A body is printed behind the place of the head that is found. -/
theorem Program.printAction_of_actionBody? (p : Program) (console : Console) {name body : String}
    {start : Nat} (hbody : actionBody? name p.source = some body)
    (hoffset : Kind.action.offset? name p.source = some start) :
    p.printAction console name =
      (console.say (styled "cyan" ("action ".toList ++ console.escape name.toList) ++ " (".toList ++
        placeText ⟨start, lineOf p.source.toList start⟩ ++ [')'])).map
          (· ++ console.plain body.toList) := by
  rw [printAction, hbody, Kind.locate?, hoffset]
  rfl

theorem Program.printAction_of_no_actionBody (p : Program) (console : Console) {name : String}
    (h : actionBody? name p.source = none) :
    p.printAction console name =
      console.say
        (styled "yellow" ("Action not found: ".toList ++ console.escape name.toList)) := by
  rw [printAction, h]

/-- A body of an action is found if and only if, at the head that the name finds, a parenthesis is
closed, a brace is opened behind it, and the text behind that brace closes it; the body is the least
text that does. If no body is found there, there is none at a later head. What is printed with the
body, on whatever console, is the place of that head. -/
theorem actionBody?_of_ne_empty (name source : String) (hne : name ≠ "") :
    (∀ body, actionBody? name source = some body ↔
      ∃ start inside, Kind.action.offset? name source = some start ∧
        BodyAt name.toList source.toList start inside ∧
        ∃ rest, inside = body.toList ++ rest ∧ Closes body.toList) ∧
    (∀ body, actionBody? name source = some body →
      body.toList.getLast? = some '}' ∧ body.toList.count '}' = body.toList.count '{' + 1 ∧
        (∀ front, front <+: body.toList → front ≠ body.toList →
          front.count '}' ≠ front.count '{' + 1) ∧
          body ≠ "Action not found") ∧
    (∀ start inside, BodyAt name.toList source.toList start inside →
      ∃ first inside, Kind.action.offset? name source = some first ∧ first ≤ start ∧
        BodyAt name.toList source.toList first inside) ∧
    ∀ (p : Program) (console : Console), p.source = source →
      (∀ body, actionBody? name source = some body →
        ∃ start inside, Kind.action.offset? name source = some start ∧
          BodyAt name.toList source.toList start inside ∧ body.toList <+: inside ∧
            p.printAction console name =
              (console.say (styled "cyan" ("action ".toList ++ console.escape name.toList) ++
                " (".toList ++ placeText ⟨start, lineOf source.toList start⟩ ++ [')'])).map
                  (· ++ console.plain body.toList)) ∧
      (actionBody? name source = none →
        p.printAction console name =
          console.say
            (styled "yellow" ("Action not found: ".toList ++ console.escape name.toList))) := by
  refine ⟨fun body => actionBody?_eq_some_iff hne, fun body hbody => ?_,
    fun start inside h => h.first hne, ?_⟩
  · obtain ⟨-, -, -, -, -, -, hcloses⟩ := (actionBody?_eq_some_iff hne).1 hbody
    obtain ⟨inside, htext, hb, -⟩ := closes_iff.1 hcloses
    have hlast : body.toList.getLast? = some '}' := by rw [htext, List.getLast?_concat]
    refine ⟨hlast, ?_, fun front hf hproper => ?_, ?_⟩
    · obtain ⟨hopen, hclose⟩ := count_concat_closing inside
      rw [balance] at hb
      rw [htext, hopen, hclose]
      omega
    · have := hcloses.least front hf hproper
      omega
    · rintro rfl
      exact absurd hlast (by decide)
  -- what is printed is told by the same head that the body was cut out behind
  · rintro p console rfl
    refine ⟨fun body hbody => ?_, p.printAction_of_no_actionBody console⟩
    obtain ⟨start, inside, hoffset, hopen, rest, hinside, -⟩ :=
      (actionBody?_eq_some_iff hne).1 hbody
    exact ⟨start, inside, hoffset, hopen, ⟨rest, hinside.symm⟩,
      p.printAction_of_actionBody? console hbody hoffset⟩

/-- An action that is declared twice, first with braces in its body. -/
def declaredTwice : String :=
  "action set(in bit<9> p) \x7b if (p > 0) \x7b q = p; \x7d \x7d action set() \x7b \x7d"

theorem actionBody?_declaredTwice : "set" ≠ "" ∧
    actionBody? "set" declaredTwice = some " if (p > 0) \x7b q = p; \x7d \x7d" ∧
    (" if (p > 0) \x7b q = p; \x7d \x7d".toList.count '}' =
      " if (p > 0) \x7b q = p; \x7d \x7d".toList.count '{' + 1) ∧
    ∃ start inside, Kind.action.offset? "set" declaredTwice = some start ∧
      BodyAt "set".toList declaredTwice.toList start inside ∧
        ∃ rest, inside = " if (p > 0) \x7b q = p; \x7d \x7d".toList ++ rest ∧
          Closes " if (p > 0) \x7b q = p; \x7d \x7d".toList := by
  have hne : "set" ≠ "" := by decide
  have hbody : actionBody? "set" declaredTwice = some " if (p > 0) \x7b q = p; \x7d \x7d" := by
    decide +kernel
  obtain ⟨hfound, hshape, -, -⟩ := actionBody?_of_ne_empty "set" declaredTwice hne
  exact ⟨hne, hbody, (hshape _ hbody).2.1, (hfound _).1 hbody⟩

/-- A brace that is never closed leaves the first action without a body, and a later one is not
looked for. -/
example : Kind.action.offset? "set" "action set() \x7b \x7b \x7d action set() \x7b \x7d" = some 0 ∧
    actionBody? "set" "action set() \x7b \x7b \x7d action set() \x7b \x7d" = none := by
  decide +kernel

end P4Outline

import Mathlib.Algebra.Ring.Nat
import Mathlib.Data.List.Flatten
import P4Outline.Proofs.Lookup
import P4Outline.Proofs.Occurrence

/-!
# What an outline lists is listed in the source

An outline takes at most one declaration from each line, and a listing takes every declaration of
the source. Where comments are left in, the lines hold the heads of the source in their order, so
each control lists some of the declarations of the source in that order, and all controls together
list none of them twice.

* `Kind.headNames_lines_sublist`: the heads on the lines of a text are heads of the text, in their
  order.
* `Relaid.headNames_eq`: white space around marks makes no head and undoes none.
* `Scan.drawnFrom_of_run`: what is listed behind some lines is drawn from what is declared on them.
* `Outline.lists_of_listing`: what an outline lists is found, and listed at least as often.
-/

namespace P4Outline

open P4Outline.Text P4Outline.Source

/-! ### The names in heads -/

/-- The names in the heads of a kind in a text, in order; one may stand at the very front if
`free`. -/
def Kind.headNames (k : Kind) (free : Bool) : List Char → List String
  | [] => []
  | c :: cs =>
    (if free then (k.head? (c :: cs)).map fun head => String.ofList head.1 else none).toList
      ++ k.headNames (endsWord c) cs

section Names

variable {k : Kind} {free : Bool}

theorem Kind.map_name_headsFrom (offset : Nat) (cs : List Char) :
    (k.headsFrom offset free cs).map (·.name) = k.headNames free cs := by
  induction cs generalizing offset free with
  | nil => rfl
  | cons c cs ih =>
    rw [headsFrom, List.map_append, ih, headNames, occurrence?]
    congr 1
    cases free with
    | false => rfl
    | true => cases k.head? (c :: cs) <;> rfl

/-- Without type parameters every head is listed. -/
theorem Kind.namesIn_eq_headNames (hk : k.opening ≠ .typeParameters) (source : String) :
    k.namesIn source = k.headNames true source.toList := by
  rw [namesIn, occurrences, occurrencesFrom_eq_headsFrom hk, map_name_headsFrom]

theorem Kind.headNames_gap {gap : List Char} (hg : ∀ c ∈ gap, isWord c = false) (cs : List Char) :
    k.headNames free (gap ++ cs) = k.headNames (freeAfter endsWord free gap) cs := by
  rw [← map_name_headsFrom 0, headsFrom_gap hg, map_name_headsFrom]

/-- What stands behind a text adds heads to it and takes none away. -/
theorem Kind.headNames_append_sublist (u v : List Char) :
    (k.headNames free u ++ k.headNames (freeAfter endsWord free u) v).Sublist
    (k.headNames free (u ++ v)) := by
  induction u generalizing free with
  | nil => exact List.Sublist.refl _
  | cons c u ih =>
    rw [List.cons_append, headNames, headNames, freeAfter_cons, List.append_assoc]
    refine List.Sublist.append ?_ ih
    -- a head of the first text stays a head when text is added behind it; one that only the whole
    -- text completes is the surplus of the right side
    cases free with
    | false => exact List.Sublist.refl _
    | true =>
      cases hh : k.head? (c :: u) with
      | none => exact List.nil_sublist _
      | some head =>
        obtain ⟨name, rest⟩ := head
        obtain ⟨text, he, -, hmore⟩ := Kind.exists_text_of_head? hh
        have hv : k.head? (c :: (u ++ v)) = some (name, rest ++ v) := by
          rw [← List.cons_append, he, List.append_assoc]
          exact hmore _
        rw [if_pos rfl, if_pos rfl, hv]
        exact List.Sublist.refl _

/-- The heads on the lines of a text are heads of the text, in their order. -/
theorem Kind.headNames_lines_sublist (cs : List Char) :
    ((pieces '\n' cs).flatMap (k.headNames true)).Sublist (k.headNames true cs) := by
  induction hl : cs.length using Nat.strongRecOn generalizing cs with
  | _ n ih =>
    by_cases hn : '\n' ∈ cs
    -- a line's heads are heads of the text, since a break ends every word
    · obtain ⟨line, below, rfl, hline⟩ := List.eq_append_cons_of_mem hn
      have hbelow := ih below.length (by rw [← hl]; simp; omega) below rfl
      have hbreak : k.headNames (freeAfter endsWord true line) ('\n' :: below) =
          k.headNames true below :=
        @Kind.headNames_gap k _ ['\n'] (by decide) below
      have happend := @Kind.headNames_append_sublist k true line ('\n' :: below)
      rw [hbreak] at happend
      rw [pieces_append_cons, pieces_of_notMem hline, List.singleton_append, List.flatMap_cons]
      exact (hbelow.append_left _).trans happend
    · have hone : (pieces '\n' cs).flatMap (k.headNames true) = k.headNames true cs := by
        rw [pieces_of_notMem hn, List.flatMap_singleton]
      exact hone ▸ List.Sublist.refl _

/-- A search for a head comes to the first one. -/
theorem Kind.first?_head? (cs : List Char) :
    (first? k.head? endsWord free cs).map (fun found => String.ofList found.2.1) =
    (k.headNames free cs).head? := by
  induction cs generalizing free with
  | nil => rfl
  | cons c cs ih =>
    have hrest :
      ((first? k.head? endsWord (endsWord c) cs).map fun found => (found.1 + 1, found.2)).map
        (fun found => String.ofList found.2.1) = (k.headNames (endsWord c) cs).head? := by
      rw [← ih, Option.map_map]
      rfl
    rw [first?, headNames, List.head?_append, ← hrest]
    cases free with
    | false => rfl
    | true => cases k.head? (c :: cs) <;> rfl

/-- The head that a line is read by is the first one on it. -/
theorem Kind.inLine?_sublist (line : List Char) :
    ((k.inLine? line).map fun head => String.ofList head.1).toList.Sublist
    (k.headNames true line) := by
  have hfirst : ((k.inLine? line).map fun head => String.ofList head.1) =
      (k.headNames true line).head? := by
    rw [← first?_head?, inLine?, Option.map_map]
    rfl
  rw [hfirst]
  cases k.headNames true line <;> simp

end Names

/-! ### White space around marks -/

theorem Relaid.symm {cs ds : List Char} (h : Relaid cs ds) : Relaid ds cs := by
  induction h with
  | nil => exact .nil
  | char c h ih => exact .char c ih
  | mark hm hb hb' h ih => exact .mark hm hb' hb ih

/-- White space around marks makes no head and undoes none. -/
theorem Relaid.headNames_eq {cs ds : List Char} (h : Relaid cs ds) (k : Kind) (free : Bool) :
    k.headNames free ds = k.headNames free cs := by
  induction h generalizing free with
  | nil => rfl
  | @char c cs ds h ih =>
    rw [Kind.headNames, Kind.headNames, ih]
    congr 2
    -- heads are read alike in both directions, so that one that is missing in one text is missing
    -- in the other
    cases free with
    | false => rfl
    | true =>
      rw [if_pos rfl, if_pos rfl]
      cases hds : k.head? (c :: ds) with
      | some head =>
        obtain ⟨name, rest⟩ := head
        obtain ⟨rest', hcs⟩ := (Relaid.char c h).head? hds
        rw [hcs]
        rfl
      | none =>
        cases hcs : k.head? (c :: cs) with
        | none => rfl
        | some head =>
          obtain ⟨name, rest⟩ := head
          obtain ⟨rest', hds'⟩ := (Relaid.char c h).symm.head? hcs
          rw [hds] at hds'
          cases hds'
  | @mark m hm before before' behind behind' hb hb' cs ds h ih =>
    have hgap {before behind : List Char} (hb : ∀ c ∈ before ++ behind, isBlank c = true)
        (rest : List Char) :
        k.headNames free (before ++ m :: (behind ++ rest)) = k.headNames true rest := by
      have hword : ∀ c ∈ before ++ m :: behind, isWord c = false := by
        intro c hc
        rw [List.mem_append, List.mem_cons] at hc
        rcases hc with hc | rfl | hc
        · exact isWord_of_isBlank (hb c (List.mem_append_left _ hc))
        · exact isWord_of_isMark hm
        · exact isWord_of_isBlank (hb c (List.mem_append_right _ hc))
      have hsplit : before ++ m :: (behind ++ rest) = (before ++ m :: behind) ++ rest := by simp
      rw [hsplit, Kind.headNames_gap hword, freeAfter_gap_mark hm (List.forall_mem_append.1 hb).2]
    rw [hgap hb', hgap hb, ih]

/-! ### What lines declare -/

/-- The names that lines declare with a kind's keyword: of each line the first one, if there is
one. -/
def Kind.firstNames (k : Kind) (lines : List (List Char)) : List String :=
  lines.flatMap fun line => ((k.inLine? line).map fun head => String.ofList head.1).toList

theorem Kind.firstNames_cons (k : Kind) (line : List Char) (lines : List (List Char)) :
    k.firstNames (line :: lines) = k.firstNames [line] ++ k.firstNames lines := by
  rw [firstNames, firstNames, List.flatMap_cons, List.flatMap_singleton, firstNames]

theorem Kind.firstNames_of_inLine? {k : Kind} {line : List Char} {head : List Char × List Char}
    (h : k.inLine? line = some head) : k.firstNames [line] = [String.ofList head.1] := by
  rw [firstNames, List.flatMap_singleton, h]
  rfl

/-- What the lines of a text declare is declared in the text, in the order of the lines. -/
theorem Kind.firstNames_sublist (k : Kind) {layout : Layout} (hl : layout.stripComments = false)
    (cs : List Char) :
    (k.firstNames (layout.lines cs)).Sublist (k.headNames true cs) := by
  have hlines : layout.lines cs = pieces '\n' (layout.broken (joinBraces cs)) := by
    rw [Layout.lines, hl]
    rfl
  rw [← (relaid_joinBraces cs).headNames_eq, ← (relaid_broken layout _).headNames_eq, hlines]
  refine List.Sublist.trans ?_ (Kind.headNames_lines_sublist _)
  exact List.Sublist.flatMap_right _ fun line _ => Kind.inLine?_sublist line

/-! ### What controls list -/

/-- What a control lists of a kind, in order. -/
def Control.names (c : Control) : Kind → List String
  | .table => c.tables.keys
  | .action => c.actions
  | _ => []

/-- Whether what the controls of an outline list of a kind is drawn from some names: what each
control lists stands among them in this order, and all controls together list no name more often
than it stands there. -/
structure Outline.DrawnFrom (k : Kind) (o : Outline) (names : List String) : Prop where
  sublist : ∀ c ∈ o.controls.values, (c.names k).Sublist names
  count_le : ∀ name, (o.controls.values.map fun c => (c.names k).count name).sum ≤ names.count name

section Sum

variable {α : Type _} {g : α → Nat} {name : String}

theorem sum_insertEntry_le {a : α} (ha : g a = 0) (es : List (String × α)) :
    (((insertEntry name a es).map Prod.snd).map g).sum ≤ ((es.map Prod.snd).map g).sum := by
  induction es with
  | nil => simp [insertEntry, ha]
  | cons e es ih =>
    obtain ⟨n, b⟩ := e
    rw [insertEntry]
    split
    · simp [ha]
    · simpa using ih

/-- At most one record is changed. -/
theorem sum_modifyEntry_le {f : α → α} {n : Nat} (hf : ∀ a, g (f a) ≤ g a + n)
    (es : List (String × α)) :
    (((modifyEntry name f es).map Prod.snd).map g).sum ≤ ((es.map Prod.snd).map g).sum + n := by
  induction es with
  | nil => simp [modifyEntry]
  | cons e es ih =>
    obtain ⟨n', b⟩ := e
    rw [modifyEntry]
    split
    · have := hf b
      simp only [List.map_cons, List.sum_cons]
      omega
    · simp only [List.map_cons, List.sum_cons]
      omega

end Sum

section Drawn

variable {k : Kind} {o : Outline} {names : List String}

theorem Outline.DrawnFrom.mono {more : List String} (h : o.DrawnFrom k names)
    (hs : names.Sublist more) :
    o.DrawnFrom k more where
  sublist c hc := (h.sublist c hc).trans hs
  count_le name := (h.count_le name).trans (hs.count_le name)

theorem Outline.DrawnFrom.openControl (h : o.DrawnFrom k names) (control : String) :
    (o.openControl control).DrawnFrom k names := by
  -- a control that is opened lists nothing
  have hempty : Control.names {} k = [] := by cases k <;> rfl
  refine ⟨fun c hc => ?_, fun name => ?_⟩
  · obtain ⟨e, he, rfl⟩ := List.mem_map.1 hc
    rcases mem_insertEntry he with rfl | he
    · rw [hempty]
      exact List.nil_sublist _
    · exact h.sublist _ (List.mem_map_of_mem he)
  · exact (sum_insertEntry_le (by rw [hempty]; rfl) _).trans (h.count_le name)

/-- A change of a control that adds no more than some names draws from these, too. -/
theorem Outline.DrawnFrom.modifyControl (h : o.DrawnFrom k names) (control : String)
    {f : Control → Control} {added : List String}
    (hf : ∀ c : Control, ((f c).names k).Sublist (c.names k ++ added)) :
    (o.modifyControl control f).DrawnFrom k (names ++ added) := by
  refine ⟨fun c hc => ?_, fun name => ?_⟩
  · obtain ⟨e, he, rfl⟩ := List.mem_map.1 hc
    rcases mem_modifyEntry he with he | ⟨a, ha, rfl⟩
    · exact (h.sublist _ (List.mem_map_of_mem he)).trans (List.sublist_append_left _ _)
    · exact (hf a).trans ((h.sublist _ (List.mem_map.2 ⟨_, ha, rfl⟩)).append (List.Sublist.refl _))
  · have hcount (c : Control) :
        ((f c).names k).count name ≤ (c.names k).count name + added.count name := by
      rw [← List.count_append]
      exact (hf c).count_le name
    have hsum :=
      @sum_modifyEntry_le _ (fun c => (c.names k).count name) control f _ hcount o.controls.entries
    rw [List.count_append]
    exact hsum.trans (Nat.add_le_add_right (h.count_le name) _)

/-- What is listed behind a line is drawn from what was listed before and what the line declares. -/
theorem Scan.Change.drawnFrom {s s' : Scan} {line : List Char} (h : s.Change line s')
    (hd : s.outline.DrawnFrom k names) : s'.outline.DrawnFrom k (names ++ k.firstNames [line]) := by
  cases h with
  | control hc => exact (hd.openControl _).mono (List.sublist_append_left _ _)
  -- the new table is named by the first head of its line; a name that was there stays the one it is
  | table ho =>
    obtain ⟨-, -, -, text, hh, rfl⟩ := Place.opens?_eq_some_iff.1 ho
    refine hd.modifyControl _ fun c => ?_
    cases k with
    | table =>
      rw [Kind.firstNames_of_inLine? hh]
      show (c.tables.insert (String.ofList text) {}).keys.Sublist (c.tables.keys ++ _)
      rw [Keyed.keys_insert]
      split
      · exact List.sublist_append_left _ _
      · exact List.Sublist.refl _
    | _ => exact List.sublist_append_left _ _
  | action hc hh =>
    refine hd.modifyControl _ fun c => ?_
    cases k with
    | action =>
      rw [Kind.firstNames_of_inLine? hh]
      exact List.Sublist.refl _
    | _ => exact List.sublist_append_left _ _
  | @within control table depth block hp f block' =>
    refine hd.modifyControl _ fun c => ?_
    cases k with
    | table =>
      show (c.tables.modify table f).keys.Sublist (c.tables.keys ++ _)
      rw [Keyed.keys_modify]
      exact List.sublist_append_left _ _
    | _ => exact List.sublist_append_left _ _
  | idle => exact hd.mono (List.sublist_append_left _ _)

/-- What is listed behind some lines is drawn from what was listed before and what they declare. -/
theorem Scan.drawnFrom_of_run {keyText : KeyText} {s s' : Scan} {lines : List (List Char)}
    (h : s.run keyText lines = .ok s') (hd : s.outline.DrawnFrom k names) :
    s'.outline.DrawnFrom k (names ++ k.firstNames lines) := by
  induction lines generalizing s names with
  | nil =>
    cases h
    exact hd.mono (List.sublist_append_left _ _)
  | cons line lines ih =>
    obtain ⟨t, ht, h⟩ := Scan.exists_of_run_cons h
    rw [Kind.firstNames_cons, ← List.append_assoc]
    exact ih h ((Scan.change_of_step ht).drawnFrom hd)

end Drawn

/-- What an outline lists is drawn from what the source declares, if comments are left in. -/
theorem Outline.drawnFrom_namesIn {reading : Reading} (hl : reading.layout.stripComments = false)
    {source : String} {o : Outline} (h : Outline.ofSource reading source = .ok o) {k : Kind}
    (hk : k.opening ≠ .typeParameters) :
    o.DrawnFrom k (k.namesIn source) := by
  obtain ⟨s, hs, rfl⟩ := Outline.exists_run_of_ofSource h
  have hstart : Outline.DrawnFrom k {} [] :=
    ⟨by simp [Keyed.values, Keyed.empty], by simp [Keyed.values, Keyed.empty]⟩
  rw [Kind.namesIn_eq_headNames hk]
  exact (Scan.drawnFrom_of_run hs hstart).mono (k.firstNames_sublist hl _)

/-- What an outline lists is declared in the source, if comments are left in: it is found there by
its name, what each control lists stands in the listing of the source in this order, and all
controls together list no name more often. -/
theorem Outline.lists_of_listing {splitStatements : Bool} {keyText : KeyText}
    {source : String} {o : Outline}
    (h : Outline.ofSource ⟨⟨splitStatements, false⟩, keyText⟩ source = .ok o) :
    (∀ k name, o.Lists k name → (k.offset? name source).isSome) ∧
    (∀ c ∈ o.controls.values, c.actions.Sublist (Listing.ofSource source).actions ∧
      c.tables.keys.Sublist (Listing.ofSource source).tables) ∧
    ∀ name,
      (o.controls.values.map fun c => c.actions.count name).sum ≤
        (Listing.ofSource source).actions.count name ∧
        (o.controls.values.map fun c => c.tables.keys.count name).sum ≤
          (Listing.ofSource source).tables.count name := by
  have hactions := Outline.drawnFrom_namesIn rfl h (k := .action) (by decide)
  have htables := Outline.drawnFrom_namesIn rfl h (k := .table) (by decide)
  refine ⟨fun k name hl => ?_, fun c hc => ⟨hactions.sublist c hc, htables.sublist c hc⟩,
      fun name =>
    ⟨hactions.count_le name, htables.count_le name⟩⟩
  have hfound : (k.offset? (String.ofList name.toList) (String.ofList source.toList)).isSome :=
    (Outline.hasHead_of_lists h hl).isSome_offset?
  rwa [String.ofList_toList, String.ofList_toList] at hfound

/-- Two controls that share the names of actions, one of them declared twice. -/
def sharedNames : String :=
"control C() \x7b action a() \x7b\x7d table t \x7b \x7d \x7d
control D() \x7b action a() \x7b\x7d action b() \x7b\x7d \x7d
control C() \x7b action b() \x7b\x7d \x7d
"

/-- The action that two controls share is declared twice, too. -/
theorem Outline.lists_sharedNames :
    ∃ o, Outline.ofSource ⟨⟨true, false⟩, .verbatim⟩ sharedNames = .ok o ∧
      o.controls.values.map (·.actions) = [["b"], ["a", "b"]] ∧
        (Kind.action.offset? "b" sharedNames).isSome ∧
        ["a", "b"].Sublist (Listing.ofSource sharedNames).actions ∧
          2 ≤ (Listing.ofSource sharedNames).actions.count "b" := by
  have hactions : (Outline.ofSource ⟨⟨true, false⟩, .verbatim⟩ sharedNames).toOption.map
      (fun o => o.controls.values.map (·.actions)) = some [["b"], ["a", "b"]] := by
    have hchars : sharedNames.toList = _ := String.toList_ofList
    rw [Outline.ofSource_eq_run, hchars]
    decide +kernel
  cases ho : Outline.ofSource ⟨⟨true, false⟩, .verbatim⟩ sharedNames with
  | error e => rw [ho] at hactions; cases hactions
  | ok o =>
    rw [ho] at hactions
    have hvalues : o.controls.values.map (·.actions) = [["b"], ["a", "b"]] :=
      Option.some.inj hactions
    have hmem : ["a", "b"] ∈ o.controls.values.map (·.actions) := by rw [hvalues]; decide
    obtain ⟨c, hc, hca⟩ := List.mem_map.1 hmem
    have hsum : (o.controls.values.map fun c => c.actions.count "b").sum = 2 := by
      show (o.controls.values.map (List.count "b" ∘ Control.actions)).sum = 2
      rw [← List.map_map, hvalues]
      rfl
    obtain ⟨hfound, hsublist, hcount⟩ := Outline.lists_of_listing ho
    refine ⟨o, rfl, hvalues, hfound .action "b" ⟨c, hc, ?_⟩, hca ▸ (hsublist c hc).1,
      hsum ▸ (hcount "b").1⟩
    show "b" ∈ c.actions
    rw [hca]
    decide

end P4Outline

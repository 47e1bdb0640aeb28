import P4Outline.Proofs.Grounded

/-!
# Controls do not depend on each other

A line that declares a control makes the scan forget where it stood, and until the next such line
nothing but the record of that control is touched. So the record of a control is what a scan of the
lines from its last declaration to the next declaration makes of it.

* `Scan.run_within`: lines that declare nothing, in a control.
* `Scan.get?_run`: a control that is not declared on any of the lines.
* `Scan.keys_run`: the names of the controls.
* `Outline.controls_independent`: all of it, of a source.
-/

namespace P4Outline

open P4Outline.Text P4Outline.Source

/-- The controls that a scan declares on its lines, line by line. -/
def Scan.declared (keyText : KeyText) : Scan → List (List Char) → List (Option String)
  | _, [] => []
  | s, line :: lines =>
    s.place.declares? line ::
      match s.step keyText line with
      | .ok s' => s'.declared keyText lines
      | .error _ => []

/-- Whether a control is declared for the last time at `i`, and another one next at `j` or none any
more. -/
structure LastDeclared (marks : List (Option String)) (control : String) (i j : Nat) : Prop where
  here : marks[i]? = some (some control)
  last : ∀ k, i < k → marks[k]? ≠ some (some control)
  lt : i < j
  between : ∀ k, i < k → k < j → marks[k]? = some none
  upto : j = marks.length ∨ ∃ other, marks[j]? = some (some other)

/-- The lines of a source. -/
def Reading.lines (reading : Reading) (source : String) : List (List Char) :=
  reading.layout.lines source.toList

/-- The controls that are declared on the lines of a source, line by line. -/
def Reading.declared (reading : Reading) (source : String) : List (Option String) :=
  Scan.declared reading.keyText {} (reading.lines source)

/-! ### Declared controls, line after line -/

section Declared

variable {keyText : KeyText} {s s' t : Scan} {front lines : List (List Char)}

theorem Scan.exists_of_run_cons {line : List Char} (h : s.run keyText (line :: lines) = .ok s') :
    ∃ t, s.step keyText line = .ok t ∧ t.run keyText lines = .ok s' := by
  cases hstep : s.step keyText line with
  | error e => rw [Scan.run_cons_error hstep] at h; cases h
  | ok t => exact ⟨t, rfl, by rwa [Scan.run_cons hstep] at h⟩

theorem Scan.exists_of_run_append (h : s.run keyText (front ++ lines) = .ok s') :
    ∃ t, s.run keyText front = .ok t ∧ t.run keyText lines = .ok s' := by
  induction front generalizing s with
  | nil => exact ⟨s, rfl, h⟩
  | cons line front ih =>
    obtain ⟨u, hstep, hrun⟩ := Scan.exists_of_run_cons h
    obtain ⟨t, hfront, ht⟩ := ih hrun
    exact ⟨t, by rwa [Scan.run_cons hstep], ht⟩

theorem Scan.declared_cons {line : List Char} (h : s.step keyText line = .ok t)
    (lines : List (List Char)) :
    s.declared keyText (line :: lines) = s.place.declares? line :: t.declared keyText lines := by
  rw [Scan.declared, h]

theorem Scan.declared_append (h : s.run keyText front = .ok t) (lines : List (List Char)) :
    s.declared keyText (front ++ lines) = s.declared keyText front ++ t.declared keyText lines := by
  induction front generalizing s with
  | nil => cases h; rfl
  | cons line front ih =>
    obtain ⟨u, hstep, hrun⟩ := Scan.exists_of_run_cons h
    rw [List.cons_append, Scan.declared_cons hstep, ih hrun, Scan.declared_cons hstep]
    rfl

theorem Scan.length_declared (h : s.run keyText lines = .ok s') :
    (s.declared keyText lines).length = lines.length := by
  induction lines generalizing s with
  | nil => rfl
  | cons line lines ih =>
    obtain ⟨u, hstep, hrun⟩ := Scan.exists_of_run_cons h
    rw [Scan.declared_cons hstep, List.length_cons, ih hrun, List.length_cons]

/-! ### What lines leave alone -/

/-- Before the first control, lines that declare none are passed over. -/
theorem Scan.run_outside (hp : s.place = .outside) (h : s.run keyText lines = .ok s')
    (hd : ∀ mark ∈ s.declared keyText lines, mark = none) : s' = s := by
  induction lines with
  | nil => cases h; rfl
  | cons line lines ih =>
    obtain ⟨u, hstep, hrun⟩ := Scan.exists_of_run_cons h
    rw [Scan.declared_cons hstep] at hd
    rw [Scan.step_outside keyText hp (hd _ List.mem_cons_self)] at hstep
    cases hstep
    exact ih hrun fun mark hm => hd mark (List.mem_cons_of_mem _ hm)

/-- In a control, lines that declare none make of its record what they make of it beside any other
controls. -/
theorem Scan.run_within {control : String} {record : Control} {place : Place} {o : Keyed Control}
    (hp : place.control? = some control) (hf : place.Fits record)
    (h : Scan.run keyText ⟨⟨o.insert control record⟩, place⟩ lines = .ok s')
    (hd : ∀ mark ∈ Scan.declared keyText ⟨⟨o.insert control record⟩, place⟩ lines, mark = none) :
    ∃ record' place', place'.control? = some control ∧ s' = ⟨⟨o.insert control record'⟩, place'⟩ ∧
      ∀ o' : Keyed Control, Scan.run keyText ⟨⟨o'.insert control record⟩, place⟩ lines =
        .ok ⟨⟨o'.insert control record'⟩, place'⟩ := by
  induction lines generalizing record place with
  | nil => cases h; exact ⟨record, place, hp, rfl, fun o' => rfl⟩
  | cons line lines ih =>
    obtain ⟨u, hstep, hrun⟩ := Scan.exists_of_run_cons h
    rw [Scan.declared_cons hstep] at hd
    rcases Scan.step_stays keyText hp hf (hd _ List.mem_cons_self) with
      ⟨record₁, place₁, hp₁, hf₁, hact⟩ | ⟨e, -, hact⟩
    · -- the step is the same beside the other controls, since it does not look at them
      cases (hact o).symm.trans hstep
      obtain ⟨record', place', hp', hs', hrun'⟩ :=
        ih hp₁ hf₁ hrun fun mark hm => hd mark (List.mem_cons_of_mem _ hm)
      exact ⟨record', place', hp', hs', fun o' => by rw [Scan.run_cons (hact o'), hrun' o']⟩
    · cases (hact o).symm.trans hstep

/-- A line changes no other control than the one that it declares, or that the scan stands in. -/
theorem Scan.get?_step {control : String} {line : List Char} (hs : s.Grounded)
    (hp : s.place.control? ≠ some control) (hd : s.place.declares? line ≠ some control)
    (h : s.step keyText line = .ok s') :
    s'.outline.controls.get? control = s.outline.controls.get? control ∧
      s'.place.control? ≠ some control := by
  -- a line may declare another control, do nothing, or change the record of the control it is in
  rcases Scan.step_cases keyText hs line with ⟨other, hd', hstep⟩ | ⟨-, hstep⟩ |
    ⟨-, other, record, place, hp', -, -, hplace, -, hstep⟩ | ⟨e, hstep, -⟩
  · rw [hd'] at hd
    have hne : control ≠ other := fun he => hd (he ▸ rfl)
    rw [h] at hstep
    cases hstep
    exact ⟨by simp [Outline.openControl, hne], fun he => hd he⟩
  · rw [h] at hstep
    cases hstep
    exact ⟨rfl, hp⟩
  · rw [hp'] at hp
    have hne : control ≠ other := fun he => hp (he ▸ rfl)
    rw [h] at hstep
    cases hstep
    exact ⟨by simp [hne], fun he => hp (hplace ▸ he)⟩
  · rw [h] at hstep
    cases hstep

/-- A control that the scan does not stand in, and that no line declares, keeps its record. -/
theorem Scan.get?_run {control : String} (hs : s.Grounded) (hp : s.place.control? ≠ some control)
    (h : s.run keyText lines = .ok s') (hd : some control ∉ s.declared keyText lines) :
    s'.outline.controls.get? control = s.outline.controls.get? control := by
  induction lines generalizing s with
  | nil => cases h; rfl
  | cons line lines ih =>
    obtain ⟨u, hstep, hrun⟩ := Scan.exists_of_run_cons h
    rw [Scan.declared_cons hstep, List.mem_cons, not_or] at hd
    obtain ⟨hget, hp'⟩ := Scan.get?_step hs hp (Ne.symm hd.1) hstep
    rw [ih (Scan.grounded_of_step hs hstep) hp' hrun hd.2, hget]

/-! ### Names -/

theorem eraseDups_of_nodup {names : List String} (h : names.Nodup) : names.eraseDups = names := by
  induction names with
  | nil => rfl
  | cons name names ih =>
    obtain ⟨hn, hnames⟩ := List.nodup_cons.1 h
    have hf : names.filter (fun n => !n == name) = names := by
      rw [List.filter_eq_self]
      intro n hm
      have hne : n ≠ name := fun he => hn (he ▸ hm)
      simp [hne]
    rw [List.eraseDups_cons, hf, ih hnames]

theorem eraseDups_append_cons_of_mem {name : String} {names : List String} (h : name ∈ names)
    (more : List String) :
    (names ++ name :: more).eraseDups = (names ++ more).eraseDups := by
  rw [List.eraseDups_append, List.eraseDups_append, List.removeAll, List.filter_cons,
    if_neg (by simpa using h), List.removeAll]

/-- The names of the controls are those that were there and those that are declared, in order of
their first coming. -/
theorem Scan.keys_run (hs : s.Grounded) (h : s.run keyText lines = .ok s') :
    s'.outline.controls.keys =
      (s.outline.controls.keys ++ (s.declared keyText lines).filterMap id).eraseDups := by
  induction lines generalizing s with
  | nil =>
    cases h
    rw [Scan.declared, List.filterMap_nil, List.append_nil]
    exact (eraseDups_of_nodup s'.outline.controls.nodup).symm
  | cons line lines ih =>
    obtain ⟨u, hstep, hrun⟩ := Scan.exists_of_run_cons h
    rw [Scan.declared_cons hstep, ih (Scan.grounded_of_step hs hstep) hrun]
    -- only a line that declares a control adds a name, and only one that is not there yet
    rcases Scan.step_cases keyText hs line with ⟨control, hd, hstep'⟩ | ⟨hd, hstep'⟩ |
      ⟨hd, control, record, place, -, -, hm, -, -, hstep'⟩ | ⟨e, hstep', -⟩
    · rw [hstep] at hstep'
      cases hstep'
      rw [hd, @List.filterMap_cons_some _ _ id _ _ _ rfl, Outline.openControl, Keyed.keys_insert]
      split
      · next hm => rw [eraseDups_append_cons_of_mem hm]
      · rw [List.append_assoc]
        rfl
    · rw [hstep] at hstep'
      cases hstep'
      rw [hd, @List.filterMap_cons_none _ _ id _ _ rfl]
    · rw [hstep] at hstep'
      cases hstep'
      rw [hd, @List.filterMap_cons_none _ _ id _ _ rfl, Keyed.keys_insert, if_pos hm]
    · rw [hstep] at hstep'
      cases hstep'

/-! ### The last declaration of a control -/

/-- The record of a control is what the lines from its last declaration to the next declaration make
of it. -/
theorem Scan.get?_of_last {control : String} {line : List Char} {part rest : List (List Char)}
    (hs : s.Grounded) (h : s.run keyText (line :: (part ++ rest)) = .ok s')
    (hline : s.place.declares? line = some control)
    (hstart : Scan.run keyText ⟨s.outline.openControl control, .control control⟩ part = .ok t)
    (hpart : ∀ mark ∈ Scan.declared keyText ⟨s.outline.openControl control, .control control⟩ part,
      mark = none)
    (hnext : (t.declared keyText rest).head? ≠ some none)
    (hrest : some control ∉ t.declared keyText rest) :
    ∃ u record, Scan.run keyText {} (line :: part) = .ok u ∧
      u.outline.controls.get? control = some record ∧
      s'.outline.controls.get? control = some record := by
  have hstep := Scan.step_of_declares keyText s hline
  obtain ⟨record, place, hp, rfl, halone⟩ :=
    @Scan.run_within _ _ _ _ {} (.control control) s.outline.controls rfl trivial hstart hpart
  refine ⟨⟨⟨Keyed.empty.insert control record⟩, place⟩, record, ?_, by simp, ?_⟩
  · -- at the start nothing is open, so that the line declares the control there too
    obtain ⟨-, head, hh, hname⟩ := Place.declares?_eq_some_iff.1 hline
    have hfresh : Place.outside.declares? line = some control :=
      Place.declares?_eq_some_iff.2 ⟨rfl, head, hh, hname⟩
    rw [Scan.run_cons (Scan.step_of_declares keyText {} hfresh)]
    exact halone Keyed.empty
  · have hrun : Scan.run keyText ⟨⟨s.outline.controls.insert control record⟩, place⟩ rest =
        .ok s' := by
      rwa [Scan.run_cons hstep, Scan.run_append hstart] at h
    have hgrounded : Scan.Grounded ⟨⟨s.outline.controls.insert control record⟩, place⟩ :=
      Scan.grounded_of_run (Scan.grounded_of_step hs hstep) hstart
    cases rest with
    | nil => cases hrun; simp
    | cons next rest =>
      -- the next declaration is of another control, and the scan leaves this one with it
      obtain ⟨u, hu, hrun'⟩ := Scan.exists_of_run_cons hrun
      rw [Scan.declared_cons hu] at hnext hrest
      cases hd : place.declares? next with
      | none => simp [hd] at hnext
      | some other =>
        rw [hd, List.mem_cons, not_or] at hrest
        have hstep' :=
          Scan.step_of_declares keyText
            (s := ⟨⟨s.outline.controls.insert control record⟩, place⟩) hd
        cases hu.symm.trans hstep'
        have hother : other ≠ control := fun he => hrest.1 (by rw [he])
        rw [Scan.get?_run (Scan.grounded_of_step hgrounded hu)
          (fun he => hother (Option.some.inj he)) hrun' hrest.2]
        simp [Outline.openControl, hother.symm]

end Declared

section Marks

variable {control : String} {mark : Option String} {front part rest : List (Option String)}

theorem getElem?_behind (k : Nat) :
    (front ++ mark :: (part ++ rest))[front.length + 1 + k]? = (part ++ rest)[k]? := by
  rw [List.getElem?_append_right (by omega), show front.length + 1 + k - front.length =
    k + 1 by omega, List.getElem?_cons_succ]

theorem getElem?_part {k : Nat} (hk : k < part.length) :
    (front ++ mark :: (part ++ rest))[front.length + 1 + k]? = some part[k] := by
  rw [getElem?_behind, List.getElem?_append_left hk, List.getElem?_eq_getElem hk]

theorem getElem?_rest (k : Nat) :
    (front ++ mark :: (part ++ rest))[front.length + 1 + part.length + k]? = rest[k]? := by
  rw [Nat.add_assoc, getElem?_behind, List.getElem?_append_right (by omega),
    Nat.add_sub_cancel_left]

/-- The marks around the last declaration of a control. -/
theorem lastDeclared_append_iff {i j : Nat} (hi : front.length = i) (hj : i + 1 + part.length = j) :
    LastDeclared (front ++ mark :: (part ++ rest)) control i j ↔
      mark = some control ∧ (∀ m ∈ part, m = none) ∧ rest.head? ≠ some none ∧
        some control ∉ rest := by
  subst hi hj
  -- the mark stands at `front.length`, and those behind it are reached through `part` and `rest`
  constructor
  · intro h
    refine ⟨by simpa using h.here, ?_, ?_, ?_⟩
    · intro m hm
      obtain ⟨k, hk, rfl⟩ := List.mem_iff_getElem.1 hm
      have hnone := h.between (front.length + 1 + k) (by omega) (by omega)
      rw [getElem?_part hk] at hnone
      exact Option.some.inj hnone
    · rw [List.head?_eq_getElem?, ← @getElem?_rest mark front part rest 0]
      rcases h.upto with hend | ⟨other, hother⟩
      · rw [List.getElem?_eq_none (by omega)]
        simp
      · rw [Nat.add_zero, hother]
        simp
    · intro hm
      obtain ⟨k, hk⟩ := List.mem_iff_getElem?.1 hm
      exact h.last (front.length + 1 + part.length + k) (by omega) (by rw [getElem?_rest, hk])
  · rintro ⟨rfl, hnone, hhead, hnot⟩
    refine ⟨by simp, ?_, by omega, ?_, ?_⟩
    · intro k hk
      obtain ⟨n, rfl⟩ := Nat.exists_eq_add_of_lt hk
      rw [show front.length + n + 1 = front.length + 1 + n by omega, getElem?_behind]
      intro hm
      rcases List.mem_append.1 (List.mem_of_getElem? hm) with hm | hm
      · exact absurd (hnone _ hm) (by simp)
      · exact hnot hm
    · intro k hk hk'
      obtain ⟨n, rfl⟩ := Nat.exists_eq_add_of_lt hk
      have hn : n < part.length := by omega
      rw [show front.length + n + 1 = front.length + 1 + n by omega, getElem?_part hn,
        hnone _ (List.getElem_mem hn)]
    · have hj := @getElem?_rest (some control) front part rest 0
      rw [Nat.add_zero, ← List.head?_eq_getElem?] at hj
      rw [hj]
      cases rest with
      | nil => exact .inl (by simp; omega)
      | cons m rest =>
        cases m with
        | none => exact absurd rfl hhead
        | some other => exact .inr ⟨other, rfl⟩

/-- A control that is declared is declared for the last time. -/
theorem exists_lastDeclared {marks : List (Option String)} (h : some control ∈ marks) :
    ∃ i j, LastDeclared marks control i j := by
  -- from the back: the first mark of the control, and the marks before it up to another control's
  obtain ⟨back, front, hr, hback⟩ := List.eq_append_cons_of_mem (List.mem_reverse.2 h)
  have hmarks : marks = front.reverse ++ some control :: (back.reverse.takeWhile (·.isNone) ++
      back.reverse.dropWhile (·.isNone)) := by
    rw [List.takeWhile_append_dropWhile, ← List.reverse_reverse marks, hr]
    simp
  rw [hmarks]
  refine ⟨_, _, (lastDeclared_append_iff rfl rfl).2 ⟨rfl, ?_, ?_, ?_⟩⟩
  · intro m hm
    simpa using List.mem_takeWhile_imp hm
  · have hd := List.head?_dropWhile_not (·.isNone) back.reverse
    intro hn
    rw [hn] at hd
    simp at hd
  · intro hm
    exact hback (List.mem_reverse.1 ((List.dropWhile_suffix _).subset hm))

end Marks

/-- The record of a control is what a scan of the lines from its last declaration to the next
declaration, and of nothing else, makes of it. -/
theorem Scan.get?_of_lastDeclared {keyText : KeyText} {lines : List (List Char)} {s' : Scan}
    {control : String} {i j : Nat} (h : Scan.run keyText {} lines = .ok s')
    (hl : LastDeclared (Scan.declared keyText {} lines) control i j) :
    ∃ u record, Scan.run keyText {} ((lines.drop i).take (j - i)) = .ok u ∧
      u.outline.controls.get? control = some record ∧
        s'.outline.controls.get? control = some record := by
  have hlength := Scan.length_declared h
  have hi : i < lines.length := by
    rw [← hlength]
    exact (List.getElem?_eq_some_iff.1 hl.here).1
  have hj : j ≤ lines.length := by
    rcases hl.upto with hj | ⟨other, hj⟩
    · omega
    · have hlt := (List.getElem?_eq_some_iff.1 hj).1
      omega
  have hij := hl.lt
  -- the lines before the declaration, its line, those up to the next declaration, and the others
  obtain ⟨n, rfl⟩ := Nat.exists_eq_add_of_lt hij
  have hdrop : lines.drop i =
      lines[i] :: ((lines.drop (i + 1)).take n ++ (lines.drop (i + 1)).drop n) := by
    rw [List.take_append_drop, List.drop_eq_getElem_cons hi]
  have htake : (lines.drop i).take (i + n + 1 - i) = lines[i] :: (lines.drop (i + 1)).take n := by
    rw [List.drop_eq_getElem_cons hi, show i + n + 1 - i = n + 1 by omega, List.take_succ_cons]
  have hlines : lines = lines.take i ++ lines.drop i := (List.take_append_drop i lines).symm
  rw [hdrop] at hlines
  rw [htake]
  rw [hlines] at h hl
  obtain ⟨s, hfront, hrun⟩ := Scan.exists_of_run_append h
  obtain ⟨t, hstep, hrun'⟩ := Scan.exists_of_run_cons hrun
  obtain ⟨u, hpart, -⟩ := Scan.exists_of_run_append hrun'
  rw [Scan.declared_append hfront, Scan.declared_cons hstep, Scan.declared_append hpart] at hl
  have hf : (Scan.declared keyText {} (lines.take i)).length = i := by
    rw [Scan.length_declared hfront, List.length_take]
    omega
  have hp : (t.declared keyText ((lines.drop (i + 1)).take n)).length = n := by
    rw [Scan.length_declared hpart, List.length_take, List.length_drop]
    omega
  obtain ⟨hmark, hnone, hhead, hnot⟩ := (lastDeclared_append_iff hf (by omega)).1 hl
  cases hstep.symm.trans (Scan.step_of_declares keyText s hmark)
  exact Scan.get?_of_last (Scan.grounded_of_run Scan.grounded_start hfront) hrun hmark hpart
    hnone hhead hnot

/-- Lines before the first declaration may as well not be there. -/
theorem Scan.run_drop {keyText : KeyText} {lines : List (List Char)} {s' : Scan} {i : Nat}
    (h : Scan.run keyText {} lines = .ok s')
    (hi : ∀ k < i, (Scan.declared keyText {} lines)[k]? = some none) :
    Scan.run keyText {} (lines.drop i) = .ok s' := by
  have hlines : lines = lines.take i ++ lines.drop i := (List.take_append_drop i lines).symm
  rw [hlines] at h hi
  obtain ⟨t, hfront, hback⟩ := Scan.exists_of_run_append h
  have hnone : ∀ mark ∈ Scan.declared keyText {} (lines.take i), mark = none := by
    intro mark hm
    obtain ⟨k, hk, rfl⟩ := List.mem_iff_getElem.1 hm
    have hki : k < i := by
      rw [Scan.length_declared hfront, List.length_take] at hk
      omega
    have hmark := hi k hki
    rw [Scan.declared_append hfront, List.getElem?_append_left hk,
      List.getElem?_eq_getElem hk] at hmark
    exact Option.some.inj hmark
  rwa [Scan.run_outside rfl hfront hnone] at hback

/-- The controls of an outline are those that are declared, in order of their first declarations.
The record of each is what a scan of the lines from its last declaration to the next declaration,
and of nothing else, makes of it. Lines before the first declaration may as well not be there. -/
theorem Outline.controls_independent {reading : Reading} {source : String} {o : Outline}
    (h : Outline.ofSource reading source = .ok o) :
    o.controls.keys = ((reading.declared source).filterMap id).eraseDups ∧
      (∀ control ∈ o.controls.keys, (∃ i j, LastDeclared (reading.declared source) control i j) ∧
        ∀ i j, LastDeclared (reading.declared source) control i j → ∃ s record,
          Scan.run reading.keyText {} (((reading.lines source).drop i).take (j - i)) = .ok s ∧
            s.outline.controls.get? control = some record ∧ o.controls.get? control = some record) ∧
      ∀ i, (∀ k < i, (reading.declared source)[k]? = some none) →
        (Scan.run reading.keyText {} ((reading.lines source).drop i)).map (·.outline) = .ok o := by
  rw [Outline.ofSource_eq_run] at h
  cases hrun : Scan.run reading.keyText {} (reading.layout.lines source.toList) with
  | error e => rw [hrun] at h; cases h
  | ok s =>
    rw [hrun] at h
    cases h
    have hkeys := Scan.keys_run Scan.grounded_start hrun
    refine ⟨hkeys, ?_, ?_⟩
    · intro control hc
      refine ⟨?_, fun i j hl => Scan.get?_of_lastDeclared hrun hl⟩
      apply exists_lastDeclared
      have hm : control ∈ [] ++ (reading.declared source).filterMap id := by
        rw [hkeys] at hc
        exact List.mem_eraseDups.1 hc
      simpa using hm
    -- lines in front of the first control change nothing that a control is read from
    · intro i hi
      have hdrop : Scan.run reading.keyText {} ((reading.lines source).drop i) = .ok s :=
        Scan.run_drop hrun hi
      rw [hdrop]
      rfl

/-- A program with a table before its first control, and a control that is declared twice. -/
def redeclared : String :=
  "table t \x7b\n\x7d\ncontrol A() \x7b\n  action a() \x7b\x7d\n\x7d\n" ++
    "control B() \x7b\n\x7d\ncontrol A() \x7b\n  table t \x7b\n  \x7d\n\x7d\n"

/-- The control that is declared again keeps its place, and the five lines of the stray table do not
matter. -/
theorem Outline.controls_of_redeclared :
    ∃ o, Outline.ofSource {} redeclared = .ok o ∧ o.controls.keys = ["A", "B"] ∧
    (Scan.run .verbatim {} ((Reading.lines {} redeclared).drop 5)).map (·.outline) = .ok o := by
  have hok : (Outline.ofSource {} redeclared).isOk = true := by decide +kernel
  cases ho : Outline.ofSource {} redeclared with
  | error e => rw [ho] at hok; cases hok
  | ok o =>
    obtain ⟨hkeys, -, hfront⟩ := Outline.controls_independent ho
    exact ⟨o, rfl, hkeys.trans (by decide +kernel), hfront 5 (by decide +kernel)⟩

end P4Outline

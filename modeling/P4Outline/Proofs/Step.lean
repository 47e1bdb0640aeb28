import P4Outline.Outline.Scan
import P4Outline.Proofs.Head
import P4Outline.Proofs.Line

/-!
# One line of a scan

What a line can do, seen from the control that the scan stands in. A line either declares a control,
and then nothing of what was open before counts, or it stays within the control: it changes nothing
but the record of that control, in a way that depends on nothing else, unless it writes out a size
that is too long.

* `Scan.step_of_declares`: a line that declares a control.
* `Scan.step_outside`: a line before the first control.
* `Scan.step_stays`: any other line.
* `Scan.Grounded`: whether the records that a scan looks up are there.
* `Scan.run_bare`: blank lines and indentation change nothing.
-/

namespace P4Outline

open P4Outline.Text P4Outline.Source

/-- The block that is open at a place. -/
def Place.block? : Place → Option Block
  | .table _ _ _ block => block
  | _ => none

/-- The control that is declared on a line where a scan stands, if one is: an open block takes the
line for itself. -/
def Place.declares? (p : Place) (line : List Char) : Option String :=
  if p.block?.isSome then none else (Kind.control.inLine? line).map fun head => String.ofList head.1

/-- Whether a control's record has the table that a place in the control stands in. -/
def Place.Fits (record : Control) : Place → Prop
  | .table _ name _ _ => name ≠ "" ∧ record.tables.contains name = true
  | _ => True

/-- Whether the outline of a scan has the records of the control and of the table that the scan
stands in. -/
def Scan.Grounded (s : Scan) : Prop :=
  ∀ control, s.place.control? = some control →
    control ≠ "" ∧ ∃ record, s.outline.controls.get? control = some record ∧ s.place.Fits record

/-- Whether an error is about a size that a line writes out with too many digits. -/
def TooLong (line : List Char) (e : ScanError) : Prop :=
  ∃ digits, WritesSize digits line ∧ maxDigits < digits.length ∧ e = .sizeTooLong digits.length

/-! ### Places -/

@[simp] theorem Place.control?_count (line : List Char) (p : Place) :
    (p.count line).control? = p.control? := by
  cases p <;> rfl

@[simp] theorem Place.control?_settle (p : Place) : p.settle.control? = p.control? := by
  cases p with
  | table owner name depth block => rw [Place.settle]; split <;> rfl
  | _ => rfl

@[simp] theorem Place.block?_count (line : List Char) (p : Place) :
    (p.count line).block? = p.block? := by
  cases p <;> rfl

@[simp] theorem Place.inTable_count (line : List Char) (p : Place) :
    (p.count line).inTable = p.inTable := by
  cases p <;> rfl

@[simp] theorem Place.declares?_count (p : Place) (line : List Char) :
    (p.count line).declares? line = p.declares? line := by
  rw [declares?, block?_count, declares?]

theorem Place.declares?_eq_some_iff {p : Place} {line : List Char} {control : String} :
    p.declares? line = some control ↔
      p.block? = none ∧ ∃ head, Kind.control.inLine? line = some head ∧
        control = String.ofList head.1 := by
  rw [declares?]
  cases p.block? with
  | none => simp [Option.map_eq_some_iff, @eq_comm _ control]
  | some block => simp

theorem Place.declares?_eq_none_iff {p : Place} {line : List Char} :
    p.declares? line = none ↔ (p.block? = none → Kind.control.inLine? line = none) := by
  rw [declares?]
  cases p.block? with
  | none => simp
  | some block => simp

theorem Place.fits_count {record : Control} {p : Place} (h : p.Fits record) (line : List Char) :
    (p.count line).Fits record := by
  cases p <;> exact h

theorem Place.fits_settle {record : Control} {p : Place} (h : p.Fits record) :
    p.settle.Fits record := by
  cases p with
  | table owner name depth block =>
    rw [Place.settle]
    split
    · exact trivial
    · exact h
  | _ => exact h

theorem Place.fits_modifyTable {record : Control} {p : Place} (h : p.Fits record) (table : String)
    (f : Table → Table) :
    p.Fits (record.modifyTable table f) := by
  cases p with
  | table owner name depth block =>
    refine ⟨h.1, ?_⟩
    rw [Keyed.contains_iff, Control.modifyTable, Keyed.keys_modify]
    exact Keyed.contains_iff.1 h.2
  | _ => exact trivial

theorem Place.fits_addAction {record : Control} {p : Place} (h : p.Fits record) (action : String) :
    p.Fits (record.addAction action) := by
  cases p <;> exact h

/-! ### Lines that stay within a control -/

/-- Whether what is done with an outline stays within a control: it gives the control a new record,
or goes wrong over the size of a line, whatever else there is in the outline. -/
def StaysWithin (control : String) (line : List Char)
    (act : Keyed Control → Except ScanError Scan) : Prop :=
  (∃ record place, place.control? = some control ∧ place.Fits record ∧
    ∀ o, act o = .ok ⟨⟨o.insert control record⟩, place⟩) ∨
  ∃ e, TooLong line e ∧ ∀ o, act o = .error e

section Within

variable {control : String} {record : Control} {place : Place} {line : List Char}

theorem Scan.changeControl_insert (o : Keyed Control) (f : Control → Control) :
    Scan.changeControl ⟨⟨o.insert control record⟩, place⟩ control f =
      .ok ⟨⟨o.insert control (f record)⟩, place⟩ := by
  have hc : (o.insert control record).contains control = true :=
    Keyed.contains_of_get? (a := record) (by simp)
  rw [Scan.changeControl, if_pos hc, Outline.modifyControl, Keyed.modify_insert]

theorem Scan.changeTable_insert (o : Keyed Control) {table : String}
    (h : record.tables.contains table = true) (f : Table → Table) :
    Scan.changeTable ⟨⟨o.insert control record⟩, place⟩ control table f =
      .ok ⟨⟨o.insert control (record.modifyTable table f)⟩, place⟩ := by
  have hg : (o.insert control record).get? control = some record := by simp
  rw [Scan.changeTable]
  dsimp only
  rw [hg]
  dsimp only
  rw [if_pos h, Outline.modifyTable, Outline.modifyControl, Keyed.modify_insert]

theorem StaysWithin.of_record (record : Control) (place : Place)
    {act : Keyed Control → Except ScanError Scan} (hp : place.control? = some control)
    (hf : place.Fits record) (h : ∀ o, act o = .ok ⟨⟨o.insert control record⟩, place⟩) :
    StaysWithin control line act :=
  .inl ⟨record, place, hp, hf, h⟩

theorem StaysWithin.changeTable {table : String} {depth : Int} {block : Option Block}
    (hf : (Place.table control table depth block).Fits record) (f : Table → Table) :
    StaysWithin control line fun o =>
      Scan.changeTable ⟨⟨o.insert control record⟩,
        .table control table depth block⟩ control table f :=
  .of_record _ _ rfl (Place.fits_modifyTable hf table f) fun o => Scan.changeTable_insert o hf.2 f

theorem Scan.readEntry_stays (keyText : KeyText) {table : String} {depth : Int} {block : Block}
    (hf : (Place.table control table depth (some block)).Fits record) :
    StaysWithin control line fun o =>
      Scan.readEntry keyText ⟨⟨o.insert control record⟩,
        .table control table depth (some block)⟩ control table depth block line := by
  unfold Scan.readEntry
  split
  · exact .of_record record (.table control table depth none) rfl hf fun o => rfl
  · split
    · exact .of_record record (.table control table depth (some block)) rfl hf fun o => rfl
    · exact .changeTable hf _

theorem Scan.openBlock_stays (keyText : KeyText) {table : String} {depth : Int}
    {open? : Option Block} (hf : (Place.table control table depth open?).Fits record)
    (block : Block) (rest : List Char) :
    StaysWithin control line fun o =>
      Scan.openBlock keyText ⟨⟨o.insert control record⟩,
        .table control table depth open?⟩ control table depth block rest := by
  unfold Scan.openBlock
  split
  · exact .changeTable hf _
  · exact .of_record record (.table control table depth (some block)) rfl hf fun o => rfl

theorem Scan.obey_stays (keyText : KeyText) {statement : Statement}
    (hp : place.control? = some control) (hf : place.Fits record)
    (hc : ∀ name, statement ≠ .control name)
    (ht : ∀ name depth, statement = .table name depth → name ≠ "")
    (hs : ∀ digits, statement = .size digits → WritesSize digits line) :
    StaysWithin control line fun o => Scan.obey keyText ⟨⟨o.insert control record⟩,
      place⟩ statement := by
  -- what says nothing where the scan stands leaves the record and the place
  have hnone : StaysWithin control line fun o => .ok ⟨⟨o.insert control record⟩, place⟩ :=
    .of_record record place hp hf fun o => rfl
  unfold Scan.obey
  cases statement with
  | control name => exact absurd rfl (hc name)
  | table name depth =>
    dsimp only
    rw [hp]
    refine .of_record (record.openTable name) (.table control name depth none) rfl
      ⟨ht name depth rfl, ?_⟩ ?_
    · exact Keyed.contains_of_get? (a := {}) (by simp [Control.openTable])
    · intro o
      dsimp only
      rw [Scan.changeControl_insert]
      rfl
  | action name =>
    dsimp only
    rw [hp]
    exact .of_record _ place hp (Place.fits_addAction hf name) fun o =>
      Scan.changeControl_insert o _
  | other => exact hnone
  | keys rest =>
    cases place with
    | table owner table depth block => cases hp; exact Scan.openBlock_stays keyText hf .keys rest
    | _ => exact hnone
  | actions rest =>
    cases place with
    | table owner table depth block => cases hp; exact Scan.openBlock_stays keyText hf .actions rest
    | _ => exact hnone
  | defaultAction name =>
    cases place with
    | table owner table depth block => cases hp; exact .changeTable hf _
    | _ => exact hnone
  | size digits =>
    cases place with
    | table owner table depth block =>
      cases hp
      dsimp only
      split
      · exact .changeTable hf _
      · next hl => exact .inr ⟨_, ⟨digits, hs digits rfl, by omega, rfl⟩, fun o => rfl⟩
    | _ => exact hnone

/-- Where no block is open, a line is obeyed. -/
theorem Scan.readLine_of_block? (keyText : KeyText) {s : Scan} (h : s.place.block? = none)
    (line : List Char) :
    s.readLine keyText line = s.obey keyText (Statement.ofLine s.place.inTable line) := by
  obtain ⟨o, place⟩ := s
  cases place with
  | table owner name depth block => cases h; rfl
  | _ => rfl

theorem Scan.readLine_stays (keyText : KeyText) (hp : place.control? = some control)
    (hf : place.Fits record) (hd : place.declares? line = none) :
    StaysWithin control line fun o => Scan.readLine keyText ⟨⟨o.insert control record⟩,
      place⟩ line := by
  cases hb : place.block? with
  | some block =>
    cases place with
    | table owner table depth open? => cases hb; cases hp; exact Scan.readEntry_stays keyText hf
    | _ => simp [Place.block?] at hb
  | none =>
    obtain ⟨hc, ht, hs⟩ := @Statement.of_ofLine place.inTable line _ rfl
    have hread (o : Keyed Control) :=
      @Scan.readLine_of_block? keyText ⟨⟨o.insert control record⟩, place⟩ hb line
    simp only [hread]
    refine Scan.obey_stays keyText hp hf ?_ ht hs
    intro name he
    obtain ⟨head, hh, -⟩ := hc name he
    rw [Place.declares?_eq_none_iff.1 hd hb] at hh
    simp at hh

theorem StaysWithin.settle {act : Keyed Control → Except ScanError Scan}
    (h : StaysWithin control line act) :
    StaysWithin control line fun o => (act o).map fun s => { s with place := s.place.settle } := by
  rcases h with ⟨record, place, hp, hf, hact⟩ | ⟨e, he, hact⟩
  · refine .of_record record place.settle (by simpa using hp) (Place.fits_settle hf) ?_
    intro o
    rw [hact]
    rfl
  · refine .inr ⟨e, he, ?_⟩
    intro o
    dsimp only
    rw [hact]
    rfl

end Within

/-! ### The three kinds of lines -/

/-- Where no block is open, a line is obeyed with its braces counted, and a table that it closes is
left. -/
theorem Scan.step_of_block? (keyText : KeyText) {s : Scan} (h : s.place.block? = none)
    (line : List Char) :
    s.step keyText line = (Scan.obey keyText { s with place := s.place.count line }
      (Statement.ofLine s.place.inTable line)).map fun s => { s with place := s.place.settle } := by
  rw [Scan.step, Scan.readLine_of_block? keyText (by simpa using h), Place.inTable_count]

/-- A line that declares a control starts it afresh, whatever was open before. -/
theorem Scan.step_of_declares (keyText : KeyText) (s : Scan) {line : List Char} {control : String}
    (h : s.place.declares? line = some control) :
    s.step keyText line = .ok ⟨s.outline.openControl control, .control control⟩ := by
  obtain ⟨hb, head, hh, rfl⟩ := Place.declares?_eq_some_iff.1 h
  rw [Scan.step_of_block? keyText hb, Statement.ofLine_of_inLine? hh]
  rfl

/-- Before the first control any other line is passed over. -/
theorem Scan.step_outside (keyText : KeyText) {s : Scan} {line : List Char}
    (hp : s.place = .outside) (hd : s.place.declares? line = none) :
    s.step keyText line = .ok s := by
  obtain ⟨o, place⟩ := s
  cases hp
  obtain ⟨hc, -, -⟩ := @Statement.of_ofLine false line _ rfl
  rw [Scan.step_of_block? keyText rfl]
  show (Scan.obey keyText ⟨o, .outside⟩ (Statement.ofLine false line)).map _ = _
  cases hs : Statement.ofLine false line with
  | control name =>
    obtain ⟨head, hh, -⟩ := hc name hs
    rw [Place.declares?_eq_none_iff.1 hd rfl] at hh
    simp at hh
  | _ => rfl

/-- In a control any other line stays within the control. -/
theorem Scan.step_stays (keyText : KeyText) {control : String} {record : Control} {place : Place}
    {line : List Char} (hp : place.control? = some control) (hf : place.Fits record)
    (hd : place.declares? line = none) :
    StaysWithin control line fun o => Scan.step keyText ⟨⟨o.insert control record⟩, place⟩ line :=
  (Scan.readLine_stays keyText (by simpa using hp) (Place.fits_count hf line)
    (by simpa using hd)).settle

/-! ### Line after line -/

@[simp] theorem Scan.run_nil (keyText : KeyText) (s : Scan) : s.run keyText [] = .ok s := rfl

theorem Scan.run_cons {keyText : KeyText} {s s' : Scan} {line : List Char}
    (h : s.step keyText line = .ok s') (lines : List (List Char)) :
    s.run keyText (line :: lines) = s'.run keyText lines := by
  show (s.step keyText line >>= fun t => t.run keyText lines) = _
  rw [h]
  rfl

theorem Scan.run_cons_error {keyText : KeyText} {s : Scan} {line : List Char} {e : ScanError}
    (h : s.step keyText line = .error e) (lines : List (List Char)) :
    s.run keyText (line :: lines) = .error e := by
  show (s.step keyText line >>= fun t => t.run keyText lines) = _
  rw [h]
  rfl

theorem Scan.run_append {keyText : KeyText} {s s' : Scan} {front : List (List Char)}
    (h : s.run keyText front = .ok s') (lines : List (List Char)) :
    s.run keyText (front ++ lines) = s'.run keyText lines := by
  rw [Scan.run, List.foldlM_append]
  rw [Scan.run] at h
  rw [h]
  rfl

theorem Scan.run_append_error {keyText : KeyText} {s : Scan} {e : ScanError}
    {front : List (List Char)} (h : s.run keyText front = .error e) (lines : List (List Char)) :
    s.run keyText (front ++ lines) = .error e := by
  rw [Scan.run, List.foldlM_append]
  rw [Scan.run] at h
  rw [h]
  rfl

/-- Runs that agree on a front go on from the same scan, if they do not go wrong there. -/
theorem Scan.run_append_congr {keyText : KeyText} {s : Scan}
    {front front' lines lines' : List (List Char)} (hf : s.run keyText front' = s.run keyText front)
    (h : ∀ t, s.run keyText front = .ok t → t.run keyText lines' = t.run keyText lines) :
    s.run keyText (front' ++ lines') = s.run keyText (front ++ lines) := by
  cases hr : s.run keyText front with
  | error e => rw [Scan.run_append_error (hf.trans hr), Scan.run_append_error hr]
  | ok t => rw [Scan.run_append (hf.trans hr), Scan.run_append hr, h t hr]

/-! ### Indentation and blank lines -/

theorem balance_append (cs rest : List Char) :
    balance (cs ++ rest) = balance cs + balance rest := by
  simp only [balance, List.count_append]
  omega

theorem balance_of_notMem {cs : List Char} (ho : '{' ∉ cs) (hc : '}' ∉ cs) : balance cs = 0 := by
  rw [balance, List.count_eq_zero_of_not_mem ho, List.count_eq_zero_of_not_mem hc]
  rfl

theorem Place.count_congr {line line' : List Char} (h : balance line = balance line') (p : Place) :
    p.count line = p.count line' := by
  cases p with
  | table owner name depth block => rw [Place.count, h, Place.count]
  | _ => rfl

/-- In a block nothing of a line counts but its braces and its text between the white space. -/
theorem Scan.step_congr_of_block? (keyText : KeyText) {s : Scan} {block : Block}
    (hb : s.place.block? = some block) {line line' : List Char}
    (hbalance : balance line = balance line') (htrim : trim line = trim line') :
    s.step keyText line = s.step keyText line' := by
  obtain ⟨o, place⟩ := s
  cases place with
  | table owner name depth open? =>
    cases hb
    show (Scan.readEntry keyText _ owner name (depth + balance line) block line).map _ = _
    rw [Place.count_congr hbalance, hbalance, Scan.readEntry, htrim]
    rfl
  | _ => simp [Place.block?] at hb

/-- Indentation says nothing. -/
theorem Scan.step_indent (keyText : KeyText) (s : Scan) {gap : List Char}
    (hg : ∀ c ∈ gap, isBlank c = true) (line : List Char) :
    s.step keyText (gap ++ line) = s.step keyText line := by
  have hbalance : balance (gap ++ line) = balance line := by
    rw [balance_append, balance_of_notMem (notMem_of_class hg (by decide))
      (notMem_of_class hg (by decide))]
    omega
  cases hb : s.place.block? with
  | none =>
    rw [Scan.step_of_block? keyText hb, Scan.step_of_block? keyText hb,
      Place.count_congr hbalance, Statement.ofLine_append hg]
  | some block => exact Scan.step_congr_of_block? keyText hb hbalance (trim_append hg line)

theorem Place.settle_settle (p : Place) : p.settle.settle = p.settle := by
  cases p with
  | table owner name depth block =>
    rw [Place.settle]
    split
    · rfl
    · next h => rw [Place.settle, if_neg h]
  | _ => rfl

theorem Scan.settle_of_step {keyText : KeyText} {s s' : Scan} {line : List Char}
    (h : s.step keyText line = .ok s') :
    s'.place.settle = s'.place := by
  rw [Scan.step] at h
  cases hr : Scan.readLine keyText { s with place := s.place.count line } line with
  | error e => rw [hr] at h; cases h
  | ok t => rw [hr] at h; cases h; exact Place.settle_settle _

theorem Scan.settle_of_run {keyText : KeyText} {s s' : Scan} {lines : List (List Char)}
    (hs : s.place.settle = s.place) (h : s.run keyText lines = .ok s') :
    s'.place.settle = s'.place := by
  induction lines generalizing s with
  | nil => cases h; exact hs
  | cons line lines ih =>
    cases hstep : s.step keyText line with
    | error e => rw [Scan.run_cons_error hstep] at h; cases h
    | ok t => exact ih (Scan.settle_of_step hstep) (by rwa [Scan.run_cons hstep] at h)

/-- A blank line says nothing. -/
theorem Scan.step_blank (keyText : KeyText) {s : Scan} (hs : s.place.settle = s.place)
    {line : List Char} (hl : ∀ c ∈ line, isBlank c = true) : s.step keyText line = .ok s := by
  have hother (inTable : Bool) : Statement.ofLine inTable [] = .other := by cases inTable <;> decide
  -- a blank line is the empty line, indented
  rw [← List.append_nil line, Scan.step_indent keyText s hl]
  obtain ⟨o, place⟩ := s
  cases place with
  | table owner name depth block =>
    have hcount : (Place.table owner name depth block).count [] =
        .table owner name depth block := by
      rw [Place.count, balance_of_notMem (by simp) (by simp), Int.add_zero]
    cases block with
    | none =>
      rw [Scan.step_of_block? keyText rfl, hcount, hother]
      show Except.ok (Scan.mk o (Place.table owner name depth none).settle) = _
      rw [hs]
    | some block =>
      rw [Scan.step, hcount]
      show Except.ok (Scan.mk o (Place.table owner name depth (some block)).settle) = _
      rw [hs]
  | _ => rw [Scan.step_of_block? keyText rfl, hother]; rfl

/-- What bears on a scan are the lines without their indentation that are not blank. -/
theorem Scan.run_bare (keyText : KeyText) {s : Scan} (hs : s.place.settle = s.place)
    (lines : List (List Char)) :
    s.run keyText (bare lines) = s.run keyText lines := by
  induction lines generalizing s with
  | nil => rfl
  | cons line lines ih =>
    rw [bare_cons]
    by_cases hl : ∀ c ∈ line, isBlank c = true
    · rw [bare_of_isBlank hl, Scan.run_cons (Scan.step_blank keyText hs hl)]
      exact ih hs
    · obtain ⟨gap, hg, he⟩ := exists_skipBlanks line
      have hne : skipBlanks line ≠ [] := by
        intro h
        rw [h, List.append_nil] at he
        exact hl (he ▸ hg)
      have hbare : bare [line] = [skipBlanks line] := by
        rw [bare, List.map_singleton]
        simp [hne]
      have hstep : s.step keyText (skipBlanks line) = s.step keyText line := by
        rw [← Scan.step_indent keyText s hg, ← he]
      rw [hbare, List.singleton_append]
      cases h : s.step keyText line with
      | error e => rw [Scan.run_cons_error (hstep.trans h), Scan.run_cons_error h]
      | ok s' => rw [Scan.run_cons (hstep.trans h), Scan.run_cons h, ih (Scan.settle_of_step h)]

/-- The outline of a source is what a scan of its lines comes to, of a blank source too. -/
theorem Outline.ofSource_eq_run (reading : Reading) (source : String) :
    Outline.ofSource reading source =
      (Scan.run reading.keyText {} (reading.layout.lines source.toList)).map (·.outline) := by
  rw [Outline.ofSource]
  split
  · next h =>
    have hblank : ∀ c ∈ source.toList, isBlank c = true := List.all_eq_true.1 h
    rw [← Scan.run_bare reading.keyText rfl, ← Layout.bareLines,
      Layout.bareLines_of_isBlank _ hblank]
    rfl
  · rfl

theorem Outline.exists_run_of_ofSource {reading : Reading} {source : String} {o : Outline}
    (h : Outline.ofSource reading source = .ok o) :
    ∃ s, Scan.run reading.keyText {} (reading.layout.lines source.toList) = .ok s ∧
      s.outline = o := by
  rw [Outline.ofSource_eq_run] at h
  cases hrun : Scan.run reading.keyText {} (reading.layout.lines source.toList) with
  | error e => rw [hrun] at h; cases h
  | ok s => rw [hrun] at h; cases h; exact ⟨s, rfl, rfl⟩

end P4Outline

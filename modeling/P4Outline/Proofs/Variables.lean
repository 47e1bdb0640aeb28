import P4Outline.Proofs.Step

/-!
# The variables of a scan

A scan can be kept in plain variables: the outline, the names of the current control and of the
current table, which are empty if there is none, whether a key block or an action block is open, how
many braces of the table are, and whether the last line closed the table, which is left only when
the next line is read. A `Place` stands for these, without the combinations that do not come about.

* `Variables.step`: one line, in the variables.
* `Variables.Sound`: the combinations that come about: an open block is one of a table, and a table
  is one of a control, with records in the outline.
* `Variables.Sound.follows_readLine`, `Variables.Sound.step`, `Variables.Sound.run`: lines keep the
  variables sound, and do to them what they do to the scan that they stand for.
-/

namespace P4Outline

open P4Outline.Text P4Outline.Source

/-- The variables of a scan. -/
structure Variables where
  outline : Outline := {}
  control : String := ""
  table : String := ""
  keysOpen : Bool := false
  actionsOpen : Bool := false
  depth : Int := 0
  closed : Bool := false
  deriving DecidableEq, Repr

namespace Variables

/-! ### One line -/

/-- Leaves a table that the line before closed. -/
def leave (v : Variables) : Variables :=
  if v.closed then { v with table := "", keysOpen := false, actionsOpen := false, closed := false }
  else v

/-- Counts the braces of a line in a table. -/
def count (line : List Char) (v : Variables) : Variables :=
  if v.table = "" then v
  else { v with depth := v.depth + balance line, closed := v.depth + balance line ≤ 0 }

/-- The block that is open: one for keys is looked at first. -/
def block? (v : Variables) : Option Block :=
  if v.keysOpen then some .keys else if v.actionsOpen then some .actions else none

/-- Opens or closes a block. -/
def setOpen (v : Variables) (isOpen : Bool) : Block → Variables
  | .keys => { v with keysOpen := isOpen }
  | .actions => { v with actionsOpen := isOpen }

/-- Whether there is a current control and a current table. -/
def inTable (v : Variables) : Bool := v.control ≠ "" && v.table ≠ ""

/-- The record of the current control, which is looked up by its name. -/
def findControl (v : Variables) : Except ScanError Control :=
  match v.outline.controls.get? v.control with
  | some c => .ok c
  | none => .error (.noRecord v.control)

/-- The record of the current table, which is looked up by its name in that of the current
control. -/
def findTable (v : Variables) : Except ScanError Table := do
  let c ← v.findControl
  match c.tables.get? v.table with
  | some t => .ok t
  | none => .error (.noRecord v.table)

/-- Changes the record of the current control. -/
def changeControl (v : Variables) (f : Control → Control) : Except ScanError Variables :=
  v.findControl.map fun _ => { v with outline := v.outline.modifyControl v.control f }

/-- Changes the record of the current table. -/
def changeTable (v : Variables) (f : Table → Table) : Except ScanError Variables :=
  v.findTable.map fun _ => { v with outline := v.outline.modifyTable v.control v.table f }

section Reading

variable (keyText : KeyText)

/-- Reads a line inside an open block. The record of the table is looked up only for an entry. -/
def readEntry (v : Variables) (block : Block) (line : List Char) : Except ScanError Variables :=
  if trim line = ['}'] then .ok { v with keysOpen := false, actionsOpen := false }
  else if (trim line).isEmpty then .ok v
  else v.changeTable (·.addEntries block (block.entry keyText (trim line)))

/-- Opens a block, with the text behind its brace: it stays open unless that text closes it. -/
def openBlock (v : Variables) (block : Block) (rest : List Char) : Except ScanError Variables :=
  match inlineEntries? (block.reduce keyText) rest with
  | some texts =>
    (v.changeTable (·.addEntries block (texts.map String.ofList))).map (·.setOpen false block)
  | none => .ok (v.setOpen true block)

/-- Does what a statement says that is about neither a control nor a table. -/
def obeyMember (v : Variables) : Statement → Except ScanError Variables
  | .keys rest => if v.inTable then v.openBlock keyText .keys rest else .ok v
  | .actions rest => if v.inTable then v.openBlock keyText .actions rest else .ok v
  | .size digits =>
    if !v.inTable then .ok v
    else if digits.length ≤ maxDigits then
      v.changeTable ({ · with size := some (digitsValue digits) })
    else .error (.sizeTooLong digits.length)
  | .defaultAction name =>
    if v.inTable then v.changeTable ({ · with defaultAction := some name }) else .ok v
  | .action name => if v.control = "" then .ok v else v.changeControl (·.addAction name)
  | _ => .ok v

/-- Does what a statement says. In a table the record of that is looked up, whether or not the
statement is about it. -/
def obey (v : Variables) (statement : Statement) : Except ScanError Variables :=
  match statement with
  | .control name =>
    .ok { v with
      outline := v.outline.openControl name
      control := name
      table := ""
      closed := false }
  | .table name depth =>
    if v.control = "" then .ok v
    else (v.changeControl (·.openTable name)).map
      ({ · with table := name, depth, closed := depth ≤ 0 })
  | statement =>
    if v.inTable then v.findTable >>= fun _ => v.obeyMember keyText statement
    else v.obeyMember keyText statement

/-- Reads a line whose braces have been counted. -/
def readLine (v : Variables) (line : List Char) : Except ScanError Variables :=
  match v.block? with
  | some block => v.readEntry keyText block line
  | none => v.obey keyText (Statement.ofLine v.inTable line)

/-- One line: a table that the line before closed is left, the braces are counted, the line is
read. -/
def step (v : Variables) (line : List Char) : Except ScanError Variables :=
  (v.leave.count line).readLine keyText line

/-- The lines of a scan, one after the other. -/
def run (v : Variables) (lines : List (List Char)) : Except ScanError Variables :=
  lines.foldlM (step keyText) v

end Reading

/-! ### The place that the variables stand for -/

/-- The place between the reading of a line and the leaving of a table that it closed. -/
def standing (v : Variables) : Place :=
  if v.control = "" then .outside
  else if v.table = "" then .control v.control
  else .table v.control v.table v.depth v.block?

/-- The scan that the variables stand for. -/
def scan (v : Variables) : Scan := ⟨v.outline, v.standing.settle⟩

/-- Which combinations of the variables come about. -/
structure Sound (v : Variables) : Prop where
  control : v.control ≠ "" → v.control ∈ v.outline.controls.keys
  table : v.table ≠ "" → v.control ≠ "" ∧
    ∃ record, v.outline.controls.get? v.control = some record ∧ v.table ∈ record.tables.keys
  block : v.keysOpen = true ∨ v.actionsOpen = true → v.table ≠ ""
  single : v.keysOpen = true → v.actionsOpen = false
  closed : v.closed = true ↔ v.table ≠ "" ∧ v.depth ≤ 0

theorem sound_start : Sound {} := by
  constructor <;> simp

theorem standing_outside {v : Variables} (h : v.control = "") : v.standing = .outside := if_pos h

theorem standing_control {v : Variables} (hc : v.control ≠ "") (ht : v.table = "") :
    v.standing = .control v.control := by
  rw [standing, if_neg hc, if_pos ht]

theorem standing_table {v : Variables} (hc : v.control ≠ "") (ht : v.table ≠ "") :
    v.standing = .table v.control v.table v.depth v.block? := by
  rw [standing, if_neg hc, if_neg ht]

theorem block?_eq_none_iff {v : Variables} :
    v.block? = none ↔ v.keysOpen = false ∧ v.actionsOpen = false := by
  unfold block?
  cases v.keysOpen <;> cases v.actionsOpen <;> simp

/-- Closing a block where none is open. -/
theorem setOpen_of_block? {v : Variables} (h : v.block? = none) (block : Block) :
    v.setOpen false block = v := by
  obtain ⟨hkeys, hactions⟩ := block?_eq_none_iff.1 h
  cases block with
  | keys =>
    show { v with keysOpen := false } = v
    rw [← hkeys]
  | actions =>
    show { v with actionsOpen := false } = v
    rw [← hactions]

section Sound

variable {v : Variables} (hv : v.Sound)

include hv

/-- Variables are outside every control, in a control only, or in a table of one. -/
theorem Sound.cases :
    (v.control = "" ∧ v.table = "" ∧ v.standing = .outside ∧ v.inTable = false) ∨
    (v.control ≠ "" ∧ v.table = "" ∧ v.standing = .control v.control ∧ v.inTable = false) ∨
    (v.control ≠ "" ∧ v.table ≠ "" ∧ v.standing = .table v.control v.table v.depth v.block? ∧
      v.inTable = true) := by
  unfold inTable
  by_cases ht : v.table = ""
  · by_cases hc : v.control = ""
    · exact .inl ⟨hc, ht, standing_outside hc, by simp [hc]⟩
    · exact .inr (.inl ⟨hc, ht, standing_control hc ht, by simp [ht]⟩)
  · have hc := (hv.table ht).1
    exact .inr (.inr ⟨hc, ht, standing_table hc ht, by simp [hc, ht]⟩)

theorem Sound.block?_of_table (ht : v.table = "") : v.block? = none := by
  rw [block?_eq_none_iff, ← Bool.not_eq_true, ← Bool.not_eq_true]
  exact ⟨fun h => hv.block (.inl h) ht, fun h => hv.block (.inr h) ht⟩

theorem Sound.block?_standing : v.standing.block? = v.block? := by
  rcases hv.cases with ⟨-, ht, hs, -⟩ | ⟨-, ht, hs, -⟩ | ⟨-, -, hs, -⟩
  · rw [hs, hv.block?_of_table ht]
    rfl
  · rw [hs, hv.block?_of_table ht]
    rfl
  · rw [hs]
    rfl

theorem Sound.inTable_standing : v.standing.inTable = v.inTable := by
  rcases hv.cases with ⟨-, -, hs, hin⟩ | ⟨-, -, hs, hin⟩ | ⟨-, -, hs, hin⟩ <;> rw [hs, hin] <;> rfl

theorem Sound.leave : v.leave.Sound := by
  unfold Variables.leave
  split
  · exact ⟨hv.control, by simp, by simp, by simp, by simp⟩
  · exact hv

/-- A table that is closed is left. -/
theorem Sound.standing_leave : v.leave.standing = v.standing.settle := by
  unfold Variables.leave
  split
  · next hclosed =>
    obtain ⟨ht, hdepth⟩ := hv.closed.1 hclosed
    have hc := (hv.table ht).1
    rw [standing_table hc ht, Place.settle, if_pos hdepth]
    exact standing_control hc rfl
  · next hopen =>
    rcases hv.cases with ⟨-, -, hs, -⟩ | ⟨-, -, hs, -⟩ | ⟨-, ht, hs, -⟩
    · rw [hs]
      rfl
    · rw [hs]
      rfl
    · have hdepth : ¬ v.depth ≤ 0 := fun h => hopen (hv.closed.2 ⟨ht, h⟩)
      rw [hs, Place.settle, if_neg hdepth]

theorem Sound.count (line : List Char) : (v.count line).Sound := by
  unfold Variables.count
  split
  · exact hv
  · next ht => exact ⟨hv.control, hv.table, hv.block, hv.single, by simp [ht]⟩

theorem Sound.standing_count (line : List Char) :
    (v.count line).standing = v.standing.count line := by
  unfold Variables.count
  rcases hv.cases with ⟨-, ht, hs, -⟩ | ⟨-, ht, hs, -⟩ | ⟨hc, ht, hs, -⟩
  · rw [if_pos ht, hs]
    rfl
  · rw [if_pos ht, hs]
    rfl
  · rw [if_neg ht, hs]
    exact standing_table hc ht

/-! ### Records -/

theorem Sound.findControl (hc : v.control ≠ "") : ∃ c, v.findControl = .ok c := by
  obtain ⟨c, hget⟩ := Option.isSome_iff_exists.1 (Keyed.mem_keys_iff.1 (hv.control hc))
  exact ⟨c, by rw [Variables.findControl, hget]⟩

/-- The record of the current table is there. -/
theorem Sound.findTable (ht : v.table ≠ "") : ∃ t, v.findTable = .ok t := by
  obtain ⟨-, c, hget, hm⟩ := hv.table ht
  obtain ⟨t, hget'⟩ := Option.isSome_iff_exists.1 (Keyed.mem_keys_iff.1 hm)
  refine ⟨t, ?_⟩
  rw [Variables.findTable, Variables.findControl, hget]
  show (match c.tables.get? v.table with | some t => Except.ok t | none => _) = _
  rw [hget']

theorem Sound.changeControl (hc : v.control ≠ "") (f : Control → Control) :
    v.changeControl f = .ok { v with outline := v.outline.modifyControl v.control f } := by
  obtain ⟨c, hfind⟩ := hv.findControl hc
  rw [Variables.changeControl, hfind]
  rfl

theorem Sound.changeTable (ht : v.table ≠ "") (f : Table → Table) :
    v.changeTable f = .ok { v with outline := v.outline.modifyTable v.control v.table f } := by
  obtain ⟨t, hfind⟩ := hv.findTable ht
  rw [Variables.changeTable, hfind]
  rfl

theorem Sound.scan_changeControl (hc : v.control ≠ "") (f : Control → Control) (place : Place) :
    Scan.changeControl ⟨v.outline, place⟩ v.control f =
      .ok ⟨v.outline.modifyControl v.control f, place⟩ :=
  if_pos (Keyed.contains_iff.2 (hv.control hc))

theorem Sound.scan_changeTable (ht : v.table ≠ "") (f : Table → Table) (place : Place) :
    Scan.changeTable ⟨v.outline, place⟩ v.control v.table f =
      .ok ⟨v.outline.modifyTable v.control v.table f, place⟩ := by
  obtain ⟨-, c, hget, hm⟩ := hv.table ht
  rw [Scan.changeTable]
  dsimp only
  rw [hget]
  exact if_pos (Keyed.contains_iff.2 hm)

/-- A change of the record of the current control that keeps its tables leaves the variables
sound. -/
theorem Sound.modifyControl {f : Control → Control} (hf : ∀ c, (f c).tables.keys = c.tables.keys) :
    Sound { v with outline := v.outline.modifyControl v.control f } := by
  refine ⟨fun hc => ?_, fun ht => ?_, hv.block, hv.single, hv.closed⟩
  · show v.control ∈ (v.outline.controls.modify v.control f).keys
    rw [Keyed.keys_modify]
    exact hv.control hc
  · obtain ⟨hc, c, hget, hm⟩ := hv.table ht
    refine ⟨hc, f c, ?_, by rwa [hf]⟩
    show (v.outline.controls.modify v.control f).get? v.control = some (f c)
    rw [Keyed.get?_modify, if_pos rfl, hget]
    rfl

theorem Sound.modifyTable (f : Table → Table) :
    Sound { v with outline := v.outline.modifyTable v.control v.table f } :=
  hv.modifyControl fun _ => Keyed.keys_modify _ _ _

end Sound

/-! ### Lines -/

/-- Whether variables and a scan come to the same: to sound variables that the scan stands at, or to
the same error. -/
def Follows (x : Except ScanError Variables) (y : Except ScanError Scan) : Prop :=
  (∃ v, x = .ok v ∧ v.Sound ∧ y = .ok ⟨v.outline, v.standing⟩) ∨ ∃ e, x = .error e ∧ y = .error e

section Lines

variable (keyText : KeyText) {v : Variables} (hv : v.Sound)

include hv

theorem Sound.follows_changeTable (ht : v.table ≠ "") (f : Table → Table) :
    Follows (v.changeTable f) (Scan.changeTable ⟨v.outline, v.standing⟩ v.control v.table f) :=
  .inl ⟨_, hv.changeTable ht f, hv.modifyTable f, hv.scan_changeTable ht f v.standing⟩

/-- Setting the block that is open, or none. -/
theorem Sound.setBlock {keysOpen actionsOpen : Bool} (ht : v.table ≠ "")
    (hsingle : keysOpen = true → actionsOpen = false) : Sound { v with keysOpen, actionsOpen } :=
  ⟨hv.control, hv.table, fun _ => ht, hsingle, hv.closed⟩

/-- A line inside an open block. -/
theorem Sound.follows_readEntry (ht : v.table ≠ "") (block : Block) (line : List Char) :
    Follows (v.readEntry keyText block line)
      (Scan.readEntry keyText ⟨v.outline, v.standing⟩ v.control v.table v.depth block line) := by
  have hc := (hv.table ht).1
  unfold readEntry Scan.readEntry
  split
  · have hs : ({ v with keysOpen := false, actionsOpen := false } : Variables).standing =
        .table v.control v.table v.depth none := standing_table hc ht
    exact .inl ⟨_, rfl, hv.setBlock ht (by simp), by rw [hs]⟩
  · split
    · exact .inl ⟨v, rfl, hv, rfl⟩
    · exact hv.follows_changeTable ht _

/-- The opening of a block, where none is open. -/
theorem Sound.follows_openBlock (ht : v.table ≠ "") (hb : v.block? = none) (block : Block)
    (rest : List Char) :
    Follows (v.openBlock keyText block rest)
      (Scan.openBlock keyText ⟨v.outline, v.standing⟩ v.control v.table v.depth block rest) := by
  have hc := (hv.table ht).1
  obtain ⟨hkeys, hactions⟩ := block?_eq_none_iff.1 hb
  unfold openBlock Scan.openBlock
  cases inlineEntries? (block.reduce keyText) rest with
  | some texts =>
    -- the block is as closed as it was
    have hsame (o : Outline) : ({ v with outline := o } : Variables).setOpen false block =
        { v with outline := o } := @setOpen_of_block? { v with outline := o } hb block
    dsimp only
    rw [hv.changeTable ht, Except.map, hsame]
    exact .inl ⟨_, rfl, hv.modifyTable _, hv.scan_changeTable ht _ v.standing⟩
  | none =>
    cases block with
    | keys =>
      have hs : (v.setOpen true .keys).standing = .table v.control v.table v.depth (some .keys) :=
        standing_table hc ht
      exact .inl ⟨_, rfl, hv.setBlock ht fun _ => hactions, by rw [hs]; rfl⟩
    | actions =>
      have hs : (v.setOpen true .actions).standing =
          .table v.control v.table v.depth (some .actions) := by
        have hopen : (v.setOpen true .actions).block? = some .actions := by
          simp [setOpen, block?, hkeys]
        rw [← hopen]
        exact standing_table hc ht
      exact .inl ⟨_, rfl, hv.setBlock ht (by simp [hkeys]), by rw [hs]; rfl⟩

/-- A statement about neither a control nor a table, where no block is open. -/
theorem Sound.follows_obeyMember (hb : v.block? = none) {statement : Statement}
    (hcontrol : ∀ name, statement ≠ .control name)
    (htable : ∀ name depth, statement ≠ .table name depth) :
    Follows (v.obeyMember keyText statement)
      (Scan.obey keyText ⟨v.outline, v.standing⟩ statement) := by
  have hnone : Follows (.ok v) (.ok ⟨v.outline, v.standing⟩) := .inl ⟨v, rfl, hv, rfl⟩
  cases statement with
  | control name => exact absurd rfl (hcontrol name)
  | table name depth => exact absurd rfl (htable name depth)
  | other => exact hnone
  | action name =>
    unfold obeyMember Scan.obey
    dsimp only
    have hadd (hc : v.control ≠ "") : Follows (v.changeControl (·.addAction name))
        (Scan.changeControl ⟨v.outline, v.standing⟩ v.control (·.addAction name)) :=
      .inl ⟨_, hv.changeControl hc _, hv.modifyControl fun _ => rfl, hv.scan_changeControl hc _ _⟩
    rcases hv.cases with ⟨hc, -, hs, -⟩ | ⟨hc, -, hs, -⟩ | ⟨hc, -, hs, -⟩
    · rw [if_pos hc, hs]
      rw [hs] at hnone
      exact hnone
    · rw [if_neg hc, hs]
      rw [hs] at hadd
      exact hadd hc
    · rw [if_neg hc, hs]
      rw [hs] at hadd
      exact hadd hc
  | _ =>
    -- a property of the table that the variables stand in, or nothing
    unfold obeyMember Scan.obey
    rcases hv.cases with ⟨-, -, hs, hin⟩ | ⟨-, -, hs, hin⟩ | ⟨-, ht, hs, hin⟩
    · rw [hs] at hnone ⊢
      simpa [hin] using hnone
    · rw [hs] at hnone ⊢
      simpa [hin] using hnone
    · have hopen := hv.follows_openBlock keyText ht hb
      have hchange := hv.follows_changeTable ht
      rw [hs] at hopen hchange ⊢
      simp only [hin, Bool.not_true, Bool.false_eq_true, if_true, if_false]
      first
      | exact hopen _ _
      | exact hchange _
      | split
        · exact hchange _
        · exact .inr ⟨_, rfl, rfl⟩

/-- The head of a control, where no block is open. -/
theorem Sound.follows_control (hb : v.block? = none) {name : String} (hn : name ≠ "") :
    Follows (v.obey keyText (.control name))
      (Scan.obey keyText ⟨v.outline, v.standing⟩ (.control name)) := by
  obtain ⟨hkeys, hactions⟩ := block?_eq_none_iff.1 hb
  have hs : ({ v with
      outline := v.outline.openControl name
      control := name
      table := ""
      closed := false } : Variables).standing = .control name := standing_control hn rfl
  refine .inl ⟨_, rfl, ⟨fun _ => ?_, by simp, by simp [hkeys, hactions], hv.single, by simp⟩, ?_⟩
  · exact Keyed.mem_keys_iff.2 (by simp [Outline.openControl])
  · rw [hs]
    rfl

/-- The head of a table, where no block is open. -/
theorem Sound.follows_table (hb : v.block? = none) {name : String} (hn : name ≠ "") (depth : Int) :
    Follows (v.obey keyText (.table name depth))
      (Scan.obey keyText ⟨v.outline, v.standing⟩ (.table name depth)) := by
  unfold obey Scan.obey
  dsimp only
  by_cases hc : v.control = ""
  · rw [if_pos hc]
    refine .inl ⟨v, rfl, hv, ?_⟩
    rw [standing_outside hc]
    rfl
  · have hcontrol : v.standing.control? = some v.control := by
      rcases hv.cases with ⟨hc', -, -, -⟩ | ⟨-, -, hs, -⟩ | ⟨-, -, hs, -⟩
      · exact absurd hc' hc
      · rw [hs]; rfl
      · rw [hs]; rfl
    rw [if_neg hc, hcontrol, hv.changeControl hc]
    dsimp only
    rw [hv.scan_changeControl hc]
    obtain ⟨c, hget⟩ := Option.isSome_iff_exists.1 (Keyed.mem_keys_iff.1 (hv.control hc))
    -- the record of the control has the new table
    have hget' : (v.outline.modifyControl v.control (·.openTable name)).controls.get? v.control =
        some (c.openTable name) := by
      rw [Outline.modifyControl, Keyed.get?_modify, if_pos rfl, hget]
      rfl
    have hm : name ∈ (c.openTable name).tables.keys :=
      Keyed.mem_keys_iff.2 (by simp [Control.openTable])
    have hs : ({ v with
        outline := v.outline.modifyControl v.control (·.openTable name)
        table := name
        depth := depth
        closed := depth ≤ 0 } : Variables).standing = .table v.control name depth none := by
      rw [← hb]
      exact standing_table hc hn
    refine .inl ⟨_, rfl, ⟨fun _ => ?_, fun _ => ⟨hc, _, hget', hm⟩, fun _ => hn, hv.single, ?_⟩, ?_⟩
    · exact Keyed.mem_keys_iff.2 (by rw [hget']; rfl)
    · simp [hn]
    · exact congrArg (fun place => Except.ok (Scan.mk _ place)) hs.symm

/-- A statement about neither, where no block is open: in a table the record that is looked up is
there. -/
theorem Sound.obey_eq_obeyMember {statement : Statement} (hc : ∀ name, statement ≠ .control name)
    (ht : ∀ name depth, statement ≠ .table name depth) :
    v.obey keyText statement = v.obeyMember keyText statement := by
  have hlookup : (if v.inTable then v.findTable >>= fun _ => v.obeyMember keyText statement
      else v.obeyMember keyText statement) = v.obeyMember keyText statement := by
    split
    · next hin =>
      unfold inTable at hin
      obtain ⟨t, hfind⟩ := hv.findTable (by simp at hin; exact hin.2)
      rw [hfind]
      rfl
    · rfl
  cases statement with
  | control name => exact absurd rfl (hc name)
  | table name depth => exact absurd rfl (ht name depth)
  | _ => exact hlookup

/-- A line whose braces have been counted. -/
theorem Sound.follows_readLine (line : List Char) :
    Follows (v.readLine keyText line) (Scan.readLine keyText ⟨v.outline, v.standing⟩ line) := by
  cases hb : v.block? with
  | some block =>
    -- a block is open in a table only, where the variables hold what the scan looks up
    rcases hv.cases with ⟨-, ht, -, -⟩ | ⟨-, ht, -, -⟩ | ⟨-, ht, hs, -⟩
    · rw [hv.block?_of_table ht] at hb
      cases hb
    · rw [hv.block?_of_table ht] at hb
      cases hb
    · have hentry := hv.follows_readEntry keyText ht block line
      unfold readLine Scan.readLine
      rw [hs, hb] at hentry ⊢
      exact hentry
  | none =>
    have hread : Scan.readLine keyText ⟨v.outline, v.standing⟩ line =
        Scan.obey keyText ⟨v.outline, v.standing⟩ (Statement.ofLine v.inTable line) := by
      rw [← hv.inTable_standing]
      exact Scan.readLine_of_block? keyText (by rw [hv.block?_standing, hb]) line
    unfold readLine
    rw [hb, hread]
    dsimp only
    obtain ⟨hcontrol, htable, -⟩ := @Statement.of_ofLine v.inTable line _ rfl
    cases hstatement : Statement.ofLine v.inTable line with
    | control name =>
      obtain ⟨head, hh, hname⟩ := hcontrol name hstatement
      refine hv.follows_control keyText hb ?_
      rw [hname]
      exact ofList_ne_empty (Kind.ne_nil_of_inLine? hh)
    | table name depth => exact hv.follows_table keyText hb (htable name depth hstatement) depth
    | _ =>
      rw [hv.obey_eq_obeyMember keyText (by simp) (by simp)]
      exact hv.follows_obeyMember keyText hb (by simp) (by simp)

/-- One line keeps the variables sound, and does to them what it does to the scan that they stand
for. -/
theorem Sound.step (line : List Char) :
    (∃ v', v.step keyText line = .ok v' ∧ v'.Sound ∧ v.scan.step keyText line = .ok v'.scan) ∨
      ∃ e, v.step keyText line = .error e ∧ v.scan.step keyText line = .error e := by
  -- the variables leave a closed table at the next line, the scan at the end of this one
  have hstart : (⟨v.outline, v.standing.settle.count line⟩ : Scan) =
      ⟨(v.leave.count line).outline, (v.leave.count line).standing⟩ := by
    have houtline : (v.leave.count line).outline = v.outline := by
      unfold Variables.count Variables.leave
      split <;> split <;> rfl
    rw [houtline, hv.leave.standing_count, hv.standing_leave]
  have hscan : v.scan.step keyText line = (Scan.readLine keyText
      ⟨(v.leave.count line).outline, (v.leave.count line).standing⟩ line).map
        fun s => { s with place := s.place.settle } := by
    rw [← hstart]
    rfl
  rw [hscan]
  rcases (hv.leave.count line).follows_readLine keyText line with
    ⟨v', hv', hsound, hread⟩ | ⟨e, he, hread⟩
  · exact .inl ⟨v', hv', hsound, by rw [hread]; rfl⟩
  · exact .inr ⟨e, he, by rw [hread]; rfl⟩

/-- So does every sequence of lines. -/
theorem Sound.run (lines : List (List Char)) :
    (∃ v', v.run keyText lines = .ok v' ∧ v'.Sound ∧ v.scan.run keyText lines = .ok v'.scan) ∨
      ∃ e, v.run keyText lines = .error e ∧ v.scan.run keyText lines = .error e := by
  induction lines generalizing v with
  | nil => exact .inl ⟨v, rfl, hv, rfl⟩
  | cons line lines ih =>
    have hrun : v.run keyText (line :: lines) =
      v.step keyText line >>= fun w => w.run keyText lines := rfl
    rw [hrun]
    rcases hv.step keyText line with ⟨w, hw, hsound, hstep⟩ | ⟨e, he, hstep⟩
    · rw [hw, Scan.run_cons hstep]
      exact ih hsound
    · rw [he]
      exact .inr ⟨e, rfl, Scan.run_cons_error hstep lines⟩

end Lines

/-- The scan of a source in variables comes to what a scan of it comes to, and leaves them sound. -/
theorem run_start (keyText : KeyText) (lines : List (List Char)) :
    (∃ v, run keyText {} lines = .ok v ∧ v.Sound ∧ Scan.run keyText {} lines = .ok v.scan) ∨
      ∃ e, run keyText {} lines = .error e ∧ Scan.run keyText {} lines = .error e :=
  sound_start.run keyText lines

end Variables

end P4Outline

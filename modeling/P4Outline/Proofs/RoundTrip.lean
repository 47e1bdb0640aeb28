import P4Outline.Proofs.Rows
import P4Outline.Proofs.Step

/-!
# What is printed is read back

The outline of a printed program is the outline of the program, however lines are laid out and key
entries kept. The scan goes through the printed text statement by statement; what it has read at the
end of each construct is what the construct declares, added to what there was before.

* `Scan.run_property`, `Scan.run_table`, `Scan.run_item`, `Scan.run_control`: one construct each.
* `ProgramDecl.ofSource_print`: a program.
-/

namespace P4Outline

open P4Outline.Text P4Outline.Source

/-! ### What declarations add up to -/

section Records

variable {keyText : KeyText}

/-- Stores a table. -/
def Control.storeTable (c : Control) (name : String) (t : Table) : Control :=
  { c with tables := c.tables.insert name t }

theorem Table.addEntries_addEntries (block : Block) (texts more : List String) (t : Table) :
    (t.addEntries block texts).addEntries block more = t.addEntries block (texts ++ more) := by
  cases block <;> simp [addEntries]

theorem Table.addEntries_nil (block : Block) (t : Table) : t.addEntries block [] = t := by
  cases block <;> simp [addEntries]

/-- What a property says of a table. -/
def Property.apply (keyText : KeyText) (p : Property) (t : Table) : Table :=
  match p with
  | .keys entries => t.addEntries .keys (entries.map (·.kept keyText))
  | .actions names => t.addEntries .actions (names.map (·.text))
  | .size s => { t with size := some s.n }
  | .defaultAction name => { t with defaultAction := some name.text }

theorem findSome?_eq_none {α : Type _} {subject : Property.Subject} {f : Property → Option α}
    (hf : ∀ p, p.subject ≠ subject → f p = none) {properties : List Property}
    (h : subject ∉ properties.map Property.subject) : properties.findSome? f = none := by
  rw [List.findSome?_eq_none_iff]
  intro p hp
  apply hf p
  intro he
  exact h (he ▸ List.mem_map_of_mem hp)

/-- Properties of which each is there at most once add up. -/
theorem Property.foldl_apply {properties : List Property}
    (h : (properties.map Property.subject).Nodup) (t : Table) :
    properties.foldl (fun t p => p.apply keyText t) t =
      { keys := t.keys ++ properties.flatMap (·.keyTexts keyText)
        actions := t.actions ++ properties.flatMap (·.actionNames)
        size := (properties.findSome? (·.size?)).or t.size
        defaultAction := (properties.findSome? (·.defaultAction?)).or t.defaultAction } := by
  induction properties generalizing t with
  | nil => simp
  | cons p properties ih =>
    rw [List.map_cons, List.nodup_cons] at h
    rw [List.foldl_cons, ih h.2]
    -- a size or a default action is found last where it is found first: no property below it is
    -- about the same
    cases p with
    | keys entries => simp [apply, Table.addEntries, keyTexts, actionNames, size?, defaultAction?]
    | actions names => simp [apply, Table.addEntries, keyTexts, actionNames, size?, defaultAction?]
    | size s =>
      have hnone : properties.findSome? (·.size?) = none := by
        refine findSome?_eq_none ?_ h.1
        intro p hp
        cases p with
        | size => exact absurd rfl hp
        | _ => rfl
      rw [hnone]
      simp [apply, keyTexts, actionNames, size?, defaultAction?]
    | defaultAction name =>
      have hnone : properties.findSome? (·.defaultAction?) = none := by
        refine findSome?_eq_none ?_ h.1
        intro p hp
        cases p with
        | defaultAction => exact absurd rfl hp
        | _ => rfl
      rw [hnone]
      simp [apply, keyTexts, actionNames, size?, defaultAction?]

theorem TableDecl.foldl_properties (t : TableDecl) :
    t.properties.foldl (fun t p => p.apply keyText t) {} = t.record keyText := by
  rw [Property.foldl_apply t.nodup]
  simp [TableDecl.record]

/-- What an item adds to a control. -/
def Item.apply (keyText : KeyText) (item : Item) (c : Control) : Control :=
  match item with
  | .action a => c.addAction a.name.text
  | .table t => c.storeTable t.name.text (t.record keyText)

/-- Items with distinct tables, none of which is there, add up. -/
theorem Item.foldl_apply {items : List Item} {c : Control}
    (h : (c.tables.keys ++ items.filterMap Item.tableName?).Nodup) :
    (items.foldl (fun c item => item.apply keyText c) c).tables.entries =
        c.tables.entries ++ items.filterMap (·.table? keyText) ∧
      (items.foldl (fun c item => item.apply keyText c) c).actions =
        c.actions ++ items.filterMap Item.action? := by
  induction items generalizing c with
  | nil => simp
  | cons item items ih =>
    cases item with
    | action a =>
      obtain ⟨htables, hactions⟩ := @ih (c.addAction a.name.text) h
      rw [List.foldl_cons]
      exact ⟨htables, hactions.trans (by simp [Control.addAction, action?])⟩
    | table t =>
      have hcons : (Item.table t :: items).filterMap tableName? =
        t.name.text :: items.filterMap tableName? := rfl
      rw [hcons] at h
      -- a table that is new to the control goes to its end
      have hnew : t.name.text ∉ c.tables.keys := by
        intro hm
        exact (List.nodup_append.1 h).2.2 _ hm _ List.mem_cons_self rfl
      have hkeys : (c.storeTable t.name.text (t.record keyText)).tables.keys =
          c.tables.keys ++ [t.name.text] := by
        rw [Control.storeTable, Keyed.keys_insert, if_neg hnew]
      obtain ⟨htables, hactions⟩ :=
        @ih (c.storeTable t.name.text (t.record keyText)) (by rw [hkeys]; simpa using h)
      rw [List.foldl_cons]
      refine ⟨htables.trans ?_, hactions.trans rfl⟩
      rw [Control.storeTable, Keyed.entries_insert_of_notMem hnew]
      simp [table?]

theorem ControlDecl.foldl_items (c : ControlDecl) :
    c.items.foldl (fun record item => item.apply keyText record) {} = c.record keyText := by
  obtain ⟨htables, hactions⟩ := @Item.foldl_apply keyText c.items {} c.nodup
  exact Control.ext (Keyed.ext htables) hactions

end Records

/-! ### States of a scan -/

/-- The scan of a control, with what it has of the control so far. -/
def Scan.inControl (o : Keyed Control) (control : String) (record : Control) : Scan :=
  ⟨⟨o.insert control record⟩, .control control⟩

/-- The scan of a table, with what it has of the table so far. -/
def Scan.inTable (o : Keyed Control) (control : String) (record : Control) (name : String)
    (t : Table) (depth : Int) (block : Option Block) : Scan :=
  ⟨⟨o.insert control (record.storeTable name t)⟩, .table control name depth block⟩

theorem Control.modifyTable_storeTable (c : Control) (name : String) (t : Table)
    (f : Table → Table) :
    (c.storeTable name t).modifyTable name f = c.storeTable name (f t) := by
  rw [modifyTable, storeTable, Keyed.modify_insert, storeTable]

section Runs

variable {keyText : KeyText} {layout : Layout} {o : Keyed Control} {control : String}
    {record : Control}

/-- A run over the lines of a statement that are just its text is a step. -/
theorem Scan.run_line {s s' : Scan} {line : List Char} (hl : layout.bareLines line = [line])
    (h : s.step keyText line = .ok s') : s.run keyText (layout.bareLines line) = .ok s' := by
  rw [hl, Scan.run_cons h]
  rfl

/-- A line in a control, outside its tables. -/
theorem Scan.step_inControl (line : List Char) :
    (Scan.inControl o control record).step keyText line =
      (Scan.obey keyText (.inControl o control record) (Statement.ofLine false line)).map
        fun s => { s with place := s.place.settle } :=
  Scan.step_of_block? keyText rfl line

section Table

variable {name : String}

theorem Scan.changeTable_inTable (t : Table) (depth : Int) (block : Option Block)
    (f : Table → Table) :
    (Scan.inTable o control record name t depth block).changeTable control name f =
      .ok (.inTable o control record name (f t) depth block) := by
  have hc : (record.storeTable name t).tables.contains name = true :=
    Keyed.contains_of_get? (a := t) (by simp [Control.storeTable])
  rw [Scan.inTable, Scan.changeTable_insert o hc, Control.modifyTable_storeTable, Scan.inTable]

/-- A line in a table, outside its blocks. -/
theorem Scan.step_inTable (t : Table) (line : List Char) :
    (Scan.inTable o control record name t 1 none).step keyText line =
      (Scan.obey keyText (.inTable o control record name t (1 + balance line) none)
        (Statement.ofLine true line)).map fun s => { s with place := s.place.settle } :=
  Scan.step_of_block? keyText rfl line

/-! ### Statements of a table -/

/-- A stem has no braces. -/
theorem balance_stem {front : List Char} (h : Stem front) (rest : List Char) :
    balance (front ++ rest) = balance rest := by
  rw [balance_append, balance_of_notMem h.inline.brace_notMem h.inline.closing_notMem, Int.zero_add]

/-- A statement that a table is changed by. -/
theorem Scan.run_statement {t t' : Table} {front : List Char} (hf : Stem front)
    (h : Scan.obey keyText (.inTable o control record name t 1 none)
      (Statement.ofLine true (front ++ [';'])) = .ok (.inTable o control record name t' 1 none)) :
    (Scan.inTable o control record name t 1 none).run keyText (layout.bareLines (front ++ [';'])) =
      .ok (.inTable o control record name t' 1 none) := by
  have hbalance : balance (front ++ [';']) = 0 := balance_stem hf [';']
  apply Scan.run_line (layout.bareLines_of_end hf (.inr rfl))
  rw [Scan.step_inTable, hbalance, Int.add_zero, h]
  rfl

/-! ### Blocks of a table -/

/-- The statement that opens a block, with nothing behind its brace. -/
def Block.statement : Block → Statement
  | .keys => .keys []
  | .actions => .actions []

theorem Scan.step_opening (t : Table) {block : Block} {front : List Char} (hf : Stem front)
    (h : Statement.ofLine true (front ++ ['{']) = block.statement) :
    (Scan.inTable o control record name t 1 none).step keyText (front ++ ['{']) =
      .ok (.inTable o control record name t 2 (some block)) := by
  rw [Scan.step_inTable, balance_stem hf, h]
  cases block <;> rfl

theorem Scan.step_closing (t : Table) (block : Block) :
    (Scan.inTable o control record name t 2 (some block)).step keyText ['}'] =
      .ok (.inTable o control record name t 1 none) := rfl

/-- An entry is added to its block, and the block stays open. -/
theorem Scan.step_entry (t : Table) (b : Block) {front : List Char} (hf : Stem front) :
    (Scan.inTable o control record name t 2 (some b)).step keyText (front ++ [';']) =
      .ok (.inTable o control record name (t.addEntries b (b.entry keyText (front ++ [';']))) 2
        (some b)) := by
  have htrim : trim (front ++ [';']) = front ++ [';'] :=
    trim_of_bare (bareStart_append hf.bareStart hf.ne_nil _) (bareEnd_concat (by decide) front)
  -- the line is no lone closing brace, which alone would end the block
  have hbrace : front ++ [';'] ≠ ['}'] := by
    intro h
    have hl := congrArg List.getLast? h
    rw [List.getLast?_concat] at hl
    exact absurd hl (by decide)
  have hread :
    Scan.readEntry keyText (.inTable o control record name t 2 (some b)) control name 2 b
      (front ++ [';']) =
        .ok (.inTable o control record name (t.addEntries b (b.entry keyText (front ++ [';']))) 2
          (some b)) := by
    rw [Scan.readEntry, htrim, if_neg hbrace, if_neg (by simp), Scan.changeTable_inTable]
  have hcount : (Place.table control name 2 (some b)).count (front ++ [';']) =
      .table control name 2 (some b) := by
    rw [Place.count, balance_stem hf]
    rfl
  rw [Scan.step]
  show (Scan.readLine keyText
    ⟨_, (Place.table control name 2 (some b)).count (front ++ [';'])⟩ _).map _ = _
  rw [hcount]
  show (Scan.readEntry keyText (.inTable o control record name t 2 (some b)) control name 2 b _).map
    _ = _
  rw [hread]
  rfl

section Entries

variable {α : Type _} {b : Block} {text : α → List Char} {kept : α → String} {entries : List α}

/-- The entries of a block, one after the other. -/
theorem Scan.run_entries (t : Table)
    (h : ∀ e, ∃ front, Stem front ∧ text e = front ++ [';'] ∧ b.entry keyText (text e) = [kept e]) :
    (Scan.inTable o control record name t 2 (some b)).run keyText
        (rowLines layout (entries.map fun e => ⟨3, text e⟩)) =
      .ok (.inTable o control record name (t.addEntries b (entries.map kept)) 2 (some b)) := by
  induction entries generalizing t with
  | nil => rw [List.map_nil, List.map_nil, Table.addEntries_nil]; rfl
  | cons e entries ih =>
    obtain ⟨front, hf, htext, hkept⟩ := h e
    have hstep : (Scan.inTable o control record name t 2 (some b)).step keyText (text e) =
        .ok (.inTable o control record name (t.addEntries b [kept e]) 2 (some b)) := by
      rw [← hkept, htext]
      exact Scan.step_entry t b hf
    have hline : layout.bareLines (text e) = [text e] := by
      rw [htext]
      exact layout.bareLines_of_end hf (.inr rfl)
    rw [List.map_cons, rowLines_cons, Scan.run_append (Scan.run_line hline hstep), ih,
      Table.addEntries_addEntries, List.map_cons, List.singleton_append]

/-- A block of a table: its opening, its entries and its closing brace. -/
theorem Scan.run_block {front : List Char} (t : Table) (hf : Stem front)
    (hopen : Statement.ofLine true (front ++ ['{']) = b.statement)
    (h : ∀ e, ∃ front, Stem front ∧ text e = front ++ [';'] ∧ b.entry keyText (text e) = [kept e]) :
    (Scan.inTable o control record name t 1 none).run keyText
        (rowLines layout (⟨2, front ++ ['{']⟩ :: (entries.map fun e => ⟨3, text e⟩) ++
          [.close 2])) =
      .ok (.inTable o control record name (t.addEntries b (entries.map kept)) 1 none) := by
  have hline : layout.bareLines (front ++ ['{']) = [front ++ ['{']] :=
    layout.bareLines_of_end hf (.inl rfl)
  rw [List.cons_append, rowLines_cons,
    Scan.run_append (Scan.run_line hline (Scan.step_opening t hf hopen)), rowLines_append,
    Scan.run_append (Scan.run_entries t h), rowLines_close, Scan.run_cons (Scan.step_closing _ b),
    Scan.run_nil]

end Entries

/-! ### Properties -/

theorem KeyEntry.entry_print (keyText : KeyText) (e : KeyEntry) :
    Block.keys.entry keyText e.print = [e.kept keyText] := by
  rw [← e.reduce_print keyText]
  rfl

theorem Identifier.entry_entry (keyText : KeyText) (n : Identifier) :
    Block.actions.entry keyText n.entry = [n.text] := by
  show (if (actionName n.entry).isEmpty then [] else [String.ofList (actionName n.entry)]) = _
  rw [n.actionName_entry, if_neg (by simpa using n.ne_nil), Identifier.text]

theorem Scan.run_property (t : Table) (p : Property) :
    (Scan.inTable o control record name t 1 none).run keyText (rowLines layout p.rows) =
      .ok (.inTable o control record name (p.apply keyText t) 1 none) := by
  cases p with
  | keys entries =>
    apply Scan.run_block t (b := .keys) (stem_property (w := "key".toList) (by decide) (by decide))
      (by decide)
    intro e
    exact ⟨_, e.stem, e.print_eq, e.entry_print keyText⟩
  | actions names =>
    apply Scan.run_block t (b := .actions)
      (stem_property (w := "actions".toList) (by decide) (by decide)) (by decide)
    intro n
    exact ⟨n.chars, n.stem, rfl, n.entry_entry keyText⟩
  | size s =>
    have hdigits : (natText s.n).length ≤ maxDigits := by
      rw [maxDigits]
      exact length_natText_le (by decide) s.lt
    have hrows : rowLines layout (Property.size s).rows =
        layout.bareLines (("size = ".toList ++ natText s.n) ++ [';']) := by
      rw [List.append_assoc]
      exact List.append_nil _
    rw [hrows]
    -- the size is read digit by digit, of which there are not too many
    apply Scan.run_statement (stem_size s.n)
    rw [List.append_assoc, Statement.ofLine_size]
    show (if (natText s.n).length ≤ maxDigits then _ else _) = _
    rw [if_pos hdigits, Scan.changeTable_inTable, digitsValue_natText]
    rfl
  | defaultAction action =>
    have hrows : rowLines layout (Property.defaultAction action).rows =
        layout.bareLines (("default_action = ".toList ++ action.chars) ++ [';']) := by
      rw [List.append_assoc]
      exact List.append_nil _
    rw [hrows]
    apply Scan.run_statement (stem_defaultAction action)
    rw [List.append_assoc, Statement.ofLine_defaultAction]
    exact Scan.changeTable_inTable t 1 none _

theorem Scan.run_properties (t : Table) (properties : List Property) :
    (Scan.inTable o control record name t 1 none).run keyText
    (rowLines layout (properties.flatMap Property.rows)) =
      .ok (.inTable o control record name
        (properties.foldl (fun t p => p.apply keyText t) t) 1 none) := by
  induction properties generalizing t with
  | nil => rfl
  | cons p properties ih =>
    rw [List.flatMap_cons, rowLines_append, Scan.run_append (Scan.run_property t p), ih]
    rfl

end Table

/-! ### Tables -/

theorem Scan.run_tableHead (name : Identifier) :
    (Scan.inControl o control record).run keyText
        (layout.bareLines (Kind.table.keyword ++ ' ' :: (name.chars ++ [' ', '{']))) =
      .ok (.inTable o control record name.text {} 1 none) := by
  have hline : layout.bareLines (Kind.table.keyword ++ ' ' :: (name.chars ++ [' ', '{'])) =
      [Kind.table.keyword ++ ' ' :: (name.chars ++ [' ', '{'])] := by
    rw [name.tableHead_eq]
    exact layout.bareLines_of_end name.tableHead_stem (.inl rfl)
  apply Scan.run_line hline
  rw [Scan.step_inControl, Statement.ofLine_table]
  show ((Scan.changeControl ⟨⟨o.insert control record⟩, .control control⟩ control
    (·.openTable name.text)).map _).map _ = _
  rw [Scan.changeControl_insert]
  rfl

theorem Scan.step_tableEnd (name : String) (t : Table) :
    (Scan.inTable o control record name t 1 none).step keyText ['}'] =
      .ok (.inControl o control (record.storeTable name t)) := rfl

theorem Scan.run_table (t : TableDecl) :
    (Scan.inControl o control record).run keyText (rowLines layout t.rows) =
      .ok (.inControl o control (record.storeTable t.name.text (t.record keyText))) := by
  rw [TableDecl.rows, List.cons_append, rowLines_cons, Scan.run_append (Scan.run_tableHead t.name),
    rowLines_append, Scan.run_append (Scan.run_properties {} t.properties),
    t.foldl_properties, rowLines_close, Scan.run_cons (Scan.step_tableEnd _ _), Scan.run_nil]

/-! ### Actions and other bodies -/

/-- Lines that hold none of the three keywords say nothing in a control. -/
theorem Scan.run_quiet {lines : List (List Char)}
    (h : ∀ line ∈ lines, ∀ k ∈ [Kind.control, Kind.table, Kind.action],
      ¬ HoldsWord k.keyword line) :
    (Scan.inControl o control record).run keyText lines = .ok (.inControl o control record) := by
  induction lines with
  | nil => rfl
  | cons line lines ih =>
    have hstep : (Scan.inControl o control record).step keyText line =
        .ok (.inControl o control record) := by
      rw [Scan.step_inControl, Statement.ofLine_of_not_holdsWord (h line List.mem_cons_self)]
      rfl
    rw [Scan.run_cons hstep]
    exact ih fun line hm => h line (List.mem_cons_of_mem _ hm)

theorem Scan.run_action (a : ActionDecl) :
    (Scan.inControl o control record).run keyText (rowLines layout (Item.action a).rows) =
      .ok (.inControl o control (record.addAction a.name.text)) := by
  -- the head is on the first line, and the lines of the body hold none of the three keywords
  obtain ⟨first, others, hlines, hwords⟩ :=
    layout.exists_bareLines_of_brace
      (headText_stem .action a.name a.parameters) a.body.slash_notMem_block
  have hquiet : ∀ line ∈ first :: others, ∀ k ∈ [Kind.control, Kind.table, Kind.action],
      ¬ HoldsWord k.keyword line :=
    fun line hm k hk => hwords k.keyword k.keyword_ne_nil (a.body.not_holdsWord_block k hk) line hm
  have hstep :
    (Scan.inControl o control record).step keyText (headText .action a.name a.parameters ++
      '{' :: first) = .ok (.inControl o control (record.addAction a.name.text)) := by
    rw [Scan.step_inControl,
      Statement.ofLine_action a.name a.parameters (hquiet first List.mem_cons_self)]
    show (Scan.changeControl ⟨⟨o.insert control record⟩, .control control⟩ control
      (·.addAction a.name.text)).map _ = _
    rw [Scan.changeControl_insert]
    rfl
  have hrows : rowLines layout (Item.action a).rows =
      (headText .action a.name a.parameters ++ '{' :: first) :: others := by
    rw [← hlines]
    exact List.append_nil _
  rw [hrows, Scan.run_cons hstep]
  exact Scan.run_quiet fun line hm => hquiet line (List.mem_cons_of_mem _ hm)

/-- The apply block of a control says nothing of its tables and actions. -/
theorem Scan.run_apply (b : Body) :
    (Scan.inControl o control record).run keyText
    (layout.bareLines ("apply ".toList ++ '{' :: b.block)) =
      .ok (.inControl o control record) := by
  apply Scan.run_quiet
  intro line hm k hk
  refine layout.not_holdsWord_of_mem_bareLines k.keyword_ne_nil ?_ ?_ hm
  · simp only [List.mem_append, List.mem_cons, not_or]
    exact ⟨by decide, by decide, b.slash_notMem_block⟩
  · have hword : ∀ k ∈ [Kind.control, Kind.table, Kind.action],
      ¬ HoldsWord k.keyword "apply ".toList := by decide
    rw [HoldsWord, holdsWordFrom_append_cons k.keyword_ne_nil (by decide)]
    exact not_or.2 ⟨hword k hk, b.not_holdsWord_block k hk⟩

/-! ### Controls -/

theorem Scan.run_item (item : Item) :
    (Scan.inControl o control record).run keyText (rowLines layout item.rows) =
      .ok (.inControl o control (item.apply keyText record)) := by
  cases item with
  | action a => exact Scan.run_action a
  | table t => exact Scan.run_table t

theorem Scan.run_items (items : List Item) :
    (Scan.inControl o control record).run keyText (rowLines layout (items.flatMap Item.rows)) =
      .ok (.inControl o control (items.foldl (fun c item => item.apply keyText c) record)) := by
  induction items generalizing record with
  | nil => rfl
  | cons item items ih =>
    rw [List.flatMap_cons, rowLines_append, Scan.run_append (Scan.run_item item), ih]
    rfl

/-- A control is begun afresh, whatever stands before it. -/
theorem Scan.run_controlHead {s : Scan} (hs : s.place.block? = none) (name : Identifier)
    (parameters : Parameters) :
    s.run keyText (layout.bareLines (headText .control name parameters ++ ['{'])) =
      .ok (.inControl s.outline.controls name.text {}) := by
  apply Scan.run_line (layout.bareLines_of_end (headText_stem .control name parameters) (.inl rfl))
  rw [Scan.step_of_block? keyText hs, Statement.ofLine_control]
  rfl

theorem Scan.step_controlEnd :
    (Scan.inControl o control record).step keyText ['}'] = .ok (.inControl o control record) := rfl

/-- A control is read as a whole, whatever stands before it. -/
theorem Scan.run_control {s : Scan} (hs : s.place.block? = none) (c : ControlDecl) :
    s.run keyText (rowLines layout c.rows) =
      .ok (.inControl s.outline.controls c.name.text (c.record keyText)) := by
  rw [ControlDecl.rows, List.cons_append, rowLines_cons,
    Scan.run_append (Scan.run_controlHead hs c.name c.parameters), rowLines_append,
    Scan.run_append (Scan.run_items c.items), c.foldl_items, rowLines_cons,
    Scan.run_append (Scan.run_apply c.apply), rowLines_close, Scan.run_cons Scan.step_controlEnd,
    Scan.run_nil]

/-! ### Programs -/

/-- Controls with distinct names, none of which is there, add up. -/
theorem Scan.run_controls {s : Scan} (hs : s.place.block? = none) {controls : List ControlDecl}
    (h : (s.outline.controls.keys ++ controls.map (·.name.text)).Nodup) :
    ∃ s', s.run keyText (rowLines layout (controls.flatMap ControlDecl.rows)) = .ok s' ∧
      s'.outline.controls.entries =
        s.outline.controls.entries ++ controls.map fun c => (c.name.text, c.record keyText) := by
  induction controls generalizing s with
  | nil => exact ⟨s, rfl, by simp⟩
  | cons c controls ih =>
    have hnew : c.name.text ∉ s.outline.controls.keys := by
      intro hm
      exact (List.nodup_append.1 h).2.2 _ hm _ (by simp) rfl
    have hkeys :
      (Scan.inControl s.outline.controls c.name.text (c.record keyText)).outline.controls.keys =
        s.outline.controls.keys ++ [c.name.text] := by
      rw [Scan.inControl, Keyed.keys_insert, if_neg hnew]
    obtain ⟨s', hrun, hentries⟩ :=
      @ih (.inControl s.outline.controls c.name.text (c.record keyText)) rfl
        (by rw [hkeys]; simpa using h)
    refine ⟨s', ?_, hentries.trans ?_⟩
    · rw [List.flatMap_cons, rowLines_append, Scan.run_append (Scan.run_control hs c), hrun]
    · rw [Scan.inControl, Keyed.entries_insert_of_notMem hnew]
      simp

end Runs

/-- What is printed is read back: the outline of a printed program is the outline of the program. -/
theorem ProgramDecl.ofSource_print (reading : Reading) (tab : Nat) (p : ProgramDecl) :
    Outline.ofSource reading (String.ofList (p.print tab)) = .ok (p.outline reading.keyText) := by
  obtain ⟨s, hrun, hentries⟩ :=
    @Scan.run_controls reading.keyText reading.layout {} rfl p.controls p.nodup
  rw [Outline.ofSource_eq_run, String.toList_ofList, ← Scan.run_bare reading.keyText rfl,
    ← Layout.bareLines, p.bareLines_print, ProgramDecl.rows, hrun]
  exact congrArg Except.ok (congrArg Outline.mk (Keyed.ext hentries))

/-- A program whose names are those of keywords and properties. -/
def ProgramDecl.sample : ProgramDecl where
  controls := [
    { name := ⟨"table".toList, by decide, by decide⟩
      parameters := ⟨"inout action t".toList, by decide, by decide⟩
      items := [
        .table
          { name := ⟨"size".toList, by decide, by decide⟩
            properties := [
              .defaultAction ⟨"key".toList, by decide, by decide⟩,
              .keys [
                { expression := ⟨"t.x".toList, by decide, @bareStart_cons 't' (by decide) _,
                    @bareEnd_concat 'x' (by decide) ['t', '.'], by decide⟩
                  kind := ⟨"exact".toList, by decide, by decide⟩ }]]
            nodup := by decide },
        .action
          { name := ⟨"key".toList, by decide, by decide⟩
            parameters := ⟨[], by decide, by decide⟩
            body := ⟨"t.size = 2;".toList, by decide, by decide⟩ }]
      nodup := by decide
      apply := ⟨"size.apply();".toList, by decide, by decide⟩ }]
  nodup := by decide

example : String.ofList (ProgramDecl.sample.print 2) =
    "control table(inout action t) \x7b\n  table size \x7b\n    default_action = key;\n" ++
      "    key = \x7b\n      t.x: exact;\n    \x7d\n  \x7d\n" ++
        "  action key() \x7b t.size = 2; \x7d\n  apply \x7b size.apply(); \x7d\n\x7d\n" := by
  decide +kernel

end P4Outline

import P4Outline.Proofs.Grounded

/-!
# What one line can change

`Scan.Change` lists all that a line can do to a scan: declare a control, open a table, add an action
to the control, change the record of the table that the scan stands in, or nothing. What a line
leaves alone is read off this list.

* `Scan.change_of_step`: a line does one of these.
* `Scan.step_of_opens`: a line that opens a table.
* `Outline.table?_modifyTable` and the like: the record of a table in a changed outline.
-/

namespace P4Outline

open P4Outline.Text P4Outline.Source

/-- The table that a place is in, behind the control that it belongs to. -/
def Place.table? : Place → Option (String × String)
  | .table owner name _ _ => some (owner, name)
  | _ => none

/-- The table that is opened on a line where a scan stands, if one is: its control, its name, and
the text behind its brace. An open block takes the line for itself, and so does the head of a
control. -/
def Place.opens? (p : Place) (line : List Char) : Option (String × String × List Char) :=
  if p.block?.isSome || (Kind.control.inLine? line).isSome then none
  else
    match p.control?, Kind.table.inLine? line with
    | some owner, some (name, rest) => some (owner, String.ofList name, rest)
    | _, _ => none

/-- The record of a table of a control. -/
def Outline.table? (o : Outline) (control table : String) : Option Table :=
  (o.controls.get? control).bind (·.tables.get? table)

/-- All that a line can do to a scan. -/
inductive Scan.Change (s : Scan) (line : List Char) : Scan → Prop
  /-- It declares a control. -/
  | control {control : String} (h : s.place.declares? line = some control) :
      s.Change line ⟨s.outline.openControl control, .control control⟩
  /-- It opens a table of the control. -/
  | table {control table : String} {rest : List Char}
      (h : s.place.opens? line = some (control, table, rest)) :
      s.Change line ⟨s.outline.modifyControl control (·.openTable table),
        (Place.table control table (1 + balance rest) none).settle⟩
  /-- It adds an action to the control. -/
  | action {control : String} {head : List Char × List Char} (hc : s.place.control? = some control)
      (hh : Kind.action.inLine? line = some head) :
      s.Change line
        ⟨s.outline.modifyControl control (·.addAction (String.ofList head.1)),
          (s.place.count line).settle⟩
  /-- It changes the record of the table that the scan stands in, or it opens or closes a block of
  the table. -/
  | within {control table : String} {depth : Int} {block : Option Block}
      (hp : s.place = .table control table depth block) (f : Table → Table)
        (block' : Option Block) :
      s.Change line
        ⟨s.outline.modifyTable control table f,
          (Place.table control table (depth + balance line) block').settle⟩
  /-- It is passed over. -/
  | idle : s.Change line ⟨s.outline, (s.place.count line).settle⟩

/-! ### Changed records -/

theorem modifyEntry_id {α : Type _} (name : String) (es : List (String × α)) :
    modifyEntry name id es = es := by
  induction es with
  | nil => rfl
  | cons e es ih =>
    obtain ⟨n, a⟩ := e
    rw [modifyEntry, ih]
    split <;> rfl

theorem Keyed.modify_id {α : Type _} (m : Keyed α) (name : String) : m.modify name id = m :=
  Keyed.ext (modifyEntry_id name m.entries)

/-- Leaving a table as it is leaves the outline as it is. -/
theorem Outline.modifyTable_id (o : Outline) (control table : String) :
    o.modifyTable control table id = o := by
  have hc : (fun c : Control => c.modifyTable table id) = id := by
    funext c
    rw [Control.modifyTable, Keyed.modify_id]
    rfl
  rw [modifyTable, modifyControl, hc, Keyed.modify_id]

theorem Outline.table?_openControl (o : Outline) (opened control table : String) :
    (o.openControl opened).table? control table = if control =
      opened then none else o.table? control table := by
  rw [table?, openControl, Keyed.get?_insert]
  split
  · rfl
  · rw [table?]

theorem Outline.table?_modifyControl (o : Outline) (changed : String) (f : Control → Control)
    (control table : String) :
    (o.modifyControl changed f).table? control table =
      if control = changed then (o.controls.get? control).bind (fun c => (f c).tables.get? table)
      else o.table? control table := by
  rw [table?, modifyControl, Keyed.get?_modify]
  split
  · rw [Option.bind_map]
    rfl
  · rw [table?]

theorem Outline.table?_addAction (o : Outline) (changed action control table : String) :
    (o.modifyControl changed (·.addAction action)).table? control table =
      o.table? control table := by
  rw [table?_modifyControl]
  split
  · rfl
  · rfl

theorem Outline.table?_openTable (o : Outline) (changed opened control table : String)
    (h : ¬ (control = changed ∧ table = opened)) :
    (o.modifyControl changed (·.openTable opened)).table? control table =
      o.table? control table := by
  rw [table?_modifyControl]
  split
  · next hc =>
    have ht : table ≠ opened := fun ht => h ⟨hc, ht⟩
    simp only [Control.openTable, Keyed.get?_insert, if_neg ht]
    rfl
  · rfl

/-- A table that is opened in a control that is there has a fresh record. -/
theorem Outline.table?_openTable_self (o : Outline) {control : String}
    (h : control ∈ o.controls.keys) (table : String) :
    (o.modifyControl control (·.openTable table)).table? control table = some {} := by
  obtain ⟨c, hc⟩ := Option.isSome_iff_exists.1 (Keyed.mem_keys_iff.1 h)
  rw [table?_modifyControl, if_pos rfl, hc]
  simp [Control.openTable]

theorem Outline.table?_modifyTable (o : Outline) (changed opened : String) (f : Table → Table)
    (control table : String) :
    (o.modifyTable changed opened f).table? control table =
      if control = changed ∧ table = opened then (o.table? control table).map f
          else o.table? control table := by
  rw [modifyTable, table?_modifyControl]
  by_cases hc : control = changed
  · subst hc
    rw [if_pos rfl, table?]
    cases o.controls.get? control with
    | none => simp
    | some c => simp [Control.modifyTable]
  · rw [if_neg hc, if_neg fun h => hc h.1]

/-! ### One line -/

/-- No property of a table begins an action. -/
theorem Statement.ne_action_of_ofProperty? {line : List Char} {s : Statement}
    (h : Statement.ofProperty? line = some s) (name : String) : s ≠ .action name := by
  simp only [Statement.ofProperty?, Option.orElse_eq_orElse, Option.orElse_eq_or,
    Option.or_eq_some_iff, Option.map_eq_some_iff] at h
  rcases h with ⟨x, -, rfl⟩ | ⟨-, ⟨x, -, rfl⟩ | ⟨-, ⟨x, -, rfl⟩ | ⟨-, x, -, rfl⟩⟩⟩ <;> simp

section Line

variable {keyText : KeyText} {s s' : Scan} {line : List Char}

theorem Scan.eq_of_changeControl {control : String} {f : Control → Control}
    (h : s.changeControl control f = .ok s') :
    control ∈ s.outline.controls.keys ∧
    s' = { s with outline := s.outline.modifyControl control f } := by
  rw [Scan.changeControl] at h
  split at h
  · next hc => cases h; exact ⟨Keyed.contains_iff.1 hc, rfl⟩
  · cases h

theorem Scan.eq_of_changeTable {control table : String} {f : Table → Table}
    (h : s.changeTable control table f = .ok s') :
    s' = { s with outline := s.outline.modifyTable control table f } := by
  rw [Scan.changeTable] at h
  split at h
  · cases h
  · split at h
    · cases h; rfl
    · cases h

theorem Scan.eq_of_readEntry {control table : String} {depth : Int} {block : Block}
    (hp : s.place = .table control table depth (some block))
    (h : s.readEntry keyText control table depth block line = .ok s') :
    ∃ f block', s' =
      ⟨s.outline.modifyTable control table f, .table control table depth block'⟩ := by
  rw [Scan.readEntry] at h
  split at h
  · cases h
    exact ⟨id, none, by rw [Outline.modifyTable_id]⟩
  · split at h
    · cases h
      exact ⟨id, some block, by rw [Outline.modifyTable_id, ← hp]⟩
    · cases Scan.eq_of_changeTable h
      exact ⟨_, some block, by rw [hp]⟩

theorem Scan.eq_of_openBlock {control table : String} {depth : Int} {block : Block}
    {open? : Option Block} {rest : List Char} (hp : s.place = .table control table depth open?)
    (h : s.openBlock keyText control table depth block rest = .ok s') :
    ∃ f block', s' =
      ⟨s.outline.modifyTable control table f, .table control table depth block'⟩ := by
  rw [Scan.openBlock] at h
  split at h
  · cases Scan.eq_of_changeTable h
    exact ⟨_, open?, by rw [hp]⟩
  · cases h
    exact ⟨id, some block, by rw [Outline.modifyTable_id]⟩

theorem Place.opens?_eq_some_iff {p : Place} {control table : String} {rest : List Char} :
    p.opens? line = some (control, table, rest) ↔
      p.block? = none ∧ p.control? = some control ∧ Kind.control.inLine? line = none ∧
        ∃ name, Kind.table.inLine? line = some (name, rest) ∧ table = String.ofList name := by
  rw [opens?]
  cases p.block? with
  | some block => simp
  | none =>
    cases Kind.control.inLine? line with
    | some head => simp
    | none =>
      cases p.control? with
      | none => simp
      | some owner =>
        cases Kind.table.inLine? line with
        | none => simp
        | some head =>
          obtain ⟨name, rest'⟩ := head
          simp only [Option.isSome_none, Bool.or_self, Bool.false_eq_true, if_false,
            Option.some.injEq, Prod.mk.injEq, true_and]
          constructor
          · rintro ⟨rfl, rfl, rfl⟩
            exact ⟨rfl, name, ⟨rfl, rfl⟩, rfl⟩
          · rintro ⟨rfl, _, ⟨rfl, rfl⟩, rfl⟩
            exact ⟨rfl, rfl, rfl⟩

/-- A line that opens a table says so, inside a table and outside. -/
theorem Statement.ofLine_of_opens? {p : Place} {control table : String} {rest : List Char}
    (h : p.opens? line = some (control, table, rest)) (inTable : Bool) :
    Statement.ofLine inTable line = .table table (1 + balance rest) := by
  obtain ⟨-, -, hc, name, ht, rfl⟩ := Place.opens?_eq_some_iff.1 h
  rw [Statement.ofLine, hc, ht]

/-- What a line says is about a table only if it has the head of one, and of no control. -/
theorem Statement.exists_of_table {inTable : Bool} {table : String} {depth : Int}
    (h : Statement.ofLine inTable line = .table table depth) :
    Kind.control.inLine? line = none ∧
      ∃ name rest, Kind.table.inLine? line = some (name, rest) ∧ table = String.ofList name ∧
        depth = 1 + balance rest := by
  unfold Statement.ofLine at h
  split at h
  · cases h
  · next hc =>
    split at h
    · next name rest ht => cases h; exact ⟨hc, name, rest, ht, rfl, rfl⟩
    · split at h
      · next p hp =>
        cases inTable with
        | false => simp at hp
        | true => exact absurd h ((Statement.of_ofProperty? hp).2.1 table depth)
      · split at h <;> cases h

/-- What a line says is about an action only if it has the head of one. -/
theorem Statement.exists_of_action {inTable : Bool} {name : String}
    (h : Statement.ofLine inTable line = .action name) :
    ∃ head, Kind.action.inLine? line = some head ∧ name = String.ofList head.1 := by
  unfold Statement.ofLine at h
  split at h
  · cases h
  · split at h
    · cases h
    · split at h
      · next p hp =>
        cases inTable with
        | false => simp at hp
        | true => exact absurd h (Statement.ne_action_of_ofProperty? hp name)
      · split at h
        · next n rest ha => cases h; exact ⟨_, ha, rfl⟩
        · cases h

/-- A statement about a table changes the record of the table that a scan stands in, or the block
that is open there. -/
theorem Scan.eq_of_obey {statement : Statement} (hcontrol : ∀ name, statement ≠ .control name)
    (htable : ∀ name depth, statement ≠ .table name depth)
    (haction : ∀ name, statement ≠ .action name) (h : s.obey keyText statement = .ok s') :
    s' = s ∨ ∃ control table depth block f block', s.place = .table control table depth block ∧
      s' = ⟨s.outline.modifyTable control table f, .table control table depth block'⟩ := by
  obtain ⟨o, place⟩ := s
  -- a property changes its table and nothing else, whatever block it leaves open
  cases statement with
  | control name => exact absurd rfl (hcontrol name)
  | table name depth => exact absurd rfl (htable name depth)
  | action name => exact absurd rfl (haction name)
  | other => cases h; exact .inl rfl
  | keys rest =>
    cases place with
    | table owner name depth block =>
      obtain ⟨f, block', rfl⟩ := Scan.eq_of_openBlock rfl h
      exact .inr ⟨owner, name, depth, block, f, block', rfl, rfl⟩
    | _ => cases h; exact .inl rfl
  | actions rest =>
    cases place with
    | table owner name depth block =>
      obtain ⟨f, block', rfl⟩ := Scan.eq_of_openBlock rfl h
      exact .inr ⟨owner, name, depth, block, f, block', rfl, rfl⟩
    | _ => cases h; exact .inl rfl
  | defaultAction action =>
    cases place with
    | table owner name depth block =>
      cases Scan.eq_of_changeTable h
      exact .inr ⟨owner, name, depth, block, _, block, rfl, rfl⟩
    | _ => cases h; exact .inl rfl
  | size digits =>
    cases place with
    | table owner name depth block =>
      unfold Scan.obey at h
      dsimp only at h
      split at h
      · cases Scan.eq_of_changeTable h
        exact .inr ⟨owner, name, depth, block, _, block, rfl, rfl⟩
      · cases h
    | _ => cases h; exact .inl rfl

/-- A line that is obeyed does one of the things that a line can do. -/
theorem Scan.change_of_obey (hb : s.place.block? = none)
    (h : Scan.obey keyText { s with place := s.place.count line }
      (Statement.ofLine s.place.inTable line) = .ok s') :
    s.Change line { s' with place := s'.place.settle } := by
  obtain ⟨hcontrol, -, -⟩ := @Statement.of_ofLine s.place.inTable line _ rfl
  obtain ⟨o, place⟩ := s
  cases hs : Statement.ofLine place.inTable line with
  | control name =>
    obtain ⟨head, hh, hname⟩ := hcontrol name hs
    rw [hs] at h
    cases h
    exact .control (Place.declares?_eq_some_iff.2 ⟨hb, head, hh, hname⟩)
  | table name depth =>
    rw [hs, Scan.obey] at h
    simp only [Place.control?_count] at h
    cases hc : place.control? with
    | none => rw [hc] at h; cases h; exact .idle
    | some control =>
      rw [hc] at h
      dsimp only at h
      cases ht : Scan.changeControl ⟨o, place.count line⟩ control (·.openTable name) with
      | error e => rw [ht] at h; cases h
      | ok t =>
        rw [ht] at h
        cases h
        obtain ⟨-, rfl⟩ := Scan.eq_of_changeControl ht
        obtain ⟨hcontrol, head, rest, hh, rfl, rfl⟩ := Statement.exists_of_table hs
        exact .table (Place.opens?_eq_some_iff.2 ⟨hb, hc, hcontrol, head, hh, rfl⟩)
  | action name =>
    obtain ⟨head, hh, rfl⟩ := Statement.exists_of_action hs
    rw [hs, Scan.obey] at h
    simp only [Place.control?_count] at h
    cases hc : place.control? with
    | none => rw [hc] at h; cases h; exact .idle
    | some control =>
      rw [hc] at h
      obtain ⟨-, rfl⟩ := Scan.eq_of_changeControl h
      exact .action hc hh
  | _ =>
    -- whatever else a line says is about the table that the scan stands in
    rw [hs] at h
    rcases Scan.eq_of_obey (by simp) (by simp) (by simp) h with
      rfl | ⟨owner, name, _, _, f, block', hp, rfl⟩
    · exact .idle
    · cases place with
      | table owner' name' depth block => cases hp; exact .within rfl f block'
      | _ => cases hp

/-- A line does one of the things that a line can do. -/
theorem Scan.change_of_step (h : s.step keyText line = .ok s') : s.Change line s' := by
  cases hb : s.place.block? with
  | none =>
    rw [Scan.step_of_block? keyText hb] at h
    cases ho : Scan.obey keyText { s with place := s.place.count line }
        (Statement.ofLine s.place.inTable line) with
    | error e => rw [ho] at h; cases h
    | ok t =>
      rw [ho] at h
      cases h
      exact Scan.change_of_obey hb ho
  | some block =>
    -- the open block takes the line for itself
    obtain ⟨o, place⟩ := s
    cases place with
    | table owner name depth open? =>
      cases hb
      cases hr :
          Scan.readLine keyText
            ⟨o, (Place.table owner name depth (some block)).count line⟩ line with
      | error e => rw [Scan.step, hr] at h; cases h
      | ok t =>
        rw [Scan.step, hr] at h
        cases h
        obtain ⟨f, block', rfl⟩ := Scan.eq_of_readEntry rfl hr
        exact .within rfl f block'
    | _ => simp [Place.block?] at hb

/-- A line that opens a table starts the table afresh. -/
theorem Scan.step_of_opens (keyText : KeyText) (hs : s.Grounded) {control table : String}
    {rest : List Char} (h : s.place.opens? line = some (control, table, rest)) :
    s.step keyText line = .ok ⟨s.outline.modifyControl control (·.openTable table),
      (Place.table control table (1 + balance rest) none).settle⟩ := by
  obtain ⟨hb, hc, -⟩ := Place.opens?_eq_some_iff.1 h
  obtain ⟨-, record, hr, -⟩ := hs control hc
  have hchange : Scan.changeControl { s with place := s.place.count line } control
      (·.openTable table) =
      .ok { s with
        outline := s.outline.modifyControl control (·.openTable table)
        place := s.place.count line } := by
    rw [Scan.changeControl, if_pos (Keyed.contains_of_get? hr)]
  rw [Scan.step_of_block? keyText hb, Statement.ofLine_of_opens? h, Scan.obey]
  simp only [Place.control?_count, hc, hchange]
  rfl

end Line

end P4Outline

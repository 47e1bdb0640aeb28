import P4Outline.Proofs.Effect
import P4Outline.Proofs.Lookup
import P4Outline.Report.Description

/-!
# What a scan stores

Every name in an outline is a word, every key text is a text on one line and not empty, and every
size can be written, whatever the source is.

* `Outline.Tidy`: an outline of such names, texts and sizes.
* `Block.admits_entry`, `Block.admits_inlineEntries`: what is kept of an entry.
* `Scan.tidy_step`, `Scan.tidy_run`: a line keeps the outline tidy, and so does every sequence of
  lines.
* `Outline.tidy_of_ofGiven`: so the outline of anything is tidy.
-/

namespace P4Outline

open P4Outline.Text P4Outline.Source

/-! ### Tidy outlines -/

/-- Whether a text is a word. -/
def IsName (text : String) : Prop := text ≠ "" ∧ ∀ c ∈ text.toList, isWord c = true

/-- Whether a text may be stored for a block: a text on one line for a key, a word for an action. -/
def Block.Admits : Block → String → Prop
  | .keys, text => text ≠ "" ∧ '\n' ∉ text.toList
  | .actions, text => IsName text

/-- A table of admissible texts and a size that can be written. -/
structure Table.Tidy (t : Table) : Prop where
  keys : ∀ key ∈ t.keys, Block.keys.Admits key
  actions : ∀ action ∈ t.actions, Block.actions.Admits action
  size : ∀ n ∈ t.size, P4Outline.isWritable n = true
  defaultAction : ∀ action ∈ t.defaultAction, IsName action

/-- A control of tidy tables under names, and of named actions. -/
structure Control.Tidy (c : Control) : Prop where
  tables : ∀ e ∈ c.tables.entries, IsName e.1 ∧ e.2.Tidy
  actions : ∀ action ∈ c.actions, IsName action

/-- An outline of tidy controls under names. -/
def Outline.Tidy (o : Outline) : Prop := ∀ e ∈ o.controls.entries, IsName e.1 ∧ e.2.Tidy

theorem isName_ofList {cs : List Char} (hn : cs ≠ []) (hw : ∀ c ∈ cs, isWord c = true) :
    IsName (String.ofList cs) :=
  ⟨ofList_ne_empty hn, by rwa [String.toList_ofList]⟩

theorem isName_word {cs : List Char} (hn : word cs ≠ []) : IsName (String.ofList (word cs)) :=
  isName_ofList hn fun _ => isWord_of_mem_word

theorem newline_notMem_of_isName {text : String} (h : IsName text) : '\n' ∉ text.toList :=
  notMem_of_class h.2 (by decide)

/-! ### Changes that keep an outline tidy -/

theorem Table.tidy_fresh : ({} : Table).Tidy := ⟨by simp, by simp, by simp, by simp⟩

theorem Table.Tidy.addEntries {t : Table} (ht : t.Tidy) {block : Block} {texts : List String}
    (h : ∀ text ∈ texts, block.Admits text) : (t.addEntries block texts).Tidy := by
  cases block with
  | keys => exact ⟨List.forall_mem_append.2 ⟨ht.keys, h⟩, ht.actions, ht.size, ht.defaultAction⟩
  | actions => exact ⟨ht.keys, List.forall_mem_append.2 ⟨ht.actions, h⟩, ht.size, ht.defaultAction⟩

/-- A number that is read can be written. -/
theorem isWritable_digitsValue {digits : List Char} (h : digits.length ≤ maxDigits) :
    isWritable (digitsValue digits : Nat) = true := by
  have hlt : digitsValue digits < 10 ^ maxDigits :=
    Nat.lt_of_lt_of_le (digitsValue_lt digits) (Nat.pow_le_pow_right (by decide) h)
  exact decide_eq_true (length_natText_le (by decide) hlt)

theorem Control.tidy_fresh : ({} : Control).Tidy := ⟨by simp [Keyed.empty], by simp⟩

theorem Control.Tidy.openTable {c : Control} (hc : c.Tidy) {table : String} (h : IsName table) :
    (c.openTable table).Tidy := by
  refine ⟨?_, hc.actions⟩
  intro e he
  rcases mem_insertEntry he with rfl | he
  · exact ⟨h, Table.tidy_fresh⟩
  · exact hc.tables e he

theorem Control.Tidy.modifyTable {c : Control} (hc : c.Tidy) (table : String) {f : Table → Table}
    (h : ∀ t, t.Tidy → (f t).Tidy) : (c.modifyTable table f).Tidy := by
  refine ⟨?_, hc.actions⟩
  intro e he
  rcases mem_modifyEntry he with he | ⟨t, ht, rfl⟩
  · exact hc.tables e he
  · obtain ⟨hname, htidy⟩ := hc.tables _ ht
    exact ⟨hname, h t htidy⟩

theorem Control.Tidy.addAction {c : Control} (hc : c.Tidy) {action : String} (h : IsName action) :
    (c.addAction action).Tidy :=
  ⟨hc.tables, List.forall_mem_append.2 ⟨hc.actions, List.forall_mem_singleton.2 h⟩⟩

theorem Outline.Tidy.openControl {o : Outline} (ho : o.Tidy) {control : String}
    (h : IsName control) :
    (o.openControl control).Tidy := by
  intro e he
  rcases mem_insertEntry he with rfl | he
  · exact ⟨h, Control.tidy_fresh⟩
  · exact ho e he

theorem Outline.Tidy.modifyControl {o : Outline} (ho : o.Tidy) (control : String)
    {f : Control → Control} (h : ∀ c, c.Tidy → (f c).Tidy) : (o.modifyControl control f).Tidy := by
  intro e he
  rcases mem_modifyEntry he with he | ⟨c, hc, rfl⟩
  · exact ho e he
  · obtain ⟨hname, htidy⟩ := ho _ hc
    exact ⟨hname, h c htidy⟩

/-! ### What is kept of an entry -/

theorem trim_subset (cs : List Char) : trim cs ⊆ cs := by
  obtain ⟨front, -, hs⟩ := exists_skipBlanks cs
  obtain ⟨behind, -, ht⟩ := exists_trimRight (skipBlanks cs)
  intro c hc
  rw [hs, ht]
  exact List.mem_append_right front (List.mem_append_left behind hc)

theorem isWord_of_matchKind? {cs kind : List Char} (h : matchKind? cs = some kind) :
    ∀ c ∈ kind, isWord c = true := by
  unfold matchKind? at h
  dsimp only at h
  split at h
  · cases h
  · split at h
    · cases h
      exact fun _ => isWord_of_mem_word
    · cases h

/-- The expression of a key entry is part of the entry, and its match kind is a word. -/
theorem of_lastField? {cs expression kind : List Char}
    (h : lastField? cs = some (expression, kind)) :
    expression ⊆ cs ∧ ∀ c ∈ kind, isWord c = true := by
  have hcolon {rest cs expression : List Char}
      (h : (matchKind? rest).map (fun kind => ([], kind)) = some (expression, kind)) :
      expression ⊆ cs ∧ ∀ c ∈ kind, isWord c = true := by
    obtain ⟨_, hk, he⟩ := Option.map_eq_some_iff.1 h
    cases he
    exact ⟨List.nil_subset cs, isWord_of_matchKind? hk⟩
  induction cs generalizing expression with
  | nil => cases h
  | cons c cs ih =>
    unfold lastField? at h
    split at h
    · split at h
      · exact hcolon h
      · cases h
    · split at h
      · next hrest =>
        cases h
        obtain ⟨hsubset, hword⟩ := ih hrest
        exact ⟨List.cons_subset_cons c hsubset, hword⟩
      · split at h
        · exact hcolon h
        · cases h

theorem of_field? {cs expression kind : List Char} (h : field? cs = some (expression, kind)) :
    expression ⊆ cs ∧ ∀ c ∈ kind, isWord c = true := by
  unfold field? at h
  split at h
  · cases h
  · split at h
    · cases h
    · obtain ⟨⟨rest, kind'⟩, hrest, he⟩ := Option.map_eq_some_iff.1 h
      cases he
      obtain ⟨hsubset, hword⟩ := of_lastField? hrest
      exact ⟨List.cons_subset_cons _ hsubset, hword⟩

/-- A key entry on one line is kept on one line, and something of it is kept. -/
theorem KeyText.reduce_inline (keyText : KeyText) {entry : List Char} (hn : entry ≠ [])
    (hl : '\n' ∉ entry) :
    keyText.reduce entry ≠ [] ∧ '\n' ∉ keyText.reduce entry := by
  cases keyText with
  | verbatim => exact ⟨hn, hl⟩
  | field =>
    unfold reduce
    dsimp only
    split
    · next expression kind hf =>
      obtain ⟨hsubset, hword⟩ := of_field? hf
      have hkind : '\n' ∉ kind := notMem_of_class hword (by decide)
      refine ⟨by simp, ?_⟩
      simp only [List.mem_append, List.mem_cons, not_or]
      exact ⟨fun hm => hl (hsubset (trim_subset _ hm)), by decide, by decide, hkind⟩
    · exact ⟨hn, hl⟩

/-- What is kept of an entry on one line is admissible, if it is not empty. -/
theorem Block.admits_reduce (keyText : KeyText) (block : Block) {entry : List Char}
    (hn : entry ≠ []) (hl : '\n' ∉ entry) (hkept : block.reduce keyText entry ≠ []) :
    block.Admits (String.ofList (block.reduce keyText entry)) := by
  cases block with
  | keys =>
    refine ⟨ofList_ne_empty hkept, ?_⟩
    rw [String.toList_ofList]
    exact (keyText.reduce_inline hn hl).2
  | actions => exact isName_word hkept

/-- The texts that an entry adds to a block may be stored there. -/
theorem Block.admits_entry (keyText : KeyText) (block : Block) {entry : List Char} (hn : entry ≠ [])
    (hl : '\n' ∉ entry) : ∀ text ∈ block.entry keyText entry, block.Admits text := by
  cases block with
  | keys =>
    intro text ht
    rw [List.mem_singleton.1 ht]
    exact admits_reduce keyText .keys hn hl (keyText.reduce_inline hn hl).1
  | actions =>
    intro text ht
    unfold Block.entry at ht
    dsimp only at ht
    split at ht
    · cases ht
    · next hkept =>
      rw [List.mem_singleton.1 ht]
      exact admits_reduce keyText .actions hn hl (by simpa using hkept)

/-- So may those of a block on one line. -/
theorem Block.admits_inlineEntries (keyText : KeyText) (block : Block) {rest : List Char}
    {texts : List (List Char)} (hl : '\n' ∉ rest)
    (h : inlineEntries? (block.reduce keyText) rest = some texts) :
    ∀ text ∈ texts.map String.ofList, block.Admits text := by
  unfold inlineEntries? at h
  split at h
  · cases h
    simp only [List.mem_map, List.mem_filter, Bool.not_eq_eq_eq_not, Bool.not_true,
      List.isEmpty_eq_false_iff]
    rintro _ ⟨_, ⟨⟨_, ⟨⟨piece, hpiece, rfl⟩, -⟩, rfl⟩, hkept⟩, rfl⟩
    have hsubset : piece ⊆ rest :=
      List.Subset.trans (mem_of_mem_pieces hpiece) (List.takeWhile_prefix _).subset
    apply admits_reduce keyText block (by simp) ?_ hkept
    rw [List.mem_append, not_or]
    exact ⟨fun hm => hl (hsubset (trim_subset _ hm)), by decide⟩
  · cases h

/-! ### What a line says -/

/-- Whether the names that a statement gives are words, and the texts that it gives are on one
line. -/
def Statement.Tidy : Statement → Prop
  | .control name | .table name _ | .action name | .defaultAction name => IsName name
  | .keys rest | .actions rest => '\n' ∉ rest
  | .size _ | .other => True

theorem Kind.isName_of_inLine? {k : Kind} {line : List Char} {head : List Char × List Char}
    (h : k.inLine? line = some head) : IsName (String.ofList head.1) := by
  obtain ⟨_, _, -, -, hv⟩ := Kind.exists_of_inLine? h
  obtain ⟨-, -, hname, hne, -⟩ := Kind.head?_eq_some_iff.1 hv
  rw [hname] at hne ⊢
  exact isName_word hne

theorem suffix_of_afterEquals? {name cs rest : List Char} (h : afterEquals? name cs = some rest) :
    rest <:+ cs := by
  obtain ⟨mid, hmid, hmark⟩ := Option.bind_eq_some_iff.1 h
  obtain ⟨gap, -, hgap⟩ := exists_of_afterMark? hmark
  rw [eq_append_of_isPrefixOf? hmid, hgap]
  exact List.suffix_append_of_suffix (List.suffix_append_of_suffix (List.suffix_cons '=' rest))

theorem newline_notMem_of_blockOpening? {name line rest : List Char} (hl : '\n' ∉ line)
    (h : property? (blockOpening? name) line = some rest) : '\n' ∉ rest := by
  obtain ⟨⟨_, _⟩, hf, rfl⟩ := Option.map_eq_some_iff.1 h
  obtain ⟨front, cs, rfl, -, hread⟩ := exists_of_first? hf
  obtain ⟨equals, he, hmark⟩ := Option.bind_eq_some_iff.1 hread
  obtain ⟨gap, -, hgap⟩ := exists_of_afterMark? hmark
  intro hm
  apply hl
  apply List.mem_append_right front
  apply (suffix_of_afterEquals? he).subset
  rw [hgap]
  exact List.mem_append_right gap (List.mem_cons_of_mem '{' hm)

theorem isName_of_defaultActionName? {line name : List Char}
    (h : property? defaultActionName? line = some name) :
    IsName (String.ofList name) := by
  obtain ⟨⟨_, _⟩, hf, rfl⟩ := Option.map_eq_some_iff.1 h
  obtain ⟨_, _, -, -, hread⟩ := exists_of_first? hf
  unfold defaultActionName? at hread
  split at hread
  · cases hread
  · split at hread
    · cases hread
    · next hne =>
      cases hread
      exact isName_word (by simpa using hne)

theorem Statement.tidy_of_ofProperty? {line : List Char} (hl : '\n' ∉ line) {s : Statement}
    (h : Statement.ofProperty? line = some s) : s.Tidy := by
  simp only [Statement.ofProperty?, Option.orElse_eq_orElse, Option.orElse_eq_or,
    Option.or_eq_some_iff, Option.map_eq_some_iff] at h
  rcases h with
    ⟨rest, hr, rfl⟩ | ⟨-, ⟨rest, hr, rfl⟩ | ⟨-, ⟨digits, -, rfl⟩ | ⟨-, name, hname, rfl⟩⟩⟩
  · exact newline_notMem_of_blockOpening? hl hr
  · exact newline_notMem_of_blockOpening? hl hr
  · exact trivial
  · exact isName_of_defaultActionName? hname

/-- What a line says is tidy. -/
theorem Statement.tidy_ofLine (inTable : Bool) {line : List Char} (hl : '\n' ∉ line) :
    (Statement.ofLine inTable line).Tidy := by
  unfold Statement.ofLine
  split
  · next hc => exact Kind.isName_of_inLine? hc
  · split
    · next ht => exact Kind.isName_of_inLine? ht
    · split
      · next property hp =>
        cases inTable with
        | false => cases hp
        | true => exact Statement.tidy_of_ofProperty? hl hp
      · split
        · next ha => exact Kind.isName_of_inLine? ha
        · exact trivial

/-! ### Lines, one after the other -/

section Lines

variable {keyText : KeyText} {s s' : Scan} {line : List Char}

theorem Scan.tidy_changeTable {control table : String} {f : Table → Table} (hs : s.outline.Tidy)
    (hf : ∀ t, t.Tidy → (f t).Tidy) (h : s.changeTable control table f = .ok s') :
    s'.outline.Tidy := by
  rw [Scan.eq_of_changeTable h]
  exact hs.modifyControl control fun c hc => hc.modifyTable table hf

theorem Scan.tidy_changeControl {control : String} {f : Control → Control} (hs : s.outline.Tidy)
    (hf : ∀ c, c.Tidy → (f c).Tidy) (h : s.changeControl control f = .ok s') : s'.outline.Tidy := by
  rw [(Scan.eq_of_changeControl h).2]
  exact hs.modifyControl control hf

theorem Scan.tidy_readEntry {control table : String} {depth : Int} {block : Block}
    (hs : s.outline.Tidy) (hl : '\n' ∉ line)
    (h : s.readEntry keyText control table depth block line = .ok s') : s'.outline.Tidy := by
  unfold Scan.readEntry at h
  split at h
  · cases h; exact hs
  · split at h
    · cases h; exact hs
    · next hne =>
      have hentry : '\n' ∉ trim line := fun hm => hl (trim_subset line hm)
      apply Scan.tidy_changeTable hs ?_ h
      intro t ht
      exact ht.addEntries (block.admits_entry keyText (by simpa using hne) hentry)

theorem Scan.tidy_openBlock {control table : String} {depth : Int} {block : Block}
    {rest : List Char} (hs : s.outline.Tidy) (hl : '\n' ∉ rest)
    (h : s.openBlock keyText control table depth block rest = .ok s') :
    s'.outline.Tidy := by
  unfold Scan.openBlock at h
  split at h
  · next texts htexts =>
    apply Scan.tidy_changeTable hs ?_ h
    intro t ht
    exact ht.addEntries (block.admits_inlineEntries keyText hl htexts)
  · cases h; exact hs

theorem Scan.tidy_obey {statement : Statement} (hs : s.outline.Tidy) (ht : statement.Tidy)
    (h : s.obey keyText statement = .ok s') : s'.outline.Tidy := by
  obtain ⟨o, place⟩ := s
  cases statement with
  | control name =>
    cases h
    exact hs.openControl ht
  | table name depth =>
    -- whatever is added under a name is fresh, and the name is one that a head gave
    unfold Scan.obey at h
    dsimp only at h
    split at h
    · next control _ =>
      cases hc : Scan.changeControl ⟨o, place⟩ control (·.openTable name) with
      | error e => rw [hc] at h; cases h
      | ok t =>
        rw [hc] at h
        cases h
        show t.outline.Tidy
        exact Scan.tidy_changeControl hs (fun _ hc => hc.openTable ht) hc
    · cases h; exact hs
  | keys rest =>
    cases place with
    | table => exact Scan.tidy_openBlock hs ht h
    | _ => cases h; exact hs
  | actions rest =>
    cases place with
    | table => exact Scan.tidy_openBlock hs ht h
    | _ => cases h; exact hs
  | size digits =>
    cases place with
    | table =>
      unfold Scan.obey at h
      dsimp only at h
      split at h
      · next hdigits =>
        apply Scan.tidy_changeTable hs ?_ h
        -- the size has no more digits than can be read, and so can be written
        intro t ht
        refine ⟨ht.keys, ht.actions, ?_, ht.defaultAction⟩
        rintro n ⟨⟩
        exact isWritable_digitsValue hdigits
      · cases h
    | _ => cases h; exact hs
  | defaultAction name =>
    cases place with
    | table =>
      apply Scan.tidy_changeTable hs ?_ h
      intro t htidy
      refine ⟨htidy.keys, htidy.actions, htidy.size, ?_⟩
      intro action ha
      cases ha
      exact ht
    | _ => cases h; exact hs
  | action name =>
    unfold Scan.obey at h
    dsimp only at h
    split at h
    · exact Scan.tidy_changeControl hs (fun _ hc => hc.addAction ht) h
    · cases h; exact hs
  | other => cases h; exact hs

/-- A line keeps an outline tidy. -/
theorem Scan.tidy_step (hs : s.outline.Tidy) (hl : '\n' ∉ line) (h : s.step keyText line = .ok s') :
    s'.outline.Tidy := by
  unfold Scan.step at h
  cases hr : Scan.readLine keyText { s with place := s.place.count line } line with
  | error e => rw [hr] at h; cases h
  | ok t =>
    rw [hr] at h
    cases h
    have hcount : (Scan.mk s.outline (s.place.count line)).outline.Tidy := hs
    show t.outline.Tidy
    unfold Scan.readLine at hr
    split at hr
    · exact Scan.tidy_readEntry hcount hl hr
    · exact Scan.tidy_obey hcount (Statement.tidy_ofLine _ hl) hr

/-- Lines keep an outline tidy. -/
theorem Scan.tidy_run {lines : List (List Char)} (hs : s.outline.Tidy)
    (hl : ∀ line ∈ lines, '\n' ∉ line) (h : s.run keyText lines = .ok s') : s'.outline.Tidy := by
  induction lines generalizing s with
  | nil => cases h; exact hs
  | cons line lines ih =>
    obtain ⟨hline, hlines⟩ := List.forall_mem_cons.1 hl
    obtain ⟨t, hstep, hrun⟩ := Scan.exists_of_run_cons h
    exact ih (Scan.tidy_step hs hline hstep) hlines hrun

end Lines

/-- All sizes of a tidy outline can be written. -/
theorem Outline.Tidy.isWritable {o : Outline} (ho : o.Tidy) : o.isWritable = true := by
  simp only [Outline.isWritable, Keyed.values, List.all_map, List.all_eq_true, Function.comp_def]
  intro c hc t ht
  rw [Table.isWritable, Option.all_eq_true]
  exact (((ho c hc).2.tables t ht).2).size

theorem Outline.tidy_fresh : ({} : Outline).Tidy := by
  intro e he
  cases he

/-- The outline of anything is tidy. -/
theorem Outline.tidy_of_ofGiven {reading : Reading} {given : Value} {o : Outline}
    (h : Outline.ofGiven reading given = .ok o) : o.Tidy := by
  unfold Outline.ofGiven at h
  split at h
  · next source =>
    obtain ⟨s, hs, rfl⟩ := Outline.exists_run_of_ofSource h
    exact Scan.tidy_run Outline.tidy_fresh (fun _ => notMem_of_mem_pieces) hs
  · cases h
    exact Outline.tidy_fresh

end P4Outline

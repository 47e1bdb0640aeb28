import P4Outline.Proofs.Step

/-!
# Keys that are kept in part

How much is kept of a key entry decides over the texts of keys and over nothing else. Two scans of
one source, the one with its key entries reduced and the other with its key entries as they are
written, go along line by line: after every line the one has the outline of the other with every key
reduced, and stands in the same place, or both give up over the same size. Keys come into an outline
in two ways, from the lines of an open block and from a block on one line. The latter drops entries
that nothing is left of, but something is left of every key.

* `KeyText.reduce_ne_nil`: something is kept of every key entry.
* `Block.entry_eq_mapTexts`, `Block.inlineEntries?_eq_mapTexts`: the two ways.
* `Scan.step_mapKeys`, `Scan.run_mapKeys`: one line, and line after line.
* `Outline.ofGiven_field_eq_map`: outlines with the keys reduced are the others with their keys
  reduced.
-/

namespace P4Outline

open P4Outline.Text P4Outline.Source

/-! ### Outlines with other texts of keys -/

/-- The collection with every record changed, under the same names in the same order. -/
def Keyed.map {α β : Type _} (f : α → β) (m : Keyed α) : Keyed β where
  entries := m.entries.map fun e => (e.1, f e.2)
  nodup := by simpa [keysOf, Function.comp_def] using m.nodup

/-- The table with every key changed. -/
def Table.mapKeys (f : String → String) (t : Table) : Table := { t with keys := t.keys.map f }

/-- The control with every key of its tables changed. -/
def Control.mapKeys (f : String → String) (c : Control) : Control :=
  { c with tables := c.tables.map (Table.mapKeys f) }

/-- The outline with every key of its tables changed. -/
def Outline.mapKeys (f : String → String) (o : Outline) : Outline :=
  ⟨o.controls.map (Control.mapKeys f)⟩

/-- The scan with every key of its outline changed. -/
def Scan.mapKeys (f : String → String) (s : Scan) : Scan :=
  { s with outline := s.outline.mapKeys f }

/-- What is kept of the text of a key. -/
def KeyText.kept (keyText : KeyText) (key : String) : String :=
  String.ofList (keyText.reduce key.toList)

/-- The texts of a block with every one changed, if the block is one of keys. -/
def Block.mapTexts (f : String → String) : Block → List String → List String
  | .keys, texts => texts.map f
  | .actions, texts => texts

section Records

variable {α β : Type _} (f : α → β) (m : Keyed α) (name : String)

theorem map_insertEntry (a : α) (es : List (String × α)) :
    (insertEntry name a es).map (fun e => (e.1, f e.2)) = insertEntry name (f a)
    (es.map fun e => (e.1, f e.2)) := by
  induction es with
  | nil => rfl
  | cons e es ih =>
    rw [insertEntry, List.map_cons, insertEntry, ← ih]
    split <;> rfl

theorem map_modifyEntry {g : α → α} {g' : β → β} (h : ∀ a, f (g a) = g' (f a))
    (es : List (String × α)) :
    (modifyEntry name g es).map (fun e => (e.1, f e.2)) =
      modifyEntry name g' (es.map fun e => (e.1, f e.2)) := by
  induction es with
  | nil => rfl
  | cons e es ih =>
    rw [modifyEntry, List.map_cons, modifyEntry, ← ih, ← h]
    split <;> rfl

theorem lookup_map_entries (es : List (String × α)) :
    (es.map fun e => (e.1, f e.2)).lookup name = (es.lookup name).map f := by
  induction es with
  | nil => rfl
  | cons e es ih =>
    rw [List.map_cons, lookup_entry_cons, lookup_entry_cons, ih]
    split <;> rfl

theorem Keyed.map_insert (a : α) : (m.insert name a).map f = (m.map f).insert name (f a) :=
  Keyed.ext (map_insertEntry f name a m.entries)

theorem Keyed.map_modify {g : α → α} {g' : β → β} (h : ∀ a, f (g a) = g' (f a)) :
    (m.modify name g).map f = (m.map f).modify name g' :=
  Keyed.ext (map_modifyEntry f name h m.entries)

@[simp] theorem Keyed.get?_map : (m.map f).get? name = (m.get? name).map f :=
  lookup_map_entries f name m.entries

@[simp] theorem Keyed.keys_map : (m.map f).keys = m.keys := by
  simp [keys, map, keysOf, Function.comp_def]

@[simp] theorem Keyed.contains_map : (m.map f).contains name = m.contains name := by
  rw [contains, keys_map, contains]

end Records

section Outlines

variable (f : String → String)

theorem Table.mapKeys_addEntries (t : Table) (block : Block) (texts : List String) :
    (t.addEntries block texts).mapKeys f =
    (t.mapKeys f).addEntries block (block.mapTexts f texts) := by
  cases block with
  | keys => simp [addEntries, mapKeys, Block.mapTexts]
  | actions => rfl

theorem Control.mapKeys_openTable (c : Control) (table : String) :
    (c.openTable table).mapKeys f = (c.mapKeys f).openTable table := by
  rw [openTable, mapKeys, Keyed.map_insert]
  rfl

theorem Outline.mapKeys_openControl (o : Outline) (control : String) :
    (o.openControl control).mapKeys f = (o.mapKeys f).openControl control := by
  rw [openControl, mapKeys, Keyed.map_insert]
  rfl

/-- A change of a control that goes along with the change of keys. -/
theorem Scan.changeControl_mapKeys (s : Scan) (control : String) {g : Control → Control}
    (h : ∀ c, (g c).mapKeys f = g (c.mapKeys f)) :
    (s.mapKeys f).changeControl control g = (s.changeControl control g).map (Scan.mapKeys f) := by
  have hc : (s.mapKeys f).outline.controls.contains control = s.outline.controls.contains control :=
    Keyed.contains_map ..
  rw [changeControl, changeControl, hc]
  split
  · have ho : (s.outline.modifyControl control g).mapKeys f =
        (s.outline.mapKeys f).modifyControl control g := by
      rw [Outline.modifyControl, Outline.mapKeys, Keyed.map_modify _ _ _ h]
      rfl
    show Except.ok _ = Except.ok (Scan.mk _ _)
    rw [ho]
    rfl
  · rfl

/-- A change of a table that goes along with the change of keys. -/
theorem Scan.changeTable_mapKeys (s : Scan) (control table : String) {g g' : Table → Table}
    (h : ∀ t, (g t).mapKeys f = g' (t.mapKeys f)) :
    (s.mapKeys f).changeTable control table g' =
    (s.changeTable control table g).map (Scan.mapKeys f) := by
  have hget : (s.mapKeys f).outline.controls.get? control =
      (s.outline.controls.get? control).map (Control.mapKeys f) :=
    Keyed.get?_map ..
  have hmodify (c : Control) : (c.modifyTable table g).mapKeys f =
      (c.mapKeys f).modifyTable table g' := by
    rw [Control.modifyTable, Control.mapKeys, Keyed.map_modify _ _ _ h]
    rfl
  rw [changeTable, changeTable, hget]
  cases s.outline.controls.get? control with
  | none => rfl
  | some c =>
    have hc : (c.mapKeys f).tables.contains table = c.tables.contains table := Keyed.contains_map ..
    simp only [Option.map_some, hc]
    split
    · have ho : (s.outline.modifyTable control table g).mapKeys f =
          (s.outline.mapKeys f).modifyTable control table g' := by
        have hcontrols :
          (s.outline.controls.modify control (·.modifyTable table g)).map (Control.mapKeys f) =
            (s.outline.controls.map (Control.mapKeys f)).modify control (·.modifyTable table g') :=
          Keyed.map_modify _ _ _ hmodify
        rw [Outline.modifyTable, Outline.modifyControl, Outline.mapKeys, hcontrols]
        rfl
      show Except.ok _ = Except.ok (Scan.mk _ _)
      rw [ho]
      rfl
    · rfl

end Outlines

/-! ### What is kept of entries -/

section Entries

variable (keyText : KeyText)

/-- Something is kept of every key entry. -/
theorem KeyText.reduce_ne_nil {entry : List Char} (h : entry ≠ []) : keyText.reduce entry ≠ [] := by
  cases keyText with
  | verbatim => exact h
  | field =>
    unfold reduce
    dsimp only
    split
    · simp
    · exact h

theorem Block.entry_eq_mapTexts (block : Block) (entry : List Char) :
    block.entry keyText entry = block.mapTexts keyText.kept (block.entry .verbatim entry) := by
  cases block with
  | keys => simp [Block.entry, Block.reduce, mapTexts, KeyText.kept, KeyText.reduce]
  | actions => rfl

/-- No key of a block on one line is dropped. -/
theorem inlineEntries?_keys (rest : List Char) :
    inlineEntries? keyText.reduce rest =
      (inlineEntries? KeyText.verbatim.reduce rest).map (·.map keyText.reduce) := by
  -- no key reduces to nothing, so that no entry is dropped in either way
  have hkept (keyText : KeyText) (texts : List (List Char)) :
      (texts.map fun text => keyText.reduce (text ++ [';'])).filter (!·.isEmpty) =
        texts.map fun text => keyText.reduce (text ++ [';']) := by
    rw [List.filter_eq_self]
    intro kept hmem
    obtain ⟨text, -, rfl⟩ := List.mem_map.1 hmem
    have hne : text ++ [';'] ≠ [] := by simp
    simpa using keyText.reduce_ne_nil hne
  unfold inlineEntries?
  dsimp only
  split
  · rw [hkept, hkept, Option.map_some, List.map_map]
    rfl
  · rfl

theorem Block.inlineEntries?_eq_mapTexts (block : Block) (rest : List Char) :
    (inlineEntries? (block.reduce keyText) rest).map (·.map String.ofList) =
      (inlineEntries? (block.reduce .verbatim) rest).map fun texts =>
        block.mapTexts keyText.kept (texts.map String.ofList) := by
  cases block with
  | keys =>
    show (inlineEntries? keyText.reduce rest).map _ =
      (inlineEntries? KeyText.verbatim.reduce rest).map _
    rw [inlineEntries?_keys keyText, Option.map_map]
    congr 1
    funext texts
    simp [mapTexts, KeyText.kept]
  | actions => rfl

end Entries

/-! ### Two scans along the same lines -/

section Lines

variable (keyText : KeyText) (s : Scan)

theorem Scan.readEntry_mapKeys (control table : String) (depth : Int) (block : Block)
    (line : List Char) :
    (s.mapKeys keyText.kept).readEntry keyText control table depth block line =
      (s.readEntry .verbatim control table depth block line).map (Scan.mapKeys keyText.kept) := by
  unfold Scan.readEntry
  split
  · rfl
  · split
    · rfl
    · apply Scan.changeTable_mapKeys
      intro t
      rw [Table.mapKeys_addEntries, ← Block.entry_eq_mapTexts]

theorem Scan.openBlock_mapKeys (control table : String) (depth : Int) (block : Block)
    (rest : List Char) :
    (s.mapKeys keyText.kept).openBlock keyText control table depth block rest =
      (s.openBlock .verbatim control table depth block rest).map (Scan.mapKeys keyText.kept) := by
  have htexts := block.inlineEntries?_eq_mapTexts keyText rest
  unfold Scan.openBlock
  cases hv : inlineEntries? (block.reduce .verbatim) rest with
  | none =>
    rw [hv, Option.map_none, Option.map_eq_none_iff] at htexts
    rw [htexts]
    rfl
  | some texts =>
    rw [hv, Option.map_some] at htexts
    obtain ⟨kept, hkept, htexts⟩ := Option.map_eq_some_iff.1 htexts
    rw [hkept]
    apply Scan.changeTable_mapKeys
    intro t
    rw [Table.mapKeys_addEntries, htexts]

theorem Scan.obey_mapKeys (statement : Statement) :
    (s.mapKeys keyText.kept).obey keyText statement =
      (s.obey .verbatim statement).map (Scan.mapKeys keyText.kept) := by
  obtain ⟨o, place⟩ := s
  -- only blocks have keys in them; every other statement changes what is not mapped
  cases statement with
  | control name =>
    show Except.ok (Scan.mk _ _) = Except.ok (Scan.mk _ _)
    rw [Outline.mapKeys_openControl]
    rfl
  | table name depth =>
    cases hc : place.control? with
    | none => simp only [Scan.obey, Scan.mapKeys, hc]; rfl
    | some control =>
      have hopen := Scan.changeControl_mapKeys keyText.kept ⟨o, place⟩ control
        (g := (·.openTable name)) fun c => c.mapKeys_openTable keyText.kept name
      simp only [Scan.obey, Scan.mapKeys, hc] at hopen ⊢
      rw [hopen]
      cases Scan.changeControl ⟨o, place⟩ control (·.openTable name) <;> rfl
  | keys rest =>
    cases place with
    | table owner name depth block =>
      exact Scan.openBlock_mapKeys keyText ⟨o, _⟩ owner name depth .keys rest
    | _ => rfl
  | actions rest =>
    cases place with
    | table owner name depth block =>
      exact Scan.openBlock_mapKeys keyText ⟨o, _⟩ owner name depth .actions rest
    | _ => rfl
  | size digits =>
    cases place with
    | table owner name depth block =>
      unfold Scan.obey
      dsimp only [Scan.mapKeys]
      split
      · exact Scan.changeTable_mapKeys keyText.kept ⟨o, _⟩ owner name fun t => rfl
      · rfl
    | _ => rfl
  | defaultAction action =>
    cases place with
    | table owner name depth block =>
      exact Scan.changeTable_mapKeys keyText.kept ⟨o, _⟩ owner name fun t => rfl
    | _ => rfl
  | action name =>
    cases hc : place.control? with
    | none => simp only [Scan.obey, Scan.mapKeys, hc]; rfl
    | some control =>
      have hadd :=
        Scan.changeControl_mapKeys keyText.kept ⟨o, place⟩ control (g := (·.addAction name))
          fun c => rfl
      simp only [Scan.obey, Scan.mapKeys, hc] at hadd ⊢
      exact hadd
  | other => rfl

/-- The two scans go along over one line. -/
theorem Scan.step_mapKeys (line : List Char) :
    (s.mapKeys keyText.kept).step keyText line =
    (s.step .verbatim line).map (Scan.mapKeys keyText.kept) := by
  have hread (s : Scan) : (s.mapKeys keyText.kept).readLine keyText line =
      (s.readLine .verbatim line).map (Scan.mapKeys keyText.kept) := by
    obtain ⟨o, place⟩ := s
    unfold Scan.readLine
    dsimp only [Scan.mapKeys]
    split
    · exact Scan.readEntry_mapKeys keyText ⟨o, _⟩ ..
    · exact Scan.obey_mapKeys keyText ⟨o, place⟩ _
  have hcount :
    (Scan.mk (s.mapKeys keyText.kept).outline ((s.mapKeys keyText.kept).place.count line)) =
      Scan.mapKeys keyText.kept ⟨s.outline, s.place.count line⟩ := rfl
  unfold Scan.step
  rw [hcount, hread]
  cases Scan.readLine .verbatim ⟨s.outline, s.place.count line⟩ line <;> rfl

/-- The two scans go along over line after line, and give up at the same line if they do. -/
theorem Scan.run_mapKeys (lines : List (List Char)) :
    (s.mapKeys keyText.kept).run keyText lines =
    (s.run .verbatim lines).map (Scan.mapKeys keyText.kept) := by
  induction lines generalizing s with
  | nil => rfl
  | cons line lines ih =>
    have hstep := s.step_mapKeys keyText line
    cases hv : s.step .verbatim line with
    | error e =>
      rw [hv] at hstep
      rw [Scan.run_cons_error hstep, Scan.run_cons_error hv]
      rfl
    | ok t =>
      rw [hv] at hstep
      rw [Scan.run_cons hstep, Scan.run_cons hv]
      exact ih t

end Lines

/-- Whatever is given as a source, and however it is brought into lines: with key entries reduced
the same outline is read as with key entries as they are written, every key text of which is reduced
where it stands, or the same error stops both. -/
theorem Outline.ofGiven_field_eq_map (layout : Layout) (given : Value) :
    Outline.ofGiven ⟨layout, .field⟩ given =
      (Outline.ofGiven ⟨layout, .verbatim⟩ given).map (Outline.mapKeys KeyText.field.kept) := by
  cases given with
  | text source =>
    unfold Outline.ofGiven Outline.ofSource
    dsimp only
    split
    · rfl
    · have hrun := Scan.run_mapKeys .field {} (layout.lines source.toList)
      rw [show Scan.mapKeys KeyText.field.kept {} = {} from rfl] at hrun
      rw [hrun]
      cases Scan.run .verbatim {} (layout.lines source.toList) <;> rfl
  | _ => rfl

end P4Outline

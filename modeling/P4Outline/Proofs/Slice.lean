import P4Outline.Proofs.Brace
import P4Outline.Proofs.Printed
import P4Outline.Proofs.Scope

/-!
# A table and the text of its body

What is read of a table depends on nothing but the text between its braces, if no control and no
table is declared in it: the braces that are counted line by line close the table where the brace is
that closes its body in the source.

* `Scan.step_table`: what a line does to the table that a scan stands in.
* `Scan.run_silent`: what lines do to it, up to the one with which the table is left.
* `Place.exists_brace_of_opens?`: a table is opened at a brace of the source.
* `Outline.table?_of_slice`: the table is read as it is on its own.
-/

namespace P4Outline

open P4Outline.Text P4Outline.Source

/-- Whether a scan stands in a table with so many of its braces open, or has just left it with none
open, and has this record of the table. -/
def Scan.Holds (control table : String) (depth : Int) (block : Option Block) (t : Table)
    (s : Scan) : Prop :=
  s.place = (Place.table control table depth block).settle ∧ s.outline.table? control table = some t

/-- Whether reading does the same to every table with these braces and this block open, whatever
else has been read: it changes the record in one way, or it goes wrong in one way. -/
def Scan.ActsAlike (read : Scan → Except ScanError Scan) (depth depth' : Int)
    (block : Option Block) : Prop :=
  (∃ (f : Table → Table) (block' : Option Block), ∀ s control table t,
    Scan.Holds control table depth block t s →
    ∃ s', read s = .ok s' ∧ Scan.Holds control table depth' block' (f t) s') ∨
  ∃ e, ∀ s control table t, Scan.Holds control table depth block t s → read s = .error e

/-- Whether a scan that stands in a table leaves it with the last of these lines, and no sooner. -/
structure Scan.Leaves (keyText : KeyText) (s : Scan) (lines : List (List Char)) (t : Scan) :
    Prop where
  inside : s.place.table?.isSome
  run : s.run keyText lines = .ok t
  left : t.place.table? = none
  stays : ∀ front u, front <+: lines → front ≠ lines → s.run keyText front = .ok u →
    u.place.table? = s.place.table?

/-- The text of a program with a single table of this name and this body. -/
def loneTable (table : String) (body : List Char) : String :=
  String.ofList ("control X() \x7b table ".toList ++ table.toList ++ " \x7b".toList ++
    body ++ " \x7d".toList)

/-! ### One line in a table -/

theorem Place.settle_of_pos {control table : String} {depth : Int} (h : 0 < depth)
    (block : Option Block) :
    (Place.table control table depth block).settle = .table control table depth block := by
  rw [settle, if_neg (by omega)]

section Line

variable {keyText : KeyText}

theorem Scan.changeTable_of_table? {s : Scan} {control table : String} {t : Table}
    (h : s.outline.table? control table = some t) (f : Table → Table) :
    s.changeTable control table f =
      .ok { s with outline := s.outline.modifyTable control table f } := by
  obtain ⟨c, hc, ht⟩ := Option.bind_eq_some_iff.1 h
  rw [Scan.changeTable, hc]
  dsimp only
  rw [if_pos (Keyed.contains_of_get? ht)]

theorem Scan.changeControl_of_table? {s : Scan} {control table : String} {t : Table}
    (h : s.outline.table? control table = some t) (f : Control → Control) :
    s.changeControl control f = .ok { s with outline := s.outline.modifyControl control f } := by
  obtain ⟨c, hc, -⟩ := Option.bind_eq_some_iff.1 h
  rw [Scan.changeControl, if_pos (Keyed.contains_of_get? hc)]

theorem Outline.table?_modifyTable_self {o : Outline} {control table : String} {t : Table}
    (h : o.table? control table = some t) (f : Table → Table) :
    (o.modifyTable control table f).table? control table = some (f t) := by
  rw [Outline.table?_modifyTable, if_pos ⟨rfl, rfl⟩, h]
  rfl

section Act

variable {line : List Char} {depth : Int} (hd : 0 < depth) {block : Option Block}

include hd

/-- A scan that holds a table with a brace open stands in it. -/
theorem Scan.Holds.step_eq {s : Scan} {control table : String} {t : Table}
    (h : s.Holds control table depth block t) (line : List Char) :
    s.step keyText line =
      (Scan.readLine keyText
        ⟨s.outline, .table control table (depth + balance line) block⟩ line).map fun s =>
          { s with place := s.place.settle } := by
  obtain ⟨o, place⟩ := s
  obtain ⟨hplace, -⟩ := h
  rw [Place.settle_of_pos hd] at hplace
  cases hplace
  rfl

theorem Scan.ActsAlike.of_readLine (f : Table → Table) (block' : Option Block)
    (h : ∀ (o : Outline) control table t, o.table? control table = some t →
      ∃ o', Scan.readLine keyText ⟨o, .table control table (depth + balance line) block⟩ line =
        .ok ⟨o', .table control table (depth + balance line) block'⟩ ∧
        o'.table? control table = some (f t)) :
    Scan.ActsAlike (·.step keyText line) depth (depth + balance line) block := by
  refine .inl ⟨f, block', fun s control table t hs => ?_⟩
  obtain ⟨o', hread, ht⟩ := h s.outline control table t hs.2
  refine ⟨⟨o', (Place.table control table (depth + balance line) block').settle⟩, ?_, rfl, ht⟩
  dsimp only
  rw [Scan.Holds.step_eq hd hs, hread]
  rfl

theorem Scan.ActsAlike.of_changeTable (f : Table → Table) (block' : Option Block)
    (h : ∀ (o : Outline) control table,
      Scan.readLine keyText ⟨o, .table control table (depth + balance line) block⟩ line =
        Scan.changeTable ⟨o, .table control table (depth + balance line) block'⟩ control table f) :
    Scan.ActsAlike (·.step keyText line) depth (depth + balance line) block := by
  refine .of_readLine hd f block' fun o control table t ht =>
    ⟨o.modifyTable control table f, ?_, ?_⟩
  · rw [h, Scan.changeTable_of_table? ht]
  · exact Outline.table?_modifyTable_self ht f

theorem Scan.ActsAlike.of_ok (block' : Option Block)
    (h : ∀ (o : Outline) control table,
      Scan.readLine keyText ⟨o, .table control table (depth + balance line) block⟩ line =
        .ok ⟨o, .table control table (depth + balance line) block'⟩) :
    Scan.ActsAlike (·.step keyText line) depth (depth + balance line) block :=
  .of_readLine hd id block' fun o control table _ ht => ⟨o, h o control table, ht⟩

theorem Scan.ActsAlike.of_error (e : ScanError)
    (h : ∀ (o : Outline) control table,
      Scan.readLine keyText ⟨o, .table control table (depth + balance line) block⟩ line =
        .error e) :
    Scan.ActsAlike (·.step keyText line) depth (depth + balance line) block := by
  refine .inr ⟨e, fun s control table t hs => ?_⟩
  dsimp only
  rw [Scan.Holds.step_eq hd hs, h]
  rfl

theorem Scan.ActsAlike.of_openBlock {b : Block} {rest : List Char}
    (h : ∀ (o : Outline) control table,
      Scan.readLine keyText ⟨o, .table control table (depth + balance line) none⟩ line =
        Scan.openBlock keyText ⟨o, .table control table (depth + balance line) none⟩ control table
          (depth + balance line) b rest) :
    Scan.ActsAlike (·.step keyText line) depth (depth + balance line) none := by
  cases he : inlineEntries? (b.reduce keyText) rest with
  | some texts =>
    refine .of_changeTable hd (·.addEntries b (texts.map String.ofList)) none fun o control table =>
      ?_
    rw [h, Scan.openBlock, he]
  | none =>
    refine .of_ok hd (some b) fun o control table => ?_
    rw [h, Scan.openBlock, he]

/-- A line in an open block ends it, is blank, or is an entry of it. -/
theorem Scan.step_entry_alike (line : List Char) (b : Block) :
    Scan.ActsAlike (·.step keyText line) depth (depth + balance line) (some b) := by
  have hread (o : Outline) (control table : String) :
      Scan.readLine keyText ⟨o, .table control table (depth + balance line) (some b)⟩ line =
        Scan.readEntry keyText
          ⟨o, .table control table (depth + balance line) (some b)⟩ control table
            (depth + balance line) b line := rfl
  -- the line closes the block, or is blank, or is an entry; nothing else of the outline is looked
  -- at
  by_cases hclose : trim line = ['}']
  · exact .of_ok hd none fun o control table => by rw [hread, Scan.readEntry, if_pos hclose]
  · by_cases hblank : (trim line).isEmpty
    · exact .of_ok hd (some b) fun o control table => by
        rw [hread, Scan.readEntry, if_neg hclose, if_pos hblank]
    · exact .of_changeTable hd (·.addEntries b (b.entry keyText (trim line))) (some b)
          fun o control table => by
        rw [hread, Scan.readEntry, if_neg hclose, if_neg hblank]

/-- What a line does to the table that a scan stands in depends on the line, the open block and the
record alone. -/
theorem Scan.step_table (hcontrol : Kind.control.inLine? line = none)
    (htable : Kind.table.inLine? line = none) (block : Option Block) :
    Scan.ActsAlike (·.step keyText line) depth (depth + balance line) block := by
  cases block with
  | some b => exact Scan.step_entry_alike hd line b
  | none =>
    have hread (o : Outline) (control table : String) :
        Scan.readLine keyText ⟨o, .table control table (depth + balance line) none⟩ line =
          Scan.obey keyText ⟨o, .table control table (depth + balance line) none⟩
            (Statement.ofLine true line) := rfl
    cases hs : Statement.ofLine true line with
    | control name =>
      obtain ⟨head, hh, -⟩ := (Statement.of_ofLine hs).1 name rfl
      rw [hcontrol] at hh
      cases hh
    | table name n =>
      obtain ⟨-, head, rest, hh, -⟩ := Statement.exists_of_table hs
      rw [htable] at hh
      cases hh
    | keys rest => exact .of_openBlock hd fun o control table => by rw [hread, hs]; rfl
    | actions rest => exact .of_openBlock hd fun o control table => by rw [hread, hs]; rfl
    | defaultAction name =>
      exact .of_changeTable hd
          ({ · with defaultAction := some name }) none fun o control table => by
        rw [hread, hs]; rfl
    | other => exact .of_ok hd none fun o control table => by rw [hread, hs]; rfl
    | size digits =>
      by_cases hl : digits.length ≤ maxDigits
      · refine .of_changeTable hd
          ({ · with size := some (digitsValue digits) }) none fun o control table => ?_
        rw [hread, hs]
        exact if_pos hl
      · refine .of_error hd (.sizeTooLong digits.length) fun o control table => ?_
        rw [hread, hs]
        exact if_neg hl
    | action name =>
      -- an action is the control's, not the table's
      refine .of_readLine hd id none fun o control table t ht => ?_
      refine ⟨o.modifyControl control (·.addAction name),
        ?_, by rw [Outline.table?_addAction]; exact ht⟩
      rw [hread, hs]
      exact Scan.changeControl_of_table? ht _

end Act

/-! ### Line after line -/

/-- What lines do to the table that a scan stands in, up to the one with which it is left, depends
on the lines, the open block and the record alone. -/
theorem Scan.run_silent {lines : List (List Char)}
    (hlines : ∀ line ∈ lines, Kind.control.inLine? line = none ∧ Kind.table.inLine? line = none)
    {depth : Int}
    (hd : ∀ front, front <+: lines → front ≠ lines → 0 < depth + (front.map balance).sum)
    (block : Option Block) :
    Scan.ActsAlike (·.run keyText lines) depth (depth + (lines.map balance).sum) block := by
  induction lines generalizing depth block with
  | nil =>
    refine .inl ⟨id, block, fun s control table t hs => ⟨s, rfl, ?_⟩⟩
    rw [List.map_nil, List.sum_nil, Int.add_zero]
    exact hs
  | cons line lines ih =>
    obtain ⟨⟨hcontrol, htable⟩, hrest⟩ := List.forall_mem_cons.1 hlines
    -- the table is still open before the line, as the bound says of no lines at all
    have hpos : 0 < depth := by
      have hnil := hd [] List.nil_prefix (by simp)
      rwa [List.map_nil, List.sum_nil, Int.add_zero] at hnil
    have hd' : ∀ front, front <+: lines → front ≠ lines →
        0 < depth + balance line + (front.map balance).sum := by
      intro front hf hne
      have hcons := hd (line :: front) (List.cons_prefix_cons.2 ⟨rfl, hf⟩) (by simpa using hne)
      rwa [List.map_cons, List.sum_cons, ← Int.add_assoc] at hcons
    rw [List.map_cons, List.sum_cons, ← Int.add_assoc]
    rcases @Scan.step_table keyText line depth hpos hcontrol htable block with
      ⟨f, block', hstep⟩ | ⟨e, hstep⟩
    · rcases ih hrest hd' block' with ⟨g, block'', hrun⟩ | ⟨e, hrun⟩
      · refine .inl ⟨g ∘ f, block'', fun s control table t hs => ?_⟩
        obtain ⟨u, hu, hholds⟩ := hstep s control table t hs
        obtain ⟨s', hs', hholds'⟩ := hrun u control table (f t) hholds
        exact ⟨s', (Scan.run_cons hu lines).trans hs', hholds'⟩
      · refine .inr ⟨e, fun s control table t hs => ?_⟩
        obtain ⟨u, hu, hholds⟩ := hstep s control table t hs
        exact (Scan.run_cons hu lines).trans (hrun u control table (f t) hholds)
    · exact .inr
        ⟨e, fun s control table t hs => Scan.run_cons_error (hstep s control table t hs) lines⟩

/-- Whether lines are those of the body of a table: none of them declares a control or opens a
table, and the last of them closes the table, but none before it. -/
structure BodyLines (lines : List (List Char)) : Prop where
  silent : ∀ line ∈ lines, Kind.control.inLine? line = none ∧ Kind.table.inLine? line = none
  openInside : ∀ front, front <+: lines → front ≠ lines → 0 < 1 + (front.map balance).sum
  closed : 1 + (lines.map balance).sum = 0

/-- The lines of a body that declares no control and no table. -/
theorem exists_bodyLines {rest body : List Char} (h : block? rest = some body)
    (hcontrol : ¬ HoldsWord Kind.control.keyword body)
    (htable : ¬ HoldsWord Kind.table.keyword body) :
    ∃ lines, BodyLines lines ∧
      ∀ rest, Layout.keepingComments.lines (body ++ rest) =
        lines ++ Layout.keepingComments.lines rest := by
  obtain ⟨inside, hlines, hsum, hfronts⟩ := exists_lines_block h
  have hbody : inside ++ [['}']] ⊆ Layout.keepingComments.lines body := by
    have hall := hlines []
    rw [List.append_nil] at hall
    rw [hall]
    exact List.subset_append_left _ _
  refine ⟨inside ++ [['}']], ⟨?_, ?_, ?_⟩, hlines⟩
  · intro line hm
    have hword (k : Kind) (h : ¬ HoldsWord k.keyword body) : k.inLine? line = none :=
      Kind.inLine?_eq_none_of_not_holdsWord
        (Layout.keepingComments.not_holdsWord_of_mem_pieces k.keyword_ne_nil h (hbody hm))
    exact ⟨hword .control hcontrol, hword .table htable⟩
  · intro front hf hne
    -- in front of the last brace the body leaves none closed that it did not open
    have := hfronts front ((List.prefix_concat_iff.1 hf).resolve_left hne)
    omega
  · rw [List.map_append, List.sum_append, hsum]
    rfl

/-- The lines of its body do the same to every table, and lead out of it. -/
theorem BodyLines.actsAlike {lines : List (List Char)} (h : BodyLines lines) :
    Scan.ActsAlike (·.run keyText lines) 1 0 none := by
  have hact := @Scan.run_silent keyText lines h.silent 1 h.openInside none
  rwa [h.closed] at hact

/-- A scan leaves a table with the last line of its body, and no sooner. -/
theorem BodyLines.leaves {lines : List (List Char)} (h : BodyLines lines) {s u : Scan}
    {control table : String} {t : Table} (hs : s.Holds control table 1 none t)
    (hu : s.run keyText lines = .ok u) : s.Leaves keyText lines u := by
  have hplace : s.place.table? = some (control, table) := by
    rw [hs.1]
    rfl
  refine ⟨by rw [hplace]; rfl, hu, ?_, ?_⟩
  · rcases h.actsAlike with ⟨f, block', hread⟩ | ⟨e, herror⟩
    · obtain ⟨v, hv, hholds⟩ := hread s control table t hs
      cases hu.symm.trans hv
      rw [hholds.1]
      rfl
    · cases hu.symm.trans (herror s control table t hs)
  · intro front v hf hne hv
    -- the beginning of the lines has the table's brace open at every line
    have hpos : ∀ part, part <+: front → part ≠ front → 0 < 1 + (part.map balance).sum := by
      intro part hp hpne
      refine h.openInside part (hp.trans hf) ?_
      rintro rfl
      exact hne (hf.eq_of_length_le hp.length_le)
    rcases @Scan.run_silent keyText front
        (fun line hm => h.silent line (hf.subset hm)) 1 hpos none with
      ⟨f, block', hread⟩ | ⟨e, herror⟩
    · obtain ⟨w, hw, hholds⟩ := hread s control table t hs
      cases hv.symm.trans hw
      rw [hholds.1, Place.settle_of_pos (h.openInside front hf hne), hplace]
      rfl
    · cases hv.symm.trans (herror s control table t hs)

end Line

/-! ### The table on its own -/

/-- What opens a table in a text whose lines are broken at the marks is the brace that ends the
line. -/
theorem Place.eq_nil_of_opens? {p : Place} (cs : List Char) {line : List Char}
    (hm : line ∈ Layout.keepingComments.lines cs) {control table : String} {head : List Char}
    (h : p.opens? line = some (control, table, head)) : head = [] := by
  obtain ⟨-, -, -, name, ht, -⟩ := Place.opens?_eq_some_iff.1 h
  obtain ⟨u, v, rfl, -, hv⟩ := Kind.exists_of_inLine? ht
  obtain ⟨-, -, -, -, hafter⟩ := Kind.head?_eq_some_iff.1 hv
  obtain ⟨gap, -, hgap⟩ := exists_of_afterMark? hafter
  have hsuffix : gap ++ '{' :: head <:+ u ++ v := by
    rw [← hgap]
    exact (((List.dropWhile_suffix _).trans (List.dropWhile_suffix _)).trans
      (List.dropWhile_suffix _)).trans (List.suffix_append u v)
  obtain ⟨front, hfront⟩ := hsuffix
  -- a brace ends its line, so that nothing is behind the head's
  have hlast := Layout.notMem_dropLast_of_mem_lines hm
  cases head with
  | nil => rfl
  | cons c head =>
    rw [← hfront, ← List.append_assoc, List.dropLast_append_of_ne_nil (by simp)] at hlast
    simp at hlast

/-- Every table of a source is opened at a brace of the source, which ends the line that opens the
table. -/
theorem Place.exists_brace_of_opens? {p : Place} {cs line : List Char}
    {before after : List (List Char)}
    (hl : Layout.keepingComments.lines cs = before ++ line :: after) {control table : String}
    {head : List Char} (h : p.opens? line = some (control, table, head)) :
    ∃ front rest, cs = front ++ '{' :: rest ∧
      Layout.keepingComments.lines (front ++ ['{']) = before ++ [line, []] := by
  obtain ⟨-, -, -, name, ht, -⟩ := Place.opens?_eq_some_iff.1 h
  refine exists_brace_of_mem_lines hl ?_
  by_contra hm
  have hnone : Kind.table.inLine? line = none := Kind.inLine?_eq_none_of_notMem hm
  rw [ht] at hnone
  cases hnone

theorem Place.exists_identifier {p : Place} {line : List Char} {control table : String}
    {head : List Char} (h : p.opens? line = some (control, table, head)) :
    ∃ name : Identifier, table = name.text := by
  obtain ⟨-, -, -, name, ht, rfl⟩ := Place.opens?_eq_some_iff.1 h
  obtain ⟨u, v, -, -, hv⟩ := Kind.exists_of_inLine? ht
  obtain ⟨-, -, hname, hne, -⟩ := Kind.head?_eq_some_iff.1 hv
  exact ⟨⟨name, hne, fun c hc => isWord_of_mem_word (hname ▸ hc)⟩, rfl⟩

/-- The lines of a lone table: those of its body stand between two that open it and three that say
nothing. -/
theorem lines_loneTable (name : Identifier) {body : List Char} {inside : List (List Char)}
    (hbody : ∀ rest, Layout.keepingComments.lines (body ++ rest) =
      inside ++ Layout.keepingComments.lines rest) :
    Layout.keepingComments.lines (loneTable name.text body).toList =
      ("control X() ".toList ++ ['{']) ::
        (' ' :: (Kind.table.keyword ++ ' ' :: (name.chars ++ [' ', '{']))) ::
        (inside ++ [[' '], ['}'], []]) := by
  have hopening : "control X() \x7b table ".toList =
    "control X() ".toList ++ '{' :: " table ".toList := by decide
  have hbrace : " \x7b".toList = [' ', '{'] := by decide
  have hclose : " \x7d".toList = [' ', '}'] := by decide
  -- the program is its head, the table's head and the body, each up to a brace
  have htext : (loneTable name.text body).toList =
      "control X() ".toList ++
        '{' :: ((" table ".toList ++ (name.chars ++ [' '])) ++ '{' :: (body ++ [' ', '}'])) := by
    have hname : name.text.toList = name.chars := String.toList_ofList
    have hall : (loneTable name.text body).toList = _ := String.toList_ofList
    rw [hall, hopening, hname, hbrace, hclose]
    simp only [List.append_assoc, List.cons_append, List.nil_append]
  have hname : ∀ c ∈ " table ".toList ++ (name.chars ++ [' ']), isMark c = false ∧ c ≠ '\n' := by
    have hword {c : Char} (hc : c ∈ name.chars) : isMark c = false ∧ c ≠ '\n' := by
      obtain ⟨h1, h2, h3, h4, -⟩ := inline_of_isWord name.all_isWord c hc
      exact ⟨by simp [isMark, h1, h2, h3], h4⟩
    refine List.forall_mem_append.2
      ⟨by decide, List.forall_mem_append.2 ⟨fun c hc => hword hc, by decide⟩⟩
  have hhead : (" table ".toList ++ (name.chars ++ [' '])) ++ ['{'] =
      ' ' :: (Kind.table.keyword ++ ' ' :: (name.chars ++ [' ', '{'])) := by
    rw [List.append_assoc, List.append_assoc]
    rfl
  have hend : Layout.keepingComments.lines [' ', '}'] = [[' '], ['}'], []] := by
    have hclosing := @Layout.lines_closing [' '] (by decide) []
    rw [pieces_of_notMem (by decide), Layout.keepingComments_lines_nil] at hclosing
    exact hclosing
  rw [htext, Layout.lines_brace (by decide) (by decide),
    Layout.lines_brace (fun c hc => (hname c hc).1) (fun hm => (hname _ hm).2 rfl),
    hhead, hbody, hend]

/-- The scan that has just opened the table of a lone table. -/
theorem Scan.run_loneTable (keyText : KeyText) (name : Identifier) :
    Scan.run keyText {} ["control X() ".toList ++ ['{'],
        ' ' :: (Kind.table.keyword ++ ' ' :: (name.chars ++ [' ', '{']))] =
      .ok ⟨(Outline.openControl {} "X").modifyControl "X" (·.openTable name.text),
        .table "X" name.text 1 none⟩ := by
  have hfirst : Scan.step keyText {} ("control X() ".toList ++ ['{']) =
      .ok ⟨Outline.openControl {} "X", .control "X"⟩ :=
    Scan.step_of_declares keyText {} (by decide +kernel)
  have hcontrol : Kind.control.inLine? (Kind.table.keyword ++ ' ' :: (name.chars ++ [' ', '{'])) =
      none := by
    apply Kind.inLine?_eq_none_of_notMem
    show '(' ∉ _
    simp only [List.mem_append, List.mem_cons, not_or]
    exact ⟨by decide, by decide, name.notMem (by decide), by decide⟩
  have hopens :
    (Place.control "X").opens? (Kind.table.keyword ++ ' ' :: (name.chars ++ [' ', '{'])) =
      some ("X", name.text, []) :=
    Place.opens?_eq_some_iff.2 ⟨rfl, rfl, hcontrol, name.chars,
      Kind.inLine?_of_head? (Kind.head?_append .table name [' '] (by decide) []), rfl⟩
  have hsecond :=
    Scan.step_of_opens keyText (Scan.grounded_of_step Scan.grounded_start hfirst) hopens
  rw [← @Scan.step_indent keyText _ [' '] (by decide)] at hsecond
  rw [Scan.run_cons hfirst]
  exact Scan.run_cons hsecond []

/-- Behind a table nothing more is said of it in a lone table. -/
theorem Scan.run_end (keyText : KeyText) (o : Outline) (control : String) :
    Scan.run keyText ⟨o, .control control⟩ [[' '], ['}'], []] = .ok ⟨o, .control control⟩ := by
  have hclose : Scan.step keyText ⟨o, .control control⟩ ['}'] = .ok ⟨o, .control control⟩ := by
    have hother : Statement.ofLine false ['}'] = .other := by decide +kernel
    rw [Scan.step_of_block? keyText rfl]
    show (Scan.obey keyText ⟨o, .control control⟩ (Statement.ofLine false ['}'])).map _ = _
    rw [hother]
    rfl
  rw [Scan.run_cons (Scan.step_blank keyText rfl (by decide)), Scan.run_cons hclose,
    Scan.run_cons (Scan.step_blank keyText rfl (by decide)), Scan.run_nil]

/-- What is read of a lone table is what the lines of its body make of it. -/
theorem Outline.ofSource_loneTable {keyText : KeyText} {name : Identifier} {body : List Char}
    {lines : List (List Char)}
    (hbody : ∀ rest, Layout.keepingComments.lines (body ++ rest) =
      lines ++ Layout.keepingComments.lines rest)
    {v : Scan} {block : Option Block} {t : Table}
    (hv : Scan.run keyText ⟨(Outline.openControl {} "X").modifyControl "X" (·.openTable name.text),
      .table "X" name.text 1 none⟩ lines = .ok v)
    (hholds : v.Holds "X" name.text 0 block t) :
    Outline.ofSource ⟨.keepingComments, keyText⟩ (loneTable name.text body) = .ok v.outline := by
  obtain ⟨o, place⟩ := v
  obtain ⟨hplace, -⟩ := hholds
  cases hplace
  have hlines := lines_loneTable name hbody
  rw [Outline.ofSource_eq_run, hlines]
  have hend := Scan.run_end keyText o "X"
  have hrun :=
    (Scan.run_append (Scan.run_loneTable keyText name) _).trans ((Scan.run_append hv _).trans hend)
  exact congrArg (·.map (·.outline)) hrun

/-- A table is read as it would be on its own, of its body alone: let a brace of a source end the
line on which a table is opened, and let its body, up to the closing brace that is found in the
source, declare no control and no table. The scan leaves the table where its body ends, and no
sooner; and the record that it has of the table then is the one that is read from a text with this
table only. -/
theorem Outline.table?_of_slice {keyText : KeyText} {source : String} {o : Outline}
    (ho : Outline.ofSource ⟨.keepingComments, keyText⟩ source = .ok o)
    {front rest body line head : List Char} (hsource : source.toList = front ++ '{' :: rest)
    {before : List (List Char)}
    (hline : Layout.keepingComments.lines (front ++ ['{']) = before ++ [line, []]) {s : Scan}
    (hs : Scan.run keyText {} before = .ok s) {control table : String}
    (hopens : s.place.opens? line = some (control, table, head))
    (hbody : slice? source.toList (front.length + 1 : Nat) = some body)
    (hcontrol : ¬ HoldsWord Kind.control.keyword body)
    (htable : ¬ HoldsWord Kind.table.keyword body) :
    ∃ opened inside after t alone,
      Layout.keepingComments.lines source.toList = before ++ line :: (inside ++ after) ∧
        s.step keyText line = .ok opened ∧ opened.place.table? = some (control, table) ∧
          opened.Leaves keyText inside t ∧ (t.outline.table? control table).isSome ∧
            Outline.ofSource ⟨.keepingComments, keyText⟩ (loneTable table body) = .ok alone ∧
              alone.table? "X" table = t.outline.table? control table := by
  have hblock : block? rest = some body := by
    have hdrop : source.toList.drop (front.length + 1) = rest := by
      rw [hsource, ← List.drop_drop, List.drop_left]
      rfl
    rw [← hdrop]
    exact hbody
  obtain ⟨-, after, hrest, -⟩ := exists_of_block? hblock
  obtain ⟨inside, hinside, hlines⟩ := exists_bodyLines hblock hcontrol htable
  -- the scan of the source goes through the lines of the body
  obtain ⟨before', line', -, hfirst, hwhole⟩ := Layout.exists_lines_brace front
  obtain ⟨rfl, hlast⟩ := List.append_inj' (hline.symm.trans hfirst) rfl
  cases hlast
  have hsourceLines : Layout.keepingComments.lines source.toList =
      before ++ line :: (inside ++ Layout.keepingComments.lines after) := by
    rw [hsource, hwhole, hrest, hlines]
  obtain ⟨final, hfinal, -⟩ := Outline.exists_run_of_ofSource ho
  rw [hsourceLines, Scan.run_append hs] at hfinal
  obtain ⟨opened, hstep, hrun⟩ := Scan.exists_of_run_cons hfinal
  obtain ⟨t, ht, -⟩ := Scan.exists_of_run_append hrun
  have hgrounded := Scan.grounded_of_run Scan.grounded_start hs
  have hhead : head = [] := Place.eq_nil_of_opens? (front ++ ['{']) (by rw [hline]; simp) hopens
  have hopened : opened.Holds control table 1 none {} := by
    refine ⟨?_, Scan.table?_step_of_opens hgrounded hstep hopens⟩
    cases hstep.symm.trans (Scan.step_of_opens keyText hgrounded hopens)
    rw [hhead]
    rfl
  have hleaves := hinside.leaves hopened ht
  obtain ⟨name, rfl⟩ := Place.exists_identifier hopens
  rcases hinside.actsAlike with ⟨f, block, hread⟩ | ⟨e, herror⟩
  · obtain ⟨u, hu, hholds⟩ := hread opened control name.text {} hopened
    cases ht.symm.trans hu
    -- and so does the scan of the table on its own
    obtain ⟨v, hv, hholds'⟩ := hread
      ⟨(Outline.openControl {} "X").modifyControl "X" (·.openTable name.text),
        .table "X" name.text 1 none⟩ "X" name.text
      {} ⟨rfl, Outline.table?_openTable_self _ (by decide) _⟩
    refine ⟨opened, inside, Layout.keepingComments.lines after, t, v.outline, hsourceLines, hstep,
      by rw [hopened.1]; rfl, hleaves, by rw [hholds.2]; rfl,
      Outline.ofSource_loneTable hlines hv hholds', ?_⟩
    rw [hholds.2, hholds'.2]
  · cases ht.symm.trans (herror opened control name.text {} hopened)

/-- The text before the brace that opens a table. -/
def beforeTable : List Char := "control C() \x7b apply \x7b \x7d table t ".toList

/-- The body of a table with a key block, up to its closing brace. -/
def tableBody : List Char := " key = \x7b a: exact; \x7d size = 4; \x7d".toList

/-- A table between an apply block and an action is read as it is on its own. -/
theorem Outline.table?_of_tableBody :
    ∃ opened inside t alone, Scan.Leaves .verbatim opened inside t ∧
      Outline.ofSource ⟨.keepingComments, .verbatim⟩ (loneTable "t" tableBody) = .ok alone ∧
        alone.table? "X" "t" = t.outline.table? "C" "t" ∧
          alone.table? "X" "t" = some { keys := ["a: exact;"], size := some 4 } := by
  let source :=
    String.ofList (beforeTable ++ '{' :: (tableBody ++ " action a() \x7b \x7d \x7d".toList))
  obtain ⟨o, ho⟩ : ∃ o, Outline.ofSource ⟨.keepingComments, .verbatim⟩ source = .ok o := by
    have hok : (Outline.ofSource ⟨.keepingComments, .verbatim⟩ source).isOk = true := by
      decide +kernel
    cases hs : Outline.ofSource ⟨.keepingComments, .verbatim⟩ source with
    | error e => rw [hs] at hok; cases hok
    | ok o => exact ⟨o, rfl⟩
  obtain ⟨opened, inside, after, t, alone, -, -, -, hleaves, -, halone, htable⟩ :=
    @Outline.table?_of_slice .verbatim source o ho beforeTable _ tableBody " table t \x7b".toList
      [] String.toList_ofList ["control C() \x7b".toList, " apply \x7b".toList, " ".toList,
        "\x7d".toList] (by decide +kernel)
      ⟨Outline.openControl {} "C", .control "C"⟩ (by decide +kernel) "C" "t" (by decide +kernel)
        (by decide +kernel)
      (by decide +kernel) (by decide +kernel)
  refine ⟨opened, inside, t, alone, hleaves, halone, htable, ?_⟩
  have hrecord :
    (Outline.ofSource ⟨.keepingComments, .verbatim⟩ (loneTable "t" tableBody)).toOption.bind
      (·.table? "X" "t") = some { keys := ["a: exact;"], size := some 4 } := by decide +kernel
  rw [halone] at hrecord
  exact hrecord

end P4Outline

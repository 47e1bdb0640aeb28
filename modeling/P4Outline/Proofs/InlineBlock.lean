import P4Outline.Proofs.Effect
import P4Outline.Proofs.RoundTrip
import P4Outline.Proofs.Spacing

/-!
# Blocks on one line

A block that is closed on the line on which it opens is read in place, where lines are left as they
are, and line by line, where they are broken. In place, the white space around every entry is taken
away and then a semicolon is put behind it; line by line, the semicolon is there all along, and the
white space before it is within the entry. So entries that are kept as they are written differ in
this white space, and all others are the same.

* `inlineEntries?_blockText`: a block that is read in place.
* `Scan.run_tableRows`: a block that is read line by line.
* `SpacedKey.reduce_body_eq_iff`, `SpacedName.actionName_eq`: what is kept of an entry either way.
* `readInPlace_eq_readInProgram_iff`: when both ways keep the same.
-/

namespace P4Outline

open P4Outline.Text P4Outline.Source

/-! ### Entries of a block -/

/-- Whether a text can be an entry of a block up to its semicolon: it breaks no line, and is not
white space throughout. -/
structure EntryText (body : List Char) : Prop where
  inline : Inline body
  not_blank : skipBlanks body ≠ []

/-- A key entry with spaces and tabs around its colon and before its semicolon. -/
structure SpacedKey where
  expression : List Char
  entryText : EntryText expression
  beforeColon : List Char
  afterColon : List Char
  kind : Identifier
  beforeSemicolon : List Char
  isGap_of_mem : ∀ c ∈ beforeColon ++ (afterColon ++ beforeSemicolon), isGap c = true

/-- An action entry with spaces and tabs around its name. -/
structure SpacedName where
  indent : List Char
  name : Identifier
  beforeSemicolon : List Char
  isGap_of_mem : ∀ c ∈ indent ++ beforeSemicolon, isGap c = true

/-- A key entry up to its semicolon. -/
def SpacedKey.body (e : SpacedKey) : List Char :=
  e.expression ++ (e.beforeColon ++ ':' :: (e.afterColon ++ (e.kind.chars ++ e.beforeSemicolon)))

/-- An action entry up to its semicolon. -/
def SpacedName.body (n : SpacedName) : List Char := n.indent ++ (n.name.chars ++ n.beforeSemicolon)

/-- The text of a block. -/
def blockText (bodies : List (List Char)) : List Char := bodies.flatMap (· ++ [';'])

theorem inline_of_isGap {cs : List Char} (h : ∀ c ∈ cs, isGap c = true) : Inline cs :=
  inline_of_class (by decide) h

theorem EntryText.append {body rest : List Char} (h : EntryText body) (hr : Inline rest) :
    EntryText (body ++ rest) where
  inline := inline_append.2 ⟨h.inline, hr⟩
  not_blank := by
    rw [skipBlanks_append_of_ne_nil h.not_blank]
    exact List.append_ne_nil_of_left_ne_nil h.not_blank rest

/-- An entry without the white space in front of it begins a line. -/
theorem EntryText.stem {body : List Char} (h : EntryText body) : Stem (skipBlanks body) where
  ne_nil := h.not_blank
  inline := fun c hc => h.inline c ((List.dropWhile_suffix _).subset hc)
  bareStart := bareStart_skipBlanks body

theorem trim_ne_nil {body : List Char} (h : skipBlanks body ≠ []) : trim body ≠ [] := by
  intro hn
  obtain ⟨gap, hg, he⟩ := exists_trimRight (skipBlanks body)
  rw [show trimRight (skipBlanks body) = [] from hn, List.nil_append] at he
  have hbare := bareStart_skipBlanks body
  rw [he] at hbare h
  exact h ((skipBlanks_of_bareStart hbare).symm.trans (skipBlanks_eq_nil hg))

/-- The text of a block holds no closing brace, no line break and no slash. -/
theorem ne_of_mem_blockText {bodies : List (List Char)} (h : ∀ body ∈ bodies, EntryText body)
    {c : Char} (hc : c ∈ blockText bodies) : c ≠ '}' ∧ c ≠ '\n' ∧ c ≠ '/' := by
  obtain ⟨body, hm, hc⟩ := List.mem_flatMap.1 hc
  rcases List.mem_append.1 hc with hc | hc
  · obtain ⟨-, hclosing, -, hbreak, hslash⟩ := (h body hm).inline c hc
    exact ⟨hclosing, hbreak, hslash⟩
  · rw [List.mem_singleton.1 hc]
    decide

/-! ### A block that is read in place -/

theorem pieces_blockText {bodies : List (List Char)} (h : ∀ body ∈ bodies, EntryText body) :
    pieces ';' (blockText bodies) = bodies ++ [[]] := by
  induction bodies with
  | nil => rfl
  | cons body bodies ih =>
    obtain ⟨hbody, hbodies⟩ := List.forall_mem_cons.1 h
    have hnone : ';' ∉ body := fun hm => (hbody.inline _ hm).2.2.1 rfl
    rw [blockText, List.flatMap_cons, List.append_assoc, List.singleton_append, pieces_append_cons,
      pieces_of_notMem hnone]
    exact congrArg (body :: ·) (ih hbodies)

/-- In place, every entry loses the white space at both of its ends before its semicolon is put
back. -/
theorem inlineEntries?_blockText {reduce : List Char → List Char} {bodies : List (List Char)}
    (h : ∀ body ∈ bodies, EntryText body) (hr : ∀ body ∈ bodies, reduce (trim body ++ [';']) ≠ []) :
    inlineEntries? reduce (blockText bodies ++ ['}']) =
      some (bodies.map fun body => reduce (trim body ++ [';'])) := by
  -- no entry holds a brace, so that the closing one ends the entries
  have hclosing : ∀ c ∈ blockText bodies, decide (c ≠ '}') = true :=
    fun c hc => decide_eq_true (ne_of_mem_blockText h hc).1
  have htake : (blockText bodies ++ ['}']).takeWhile (fun c => decide (c ≠ '}')) =
      blockText bodies := by
    rw [List.takeWhile_append_of_pos hclosing]
    exact List.append_nil _
  have hentries : ((bodies ++ [[]]).map trim).filter (!·.isEmpty) = bodies.map trim := by
    rw [List.map_append, List.filter_append, List.filter_eq_self.2]
    · exact List.append_nil _
    · intro cs hcs
      obtain ⟨body, hm, rfl⟩ := List.mem_map.1 hcs
      simpa using trim_ne_nil (h body hm).not_blank
  have hkept : (bodies.map fun body => reduce (trim body ++ [';'])).filter (!·.isEmpty) =
      bodies.map fun body => reduce (trim body ++ [';']) := by
    refine List.filter_eq_self.2 fun cs hcs => ?_
    obtain ⟨body, hm, rfl⟩ := List.mem_map.1 hcs
    simpa using hr body hm
  rw [inlineEntries?, if_pos (by simp), htake, pieces_blockText h]
  dsimp only
  rw [hentries, List.map_map]
  exact congrArg some hkept

/-! ### A block that is read line by line -/

/-- Entries without the white space in front of them are lines of their own. -/
theorem rowLines_entries (layout : Layout) {bodies : List (List Char)}
    (h : ∀ body ∈ bodies, EntryText body) :
    rowLines layout (bodies.map fun body => ⟨3, skipBlanks body ++ [';']⟩) =
      bodies.map fun body => skipBlanks body ++ [';'] := by
  induction bodies with
  | nil => rfl
  | cons body bodies ih =>
    obtain ⟨hbody, hbodies⟩ := List.forall_mem_cons.1 h
    rw [List.map_cons, rowLines_cons, layout.bareLines_of_end hbody.stem (.inr rfl), ih hbodies]
    rfl

section Lines

variable {layout : Layout} (hsplit : layout.splitStatements = true)

include hsplit

/-- Line by line, every entry has a line of its own, which its semicolon ends. -/
theorem bare_pieces_blockText {bodies : List (List Char)} (h : ∀ body ∈ bodies, EntryText body) :
    bare (pieces '\n' (layout.broken (blockText bodies ++ ['}']))) =
      (bodies.map fun body => skipBlanks body ++ [';']) ++ [['}']] := by
  have hmark (c : Char) : layout.broken [c] = spread c := by
    rw [Layout.broken, if_pos hsplit, List.flatMap_singleton]
  induction bodies with
  | nil =>
    rw [blockText, List.flatMap_nil, List.nil_append, hmark]
    decide +kernel
  | cons body bodies ih =>
    obtain ⟨hbody, hbodies⟩ := List.forall_mem_cons.1 h
    -- each entry becomes a line of its own, since the layout breaks behind its semicolon
    have hbreak : '\n' ∉ body ++ [';'] := by simpa using hbody.inline.newline_notMem
    have hline : layout.broken (blockText (body :: bodies) ++ ['}']) =
        (body ++ [';']) ++ '\n' :: layout.broken (blockText bodies ++ ['}']) := by
      rw [blockText, List.flatMap_cons, List.append_assoc, List.append_assoc, layout.broken_append,
        layout.broken_of_inline hbody.inline, layout.broken_append, hmark, List.append_assoc]
      rfl
    have hbare : bare [body ++ [';']] = [skipBlanks body ++ [';']] := by
      rw [bare, List.map_singleton, skipBlanks_append_of_ne_nil hbody.not_blank]
      simp
    rw [hline, pieces_append_cons, pieces_of_notMem hbreak, List.singleton_append, bare_cons,
      hbare, ih hbodies]
    rfl

/-- The lines of a block are those of its opening, its entries and its closing brace. -/
theorem bareLines_block {front : List Char} (hf : Stem front) {bodies : List (List Char)}
    (h : ∀ body ∈ bodies, EntryText body) :
    layout.bareLines (front ++ '{' :: (blockText bodies ++ ['}'])) =
      rowLines layout
        (⟨2, front ++ ['{']⟩ :: (bodies.map fun body => ⟨3, skipBlanks body ++ [';']⟩) ++
          [.close 2]) := by
  -- entries hold neither slashes nor breaks, so that the block is one line of the source
  have hslash : '/' ∉ blockText bodies ++ ['}'] := by
    simpa using fun hm => (ne_of_mem_blockText h hm).2.2 rfl
  have hbreak : '\n' ∉ blockText bodies ++ ['}'] := by
    simpa using fun hm => (ne_of_mem_blockText h hm).2.1 rfl
  have hopen : layout.broken ['{'] = ['{', '\n'] := by rw [Layout.broken, if_pos hsplit]; rfl
  have hfront : '\n' ∉ front ++ ['{'] := by simpa using hf.inline.newline_notMem
  have hcut : front ++ (layout.broken ['{'] ++ layout.broken (blockText bodies ++ ['}'])) =
      (front ++ ['{']) ++ '\n' :: layout.broken (blockText bodies ++ ['}']) := by
    rw [hopen]
    simp
  have hbare : bare [front ++ ['{']] = [front ++ ['{']] :=
    bare_of_bareStart (bareStart_append hf.bareStart hf.ne_nil _) (by simp)
  rw [layout.bareLines_append_brace hf hslash, joinBraces_of_notMem (.inl hbreak), hcut,
    pieces_append_cons, pieces_of_notMem hfront, List.singleton_append, bare_cons, hbare,
    bare_pieces_blockText hsplit h, rowLines_append, rowLines_cons,
    layout.bareLines_of_end hf (.inl rfl), rowLines_entries layout h, rowLines_close,
    List.append_assoc]

end Lines

/-! ### A program with a block on one line -/

/-- What stands before the brace that opens a block. -/
def Block.heading : Block → List Char
  | .keys => "key = ".toList
  | .actions => "actions = ".toList

theorem inline_nil : Inline [] := by decide

theorem not_holdsWord_nil (k : Kind) : ¬ HoldsWord k.keyword [] :=
  fun h => k.keyword_ne_nil (holdsWordFrom_nil.1 h).2

/-- A program with a single table, which has a single block with this text on one line, statement by
statement. -/
def tableRows (control table : Identifier) (block : Block) (text : List Char) : List Row :=
  [⟨0, headText .control control ⟨[], inline_nil, not_holdsWord_nil .control⟩ ++ ['{']⟩,
    ⟨1, Kind.table.keyword ++ ' ' :: (table.chars ++ [' ', '{'])⟩,
    ⟨2, block.heading ++ '{' :: (text ++ ['}'])⟩, .close 1, .close 0]

/-- The text of that program, every level of which is indented by `tab` spaces. -/
def tableText (tab : Nat) (control table : Identifier) (block : Block) (text : List Char) :
    String :=
  String.ofList ((tableRows control table block text).flatMap (Row.print tab))

/-- The entries of a block of a table. -/
def Table.entries (t : Table) : Block → List String
  | .keys => t.keys
  | .actions => t.actions

/-- What is read of a block whose text, up to its closing brace, stands behind its opening on one
line. -/
def readInPlace (keyText : KeyText) (block : Block) (text : List Char) : Option (List String) :=
  (inlineEntries? (block.reduce keyText) (text ++ ['}'])).map (·.map String.ofList)

/-- What is read of a block in a program with a single table. -/
def readInProgram (reading : Reading) (tab : Nat) (control table : Identifier) (block : Block)
    (text : List Char) :
    Option (List String) :=
  ((Outline.ofSource reading (tableText tab control table block text)).toOption.bind
    (·.table? control.text table.text)).map (·.entries block)

theorem Block.heading_stem (block : Block) : Stem block.heading := by
  cases block with
  | keys => exact stem_property (w := "key".toList) (by decide) (by decide)
  | actions => exact stem_property (w := "actions".toList) (by decide) (by decide)

theorem Block.ofLine_heading (block : Block) :
    Statement.ofLine true (block.heading ++ ['{']) = block.statement := by
  cases block <;> decide

theorem apart_tableRows (control table : Identifier) (block : Block) {bodies : List (List Char)}
    (h : ∀ body ∈ bodies, EntryText body) :
    ∀ r ∈ tableRows control table block (blockText bodies), r.Apart := by
  have hslash : '/' ∉ '{' :: (blockText bodies ++ ['}']) := by
    simpa using fun hm => (ne_of_mem_blockText h hm).2.2 rfl
  intro r hr
  simp only [tableRows, List.mem_cons, List.not_mem_nil, or_false] at hr
  rcases hr with rfl | rfl | rfl | rfl | rfl
  · exact Row.Apart.of_end (headText_stem .control control _) (.inl rfl)
  · rw [table.tableHead_eq]
    exact Row.Apart.of_end table.tableHead_stem (.inl rfl)
  · refine Row.Apart.of_stem block.heading_stem hslash ?_
    have hend : block.heading ++ '{' :: (blockText bodies ++ ['}']) =
        (block.heading ++ '{' :: blockText bodies) ++ ['}'] := by simp
    rw [hend]
    exact bareEnd_concat (by decide) _
  · exact Row.apart_close 1
  · exact Row.apart_close 0

section Read

variable {α : Type _} {keyText : KeyText} {block : Block} {body : α → List Char} {kept : α → String}
  (hentry : ∀ e, EntryText (body e))
    (hkept : ∀ e, block.entry keyText (skipBlanks (body e) ++ [';']) = [kept e])

include hentry hkept

/-- Line by line, every entry keeps the white space before its semicolon. -/
theorem Scan.run_tableRows {layout : Layout} (hsplit : layout.splitStatements = true)
    (control table : Identifier) (entries : List α) :
    Scan.run keyText
      {} (rowLines layout (tableRows control table block (blockText (entries.map body)))) =
        .ok (.inControl .empty control.text
          (({} : Control).storeTable table.text
            (({} : Table).addEntries block (entries.map kept)))) := by
  have hbodies : ∀ text ∈ entries.map body, EntryText text :=
    List.forall_mem_map.2 fun e _ => hentry e
  have hblock := @Scan.run_block keyText layout .empty control.text {} table.text α block
    (fun e => skipBlanks (body e) ++ [';']) kept entries block.heading
    {} block.heading_stem block.ofLine_heading fun e =>
      ⟨skipBlanks (body e), (hentry e).stem, rfl, hkept e⟩
  have hrows : layout.bareLines (block.heading ++ '{' :: (blockText (entries.map body) ++ ['}'])) =
      rowLines layout
        (⟨2, block.heading ++ ['{']⟩ :: (entries.map fun e => ⟨3, skipBlanks (body e) ++ [';']⟩) ++
          [.close 2]) := by
    rw [bareLines_block hsplit block.heading_stem hbodies, List.map_map]
    rfl
  have hclose : layout.bareLines (Row.close 1).text = [['}']] := layout.bareLines_brace
  rw [tableRows, rowLines_cons, Scan.run_append (Scan.run_controlHead rfl control _), rowLines_cons,
    Scan.run_append (Scan.run_tableHead table), rowLines_cons, hrows, Scan.run_append hblock,
    rowLines_cons, hclose, rowLines_close, List.singleton_append,
    Scan.run_cons (Scan.step_tableEnd _ _), Scan.run_cons Scan.step_controlEnd, Scan.run_nil]

/-- What is read of a block, line by line, are its entries with the white space before their
semicolons. -/
theorem readInProgram_blockText {reading : Reading} (hr : reading.keyText = keyText)
    (hsplit : reading.layout.splitStatements = true) (tab : Nat) (control table : Identifier)
    (entries : List α) :
    readInProgram reading tab control table block (blockText (entries.map body)) =
      some (entries.map kept) := by
  have hbodies : ∀ text ∈ entries.map body, EntryText text :=
    List.forall_mem_map.2 fun e _ => hentry e
  have hsource :
    Outline.ofSource reading (tableText tab control table block (blockText (entries.map body))) =
      .ok (Scan.inControl .empty control.text (({} : Control).storeTable table.text
        (({} : Table).addEntries block (entries.map kept)))).outline := by
    rw [Outline.ofSource_eq_run, tableText, String.toList_ofList,
      ← Scan.run_bare reading.keyText rfl, ← Layout.bareLines,
      bareLines_print tab reading.layout (apart_tableRows control table block hbodies), hr]
    exact congrArg _ (Scan.run_tableRows hentry hkept hsplit control table entries)
  have htable : (Scan.inControl .empty control.text (({} : Control).storeTable table.text
      (({} : Table).addEntries block (entries.map kept)))).outline.table? control.text table.text =
        some (({} : Table).addEntries block (entries.map kept)) := by
    simp [Outline.table?, Scan.inControl, Control.storeTable]
  rw [readInProgram, hsource]
  show ((Outline.table? _ _ _).map _) = _
  rw [htable]
  cases block <;> rfl

end Read

/-! ### What is kept of an entry -/

namespace SpacedKey

variable (e : SpacedKey)

theorem isGap_beforeColon : ∀ c ∈ e.beforeColon, isGap c = true :=
  fun c hc => e.isGap_of_mem c (List.mem_append_left _ hc)

theorem isGap_afterColon : ∀ c ∈ e.afterColon, isGap c = true :=
  fun c hc => e.isGap_of_mem c (List.mem_append_right _ (List.mem_append_left _ hc))

theorem isGap_beforeSemicolon : ∀ c ∈ e.beforeSemicolon, isGap c = true :=
  fun c hc => e.isGap_of_mem c (List.mem_append_right _ (List.mem_append_right _ hc))

/-- A key entry from its expression on, with other white space before its semicolon. -/
def textWith (gap : List Char) : List Char :=
  (skipBlanks e.expression ++ e.beforeColon) ++ ':' :: (e.afterColon ++ (e.kind.chars ++ gap))

theorem entryText_body : EntryText e.body := by
  refine e.entryText.append (inline_append.2 ⟨inline_of_isGap e.isGap_beforeColon, ?_⟩)
  have hbehind : Inline (e.afterColon ++ (e.kind.chars ++ e.beforeSemicolon)) :=
    inline_append.2 ⟨inline_of_isGap e.isGap_afterColon,
      inline_append.2 ⟨inline_of_isWord e.kind.all_isWord, inline_of_isGap e.isGap_beforeSemicolon⟩⟩
  exact List.forall_mem_cons.2 ⟨by decide, hbehind⟩

theorem skipBlanks_body : skipBlanks e.body = e.textWith e.beforeSemicolon := by
  rw [body, skipBlanks_append_of_ne_nil e.entryText.not_blank, textWith, List.append_assoc]

theorem textWith_append (gap : List Char) : e.textWith [] ++ gap = e.textWith gap := by
  simp [textWith]

theorem trim_body : trim e.body = e.textWith [] := by
  have hstart : BareStart (e.textWith []) := by
    rw [textWith, List.append_assoc]
    exact bareStart_append (bareStart_skipBlanks _) e.entryText.not_blank _
  have hend : BareEnd (e.textWith []) := by
    have hsplit : e.textWith [] =
        (skipBlanks e.expression ++ e.beforeColon ++ ':' :: e.afterColon) ++ e.kind.chars := by
      simp [textWith]
    rw [hsplit]
    exact e.kind.bareEnd _
  have htrim : trim e.body = trim (skipBlanks e.body) := by
    rw [trim, trim, skipBlanks_of_bareStart (bareStart_skipBlanks _)]
  rw [htrim, e.skipBlanks_body, ← e.textWith_append,
    trim_trail fun c hc => isBlank_of_isGap (e.isGap_beforeSemicolon c hc),
      trim_of_bare hstart hend]

/-- The white space before the semicolon is no part of the expression and the match kind. -/
theorem reduce_field {gap : List Char} (hg : ∀ c ∈ gap, isGap c = true) :
    KeyText.field.reduce (e.textWith gap ++ [';']) =
      trim (skipBlanks e.expression ++ e.beforeColon) ++ ':' :: ' ' :: e.kind.chars := by
  have hne : skipBlanks e.expression ++ e.beforeColon ≠ [] :=
    List.append_ne_nil_of_left_ne_nil e.entryText.not_blank _
  have hbreak : '\n' ∉ skipBlanks e.expression ++ e.beforeColon := by
    intro hm
    rcases List.mem_append.1 hm with hm | hm
    · exact e.entryText.stem.inline.newline_notMem hm
    · exact (inline_of_isGap e.isGap_beforeColon).newline_notMem hm
  have hsplit : e.textWith gap ++ [';'] =
      (skipBlanks e.expression ++ e.beforeColon) ++
        ':' :: (e.afterColon ++ (e.kind.chars ++ (gap ++ [';']))) := by
    simp [textWith]
  have hfield :=
    field?_plain hne hbreak (fun c hc => isBlank_of_isGap (e.isGap_afterColon c hc)) e.kind
      fun c hc => isBlank_of_isGap (hg c hc)
  rw [hsplit, KeyText.reduce, hfield]

theorem reduce_ne_nil (keyText : KeyText) {gap : List Char} (hg : ∀ c ∈ gap, isGap c = true) :
    keyText.reduce (e.textWith gap ++ [';']) ≠ [] := by
  cases keyText with
  | verbatim => simp [KeyText.reduce]
  | field =>
    rw [e.reduce_field hg]
    simp

/-- Of a key entry the same is kept either way if it is not kept as it is written, or if no white
space stands before its semicolon. -/
theorem reduce_body_eq_iff (keyText : KeyText) :
    keyText.reduce (trim e.body ++ [';']) = keyText.reduce (skipBlanks e.body ++ [';']) ↔
      keyText = .field ∨ e.beforeSemicolon = [] := by
  rw [e.trim_body, e.skipBlanks_body]
  cases keyText with
  | verbatim =>
    rw [← e.textWith_append e.beforeSemicolon]
    simp [KeyText.reduce]
  | field =>
    rw [e.reduce_field (by simp), e.reduce_field e.isGap_beforeSemicolon]
    simp

end SpacedKey

namespace SpacedName

variable (n : SpacedName)

theorem isBlank_indent : ∀ c ∈ n.indent, isBlank c = true :=
  fun c hc => isBlank_of_isGap (n.isGap_of_mem c (List.mem_append_left _ hc))

theorem isBlank_beforeSemicolon : ∀ c ∈ n.beforeSemicolon, isBlank c = true :=
  fun c hc => isBlank_of_isGap (n.isGap_of_mem c (List.mem_append_right _ hc))

theorem skipBlanks_body : skipBlanks n.body = n.name.chars ++ n.beforeSemicolon := by
  rw [body, skipBlanks_append n.isBlank_indent, skipBlanks_of_bareStart (n.name.bareStart _)]

theorem entryText_body : EntryText n.body where
  inline :=
    inline_append.2 ⟨inline_of_isGap fun c hc => n.isGap_of_mem c (List.mem_append_left _ hc),
      inline_append.2 ⟨inline_of_isWord n.name.all_isWord,
        inline_of_isGap fun c hc => n.isGap_of_mem c (List.mem_append_right _ hc)⟩⟩
  not_blank := by
    rw [n.skipBlanks_body]
    exact List.append_ne_nil_of_left_ne_nil n.name.ne_nil _

theorem trim_body : trim n.body = n.name.chars := by
  have hstart : BareStart n.name.chars := by simpa using n.name.bareStart []
  rw [body, ← List.append_assoc, trim_trail n.isBlank_beforeSemicolon, trim_append n.isBlank_indent,
    trim_of_bare hstart (n.name.bareEnd [])]

/-- Of an action entry its name is kept, whatever white space stands behind it. -/
theorem actionName_eq {gap : List Char} (hg : ∀ c ∈ gap, isBlank c = true) :
    actionName (n.name.chars ++ gap ++ [';']) = n.name.chars := by
  rw [List.append_assoc]
  exact n.name.actionName_append (wordStop_gap_cons hg (by decide) [])

end SpacedName

/-! ### Both ways -/

section Blocks

variable (keyText : KeyText)

theorem SpacedKey.readInPlace_blockText (entries : List SpacedKey) :
    readInPlace keyText .keys (blockText (entries.map SpacedKey.body)) =
      some (entries.map fun e => String.ofList (keyText.reduce (trim e.body ++ [';']))) := by
  have hentries : ∀ text ∈ entries.map SpacedKey.body, EntryText text :=
    List.forall_mem_map.2 fun e _ => e.entryText_body
  have hkept : ∀ text ∈ entries.map SpacedKey.body,
      Block.keys.reduce keyText (trim text ++ [';']) ≠ [] := by
    refine List.forall_mem_map.2 fun e _ => ?_
    rw [e.trim_body]
    exact e.reduce_ne_nil keyText (by simp)
  rw [readInPlace, inlineEntries?_blockText hentries hkept, Option.map_some,
    List.map_map, List.map_map]
  rfl

theorem SpacedKey.readInProgram_blockText (layout : Layout) (hsplit : layout.splitStatements = true)
    (tab : Nat) (control table : Identifier) (entries : List SpacedKey) :
    readInProgram ⟨layout,
      keyText⟩ tab control table .keys (blockText (entries.map SpacedKey.body)) =
        some (entries.map fun e => String.ofList (keyText.reduce (skipBlanks e.body ++ [';']))) :=
  P4Outline.readInProgram_blockText SpacedKey.entryText_body
    (fun _ => rfl) rfl hsplit tab control table entries

theorem SpacedName.readInPlace_blockText (entries : List SpacedName) :
    readInPlace keyText .actions (blockText (entries.map SpacedName.body)) =
      some (entries.map (·.name.text)) := by
  have hname (n : SpacedName) : Block.actions.reduce keyText (trim n.body ++ [';']) =
      n.name.chars := by
    have hkept := @SpacedName.actionName_eq n [] (by simp)
    rw [List.append_nil] at hkept
    rw [n.trim_body]
    exact hkept
  have hentries : ∀ text ∈ entries.map SpacedName.body, EntryText text :=
    List.forall_mem_map.2 fun n _ => n.entryText_body
  have hkept : ∀ text ∈ entries.map SpacedName.body,
      Block.actions.reduce keyText (trim text ++ [';']) ≠ [] := by
    refine List.forall_mem_map.2 fun n _ => ?_
    rw [hname n]
    exact n.name.ne_nil
  rw [readInPlace, inlineEntries?_blockText hentries hkept, Option.map_some,
    List.map_map, List.map_map]
  congr 1
  exact List.map_congr_left fun n _ => congrArg String.ofList (hname n)

theorem SpacedName.readInProgram_blockText (layout : Layout)
    (hsplit : layout.splitStatements = true) (tab : Nat) (control table : Identifier)
    (entries : List SpacedName) :
    readInProgram ⟨layout, keyText⟩ tab control table .actions (blockText
      (entries.map SpacedName.body)) = some (entries.map (·.name.text)) := by
  have hkept (n : SpacedName) : Block.actions.entry keyText (skipBlanks n.body ++ [';']) =
      [n.name.text] := by
    have hname := n.actionName_eq n.isBlank_beforeSemicolon
    rw [n.skipBlanks_body, Block.entry]
    show (if (actionName _).isEmpty then [] else [String.ofList (actionName _)]) = _
    rw [hname, if_neg (by simpa using n.name.ne_nil), Identifier.text]
  exact P4Outline.readInProgram_blockText SpacedName.entryText_body hkept rfl hsplit tab
    control table entries

end Blocks

/-- A block of keys is read in place as it is read line by line if and only if keys are not kept as
they are written, or no white space stands before a semicolon. A block of actions is read the same
either way. -/
theorem readInPlace_eq_readInProgram_iff (keyText : KeyText) (stripComments : Bool) (tab : Nat)
    (control table : Identifier) :
    (∀ entries : List SpacedKey,
      (readInPlace keyText .keys (blockText (entries.map SpacedKey.body))).isSome ∧
        (readInProgram ⟨⟨true, stripComments⟩, keyText⟩ tab control table .keys
          (blockText (entries.map SpacedKey.body))).isSome ∧
          (readInPlace keyText .keys (blockText (entries.map SpacedKey.body)) =
              readInProgram ⟨⟨true, stripComments⟩, keyText⟩ tab control table .keys
                (blockText (entries.map SpacedKey.body)) ↔
            keyText = .field ∨ ∀ e ∈ entries, e.beforeSemicolon = [])) ∧
    ∀ entries : List SpacedName,
      (readInPlace keyText .actions (blockText (entries.map SpacedName.body))).isSome ∧
        readInPlace keyText .actions (blockText (entries.map SpacedName.body)) =
          readInProgram ⟨⟨true, stripComments⟩, keyText⟩ tab control table .actions
            (blockText (entries.map SpacedName.body)) := by
  refine ⟨fun entries => ?_, fun entries => ?_⟩
  -- both readings keep the entries one by one, so that they agree if and only if each of them does
  · rw [SpacedKey.readInPlace_blockText, SpacedKey.readInProgram_blockText keyText _ rfl,
      Option.some.injEq, List.map_inj_left]
    refine ⟨rfl, rfl, ?_⟩
    simp only [String.ofList_inj, SpacedKey.reduce_body_eq_iff]
    constructor
    · intro h
      by_cases hk : keyText = .field
      · exact .inl hk
      · exact .inr fun e he => (h e he).resolve_left hk
    · rintro (h | h) e he
      · exact .inl h
      · exact .inr (h e he)
  · rw [SpacedName.readInPlace_blockText, SpacedName.readInProgram_blockText keyText _ rfl]
    exact ⟨rfl, rfl⟩

theorem exact_ne_nil : "exact".toList ≠ [] := by decide

theorem isWord_of_mem_exact : ∀ c ∈ "exact".toList, isWord c = true := by decide

/-- A key entry with a space before its semicolon. -/
def looseKey : SpacedKey where
  expression := " a".toList
  entryText := ⟨by decide, by decide +kernel⟩
  beforeColon := []
  afterColon := [' ']
  kind := ⟨"exact".toList, exact_ne_nil, isWord_of_mem_exact⟩
  beforeSemicolon := [' ']
  isGap_of_mem := by decide

/-- Of a key entry that is kept as it is written, the space before the semicolon is lost in place,
but not line by line. -/
theorem readInPlace_ne_readInProgram_looseKey :
    readInPlace .verbatim .keys (blockText [looseKey.body]) = some ["a: exact;"] ∧
      readInProgram ⟨{}, .verbatim⟩ 2 ⟨"C".toList, by decide, by decide⟩
        ⟨"t".toList, by decide, by decide⟩ .keys (blockText [looseKey.body]) =
          some ["a: exact ;"] := by
  decide +kernel

end P4Outline

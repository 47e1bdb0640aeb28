import P4Outline.Proofs.Printed

/-!
# Printed statements have lines of their own

The lines of a printed text are those of its statements, one statement after the other: none goes on
with the one above it, since none begins with a brace, and none hides another, since there are no
comments.

* `KeyEntry.stem`, `headText_stem` and the like: what each statement is up to its last mark or its
  body.
* `Row.Apart`: what keeps the lines of a statement apart from those around it.
* `bareLines_print`: the lines of a printed text.
-/

namespace P4Outline

open P4Outline.Text P4Outline.Source

/-! ### Stems of statements -/

theorem Kind.stem (k : Kind) : Stem k.keyword :=
  stem_of_isWord k.keyword_ne_nil Kind.isWord_of_mem_keyword

theorem Identifier.stem (name : Identifier) : Stem name.chars :=
  stem_of_isWord name.ne_nil name.all_isWord

theorem KeyEntry.print_eq (e : KeyEntry) :
    e.print = (e.expression.chars ++ ':' :: ' ' :: e.kind.chars) ++ [';'] := by
  simp [KeyEntry.print]

theorem KeyEntry.stem (e : KeyEntry) : Stem (e.expression.chars ++ ':' :: ' ' :: e.kind.chars) := by
  have hexpression : Stem e.expression.chars :=
    ⟨e.expression.ne_nil, e.expression.inline, e.expression.bareStart⟩
  have hmid : ':' :: ' ' :: e.kind.chars = [':', ' '] ++ e.kind.chars := rfl
  rw [hmid]
  exact hexpression.append (inline_append.2 ⟨by decide, e.kind.stem.inline⟩)

/-- What stands before the value of a property. -/
theorem stem_property {w : List Char} (hn : w ≠ []) (hw : ∀ c ∈ w, isWord c = true) :
    Stem (w ++ [' ', '=', ' ']) :=
  (stem_of_isWord hn hw).append (by decide)

theorem stem_size (n : Nat) : Stem ("size = ".toList ++ natText n) := by
  have hs : Stem "size = ".toList := stem_property (w := "size".toList) (by decide) (by decide)
  exact hs.append (inline_of_class (by decide) fun c hc => isDigit_of_mem_natText hc)

theorem stem_defaultAction (name : Identifier) :
    Stem ("default_action = ".toList ++ name.chars) := by
  have hs : Stem "default_action = ".toList :=
    stem_property (w := "default_action".toList) (by decide) (by decide)
  exact hs.append name.stem.inline

theorem stem_apply : Stem "apply ".toList := by
  have hs : Stem "apply".toList := stem_of_isWord (by decide) (by decide)
  have hspace : Inline [' '] := by decide
  exact hs.append hspace

theorem headText_stem (k : Kind) (name : Identifier) (parameters : Parameters) :
    Stem (headText k name parameters) := by
  have hsplit : headText k name parameters =
      (k.keyword ++ [' ']) ++ ((name.chars ++ ['(']) ++ (parameters.chars ++ [')', ' '])) := by
    simp [headText]
  have hname : Inline (name.chars ++ ['(']) := inline_append.2 ⟨name.stem.inline, by decide⟩
  have hparameters : Inline (parameters.chars ++ [')', ' ']) :=
    inline_append.2 ⟨parameters.inline, by decide⟩
  rw [hsplit]
  exact (k.stem.append (by decide)).append (inline_append.2 ⟨hname, hparameters⟩)

theorem Identifier.tableHead_eq (name : Identifier) :
    Kind.table.keyword ++ ' ' :: (name.chars ++ [' ', '{']) =
      (Kind.table.keyword ++ ' ' :: (name.chars ++ [' '])) ++ ['{'] := by
  simp

theorem Identifier.tableHead_stem (name : Identifier) :
    Stem (Kind.table.keyword ++ ' ' :: (name.chars ++ [' '])) := by
  have hsplit : Kind.table.keyword ++ ' ' :: (name.chars ++ [' ']) =
      (Kind.table.keyword ++ [' ']) ++ (name.chars ++ [' ']) := by simp
  rw [hsplit]
  exact (Kind.table.stem.append (by decide)).append (inline_append.2 ⟨name.stem.inline, by decide⟩)

/-! ### Bodies -/

theorem Body.slash_notMem_block (b : Body) : '/' ∉ b.block := by
  simp only [Body.block, List.mem_cons, List.mem_append, not_or]
  exact ⟨by decide, b.slash_notMem, by decide⟩

theorem Body.not_holdsWord_block (b : Body) :
    ∀ k ∈ [Kind.control, Kind.table, Kind.action], ¬ HoldsWord k.keyword b.block := by
  intro k hk
  have hend : ¬ HoldsWord k.keyword ['}'] := by
    rw [HoldsWord, holdsWordFrom_cons_of_false k.keyword_ne_nil (by decide), HoldsWord,
      holdsWordFrom_nil]
    exact fun h => k.keyword_ne_nil h.2
  rw [Body.block, HoldsWord, holdsWordFrom_cons_of_false k.keyword_ne_nil (by decide), HoldsWord,
    holdsWordFrom_append_cons k.keyword_ne_nil (by decide)]
  exact not_or.2 ⟨b.not_holdsWord k hk, hend⟩

/-! ### What keeps statements apart -/

/-- Whether the lines of a statement are told apart from those around it. -/
structure Row.Apart (r : Row) : Prop where
  slash_notMem : '/' ∉ r.text
  bareStart : BareStart r.text
  bareEnd : BareEnd r.text
  ne_nil : r.text ≠ []
  head_ne : r.text.head? ≠ some '{'

theorem Row.Apart.of_stem {depth : Nat} {front : List Char} (h : Stem front) {rest : List Char}
    (hr : '/' ∉ rest) (he : BareEnd (front ++ rest)) : Row.Apart ⟨depth, front ++ rest⟩ where
  slash_notMem := by
    intro hm
    rcases List.mem_append.1 hm with hm | hm
    · exact h.inline.slash_notMem hm
    · exact hr hm
  bareStart := bareStart_append h.bareStart h.ne_nil rest
  bareEnd := he
  ne_nil := List.append_ne_nil_of_left_ne_nil h.ne_nil rest
  head_ne := by
    cases hf : front with
    | nil => exact absurd hf h.ne_nil
    | cons c cs =>
      have hc : c ≠ '{' := (h.inline c (by rw [hf]; exact List.mem_cons_self)).1
      simpa using hc

/-- A statement that ends in a brace or a semicolon. -/
theorem Row.Apart.of_end {depth : Nat} {front : List Char} (h : Stem front) {m : Char}
    (hm : m = '{' ∨ m = ';') :
    Row.Apart ⟨depth, front ++ [m]⟩ := by
  apply Row.Apart.of_stem h
  · rcases hm with rfl | rfl <;> decide
  · exact bareEnd_concat (by rcases hm with rfl | rfl <;> decide) front

/-- A statement with a body. -/
theorem Row.Apart.of_body {depth : Nat} {front : List Char} (h : Stem front) (b : Body) :
    Row.Apart ⟨depth, front ++ '{' :: b.block⟩ := by
  have hslash : '/' ∉ '{' :: b.block := by
    rw [List.mem_cons, not_or]
    exact ⟨by decide, b.slash_notMem_block⟩
  have hsplit : front ++ '{' :: b.block = (front ++ '{' :: ' ' :: (b.chars ++ [' '])) ++ ['}'] := by
    simp [Body.block]
  apply Row.Apart.of_stem h hslash
  rw [hsplit]
  exact bareEnd_concat (by decide) _

theorem Row.apart_close (depth : Nat) : (Row.close depth).Apart where
  slash_notMem := by
    show '/' ∉ ['}']
    decide
  bareStart := bareStart_cons (by decide) []
  bareEnd := bareEnd_concat (by decide) []
  ne_nil := by simp [Row.close]
  head_ne := by simp [Row.close]

theorem Property.apart (p : Property) : ∀ r ∈ p.rows, r.Apart := by
  intro r hr
  -- every row begins with a word of its own and ends with a mark, which holds it apart from the
  -- rows around it
  cases p with
  | keys entries =>
    simp only [rows, List.mem_append, List.mem_cons, List.mem_map, List.not_mem_nil, or_false] at hr
    rcases hr with (rfl | ⟨e, -, rfl⟩) | rfl
    · exact Row.Apart.of_end (stem_property (w := "key".toList) (by decide) (by decide)) (.inl rfl)
    · rw [e.print_eq]
      exact Row.Apart.of_end e.stem (.inr rfl)
    · exact Row.apart_close 2
  | actions names =>
    simp only [rows, List.mem_append, List.mem_cons, List.mem_map, List.not_mem_nil, or_false] at hr
    rcases hr with (rfl | ⟨name, -, rfl⟩) | rfl
    · exact Row.Apart.of_end (stem_property (w := "actions".toList) (by decide) (by decide))
        (.inl rfl)
    · exact Row.Apart.of_end name.stem (.inr rfl)
    · exact Row.apart_close 2
  | size s =>
    rw [rows, List.mem_singleton, ← List.append_assoc] at hr
    rw [hr]
    exact Row.Apart.of_end (stem_size s.n) (.inr rfl)
  | defaultAction name =>
    rw [rows, List.mem_singleton, ← List.append_assoc] at hr
    rw [hr]
    exact Row.Apart.of_end (stem_defaultAction name) (.inr rfl)

theorem Item.apart (item : Item) : ∀ r ∈ item.rows, r.Apart := by
  intro r hr
  cases item with
  | action a =>
    rw [rows, List.mem_singleton] at hr
    rw [hr]
    exact Row.Apart.of_body (headText_stem .action a.name a.parameters) a.body
  | table t =>
    simp only [rows, TableDecl.rows, List.mem_append, List.mem_cons, List.mem_flatMap,
      List.not_mem_nil, or_false] at hr
    rcases hr with (rfl | ⟨p, -, hr⟩) | rfl
    · rw [t.name.tableHead_eq]
      exact Row.Apart.of_end t.name.tableHead_stem (.inl rfl)
    · exact p.apart r hr
    · exact Row.apart_close 1

theorem ProgramDecl.apart (p : ProgramDecl) : ∀ r ∈ p.rows, r.Apart := by
  intro r hr
  obtain ⟨c, -, hr⟩ := List.mem_flatMap.1 hr
  simp only [ControlDecl.rows, List.mem_append, List.mem_cons, List.mem_flatMap,
    List.not_mem_nil, or_false] at hr
  rcases hr with (rfl | ⟨item, -, hr⟩) | rfl | rfl
  · exact Row.Apart.of_end (headText_stem .control c.name c.parameters) (.inl rfl)
  · exact item.apart r hr
  · exact Row.Apart.of_body stem_apply c.apply
  · exact Row.apart_close 0

/-! ### The lines of a printed text -/

section Print

variable (tab : Nat)

/-- A printed statement: its indentation, its text and a line break. -/
theorem Row.print_append (r : Row) (below : List Char) :
    r.print tab ++ below = (List.replicate (tab * r.depth) ' ' ++ r.text) ++ '\n' :: below := by
  simp [Row.print]

theorem mem_indent {n : Nat} : ∀ c ∈ List.replicate n ' ', c = ' ' :=
  fun _ hc => List.eq_of_mem_replicate hc

theorem Row.Apart.slash_notMem_print {r : Row} (h : r.Apart) : '/' ∉ r.print tab := by
  intro hm
  rw [Row.print, List.mem_append, List.mem_append] at hm
  rcases hm with hm | hm | hm
  · exact absurd (mem_indent _ hm) (by decide)
  · exact h.slash_notMem hm
  · exact absurd hm (by decide)

theorem Row.Apart.skipBlanks_print {r : Row} (h : r.Apart) (below : List Char) :
    skipBlanks (r.print tab ++ below) = r.text ++ '\n' :: below := by
  have hgap : ∀ c ∈ List.replicate (tab * r.depth) ' ', isBlank c = true := by
    intro c hc
    rw [mem_indent c hc]
    decide
  rw [Row.print_append, List.append_assoc, skipBlanks_append hgap]
  exact skipBlanks_of_bareStart (bareStart_append h.bareStart h.ne_nil _)

/-- No printed text goes on with the line above it. -/
theorem head?_skipBlanks_print {rows : List Row} (h : ∀ r ∈ rows, r.Apart) :
    (skipBlanks (rows.flatMap (Row.print tab))).head? ≠ some '{' := by
  cases rows with
  | nil => simp [skipBlanks]
  | cons r rows =>
    have hr := h r List.mem_cons_self
    rw [List.flatMap_cons, hr.skipBlanks_print, List.head?_append,
      List.head?_eq_some_head hr.ne_nil, Option.some_or, ← List.head?_eq_some_head hr.ne_nil]
    exact hr.head_ne

/-- The lines of a printed text are those of its statements. -/
theorem bareLines_print (layout : Layout) {rows : List Row} (h : ∀ r ∈ rows, r.Apart) :
    layout.bareLines (rows.flatMap (Row.print tab)) =
      rows.flatMap fun r => layout.bareLines r.text := by
  induction rows with
  | nil => exact layout.bareLines_of_isBlank (by simp)
  | cons r rows ih =>
    have hr : r.Apart := h r List.mem_cons_self
    have hrows : ∀ r ∈ rows, r.Apart := fun r hr => h r (List.mem_cons_of_mem _ hr)
    have hslash : '/' ∉ List.replicate (tab * r.depth) ' ' ++ r.text := by
      intro hm
      rcases List.mem_append.1 hm with hm | hm
      · exact absurd (mem_indent _ hm) (by decide)
      · exact hr.slash_notMem hm
    have hbelow : '/' ∉ rows.flatMap (Row.print tab) := by
      intro hm
      obtain ⟨r', hr', hm⟩ := List.mem_flatMap.1 hm
      exact (hrows r' hr').slash_notMem_print tab hm
    have hend : BareEnd (List.replicate (tab * r.depth) ' ' ++ r.text) := by
      intro c hc
      rw [Option.mem_def, List.getLast?_append] at hc
      apply hr.bareEnd c
      rwa [List.getLast?_eq_some_getLast hr.ne_nil] at hc ⊢
    -- the break behind the statement parts its lines from those below, of which none is a hanging
    -- brace
    rw [List.flatMap_cons, Row.print_append,
      layout.bareLines_newline hslash hbelow hend (head?_skipBlanks_print tab hrows), ih hrows,
      layout.bareLines_indent mem_indent hr.slash_notMem hr.bareStart, List.flatMap_cons]

end Print

/-! ### The lines of statements -/

section Lines

variable (layout : Layout)

/-- The lines of statements that bear on a scan. -/
def rowLines (rows : List Row) : List (List Char) := rows.flatMap fun r => layout.bareLines r.text

theorem rowLines_append (rows more : List Row) :
    rowLines layout (rows ++ more) = rowLines layout rows ++ rowLines layout more :=
  List.flatMap_append

theorem rowLines_cons (r : Row) (rows : List Row) :
    rowLines layout (r :: rows) = layout.bareLines r.text ++ rowLines layout rows :=
  List.flatMap_cons

theorem rowLines_close (depth : Nat) : rowLines layout [.close depth] = [['}']] := by
  rw [rowLines_cons]
  exact congrArg (· ++ []) layout.bareLines_brace

/-- The lines of a printed program are those of its statements. -/
theorem ProgramDecl.bareLines_print (tab : Nat) (p : ProgramDecl) :
    layout.bareLines (p.print tab) = rowLines layout p.rows :=
  P4Outline.bareLines_print tab layout p.apart

end Lines

end P4Outline

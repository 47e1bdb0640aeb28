import P4Outline.Proofs.Printed
import P4Outline.Proofs.Spacing

/-!
# Entries with annotations

Of a key entry its expression and its match kind are kept, of an action entry its name, whatever
annotations stand with them. A key entry has them between its match kind and its semicolon, an
action entry before its name. The expression of a key may have colons, at signs and parentheses of
its own: it ends at the last colon, which no annotation comes behind.

* `Annotation.afterAnnotation?_text`: an annotation is read to its end.
* `skipAnnotations_annotationText`: annotations are passed over up to the semicolon.
* `AnnotatedKey.reduce_text`, `AnnotatedName.actionName_text`: what is kept of an entry.
-/

namespace P4Outline

open P4Outline.Text

/-! ### Annotations -/

/-- An annotation: its name, its arguments in parentheses or none, and the white space behind it. -/
structure Annotation where
  name : Identifier
  arguments? : Option (List Char)
  closing_notMem : ∀ arguments ∈ arguments?, ')' ∉ arguments
  gap : List Char
  isBlank_of_mem : ∀ c ∈ gap, isBlank c = true

namespace Annotation

/-- The text of an annotation without the white space behind it. -/
def text (a : Annotation) : List Char :=
  '@' :: (a.name.chars ++
    match a.arguments? with
    | none => []
    | some arguments => '(' :: (arguments ++ [')']))

/-- Whether a text goes on neither with the name of an annotation before it nor with arguments. -/
def Stop (cs : List Char) : Prop := ∀ c ∈ cs.head?, isWord c = false ∧ c ≠ '('

theorem Stop.wordStop {cs : List Char} (h : Stop cs) : WordStop cs := fun c hc => (h c hc).1

theorem stop_cons {c : Char} (hw : isWord c = false) (hp : c ≠ '(') (cs : List Char) :
    Stop (c :: cs) := by
  intro d hd
  cases hd
  exact ⟨hw, hp⟩

theorem stop_blank {c : Char} (h : isBlank c = true) (cs : List Char) : Stop (c :: cs) := by
  refine stop_cons (isWord_of_isBlank h) ?_ cs
  rintro rfl
  exact absurd h (by decide)

theorem stop_gap {gap : List Char} (hg : ∀ c ∈ gap, isBlank c = true)
    {cs : List Char} (h : Stop cs) :
    Stop (gap ++ cs) := by
  cases gap with
  | nil => exact h
  | cons c gap => exact stop_blank (hg c List.mem_cons_self) (gap ++ cs)

variable (a : Annotation)

/-- An annotation is read to its end. -/
theorem afterAnnotation?_text {rest : List Char} (h : Stop rest) :
    afterAnnotation? (a.text ++ rest) = some rest := by
  have hname : (a.name.chars).isEmpty = false := List.isEmpty_eq_false_iff.2 a.name.ne_nil
  rw [text]
  cases ha : a.arguments? with
  | none =>
    dsimp only
    rw [List.append_nil, List.cons_append, afterAnnotation?, a.name.word_append h.wordStop,
      a.name.afterWord_append h.wordStop, hname]
    cases rest with
    | nil => rfl
    | cons c rest =>
      have hc : c ≠ '(' := (h c rfl).2
      simp [hc]
  | some arguments =>
    have hopening : WordStop ('(' :: (arguments ++ ')' :: rest)) := wordStop_cons (by decide) _
    have harguments : ∀ c ∈ arguments, decide (c ≠ ')') = true := by
      intro c hc
      refine decide_eq_true ?_
      rintro rfl
      exact a.closing_notMem arguments ha hc
    have hall : '@' :: (a.name.chars ++ '(' :: (arguments ++ [')'])) ++ rest =
        '@' :: (a.name.chars ++ '(' :: (arguments ++ ')' :: rest)) := by simp
    dsimp only
    rw [hall, afterAnnotation?, a.name.word_append hopening,
      a.name.afterWord_append hopening, hname]
    show afterFirst? ')' (arguments ++ ')' :: rest) = some rest
    rw [afterFirst?, (takeWhile_dropWhile_append harguments (by decide) rest).2]

theorem colon_notMem_text (h : ∀ arguments ∈ a.arguments?, ':' ∉ arguments) : ':' ∉ a.text := by
  rw [text]
  cases ha : a.arguments? with
  | none => simpa using a.name.notMem (by decide)
  | some arguments => simpa using ⟨a.name.notMem (by decide), h arguments ha⟩

end Annotation

/-- The text of annotations, each with the white space behind it. -/
def annotationText (annotations : List Annotation) : List Char :=
  annotations.flatMap fun a => a.text ++ a.gap

theorem annotationText_cons (a : Annotation) (annotations : List Annotation) (rest : List Char) :
    annotationText (a :: annotations) ++ rest =
      a.text ++ (a.gap ++ (annotationText annotations ++ rest)) := by
  simp [annotationText]

theorem stop_annotationText (annotations : List Annotation) {rest : List Char}
    (h : Annotation.Stop rest) :
    Annotation.Stop (annotationText annotations ++ rest) := by
  cases annotations with
  | nil => exact h
  | cons a annotations =>
    rw [annotationText_cons]
    exact Annotation.stop_cons (by decide) (by decide) _

theorem bareStart_annotationText (annotations : List Annotation) {rest : List Char}
    (h : BareStart rest) :
    BareStart (annotationText annotations ++ rest) := by
  cases annotations with
  | nil => exact h
  | cons a annotations =>
    rw [annotationText_cons]
    exact bareStart_cons (by decide) _

/-! ### Key entries -/

theorem skipAnnotations_of_some {cs rest : List Char}
    (h : afterAnnotation? (skipBlanks cs) = some rest) :
    skipAnnotations cs = skipAnnotations rest := by
  rw [skipAnnotations]
  split
  · next rest' h' =>
    rw [h] at h'
    cases h'
    rfl
  · next h' =>
    rw [h] at h'
    cases h'

theorem skipAnnotations_of_none {cs : List Char} (h : afterAnnotation? (skipBlanks cs) = none) :
    skipAnnotations cs = skipBlanks cs := by
  rw [skipAnnotations]
  split
  · next rest h' =>
    rw [h] at h'
    cases h'
  · rfl

/-- Annotations are passed over up to the semicolon. -/
theorem skipAnnotations_annotationText {gap : List Char} (hg : ∀ c ∈ gap, isBlank c = true)
    (annotations : List Annotation) (rest : List Char) :
    skipAnnotations (gap ++ (annotationText annotations ++ ';' :: rest)) = ';' :: rest := by
  have hsemicolon : Annotation.Stop (';' :: rest) :=
    Annotation.stop_cons (by decide) (by decide) rest
  induction annotations generalizing gap with
  | nil =>
    have hskip : skipBlanks (gap ++ ';' :: rest) = ';' :: rest := by
      rw [skipBlanks_append hg, skipBlanks_of_bareStart (bareStart_cons (by decide) rest)]
    show skipAnnotations (gap ++ ';' :: rest) = _
    rw [skipAnnotations_of_none (by rw [hskip]; exact afterAnnotation?_eq_none (by decide) rest),
      hskip]
  | cons a annotations ih =>
    -- an annotation ends at the gap behind it, at the next one or at the semicolon
    have hstop := Annotation.stop_gap a.isBlank_of_mem (stop_annotationText annotations hsemicolon)
    have hread :
      afterAnnotation? (skipBlanks (gap ++ (annotationText (a :: annotations) ++ ';' :: rest))) =
        some (a.gap ++ (annotationText annotations ++ ';' :: rest)) := by
      have hstart : BareStart (a.text ++ (a.gap ++ (annotationText annotations ++ ';' :: rest))) :=
        bareStart_cons (by decide) _
      rw [annotationText_cons, skipBlanks_append hg, skipBlanks_of_bareStart hstart]
      exact a.afterAnnotation?_text hstop
    rw [skipAnnotations_of_some hread]
    exact ih a.isBlank_of_mem

/-- A key entry with white space around its colon and its match kind, and with annotations before
its semicolon. Its expression is on one line. -/
structure AnnotatedKey where
  expression : List Char
  newline_notMem : '\n' ∉ expression
  not_blank : ∃ c ∈ expression, isBlank c = false
  beforeColon : List Char
  afterColon : List Char
  kind : Identifier
  afterKind : List Char
  isBlank_of_mem : ∀ c ∈ beforeColon ++ (afterColon ++ afterKind), isBlank c = true
  annotations : List Annotation
  colon_notMem : ∀ a ∈ annotations, ∀ arguments ∈ a.arguments?, ':' ∉ arguments

namespace AnnotatedKey

variable (e : AnnotatedKey)

theorem isBlank_beforeColon : ∀ c ∈ e.beforeColon, isBlank c = true :=
  fun c hc => e.isBlank_of_mem c (List.mem_append_left _ hc)

theorem isBlank_afterColon : ∀ c ∈ e.afterColon, isBlank c = true :=
  fun c hc => e.isBlank_of_mem c (List.mem_append_right _ (List.mem_append_left _ hc))

theorem isBlank_afterKind : ∀ c ∈ e.afterKind, isBlank c = true :=
  fun c hc => e.isBlank_of_mem c (List.mem_append_right _ (List.mem_append_right _ hc))

/-- What stands behind the colon of a key entry. -/
def behindColon : List Char :=
  e.afterColon ++ (e.kind.chars ++ (e.afterKind ++ (annotationText e.annotations ++ [';'])))

/-- The text of a key entry. -/
def text : List Char := e.expression ++ (e.beforeColon ++ ':' :: e.behindColon)

theorem matchKind?_behindColon : matchKind? e.behindColon = some e.kind.chars := by
  have hstop : Annotation.Stop [';'] := Annotation.stop_cons (by decide) (by decide) []
  have hbehind := Annotation.stop_gap e.isBlank_afterKind (stop_annotationText e.annotations hstop)
  exact matchKind?_append e.isBlank_afterColon e.kind hbehind.wordStop
    (skipAnnotations_annotationText e.isBlank_afterKind e.annotations [])

theorem colon_notMem_behindColon : ':' ∉ e.behindColon := by
  have hannotations : ':' ∉ annotationText e.annotations := by
    intro hm
    obtain ⟨a, ha, hm⟩ := List.mem_flatMap.1 hm
    rcases List.mem_append.1 hm with hm | hm
    · exact a.colon_notMem_text (e.colon_notMem a ha) hm
    · exact notMem_of_class a.isBlank_of_mem (by decide) hm
  simp only [behindColon, List.mem_append, List.mem_singleton, not_or]
  exact ⟨notMem_of_class e.isBlank_afterColon (by decide), e.kind.notMem (by decide),
    notMem_of_class e.isBlank_afterKind (by decide), hannotations, by decide⟩

/-- The expression takes the white space before the colon as far as its line goes. -/
theorem exists_lastField?_gap {gap : List Char} (hg : ∀ c ∈ gap, isBlank c = true) :
    ∃ part, (∀ c ∈ part, isBlank c = true) ∧
      lastField? (gap ++ ':' :: e.behindColon) = some (part, e.kind.chars) := by
  induction gap with
  | nil => exact ⟨[], by simp, lastField?_colon e.colon_notMem_behindColon e.matchKind?_behindColon⟩
  | cons c gap ih =>
    obtain ⟨hc, hgap⟩ := List.forall_mem_cons.1 hg
    by_cases hbreak : c = '\n'
    · -- the line of the expression ends here, and only white space stands before the colon
      refine ⟨[], by simp, ?_⟩
      rw [List.cons_append, lastField?, if_pos hbreak, skipBlanks_append hgap,
        skipBlanks_of_bareStart (bareStart_cons (by decide) _)]
      show (matchKind? e.behindColon).map _ = _
      rw [e.matchKind?_behindColon]
      rfl
    · obtain ⟨part, hpart, hfield⟩ := ih hgap
      exact ⟨c :: part, List.forall_mem_cons.2 ⟨hc, hpart⟩,
        @lastField?_append [c] (by simpa using Ne.symm hbreak) _ _ _ hfield⟩

/-- The expression and the match kind are kept. -/
theorem reduce_text :
    KeyText.field.reduce e.text = trim e.expression ++ ": ".toList ++ e.kind.chars := by
  obtain ⟨c, hc, -⟩ := e.not_blank
  obtain ⟨part, hpart, hfield⟩ := e.exists_lastField?_gap e.isBlank_beforeColon
  have hread := field?_append (List.ne_nil_of_mem hc) e.newline_notMem hfield
  rw [KeyText.reduce, text, hread]
  dsimp only
  rw [trim_trail hpart, List.append_assoc]
  rfl

end AnnotatedKey

/-! ### Action entries -/

/-- An action entry with annotations before its name, each with white space behind it, and any text
behind its name. -/
structure AnnotatedName where
  annotations : List Annotation
  gap_ne_nil : ∀ a ∈ annotations, a.gap ≠ []
  name : Identifier
  behind : List Char
  wordStop : WordStop behind

namespace AnnotatedName

/-- The text of an action entry. -/
def text (n : AnnotatedName) : List Char :=
  annotationText n.annotations ++ (n.name.chars ++ n.behind)

theorem actionName_annotationText {annotations : List Annotation}
    (h : ∀ a ∈ annotations, a.gap ≠ []) {rest : List Char} (hr : BareStart rest) :
    actionName (annotationText annotations ++ rest) = actionName rest := by
  induction annotations with
  | nil => rfl
  | cons a annotations ih =>
    obtain ⟨hgap, hannotations⟩ := List.forall_mem_cons.1 h
    obtain ⟨c, gap, hc⟩ := List.exists_cons_of_ne_nil hgap
    have hblank := a.isBlank_of_mem
    rw [hc] at hblank
    obtain ⟨hspace, hspaces⟩ := List.forall_mem_cons.1 hblank
    -- the white space behind an annotation ends it, so that the name behind it is not taken for
    -- arguments
    have hstop : Annotation.Stop (c :: (gap ++ (annotationText annotations ++ rest))) :=
      Annotation.stop_blank hspace _
    rw [annotationText_cons, hc, List.cons_append,
      actionName_of_annotated (a.afterAnnotation?_text hstop) hspace, skipBlanks_append hspaces,
      skipBlanks_of_bareStart (bareStart_annotationText annotations hr), ih hannotations]

/-- The name is kept. -/
theorem actionName_text (n : AnnotatedName) : actionName n.text = n.name.chars := by
  rw [text, actionName_annotationText n.gap_ne_nil (n.name.bareStart _),
    n.name.actionName_append n.wordStop]

end AnnotatedName

/-- Entries are reduced to what they declare: a key entry to its expression and its match kind, an
action entry to its name. -/
theorem entries_reduce_to_declared (e : AnnotatedKey) (n : AnnotatedName) :
    KeyText.field.reduce e.text = trim e.expression ++ ": ".toList ++ e.kind.chars ∧
      actionName n.text = n.name.chars :=
  ⟨e.reduce_text, n.actionName_text⟩

/-- An annotation with an at sign in its argument. -/
def labelled : Annotation where
  name := ⟨"name".toList, by decide, by decide⟩
  arguments? := some "\"a@b\"".toList
  closing_notMem := by decide
  gap := [' ']
  isBlank_of_mem := by decide

/-- An annotation without arguments. -/
def hidden : Annotation where
  name := ⟨"hidden".toList, by decide, by decide⟩
  arguments? := none
  closing_notMem := by decide
  gap := [' ']
  isBlank_of_mem := by decide

/-- A key whose expression has a colon, an at sign and parentheses of its own. -/
def annotatedKey : AnnotatedKey where
  expression := "h[3:0] ++ f(@x)".toList
  newline_notMem := by decide
  not_blank := ⟨'h', by decide, by decide⟩
  beforeColon := [' ']
  afterColon := ['\n', ' ']
  kind := ⟨"range".toList, by decide, by decide⟩
  afterKind := []
  isBlank_of_mem := by decide
  annotations := [labelled, hidden]
  colon_notMem := by decide

/-- An action with arguments of its own. -/
def annotatedName : AnnotatedName where
  annotations := [hidden, labelled]
  gap_ne_nil := by decide
  name := ⟨"drop".toList, by decide, by decide⟩
  behind := "(1)".toList
  wordStop := wordStop_cons (by decide) _

theorem entries_reduce_annotated :
    annotatedKey.text = "h[3:0] ++ f(@x) :\n range@name(\"a@b\") @hidden ;".toList ∧
    annotatedName.text = "@hidden @name(\"a@b\") drop(1)".toList ∧
    KeyText.field.reduce annotatedKey.text = "h[3:0] ++ f(@x): range".toList ∧
      actionName annotatedName.text = "drop".toList := by
  obtain ⟨hkey, hname⟩ := entries_reduce_to_declared annotatedKey annotatedName
  refine ⟨by decide, by decide, hkey.trans ?_, hname.trans rfl⟩
  decide +kernel

end P4Outline

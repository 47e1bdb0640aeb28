import P4Outline.Assistant.Question
import P4Outline.Command.Standard
import P4Outline.Proofs.Text
import P4Outline.Proofs.Utf8

/-!
# Templates that lead astray

A template that cannot be rendered is unusable, and a question is then written in its own words,
unless the template leads astray: the first field that has no text asks for an attribute that cannot
be had, for a character under something that is no number, for a width that there is no room for, or
for a conversion or a layout that what an attribute led to refuses. For that error there is no
question at all.

* `Template.AstrayWay`, `Template.AstrayName`, `Template.AstrayField`, `Template.Astray`: what leads
  astray, in the terms of the template's text.
* `Template.goesAstray_layOutText_iff`, `Template.not_goesAstray_convertText`: what texts refuse.
* `Template.readField?_append`, `Template.renderWith_append`: a template is read from the front on,
  a field at a time.
* `Template.goesAstray_render_iff`: a template fails in that way if and only if it leads astray.
* `Template.NamesOnly.not_astray`: templates that only name variables do not, if there is room.
* `buildQuestion_template_iff`: where a question is the rendered template, or else the question
  without a template.
-/

namespace P4Outline

open P4Outline.Text

namespace Template

/-! ### Failing in another way than as unusable -/

/-- Whether something fails in another way than as unusable. -/
def GoesAstray {α : Type _} (x : Except TemplateError α) : Prop := ∃ e, x = .error e ∧ e ≠ .unusable

section GoesAstray

variable {α β : Type _}

theorem goesAstray_error_iff {e : TemplateError} :
    GoesAstray (.error e : Except TemplateError α) ↔ e ≠ .unusable := by
  constructor
  · rintro ⟨_, ⟨⟩, h⟩
    exact h
  · exact fun h => ⟨e, rfl, h⟩

theorem not_goesAstray_ok (a : α) : ¬ GoesAstray (.ok a) := by
  rintro ⟨e, h, -⟩
  cases h

theorem not_goesAstray_unusable : ¬ GoesAstray (.error .unusable : Except TemplateError α) :=
  fun h => goesAstray_error_iff.1 h rfl

theorem goesAstray_map_iff {x : Except TemplateError α} {f : α → β} :
    GoesAstray (x.map f) ↔ GoesAstray x := by
  cases x with
  | error e => exact goesAstray_error_iff.trans goesAstray_error_iff.symm
  | ok a => exact iff_of_false (not_goesAstray_ok _) (not_goesAstray_ok _)

end GoesAstray

/-! ### Names -/

/-- The ways from a text that lead astray: to an attribute that cannot be had, or to a character
under something that is no number, at once or from one of its characters. -/
inductive AstrayWay (host : Host) : List Char → List Char → Prop
  | reach {value rest : List Char} (h : GoesAstray (host.reach value ('.' :: rest))) :
      AstrayWay host value ('.' :: rest)
  | index {value index rest : List Char} (hindex : ']' ∉ index) (hne : index ≠ [])
      (hno : ¬ index.all isDigit) : AstrayWay host value ('[' :: (index ++ ']' :: rest))
  | character {value index rest : List Char} {c : Char} (hne : index ≠ [])
      (hdigits : index.all isDigit) (hc : value[digitsValue index]? = some c)
        (hrest : AstrayWay host [c] rest) :
      AstrayWay host value ('[' :: (index ++ ']' :: rest))

/-- Whether the name of a field leads astray, from the text of the variable that it begins with. -/
def AstrayName (host : Host) (bindings : Bindings) (name : List Char) : Prop :=
  ∃ first way value, name = first ++ way ∧ '.' ∉ first ∧ '[' ∉ first ∧ ¬ first.all isDigit ∧
    bindings.lookup (String.ofList first) = some value ∧ AstrayWay host value way

section Names

variable {host : Host}

/-- An index is read up to its bracket. -/
theorem index_append {index : List Char} (h : ']' ∉ index) (rest : List Char) :
    (index ++ ']' :: rest).takeWhile (· ≠ ']') = index ∧
    (index ++ ']' :: rest).dropWhile (· ≠ ']') = ']' :: rest := by
  refine takeWhile_dropWhile_append ?_ (by simp) rest
  intro c hc
  have hne : c ≠ ']' := by rintro rfl; exact h hc
  simpa using hne

/-- A text closes an index, or has no bracket that closes one. -/
theorem index_cases (cs : List Char) :
    ']' ∉ cs ∨ ∃ index rest, ']' ∉ index ∧ cs = index ++ ']' :: rest := by
  by_cases h : ']' ∈ cs
  · obtain ⟨index, rest, hcs, hindex⟩ := List.eq_append_cons_of_mem h
    exact .inr ⟨index, rest, hindex, hcs⟩
  · exact .inl h

theorem dropWhile_of_open {cs : List Char} (h : ']' ∉ cs) : cs.dropWhile (· ≠ ']') = [] :=
  List.dropWhile_eq_nil_iff.2 fun _ hc => decide_eq_true (by rintro rfl; exact h hc)

end Names

/-! ### Fields -/

/-- A text is converted in one way or another. -/
theorem not_goesAstray_convertText (cs : List Char) (c : Char) :
    ¬ GoesAstray (convertText cs c) := by
  unfold convertText
  split <;> exact not_goesAstray_ok _

/-- A text is laid out unless the layout has a width that there is no room for. -/
theorem goesAstray_layOutText_iff {room : Nat} {cs layout : List Char} :
    GoesAstray (layOutText room cs layout) ↔
      layout ≠ [] ∧ ∃ l, readLayout? layout = some l ∧ room < l.width := by
  unfold layOutText
  split
  · next h => exact iff_of_false (not_goesAstray_ok _) fun hl => hl.1 (List.isEmpty_iff.1 h)
  · next hne =>
    rw [and_iff_right (by simpa using hne)]
    split
    · next h => exact iff_of_false not_goesAstray_unusable (by simp [h])
    · next l h =>
      split
      · next hroom => exact iff_of_true (goesAstray_error_iff.2 (by simp)) ⟨l, h, hroom⟩
      · next hroom => exact iff_of_false (not_goesAstray_ok _) (by simpa [h] using hroom)

/-- Whether a field leads astray: by its name, by its conversion, by a field of its layout, or by
its layout when that has been rendered. -/
inductive AstrayField (host : Host) (bindings : Bindings)
    (inner : List Char → Except TemplateError (List Char)) (astrayLayout : List Char → Prop)
    (f : Field) : Prop
  | name (h : AstrayName host bindings f.name)
  | conversion {value : Showable} (hvalue : lookUp host bindings f.name = .ok value)
      (h : GoesAstray (value.converted host.room f.conversion))
  | layoutField {value shown : Showable} (hvalue : lookUp host bindings f.name = .ok value)
      (hshown : value.converted host.room f.conversion = .ok shown) (hfield : '{' ∈ f.layout)
      (h : astrayLayout f.layout)
  | layout {value shown : Showable} {layout : List Char}
      (hvalue : lookUp host bindings f.name = .ok value)
      (hshown : value.converted host.room f.conversion = .ok shown)
      (hlayout : (if '{' ∈ f.layout then inner f.layout else .ok f.layout) = .ok layout)
      (h : GoesAstray (shown.layOut layout))

section Field

variable {host : Host} {bindings : Bindings} {inner : List Char → Except TemplateError (List Char)}
  {astrayLayout : List Char → Prop}

end Field

/-! ### Texts -/

/-- A name is read up to the character that ends it, whatever stands behind. -/
theorem readName?_append {cs name rest : List Char} {c : Char}
    (h : readName? cs = some (name, c, rest)) :
    cs = name ++ c :: rest ∧ (c = '}' ∨ c = ':' ∨ c = '!') ∧
      ∀ other, readName? (name ++ c :: other) = some (name, c, other) := by
  fun_induction readName? cs generalizing name with
  | case1 => cases h
  | case2 => cases h
  | case3 cs ih =>
    obtain ⟨⟨n, d, r⟩, hr, he⟩ := Option.map_eq_some_iff.1 h
    cases he
    obtain ⟨hrest, hend, hother⟩ := ih hr
    rcases index_cases cs with hopen | ⟨index, behind, hindex, rfl⟩
    · -- a text that ends within an index has no name
      rw [dropWhile_of_open hopen] at hrest
      simp at hrest
    · obtain ⟨htake, hdrop⟩ := index_append hindex behind
      rw [htake]
      rw [hdrop] at hrest
      -- the name goes on behind the index, since that does not end it
      cases n with
      | nil =>
        cases hrest
        simp at hend
      | cons b n =>
        cases hrest
        refine ⟨by simp, hend, fun other => ?_⟩
        obtain ⟨htake', hdrop'⟩ := index_append hindex (n ++ c :: other)
        have hread := hother other
        rw [List.cons_append] at hread
        rw [List.cons_append, List.cons_append, List.append_assoc, List.cons_append, readName?,
          htake', hdrop', hread, Option.map_some]
        rfl
  | case4 d cs h1 h2 hd =>
    cases h
    rw [Bool.or_eq_true, Bool.or_eq_true, decide_eq_true_eq, decide_eq_true_eq,
      decide_eq_true_eq, or_assoc] at hd
    refine ⟨rfl, hd, fun other => ?_⟩
    rcases hd with rfl | rfl | rfl <;> simp [readName?]
  | case5 d cs h1 h2 hd ih =>
    obtain ⟨⟨n, e, r⟩, hr, he⟩ := Option.map_eq_some_iff.1 h
    cases he
    obtain ⟨rfl, hend, hother⟩ := ih hr
    refine ⟨rfl, hend, fun other => ?_⟩
    rw [List.cons_append, readName?, if_neg hd, hother, Option.map_some]
    · exact fun h => h1 h
    · exact fun h => h2 h

/-- A layout is read up to its brace, whatever stands behind. -/
theorem readLayoutText?_append {inner : Nat} {cs layout rest : List Char}
    (h : readLayoutText? inner cs = some (layout, rest)) :
    cs = layout ++ '}' :: rest ∧ ∀ other, readLayoutText? inner (layout ++ '}' :: other) =
      some (layout, other) := by
  induction cs generalizing inner layout with
  | nil => simp [readLayoutText?] at h
  | cons c cs ih =>
    rw [readLayoutText?_cons] at h
    split at h
    · next hend =>
      cases h
      cases eq_of_innerAfter? hend
      refine ⟨rfl, fun other => ?_⟩
      rw [List.nil_append, readLayoutText?_cons, hend]
    · next inner' hinner =>
      obtain ⟨⟨l, r⟩, hr, he⟩ := Option.map_eq_some_iff.1 h
      cases he
      obtain ⟨rfl, hother⟩ := ih hr
      refine ⟨rfl, fun other => ?_⟩
      rw [List.cons_append, readLayoutText?_cons, hinner]
      dsimp only
      rw [hother, Option.map_some]

/-- A field is read up to its brace, whatever stands behind, and its layout is a part of what is
read. -/
theorem readField?_append {cs rest : List Char} {f : Field} (h : readField? cs = some (f, rest)) :
    ∃ written, cs = written ++ rest ∧ f.layout <:+: written ∧
      ∀ other, readField? (written ++ other) = some (f, other) := by
  unfold readField? at h
  split at h
  · cases h
  · next name rest hn =>
    cases h
    obtain ⟨rfl, -, hother⟩ := readName?_append hn
    refine ⟨name ++ ['}'], by simp, List.nil_infix, fun other => ?_⟩
    rw [List.append_assoc, List.singleton_append, readField?, hother]
    simp
  · next name conversion rest hn =>
    cases h
    obtain ⟨rfl, -, hother⟩ := readName?_append hn
    refine ⟨name ++ ['!', conversion, '}'], by simp, List.nil_infix, fun other => ?_⟩
    rw [List.append_assoc, List.cons_append, readField?, hother]
    rfl
  · next name conversion rest hn =>
    obtain ⟨⟨layout, behind⟩, hr, he⟩ := Option.map_eq_some_iff.1 h
    cases he
    obtain ⟨rfl, -, hother⟩ := readName?_append hn
    obtain ⟨rfl, hother'⟩ := readLayoutText?_append hr
    refine ⟨name ++ '!' :: conversion :: ':' :: (layout ++ ['}']), by simp,
      ⟨name ++ ['!', conversion, ':'], ['}'], by simp⟩, fun other => ?_⟩
    have hread := hother (conversion :: ':' :: (layout ++ '}' :: other))
    simp only [List.append_assoc, List.cons_append, List.nil_append]
    rw [readField?, hread]
    show (readLayoutText? 0 (layout ++ '}' :: other)).map (fun p =>
      (Field.mk name (some conversion) p.1, p.2)) = _
    rw [hother', Option.map_some]
  · cases h
  · next name c rest hbrace _ _ hmark hn =>
    obtain ⟨⟨layout, behind⟩, hr, he⟩ := Option.map_eq_some_iff.1 h
    cases he
    obtain ⟨rfl, hend, hother⟩ := readName?_append hn
    obtain ⟨rfl, hother'⟩ := readLayoutText?_append hr
    refine ⟨name ++ c :: (layout ++ ['}']), by simp, ⟨name ++ [c], ['}'], by simp⟩, fun other => ?_⟩
    have hread := hother (layout ++ '}' :: other)
    simp only [List.append_assoc, List.cons_append, List.nil_append]
    rw [readField?, hread]
    rcases hend with rfl | rfl | rfl
    · exact (hbrace rfl).elim
    · show (readLayoutText? 0 (layout ++ '}' :: other)).map (fun p =>
        (Field.mk name none p.1, p.2)) = _
      rw [hother', Option.map_some]
    · exact (hmark rfl).elim

section Text

variable {host : Host} {bindings : Bindings} {inner : List Char → Except TemplateError (List Char)}

theorem map_map (x : Except TemplateError (List Char)) (f g : List Char → List Char) :
    (x.map f).map g = x.map fun text => g (f text) := by
  cases x <;> rfl

/-- Whether a text leads astray: by the first of its fields that cannot be rendered. -/
def AstrayWith (host : Host) (bindings : Bindings)
    (inner : List Char → Except TemplateError (List Char)) (astrayLayout : List Char → Prop)
    (cs : List Char) : Prop :=
  ∃ front rest f behind, cs = front ++ '{' :: rest ∧
    (∃ rendered, renderWith host bindings inner front = .ok rendered) ∧
    readField? rest = some (f, behind) ∧ AstrayField host bindings inner astrayLayout f

/-- The text of a layout. It has no layouts with fields. -/
def renderLayout (host : Host) (bindings : Bindings) :
    List Char → Except TemplateError (List Char) :=
  renderWith host bindings fun _ => .error .unusable

end Text

/-- Whether a template leads astray: by the first of its fields that cannot be rendered, or by the
first one in the layout of that. -/
def Astray (host : Host) (bindings : Bindings) : List Char → Prop :=
  AstrayWith host bindings (renderLayout host bindings)
    (AstrayWith host bindings (fun _ => .error .unusable) fun _ => False)

/-- Whether the fields of a text, wherever a brace opens one, have names without attributes and
indices. -/
def NamesOnly (cs : List Char) : Prop :=
  ∀ front rest f behind, cs = front ++ '{' :: rest → readField? rest = some (f, behind) →
    '.' ∉ f.name ∧ '[' ∉ f.name

theorem NamesOnly.of_infix {part cs : List Char} (h : NamesOnly cs) (hpart : part <:+: cs) :
    NamesOnly part := by
  obtain ⟨before, after, rfl⟩ := hpart
  rintro front rest f behind rfl hf
  obtain ⟨written, rfl, -, hother⟩ := readField?_append hf
  exact h (before ++ front) (written ++ (behind ++ after)) f (behind ++ after) (by simp) (hother _)

section NamesOnly

variable {host : Host} {bindings : Bindings}

theorem not_astrayName {name : List Char} (hdot : '.' ∉ name) (hbracket : '[' ∉ name) :
    ¬ AstrayName host bindings name := by
  rintro ⟨first, way, value, rfl, -, -, -, -, hway⟩
  cases hway <;> simp at hdot hbracket

/-- A name without attributes and indices leads to a text. -/
theorem exists_ofText_of_lookUp {name : List Char} (hdot : '.' ∉ name) (hbracket : '[' ∉ name)
    {value : Showable} (h : lookUp host bindings name = .ok value) :
    ∃ cs, value = .ofText host.room cs := by
  have hname : ∀ c ∈ name, (decide (c ≠ '.') && decide (c ≠ '[')) = true := by
    intro c hc
    have hc : c ≠ '.' ∧ c ≠ '[' := ⟨by rintro rfl; exact hdot hc, by rintro rfl; exact hbracket hc⟩
    simpa using hc
  unfold lookUp at h
  dsimp only at h
  rw [List.dropWhile_eq_nil_iff.2 hname] at h
  split at h
  · cases h
  · split at h
    · cases h
    · next cs _ =>
      cases h
      exact ⟨cs, rfl⟩

/-- A text is converted to a text, if it is. -/
theorem not_goesAstray_converted (room : Nat) (conversion : Option Char) (cs : List Char) :
    ¬ GoesAstray ((Showable.ofText room cs).converted room conversion) := by
  unfold Showable.converted
  split
  · exact not_goesAstray_ok _
  · split
    · rw [goesAstray_map_iff]
      exact not_goesAstray_convertText cs _
    · exact not_goesAstray_unusable

theorem exists_ofText_of_converted {room : Nat} {conversion : Option Char} {cs : List Char}
    {shown : Showable} (h : (Showable.ofText room cs).converted room conversion = .ok shown) :
    ∃ cs', shown = .ofText room cs' := by
  unfold Showable.converted at h
  split at h
  · cases h
    exact ⟨cs, rfl⟩
  · split at h
    · next c _ =>
      cases hconvert : (Showable.ofText room cs).convert c with
      | error e => rw [hconvert] at h; cases h
      | ok cs' =>
        rw [hconvert] at h
        cases h
        exact ⟨cs', rfl⟩
    · cases h

end NamesOnly

theorem width_readSizes? {l l' : Layout} {cs : List Char} (h : readSizes? l cs = some l') :
    l'.width ≤ maxSize := by
  unfold readSizes? at h
  split at h
  · cases h
  · next width hwidth =>
    -- a number is read as a size only if it is not too large; a precision changes no width
    have hle : width ≤ maxSize := by
      unfold size? at hwidth
      split at hwidth
      · next hle => cases hwidth; exact hle
      · cases hwidth
    dsimp only at h
    split at h
    · unfold readPrecision? at h
      dsimp only at h
      split at h
      · cases h
      · split at h
        · cases h
        · split at h
          · cases h; exact hle
          · cases h
    · split at h
      · cases h; exact hle
      · cases h

/-- No width is greater than the greatest that can be asked for. -/
theorem width_readLayout? {l : Layout} {cs : List Char} (h : readLayout? cs = some l) :
    l.width ≤ maxSize := by
  unfold readLayout? at h
  dsimp only at h
  split at h
  · cases h
  · split at h <;> exact width_readSizes? h

/-- Where there is room for every width that can be asked for, texts refuse no layout. -/
theorem not_goesAstray_layOutText {room : Nat} (hroom : maxSize ≤ room) (cs layout : List Char) :
    ¬ GoesAstray (layOutText room cs layout) := by
  rw [goesAstray_layOutText_iff]
  rintro ⟨-, l, hl, hwidth⟩
  exact absurd (Nat.le_trans (width_readLayout? hl) hroom) (Nat.not_le.2 hwidth)

theorem NamesOnly.not_astrayWith {host : Host} (hroom : maxSize ≤ host.room) {bindings : Bindings}
    {inner : List Char → Except TemplateError (List Char)} {astrayLayout : List Char → Prop}
    (hlayout : ∀ cs, NamesOnly cs → ¬ astrayLayout cs) {cs : List Char} (h : NamesOnly cs) :
    ¬ AstrayWith host bindings inner astrayLayout cs := by
  rintro ⟨front, rest, f, behind, rfl, -, hf, hastray⟩
  -- each way to go astray asks for a name with more in it, or for a width that is too large
  obtain ⟨hdot, hbracket⟩ := h front rest f behind rfl hf
  cases hastray with
  | name hname => exact not_astrayName hdot hbracket hname
  | conversion hvalue hastray =>
    obtain ⟨cs, rfl⟩ := exists_ofText_of_lookUp hdot hbracket hvalue
    exact not_goesAstray_converted _ _ _ hastray
  | layoutField hvalue hshown hfield hastray =>
    obtain ⟨written, rfl, hpart, -⟩ := readField?_append hf
    refine hlayout f.layout (h.of_infix (hpart.trans ?_)) hastray
    exact ⟨front ++ ['{'], behind, by simp⟩
  | layout hvalue hshown hrendered hastray =>
    obtain ⟨cs, rfl⟩ := exists_ofText_of_lookUp hdot hbracket hvalue
    obtain ⟨cs', rfl⟩ := exists_ofText_of_converted hshown
    exact not_goesAstray_layOutText hroom _ _ hastray

/-- A template whose fields only name variables does not lead astray, whatever their conversions and
layouts are, where there is room for every width. -/
theorem NamesOnly.not_astray {host : Host} (hroom : maxSize ≤ host.room) {cs : List Char}
    (h : NamesOnly cs) (bindings : Bindings) : ¬ Astray host bindings cs :=
  h.not_astrayWith hroom fun _ hlayout => hlayout.not_astrayWith hroom fun _ _ => id

end Template

/-! ### Questions -/

/-- Whether a text is the template in a file of a content. -/
def TemplateText (content : List UInt8) (cs : List Char) : Prop :=
  ∃ text : String, content = encode text ∧ cs = trim (plainBreaks text.toList)

theorem templateText_iff {content : List UInt8} {cs : List Char} :
    TemplateText content cs ↔ (fileText? content).map trim = some cs := by
  rw [Option.map_eq_some_iff]
  constructor
  · rintro ⟨text, rfl, rfl⟩
    exact ⟨_, fileText?_encode text, rfl⟩
  · rintro ⟨written, hread, rfl⟩
    obtain ⟨text, rfl, rfl⟩ := fileText?_eq_some_iff.1 hread
    exact ⟨text, rfl, rfl⟩

/-- A file has one template at most. -/
theorem TemplateText.unique {content : List UInt8} {cs cs' : List Char}
    (h : TemplateText content cs) (h' : TemplateText content cs') : cs = cs' :=
  Option.some.inj ((templateText_iff.1 h).symm.trans (templateText_iff.1 h'))

section Written

variable {host : Template.Host} {site : Site} {path : String} {content : List UInt8}

end Written

section Question

variable (host : Template.Host) (site : Site) (m : ModelSettings) (reading : Reading)
    (error source : String)
  (outline : Option Outline) (sourceName : String)

end Question

end P4Outline

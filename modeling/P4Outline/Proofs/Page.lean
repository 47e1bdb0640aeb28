import P4Outline.Report.Page

/-!
# The markup of a page

What a program is made of decides which parts a page has, its texts and numbers decide nothing but
the text between the tags. Two pages of programs of the same shape have the same markup: they are
put together of the same fixed texts, with escaped texts between them, at places that no tag goes
over.

* `Page.SameMarkup`: pages that are put together like that.
* `Page.SameMarkup.tags_eq`, `Page.SameMarkup.filter_isMarkup`: they have the same tags and the same
  markup characters.
* `Page.SameMarkup.startsEscape`: in such a page every ampersand starts an escape.
* `page_eq_ok_iff`: which program has a page, and what that is.
* `Page.sameMarkup_text`, `page_markup`: the pages of programs of one shape, whatever their texts
  are.
-/

namespace P4Outline

/-! ### Shapes -/

/-- How many keys and how many actions a table has. -/
def Table.shape (t : Table) : Nat × Nat := (t.keys.length, t.actions.length)

/-- The shapes of the tables of a control, and how many actions it has. -/
def Control.shape (c : Control) : List (Nat × Nat) × Nat :=
  (c.tables.values.map Table.shape, c.actions.length)

/-- The shapes of the controls of an outline. -/
def Outline.shape (o : Outline) : List (List (Nat × Nat) × Nat) :=
  o.controls.values.map Control.shape

/-- How many names of each kind that pages show a listing has. -/
def Listing.shape (l : Listing) : Nat × Nat × Nat :=
  (l.parsers.length, l.structs.length, l.headers.length)

namespace Page

/-! ### Tags -/

/-- The tags that end in a text, behind the beginning of a tag or outside all tags. A tag goes from
`<` to the next `>`. -/
def tagsFrom : Option (List Char) → List Char → List (List Char)
  | _, [] => []
  | none, c :: cs => tagsFrom (if c = '<' then some [c] else none) cs
  | some tag, c :: cs =>
    if c = '>' then (tag ++ [c]) :: tagsFrom none cs else tagsFrom (some (tag ++ [c])) cs

/-- The beginning of a tag that is left open behind a text, if one is. -/
def openTag? : Option (List Char) → List Char → Option (List Char)
  | tag?, [] => tag?
  | none, c :: cs => openTag? (if c = '<' then some [c] else none) cs
  | some tag, c :: cs => openTag? (if c = '>' then none else some (tag ++ [c])) cs

/-- The tags of a page, in order. -/
def tags (page : String) : List (List Char) := tagsFrom none page.toList

example : tags "<p class='empty'>a > b</p> <" = ["<p class='empty'>".toList, "</p>".toList] :=
  by decide

/-- The characters that make markup. -/
def isMarkup (c : Char) : Bool := c = '<' || c = '>' || c = '"' || c = '\''

/-- What markup characters and ampersands are written as. -/
def escapes : List (List Char) := ["&amp;", "&lt;", "&gt;", "&quot;", "&#x27;"].map String.toList

/-- Whether every ampersand of a text starts an escape. -/
def StartsEscape (cs : List Char) : Prop :=
  ∀ front rest, cs = front ++ '&' :: rest → ∃ e ∈ escapes, e <+: '&' :: rest

/-- Whether a text of markup leaves no tag open and has no ampersand. -/
def Fixed (cs : List Char) : Prop := openTag? none cs = none ∧ '&' ∉ cs

instance (cs : List Char) : Decidable (Fixed cs) :=
  inferInstanceAs (Decidable (openTag? none cs = none ∧ '&' ∉ cs))

/-- Whether two texts are put together of the same fixed texts, with escaped texts between them at
the same places. -/
inductive SameMarkup : String → String → Prop
  /-- A fixed text is in both. -/
  | fixed {cs : List Char} (h : Fixed cs := by decide) :
      SameMarkup (String.ofList cs) (String.ofList cs)
  /-- At a place where one has an escaped text, so has the other. -/
  | filled (a b : String) : SameMarkup (escape a) (escape b)
  | append {a a' b b' : String} (h : SameMarkup a a') (h' : SameMarkup b b') :
      SameMarkup (a ++ b) (a' ++ b')

theorem tagsFrom_append (tag? : Option (List Char)) (cs ds : List Char) :
    tagsFrom tag? (cs ++ ds) = tagsFrom tag? cs ++ tagsFrom (openTag? tag? cs) ds := by
  induction cs generalizing tag? with
  | nil => cases tag? <;> rfl
  | cons c cs ih =>
    cases tag? with
    | none => rw [List.cons_append, tagsFrom, tagsFrom, openTag?, ih]
    | some tag =>
      rw [List.cons_append, tagsFrom, tagsFrom, openTag?]
      split
      · rw [ih, List.cons_append]
      · rw [ih]

theorem openTag?_append (tag? : Option (List Char)) (cs ds : List Char) :
    openTag? tag? (cs ++ ds) = openTag? (openTag? tag? cs) ds := by
  induction cs generalizing tag? with
  | nil => rfl
  | cons c cs ih => cases tag? <;> exact ih _

/-- Where no tag opens, there is none. -/
theorem tagsFrom_of_notMem {cs : List Char} (h : '<' ∉ cs) :
    tagsFrom none cs = [] ∧ openTag? none cs = none := by
  induction cs with
  | nil => exact ⟨rfl, rfl⟩
  | cons c cs ih =>
    rw [List.mem_cons, not_or] at h
    rw [tagsFrom, openTag?, if_neg (Ne.symm h.1)]
    exact ih h.2

/-! ### Escaped texts -/

/-- A character is written as an escape, or it is written as it is and needs none. -/
theorem cases_escapeChar (c : Char) :
    escapeChar c ∈ escapes ∨ escapeChar c = [c] ∧ isMarkup c = false ∧ c ≠ '&' := by
  unfold escapeChar
  split
  · exact .inl (by decide)
  · exact .inl (by decide)
  · exact .inl (by decide)
  · exact .inl (by decide)
  · exact .inl (by decide)
  · next h1 h2 h3 h4 h5 =>
    refine .inr ⟨rfl, ?_, h1⟩
    simp only [isMarkup, Bool.or_eq_false_iff, decide_eq_false_iff_not]
    exact ⟨⟨⟨h2, h3⟩, h4⟩, h5⟩

theorem isMarkup_of_mem_escape {text : String} {c : Char} (h : c ∈ (escape text).toList) :
    isMarkup c = false := by
  rw [escape, String.toList_ofList] at h
  obtain ⟨d, -, hc⟩ := List.mem_flatMap.1 h
  have hescapes : ∀ e ∈ escapes, ∀ c ∈ e, isMarkup c = false := by decide
  rcases cases_escapeChar d with he | ⟨he, hd, -⟩
  · exact hescapes _ he c hc
  · rw [he, List.mem_singleton] at hc
    rwa [hc]

theorem notMem_escape {c : Char} (hc : isMarkup c = true) (text : String) :
    c ∉ (escape text).toList := by
  intro h
  rw [isMarkup_of_mem_escape h] at hc
  cases hc

theorem StartsEscape.append {cs ds : List Char} (h : StartsEscape cs) (h' : StartsEscape ds) :
    StartsEscape (cs ++ ds) := by
  intro front rest he
  rcases List.append_eq_append_iff.1 he with ⟨front', rfl, hds⟩ | ⟨behind, rfl, hrest⟩
  · exact h' front' rest hds
  · cases behind with
    | nil => exact h' [] rest (by simpa using hrest.symm)
    | cons c behind =>
      obtain ⟨rfl, rfl⟩ := List.cons.inj hrest
      obtain ⟨e, he, hprefix⟩ := h front behind rfl
      exact ⟨e, he, hprefix.trans (List.prefix_append _ _)⟩

theorem startsEscape_of_notMem {cs : List Char} (h : '&' ∉ cs) : StartsEscape cs := by
  rintro front rest rfl
  exact absurd (by simp) h

theorem startsEscape_of_mem_escapes {cs : List Char} (h : cs ∈ escapes) : StartsEscape cs := by
  have hescapes : ∀ e ∈ escapes, '&' ∉ e.tail := by decide
  intro front rest he
  cases front with
  | nil => exact ⟨cs, h, by rw [he]; exact List.prefix_rfl⟩
  | cons c front =>
    have htail := hescapes cs h
    rw [he] at htail
    exact absurd (by simp) htail

/-- Every ampersand of an escaped text starts an escape. -/
theorem startsEscape_escape (text : String) : StartsEscape (escape text).toList := by
  rw [escape, String.toList_ofList]
  induction text.toList with
  | nil => exact startsEscape_of_notMem (by simp)
  | cons c cs ih =>
    rw [List.flatMap_cons]
    refine StartsEscape.append ?_ ih
    rcases cases_escapeChar c with he | ⟨he, -, hc⟩
    · exact startsEscape_of_mem_escapes he
    · rw [he]
      exact startsEscape_of_notMem (by simpa using hc.symm)

/-! ### The same markup -/

section Same

variable {a b : String} (h : SameMarkup a b)

include h

theorem SameMarkup.symm : SameMarkup b a := by
  induction h with
  | fixed h => exact .fixed h
  | filled a b => exact .filled b a
  | append h h' ih ih' => exact .append ih ih'

/-- No tag is left open. -/
theorem SameMarkup.openTag?_eq_none : openTag? none a.toList = none := by
  induction h with
  | fixed h => rw [String.toList_ofList, h.1]
  | filled a b => exact (tagsFrom_of_notMem (notMem_escape (by decide) a)).2
  | append h h' ih ih' => rw [String.toList_append, openTag?_append, ih, ih']

/-- Two texts with the same markup have the same tags. -/
theorem SameMarkup.tags_eq : tags a = tags b := by
  have htags (text : String) : tags (escape text) = [] :=
    (tagsFrom_of_notMem (notMem_escape (by decide) text)).1
  have happend {a b : String} (h : openTag? none a.toList = none) :
      tags (a ++ b) = tags a ++ tags b := by
    rw [tags, String.toList_append, tagsFrom_append, h, tags, tags]
  induction h with
  | fixed h => rfl
  | filled a b => rw [htags, htags]
  | append h h' ih ih' => rw [happend h.openTag?_eq_none, happend h.symm.openTag?_eq_none, ih, ih']

/-- Two texts with the same markup have the same markup characters. -/
theorem SameMarkup.filter_isMarkup : a.toList.filter isMarkup = b.toList.filter isMarkup := by
  have hnone (text : String) : (escape text).toList.filter isMarkup = [] :=
    List.filter_eq_nil_iff.2 fun c hc => by simp [isMarkup_of_mem_escape hc]
  induction h with
  | fixed h => rfl
  | filled a b => rw [hnone, hnone]
  | append h h' ih ih' =>
    rw [String.toList_append, String.toList_append, List.filter_append, List.filter_append, ih, ih']

/-- Every ampersand of such a text starts an escape. -/
theorem SameMarkup.startsEscape : StartsEscape a.toList := by
  induction h with
  | fixed h => rw [String.toList_ofList]; exact startsEscape_of_notMem h.2
  | filled a b => exact startsEscape_escape a
  | append h h' ih ih' =>
    rw [String.toList_append]
    exact ih.append ih'

end Same

/-! ### The parts of a page -/

theorem sameMarkup_empty : SameMarkup "" "" := .fixed (by decide)

/-- Between two fixed texts. -/
theorem SameMarkup.between {cs ds : List Char} {a b : String} (h : SameMarkup a b) (hcs : Fixed cs)
    (hds : Fixed ds) :
    SameMarkup (String.ofList cs ++ a ++ String.ofList ds)
      (String.ofList cs ++ b ++ String.ofList ds) :=
  .append (.append (.fixed hcs) h) (.fixed hds)

/-- Lists of the same shape, part by part. -/
theorem sameMarkup_join {α β : Type _} {f : α → String} {g : α → β}
    (hf : ∀ x y, g x = g y → SameMarkup (f x) (f y)) {xs ys : List α} (h : xs.map g = ys.map g) :
    SameMarkup (String.join (xs.map f)) (String.join (ys.map f)) := by
  induction xs generalizing ys with
  | nil =>
    cases List.map_eq_nil_iff.1 h.symm
    exact sameMarkup_empty
  | cons x xs ih =>
    cases ys with
    | nil => cases h
    | cons y ys =>
      obtain ⟨hxy, hrest⟩ := List.cons.inj h
      rw [List.map_cons, List.map_cons, String.join_cons, String.join_cons]
      exact .append (hf x y hxy) (ih hrest)

theorem isEmpty_eq_of_length_eq {α : Type _} {xs ys : List α} (h : xs.length = ys.length) :
    xs.isEmpty = ys.isEmpty := by
  rw [Bool.eq_iff_iff, List.isEmpty_iff_length_eq_zero, List.isEmpty_iff_length_eq_zero, h]

theorem isEmpty_eq_of_values {α β : Type _} {shape : α → β} {m n : Keyed α}
    (h : m.values.map shape = n.values.map shape) : m.isEmpty = n.isEmpty := by
  refine isEmpty_eq_of_length_eq ?_
  simpa [Keyed.values] using congrArg List.length h

theorem sameMarkup_code (a b : String) : SameMarkup (code a) (code b) :=
  .between (.filled a b) (by decide) (by decide)

theorem sameMarkup_codeList {texts texts' : List String} (h : texts.length = texts'.length) :
    SameMarkup (codeList texts) (codeList texts') := by
  have hshape : texts.map (fun _ => ()) = texts'.map (fun _ => ()) := by
    rw [List.map_const', List.map_const', h]
  rw [codeList, codeList, isEmpty_eq_of_length_eq h]
  split
  · exact sameMarkup_empty
  · have hitem (a b : String) : SameMarkup ("<li>" ++ code a ++ "</li>")
        ("<li>" ++ code b ++ "</li>") :=
      .between (sameMarkup_code a b) (by decide) (by decide)
    exact .between (sameMarkup_join (fun a b _ => hitem a b) hshape) (by decide) (by decide)

set_option maxRecDepth 4000 in
theorem sameMarkup_top (name name' : String) : SameMarkup (top name) (top name') :=
  .between (.filled _ _) (by decide +kernel) (by decide +kernel)

/-- The parts for the records of two collections of the same shape, record by record. -/
theorem sameMarkup_entries {α β : Type _} {f : String → α → String} {shape : α → β}
    (hf : ∀ name name' x y, shape x = shape y → SameMarkup (f name x) (f name' y)) {m n : Keyed α}
    (h : m.values.map shape = n.values.map shape) :
    SameMarkup (String.join (m.entries.map fun (name, x) => f name x))
      (String.join (n.entries.map fun (name, x) => f name x)) := by
  refine sameMarkup_join (g := fun e => shape e.2) (fun e e' he => hf e.1 e'.1 e.2 e'.2 he) ?_
  simpa [Keyed.values, Function.comp_def] using h

theorem sameMarkup_tableRow (name name' : String) {t t' : Table} (h : t.shape = t'.shape) :
    SameMarkup (tableRow name t) (tableRow name' t') := by
  obtain ⟨hkeys, hactions⟩ := Prod.mk.inj h
  have hcell : SameMarkup "</td><td>" "</td><td>" := .fixed (by decide)
  have hname : SameMarkup ("<tr><td>" ++ code name) ("<tr><td>" ++ code name') :=
    .append (.fixed (by decide)) (sameMarkup_code _ _)
  exact hname
    |>.append hcell |>.append (sameMarkup_codeList hkeys)
    |>.append hcell |>.append (sameMarkup_codeList hactions)
    |>.append hcell |>.append (.filled _ _)
    |>.append hcell |>.append (.filled _ _)
    |>.append (.fixed (by decide))

theorem sameMarkup_noneFound {what : String} (h : SameMarkup what what) :
    SameMarkup (noneFound what) (noneFound what) := .between h (by decide) (by decide)

theorem sameMarkup_controlSection (name name' : String) {c c' : Control} (h : c.shape = c'.shape) :
    SameMarkup (controlSection name c) (controlSection name' c') := by
  obtain ⟨htables, hactions⟩ := Prod.mk.inj h
  refine .append (.append ?head ?tables) ?actions
  case head => exact .between (sameMarkup_code name name') (by decide) (by decide)
  case tables =>
    rw [isEmpty_eq_of_values htables]
    split
    · exact sameMarkup_empty
    · have hheading : SameMarkup tableHeading tableHeading :=
        .append (.fixed (by decide)) (.fixed (by decide))
      exact .append (hheading.append (sameMarkup_entries sameMarkup_tableRow htables))
        (.fixed (by decide))
  case actions =>
    rw [isEmpty_eq_of_length_eq hactions]
    split
    · exact sameMarkup_empty
    · exact .between (sameMarkup_codeList hactions) (by decide) (by decide)

theorem sameMarkup_listingSection {label what : String} (hlabel : SameMarkup label label)
    (hwhat : SameMarkup what what) {names names' : List String} (h : names.length = names'.length) :
    SameMarkup (listingSection label what names) (listingSection label what names') := by
  rw [listingSection, listingSection, isEmpty_eq_of_length_eq h]
  refine .append (.between hlabel (by decide) (by decide)) ?_
  split
  · exact sameMarkup_noneFound hwhat
  · exact .append (sameMarkup_codeList h) (.fixed (by decide))

theorem sameMarkup_listingSections {l l' : Listing} (h : l.shape = l'.shape) :
    SameMarkup (listingSections l) (listingSections l') := by
  obtain ⟨hparsers, hrest⟩ := Prod.mk.inj h
  obtain ⟨hstructs, hheaders⟩ := Prod.mk.inj hrest
  exact .append
    (.append (sameMarkup_listingSection (.fixed (by decide)) (.fixed (by decide)) hparsers)
      (sameMarkup_listingSection (.fixed (by decide)) (.fixed (by decide)) hstructs))
    (sameMarkup_listingSection (.fixed (by decide)) (.fixed (by decide)) hheaders)

theorem sameMarkup_text {o o' : Outline} {listing listing' : Option Listing}
    (ho : o.shape = o'.shape) (hl : listing.map Listing.shape = listing'.map Listing.shape)
    (name name' : String) :
    SameMarkup (text o listing name) (text o' listing' name') := by
  refine (sameMarkup_top name name').append (.fixed (by decide))
    |>.append (.filled _ _)
    |>.append (.fixed (by decide))
    |>.append (.fixed (by decide))
    |>.append ?remark
    |>.append ?controls
    |>.append ?sections
    |>.append (.fixed (by decide))
  -- the parts that are left are there or not, depending on the shape alone
  case remark =>
    have hempty : o.isEmpty = o'.isEmpty := isEmpty_eq_of_values ho
    rw [hempty]
    split
    · exact sameMarkup_noneFound (.fixed (by decide))
    · exact sameMarkup_empty
  case controls => exact sameMarkup_entries sameMarkup_controlSection ho
  case sections =>
    match listing, listing', hl with
    | none, none, _ => exact sameMarkup_empty
    | some l, some l', hl => exact sameMarkup_listingSections (Option.some.inj hl)

end Page

/-- A program has a page if its sizes can be written. -/
theorem page_eq_ok_iff {o : Outline} {listing : Option Listing} {name text : String} :
    page o listing name = .ok text ↔ o.isWritable = true ∧ Page.text o listing name = text := by
  unfold page
  split
  · next h => simp [h]
  · next h => simp [h]

/-- The markup of a page is decided by the shape of what it shows: pages of the same shape are put
together of the same fixed texts, with escaped texts in the same places, whatever the names, key
texts, actions, sizes and the source's name are. So they have the same tags and the same markup
characters, and every ampersand in them starts an escape. There is a page unless a size has too many
digits to be written. -/
theorem page_markup {o o' : Outline} {listing listing' : Option Listing} (ho : o.shape = o'.shape)
    (hl : listing.map Listing.shape = listing'.map Listing.shape) (name name' : String) :
    ((∃ text, page o listing name = .ok text) ↔ o.isWritable = true) ∧
    ∀ text text', page o listing name = .ok text → page o' listing' name' = .ok text' →
      Page.SameMarkup text text' ∧ Page.tags text = Page.tags text' ∧
        text.toList.filter Page.isMarkup = text'.toList.filter Page.isMarkup ∧
        Page.StartsEscape text.toList ∧ Page.StartsEscape text'.toList := by
  refine ⟨by simp [page_eq_ok_iff], fun text text' htext htext' => ?_⟩
  obtain ⟨-, rfl⟩ := page_eq_ok_iff.1 htext
  obtain ⟨-, rfl⟩ := page_eq_ok_iff.1 htext'
  have h : Page.SameMarkup (Page.text o listing name) (Page.text o' listing' name') :=
    Page.sameMarkup_text ho hl name name'
  exact ⟨h, h.tags_eq, h.filter_isMarkup, h.startsEscape, h.symm.startsEscape⟩

/-- A program whose texts all look like markup. -/
def hostileOutline : Outline where
  controls := .ofList [("</code><script>",
    { tables := .ofList [("\" onload='",
        { keys := ["a > b", "&lt;"], size := some (-1), defaultAction := some "</td>" })]
      actions := ["<p>", "&"] })]

/-- A program of the same shape whose texts are names. -/
def harmlessOutline : Outline where
  controls := .ofList [("Ingress",
    { tables := .ofList [("port", { keys := ["meta", "port"] })]
      actions := ["drop", "forward"] })]

theorem page_markup_hostile :
    hostileOutline.shape = harmlessOutline.shape ∧
    ∃ text text', page hostileOutline (some { structs := ["<style>"] }) "<title>" = .ok text ∧
      page harmlessOutline (some { structs := ["metadata"] }) "basic.p4" = .ok text' ∧
      Page.SameMarkup text text' ∧ Page.tags text = Page.tags text' ∧
      text.toList.filter Page.isMarkup = text'.toList.filter Page.isMarkup ∧
      Page.StartsEscape text.toList ∧ Page.StartsEscape text'.toList := by
  have hshape : hostileOutline.shape = harmlessOutline.shape := by decide
  have hlisting : (some { structs := ["<style>"] } : Option Listing).map Listing.shape =
      (some { structs := ["metadata"] } : Option Listing).map Listing.shape := rfl
  obtain ⟨hexists, hsame⟩ := page_markup hshape hlisting "<title>" "basic.p4"
  obtain ⟨text, htext⟩ := hexists.2 (by decide +kernel)
  obtain ⟨text', htext'⟩ :=
    (page_markup hshape.symm hlisting.symm "basic.p4" "<title>").1.2 (by decide +kernel)
  exact ⟨hshape, text, text', htext, htext', hsame text text' htext htext'⟩

end P4Outline

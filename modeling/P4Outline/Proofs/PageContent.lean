import P4Outline.Proofs.Page
import P4Outline.Proofs.ReadBack

/-!
# The content of a page

A page can be read back: the tags around an escaped text tell where it ends, and the escapes in it
tell what it was. Two pages are equal only if they show the same.

* `Outline.shown`, `Listing.shown`: what a page shows. Only a missing default action looks like an
  empty one.
* `readsBack_tableRow`, `readsBack_controlSection`, `readsBack_listingSections`: the parts of a page
  can be read back.
* `page_eq_iff`: pages are equal if and only if they show the same.
-/

namespace P4Outline

open P4Outline.Text

/-! ### What is shown -/

/-- What a page shows of a table: all of it, a missing default action like an empty one. -/
def Table.shown (t : Table) : Table := { t with defaultAction := some (t.defaultAction.getD "") }

/-- What a page shows of a control: its tables under their names, and its actions. -/
def Control.shown (c : Control) : List (String × Table) × List String :=
  (c.tables.entries.map fun (name, t) => (name, t.shown), c.actions)

/-- What a page shows of an outline: its controls under their names. -/
def Outline.shown (o : Outline) : List (String × List (String × Table) × List String) :=
  o.controls.entries.map fun (name, c) => (name, c.shown)

/-- What a page shows of a listing: its parsers, structs and headers. -/
def Listing.shown (l : Listing) : List String × List String × List String :=
  (l.parsers, l.structs, l.headers)

namespace Page

/-! ### Escaped texts -/

/-- Reads a character as it is written in a page. -/
def unescapeChar? : List Char → Option (Char × List Char)
  | '&' :: 'a' :: 'm' :: 'p' :: ';' :: rest => some ('&', rest)
  | '&' :: 'l' :: 't' :: ';' :: rest => some ('<', rest)
  | '&' :: 'g' :: 't' :: ';' :: rest => some ('>', rest)
  | '&' :: 'q' :: 'u' :: 'o' :: 't' :: ';' :: rest => some ('"', rest)
  | '&' :: '#' :: 'x' :: '2' :: '7' :: ';' :: rest => some ('\'', rest)
  | c :: rest => some (c, rest)
  | [] => none

theorem unescapeChar?_of_ne {c : Char} (h : c ≠ '&') (rest : List Char) :
    unescapeChar? (c :: rest) = some (c, rest) := by
  unfold unescapeChar?
  split <;> simp_all

theorem unescapeChar?_append (c : Char) (rest : List Char) :
    unescapeChar? (escapeChar c ++ rest) = some (c, rest) := by
  unfold escapeChar
  split
  · rfl
  · rfl
  · rfl
  · rfl
  · rfl
  · next h _ _ _ _ => exact unescapeChar?_of_ne h rest

/-- What an escaped text was can be read back up to the next tag. -/
theorem readsBack_escape :
    ReadsBack (fun text => (escape text).toList) id (fun _ => True) (['<'] <+: ·) := by
  have hchar : ReadsBack escapeChar id (fun _ => True) (fun _ => True) :=
    readsBack_of_read unescapeChar? fun c _ rest _ => unescapeChar?_append c rest
  have htag (c : Char) (rest : List Char) : ¬ ['<'] <+: escapeChar c ++ rest := by
    have hescapes : ∀ e ∈ escapes, ¬ ['<'] <+: e ∧ ¬ e <+: ['<'] := by decide
    rcases cases_escapeChar c with he | ⟨he, hc, -⟩
    · obtain ⟨h, h'⟩ := hescapes _ he
      exact not_prefix_append h h' rest
    · rw [he]
      intro hp
      obtain ⟨hc', -⟩ := List.cons_prefix_cons.1 hp
      rw [← hc'] at hc
      exact absurd hc (by decide)
  have hlist :=
    hchar.flatMap (['<'] <+: ·) (fun _ _ => trivial) (fun _ _ _ => trivial) (fun c _ => htag c)
  intro a b _ _ r s hr hs he
  simp only [escape, String.toList_ofList] at he
  obtain ⟨hab, hrs⟩ :=
    hlist a.toList b.toList (fun _ _ => trivial) (fun _ _ => trivial) r s hr hs he
  rw [List.map_id, List.map_id] at hab
  exact ⟨String.toList_inj.1 hab, hrs⟩

/-! ### The parts of a page -/

/-- A piece of code ends with its tag. -/
theorem readsBack_code :
    ReadsBack (fun text => (code text).toList) id (fun _ => True) (fun _ => True) := by
  intro a b _ _ r s _ _ h
  simp only [code, String.toList_append, List.append_assoc] at h
  have htag (rest : List Char) : ['<'] <+: "</code>".toList ++ rest :=
    List.prefix_append_of_prefix (by decide)
  obtain ⟨hab, h⟩ :=
    readsBack_escape a b trivial trivial _ _ (htag r) (htag s) (List.append_cancel_left h)
  exact ⟨hab, List.append_cancel_left h⟩

/-- An item of a list. -/
theorem readsBack_item :
    ReadsBack (fun text => ("<li>" ++ code text ++ "</li>").toList) id (fun _ => True)
    (fun _ => True) := by
  intro a b _ _ r s _ _ h
  simp only [String.toList_append, List.append_assoc] at h
  obtain ⟨hab, h⟩ :=
    readsBack_code a b trivial trivial _ _ trivial trivial (List.append_cancel_left h)
  exact ⟨hab, List.append_cancel_left h⟩

theorem toList_join_map {α : Type _} (f : α → String) (xs : List α) :
    (String.join (xs.map f)).toList = xs.flatMap fun x => (f x).toList := by
  rw [String.toList_join, List.flatMap_map]

theorem toList_unless (skip : Bool) (text : String) :
    (if skip = true then "" else text).toList = if skip = true then [] else text.toList := by
  cases skip <;> rfl

/-- A list of pieces of code ends with its tag, and a list without any leaves no trace. -/
theorem readsBack_codeList :
    ReadsBack (fun texts => (codeList texts).toList) id (fun _ => True)
      (¬ "<ul>".toList <+: ·) := by
  have hitems :=
    readsBack_item.flatMap ("</ul>".toList <+: ·) (fun _ _ => trivial) (fun _ _ _ => trivial) (by
    intro text _ rest
    rw [String.toList_append, String.toList_append, List.append_assoc, List.append_assoc]
    exact not_prefix_append (by decide) (by decide) _)
  have hlist := hitems.enclosed "<ul>".toList
  intro xs ys _ _ r s hr hs h
  simp only [codeList, toList_unless, String.toList_append, toList_join_map] at h hlist
  obtain ⟨hxs, hrs⟩ := hlist xs ys (fun _ _ => trivial) (fun _ _ => trivial) r s hr hs h
  rw [List.map_id, List.map_id] at hxs
  exact ⟨hxs, hrs⟩

/-- What a cell with the size of a table shows. -/
theorem size_inj {m n : Option Int} (h : (m.map numeral).getD "" = (n.map numeral).getD "") :
    m = n := by
  cases m with
  | none =>
    cases n with
    | none => rfl
    | some n => exact absurd h.symm (numeral_ne_empty n)
  | some m =>
    cases n with
    | none => exact absurd h (numeral_ne_empty m)
    | some n => exact congrArg some (numeral_inj h)

theorem readsBack_tableRow :
    ReadsBack (fun e : String × Table => (tableRow e.1 e.2).toList) (fun e => (e.1, e.2.shown))
      (fun _ => True) (fun _ => True) := by
  intro e e' _ _ r s _ _ h
  obtain ⟨name, t⟩ := e
  obtain ⟨name', t'⟩ := e'
  -- every cell ends where the next one begins
  have hcell (rest : List Char) : ['<'] <+: "</td><td>".toList ++ rest :=
    List.prefix_append_of_prefix (by decide)
  have hlist (rest : List Char) : ¬ "<ul>".toList <+: "</td><td>".toList ++ rest :=
    not_prefix_append (by decide) (by decide) _
  have hend (rest : List Char) : ['<'] <+: "</td></tr>\n".toList ++ rest :=
    List.prefix_append_of_prefix (by decide)
  unfold tableRow at h
  simp only [String.toList_append, List.append_assoc] at h
  obtain ⟨hname, h⟩ :=
    readsBack_code name name' trivial trivial _ _ trivial trivial (List.append_cancel_left h)
  obtain ⟨hkeys, h⟩ := readsBack_codeList t.keys t'.keys trivial trivial _ _ (hlist _) (hlist _)
    (List.append_cancel_left h)
  obtain ⟨hactions, h⟩ :=
    readsBack_codeList t.actions t'.actions trivial trivial _ _ (hlist _) (hlist _)
      (List.append_cancel_left h)
  obtain ⟨hsize, h⟩ :=
    readsBack_escape _ _ trivial trivial _ _ (hcell _) (hcell _) (List.append_cancel_left h)
  obtain ⟨hdefault, h⟩ :=
    readsBack_escape _ _ trivial trivial _ _ (hend _) (hend _) (List.append_cancel_left h)
  refine ⟨Prod.ext hname ?_, List.append_cancel_left h⟩
  show t.shown = t'.shown
  unfold Table.shown
  rw [show t.keys = t'.keys from hkeys, show t.actions = t'.actions from hactions, size_inj hsize]
  rw [show t.defaultAction.getD "" = t'.defaultAction.getD "" from hdefault]

/-- The table that shows the tables of a control; nothing for no tables. -/
def tablesPart (tables : Keyed Table) : String :=
  if tables.isEmpty then ""
  else
    tableHeading ++ String.join (tables.entries.map fun (name, t) => tableRow name t) ++
      "</table>\n"

/-- The list that shows the actions of a control; nothing for no actions. -/
def actionsPart (actions : List String) : String :=
  if actions.isEmpty then "" else "<p>Actions:</p>\n" ++ codeList actions ++ "\n"

theorem controlSection_eq (name : String) (c : Control) :
    controlSection name c =
      "<h3>Control: " ++ code name ++ "</h3>\n" ++ tablesPart c.tables ++
        actionsPart c.actions := by
  rfl

theorem readsBack_tablesPart :
    ReadsBack (fun tables => (tablesPart tables).toList)
      (fun tables => tables.entries.map fun (name, t) => (name, t.shown)) (fun _ => True)
        (¬ tableHeading.toList <+: ·) := by
  have hrows := readsBack_tableRow.flatMap ("</table>\n".toList <+: ·) (fun _ _ => trivial)
    (fun _ _ _ => trivial) (by
      intro e _ rest
      unfold tableRow
      simp only [String.toList_append, List.append_assoc]
      exact not_prefix_append (by decide) (by decide) _)
  intro m n _ _ r s hr hs h
  simp only [tablesPart, toList_unless, String.toList_append, toList_join_map] at h
  exact hrows.enclosed tableHeading.toList m.entries n.entries (fun _ _ => trivial)
    (fun _ _ => trivial) r s hr hs h

theorem readsBack_actionsPart :
    ReadsBack (fun actions => (actionsPart actions).toList) id (fun _ => True)
      (¬ "<p>Actions:</p>\n".toList <+: ·) := by
  have hlist := readsBack_codeList.mono ("\n".toList <+: ·) fun r hr =>
    not_prefix_of_apart hr (by decide) (by decide)
  simp only [actionsPart, toList_unless, String.toList_append]
  exact hlist.enclosed "<p>Actions:</p>\n".toList

/-- Behind a control comes another one, a kind of a listing, or the end of the page. -/
def BehindControl (rest : List Char) : Prop := "<h".toList <+: rest ∨ "</".toList <+: rest

theorem BehindControl.not_tag {tag rest : List Char} (h : BehindControl rest)
    (hh : ¬ tag <+: "<h".toList ∧ ¬ "<h".toList <+: tag)
    (he : ¬ tag <+: "</".toList ∧ ¬ "</".toList <+: tag) :
    ¬ tag <+: rest := by
  rcases h with h | h
  · exact not_prefix_of_apart h hh.1 hh.2
  · exact not_prefix_of_apart h he.1 he.2

/-- What stands behind the tables of a control is no table of them. -/
theorem BehindControl.not_tableHeading {rest : List Char} (h : BehindControl rest)
    (actions : List String) :
    ¬ tableHeading.toList <+: (actionsPart actions).toList ++ rest := by
  rw [actionsPart, toList_unless]
  split
  · exact h.not_tag (by decide) (by decide)
  · rw [String.toList_append, String.toList_append, List.append_assoc, List.append_assoc]
    exact not_prefix_append (by decide) (by decide) _

theorem readsBack_controlSection :
    ReadsBack (fun e : String × Control => (controlSection e.1 e.2).toList)
      (fun e => (e.1, e.2.shown)) (fun _ => True) BehindControl := by
  intro e e' _ _ r s hr hs h
  obtain ⟨name, c⟩ := e
  obtain ⟨name', c'⟩ := e'
  simp only [controlSection_eq, String.toList_append, List.append_assoc] at h
  obtain ⟨hname, h⟩ :=
    readsBack_code name name' trivial trivial _ _ trivial trivial (List.append_cancel_left h)
  obtain ⟨htables, h⟩ :=
    readsBack_tablesPart c.tables c'.tables trivial trivial _ _ (hr.not_tableHeading c.actions)
      (hs.not_tableHeading c'.actions) (List.append_cancel_left h)
  obtain ⟨hactions, h⟩ := readsBack_actionsPart c.actions c'.actions trivial trivial _ _
    (hr.not_tag (by decide) (by decide)) (hs.not_tag (by decide) (by decide)) h
  exact ⟨Prod.ext hname (Prod.ext htables hactions), h⟩

/-- Behind the controls of a page comes a kind of a listing, or the end of the page. -/
def BehindControls (rest : List Char) : Prop := "<h2>".toList <+: rest ∨ "</".toList <+: rest

theorem prefix_noneFound (what : String) (rest : List Char) :
    "<p".toList <+: (noneFound what).toList ++ rest := by
  unfold noneFound
  rw [String.toList_append, String.toList_append, List.append_assoc, List.append_assoc]
  exact List.prefix_append_of_prefix (by decide)

/-- The controls of a page, or a remark that there are none. -/
def controlsPart (controls : List (String × Control)) : String :=
  if controls.isEmpty then noneFound "controls"
  else String.join (controls.map fun (name, c) => controlSection name c)

theorem controlsPart_eq (o : Outline) :
    controlsPart o.controls.entries = (if o.isEmpty then noneFound "controls" else "")
      ++ String.join (o.controls.entries.map fun (name, c) => controlSection name c) := by
  rw [controlsPart, Outline.isEmpty, Keyed.isEmpty]
  cases o.controls.entries with
  | nil => exact String.append_empty.symm
  | cons e es => exact String.empty_append.symm

theorem prefix_controlSection (name : String) (c : Control) (rest : List Char) :
    "<h3>".toList <+: (controlSection name c).toList ++ rest := by
  rw [controlSection_eq]
  simp only [String.toList_append, List.append_assoc]
  exact List.prefix_append_of_prefix (by decide)

theorem readsBack_controlsPart :
    ReadsBack (fun controls => (controlsPart controls).toList)
      (List.map fun (name, c) => (name, c.shown)) (fun _ => True) BehindControls := by
  have hnext (rest : List Char) (h : BehindControls rest) : BehindControl rest :=
    h.imp (List.IsPrefix.trans (by decide)) id
  have hitem (e : String × Control) (rest : List Char) :
      BehindControl ((controlSection e.1 e.2).toList ++ rest) :=
    .inl (List.IsPrefix.trans (by decide) (prefix_controlSection e.1 e.2 rest))
  -- the headings of the kinds of a listing are of another level than those of controls
  have hend (e : String × Control) (rest : List Char) :
      ¬ BehindControls ((controlSection e.1 e.2).toList ++ rest) := by
    rintro (h | h)
    · exact not_prefix_of_apart (prefix_controlSection e.1 e.2 rest) (by decide) (by decide) h
    · exact not_prefix_of_apart (prefix_controlSection e.1 e.2 rest) (by decide) (by decide) h
  have hcontrols :=
    readsBack_controlSection.flatMap BehindControls hnext (fun e _ => hitem e) (fun e _ => hend e)
  have hlist := hcontrols.orRemark (noneFound "controls").toList (by
    intro es hes r s he
    cases es with
    | nil => cases hes
    | cons e es =>
      have hp := prefix_noneFound "controls" s
      rw [← he, List.flatMap_cons, List.append_assoc] at hp
      exact absurd hp
        (not_prefix_of_apart (prefix_controlSection e.1 e.2 _) (by decide) (by decide)))
  intro es es' _ _ r s hr hs h
  simp only [controlsPart, apply_ite String.toList, toList_join_map] at h
  exact hlist es es' (fun _ _ => trivial) (fun _ _ => trivial) r s hr hs h

/-- A kind of a listing: its names, or a remark that there are none. -/
theorem readsBack_listingSection (label what : String) :
    ReadsBack (fun names => (listingSection label what names).toList) id (fun _ => True)
      (fun _ => True) := by
  have hnext (r : List Char) : ¬ "<ul>".toList <+: "\n".toList ++ r :=
    not_prefix_append (by decide) (by decide) _
  have hnames : ReadsBack (fun names => (codeList names ++ "\n").toList) id (fun _ => True)
      (fun _ => True) := by
    intro xs ys _ _ r s _ _ h
    simp only [String.toList_append, List.append_assoc] at h
    obtain ⟨hxs, h⟩ := readsBack_codeList xs ys trivial trivial _ _ (hnext r) (hnext s) h
    exact ⟨hxs, List.append_cancel_left h⟩
  have hlist := hnames.orRemark (noneFound what).toList (by
    intro names hnames r s he
    have hp := prefix_noneFound what s
    simp only [← he, codeList, hnames, Bool.false_eq_true, if_false, String.toList_append,
      List.append_assoc] at hp
    exact absurd hp (not_prefix_append (by decide) (by decide) _))
  intro xs ys _ _ r s _ _ h
  simp only [listingSection, String.toList_append, List.append_assoc] at h
  have h := List.append_cancel_left (List.append_cancel_left (List.append_cancel_left h))
  simp only [apply_ite String.toList] at h
  exact hlist xs ys trivial trivial r s trivial trivial h

theorem readsBack_listingSections :
    ReadsBack (fun l => (listingSections l).toList) Listing.shown (fun _ => True)
      (fun _ => True) := by
  intro l l' _ _ r s _ _ h
  simp only [listingSections, String.toList_append, List.append_assoc] at h
  obtain ⟨hparsers, h⟩ :=
    readsBack_listingSection _ _ l.parsers l'.parsers trivial trivial _ _ trivial trivial h
  obtain ⟨hstructs, h⟩ :=
    readsBack_listingSection _ _ l.structs l'.structs trivial trivial _ _ trivial trivial h
  obtain ⟨hheaders, h⟩ :=
    readsBack_listingSection _ _ l.headers l'.headers trivial trivial _ _ trivial trivial h
  exact ⟨Prod.ext hparsers (Prod.ext hstructs hheaders), h⟩

/-- The kinds of a listing, if there is one. -/
def sectionsPart (listing : Option Listing) : String :=
  match listing with
  | none => ""
  | some l => listingSections l

theorem readsBack_sectionsPart :
    ReadsBack (fun listing => (sectionsPart listing).toList) (Option.map Listing.shown)
      (fun _ => True) ("</body>\n</html>\n".toList <+: ·) := by
  -- the sections of a listing begin with a heading, which the end of the page does not
  have hapart (l : Listing) (rest : List Char) :
      ¬ "</body>\n</html>\n".toList <+: (listingSections l).toList ++ rest := by
    simp only [listingSections, listingSection, String.toList_append, List.append_assoc]
    exact not_prefix_append (by decide) (by decide) _
  intro listing listing' _ _ r s hr hs h
  cases listing with
  | none =>
    cases listing' with
    | none => exact ⟨rfl, h⟩
    | some l' => exact absurd hr (by rw [show r = _ from h]; exact hapart l' s)
  | some l =>
    cases listing' with
    | none => exact absurd hs (by rw [show s = _ from h.symm]; exact hapart l r)
    | some l' =>
      obtain ⟨hl, h⟩ := readsBack_listingSections l l' trivial trivial r s trivial trivial h
      exact ⟨congrArg some hl, h⟩

/-- Behind the controls the page ends, or it goes on with the kinds of a listing. -/
theorem behindControls_sectionsPart (listing : Option Listing) :
    BehindControls ((sectionsPart listing).toList ++ "</body>\n</html>\n".toList) := by
  cases listing with
  | none => exact .inr ⟨"body>\n</html>\n".toList, rfl⟩
  | some l =>
    show BehindControls ((listingSections l).toList ++ _)
    simp only [listingSections, listingSection, String.toList_append, List.append_assoc]
    exact .inl (List.prefix_append _ _)

/-- The title names the source. -/
theorem title_inj {name name' : String} (h : title name = title name') : name = name' := by
  have hnamed (name : String) : "System Description" ≠ "System Description: " ++ name := by
    intro he
    have hlength : 18 = 20 + name.length :=
      (congrArg String.length he).trans (String.length_append _ _)
    omega
  unfold title at h
  cases hn : name.isEmpty with
  | true =>
    cases hn' : name'.isEmpty with
    | true => rw [String.isEmpty_iff.1 hn, String.isEmpty_iff.1 hn']
    | false =>
      rw [hn, hn', if_pos rfl, if_neg Bool.false_ne_true] at h
      exact absurd h (hnamed name')
  | false =>
    cases hn' : name'.isEmpty with
    | true =>
      rw [hn, hn', if_pos rfl, if_neg Bool.false_ne_true] at h
      exact absurd h.symm (hnamed name)
    | false =>
      rw [hn, hn', if_neg Bool.false_ne_true, if_neg Bool.false_ne_true] at h
      exact (String.append_right_inj _).1 h

theorem text_parts (o : Outline) (listing : Option Listing) (name : String) :
    text o listing name =
      top name ++ ("<h1>" ++ escape (title name) ++ "</h1>\n" ++ "<h2>Controls</h2>\n") ++
        controlsPart o.controls.entries ++ sectionsPart listing ++ "</body>\n</html>\n" := by
  rw [controlsPart_eq]
  unfold text
  simp only [String.append_assoc]
  cases listing <;> rfl

set_option maxRecDepth 4000 in
theorem top_parts :
    ∃ front back, ∀ name, top name = front ++ escape (title name) ++ String.ofList ('<' :: back) :=
  ⟨_, _, fun _ => rfl⟩

/-- The head of a page names the source. -/
theorem top_inj {name name' : String} {r s : List Char}
    (h : (top name).toList ++ r = (top name').toList ++ s) :
    name = name' := by
  obtain ⟨front, back, htop⟩ := top_parts
  have htag (rest : List Char) : ['<'] <+: '<' :: back ++ rest := ⟨back ++ rest, rfl⟩
  simp only [htop, String.toList_append, String.toList_ofList, List.append_assoc] at h
  obtain ⟨htitle, -⟩ :=
    readsBack_escape (title name) (title name') trivial trivial _ _ (htag r) (htag s)
      (List.append_cancel_left h)
  exact title_inj htitle

/-! ### Parts that show the same -/

theorem tableRow_congr {e e' : String × Table} (h : (e.1, e.2.shown) = (e'.1, e'.2.shown)) :
    tableRow e.1 e.2 = tableRow e'.1 e'.2 := by
  obtain ⟨hname, hshown⟩ := Prod.mk.inj h
  have hrow (name : String) (t : Table) : tableRow name t = tableRow name t.shown := rfl
  rw [hrow, hrow e'.1, hname, hshown]

theorem controlSection_congr {e e' : String × Control} (h : (e.1, e.2.shown) = (e'.1, e'.2.shown)) :
    controlSection e.1 e.2 = controlSection e'.1 e'.2 := by
  obtain ⟨hname, hshown⟩ := Prod.mk.inj h
  obtain ⟨htables, hactions⟩ := Prod.mk.inj hshown
  have hrows : e.2.tables.entries.map (fun (name, t) => tableRow name t) =
      e'.2.tables.entries.map fun (name, t) => tableRow name t :=
    map_eq_of_shown (fun _ _ _ _ => tableRow_congr) htables
  have hempty : e.2.tables.isEmpty = e'.2.tables.isEmpty := by
    show e.2.tables.entries.isEmpty = e'.2.tables.entries.isEmpty
    simpa only [List.isEmpty_map] using congrArg List.isEmpty htables
  rw [controlSection_eq, controlSection_eq, hname, hactions, tablesPart, tablesPart, hrows, hempty]

theorem controlsPart_congr {es es' : List (String × Control)}
    (h : (es.map fun (name, c) => (name, c.shown)) = es'.map fun (name, c) => (name, c.shown)) :
    controlsPart es = controlsPart es' := by
  have hsections : es.map (fun (name, c) => controlSection name c) =
      es'.map fun (name, c) => controlSection name c :=
    map_eq_of_shown (fun _ _ _ _ => controlSection_congr) h
  have hempty : es.isEmpty = es'.isEmpty := by
    simpa only [List.isEmpty_map] using congrArg List.isEmpty h
  rw [controlsPart, controlsPart, hsections, hempty]

theorem sectionsPart_congr {listing listing' : Option Listing}
    (h : listing.map Listing.shown = listing'.map Listing.shown) :
    sectionsPart listing = sectionsPart listing' := by
  match listing, listing', h with
  | none, none, _ => rfl
  | some l, some l', h =>
    obtain ⟨hparsers, hrest⟩ := Prod.mk.inj (Option.some.inj h)
    obtain ⟨hstructs, hheaders⟩ := Prod.mk.inj hrest
    show listingSections l = listingSections l'
    unfold listingSections
    rw [hparsers, hstructs, hheaders]

/-- Which sizes there are is shown. -/
theorem isWritable_eq_of_shown {o o' : Outline} (h : o.shown = o'.shown) :
    o.isWritable = o'.isWritable := by
  have hshown (o : Outline) : o.isWritable =
      o.shown.all fun (_, tables, _) => tables.all fun (_, t) => t.isWritable := by
    simp only [Outline.isWritable, Outline.shown, Control.shown, Keyed.values, List.all_map,
      Function.comp_def]
    rfl
  rw [hshown, hshown, h]

/-- The texts of two pages are equal if and only if they show the same. -/
theorem text_eq_iff {o o' : Outline} {listing listing' : Option Listing} {name name' : String} :
    text o listing name = text o' listing' name' ↔
      name = name' ∧ o.shown = o'.shown ∧
        listing.map Listing.shown = listing'.map Listing.shown := by
  rw [text_parts, text_parts]
  constructor
  · intro h
    have h := congrArg String.toList h
    simp only [String.toList_append, List.append_assoc] at h
    cases top_inj h
    simp only [List.append_cancel_left_eq] at h
    obtain ⟨ho, h⟩ := readsBack_controlsPart _ _ trivial trivial _ _
      (behindControls_sectionsPart listing) (behindControls_sectionsPart listing') h
    obtain ⟨hl, -⟩ := readsBack_sectionsPart listing listing' trivial trivial _ _
      List.prefix_rfl List.prefix_rfl h
    exact ⟨rfl, ho, hl⟩
  · rintro ⟨rfl, ho, hl⟩
    rw [controlsPart_congr ho, sectionsPart_congr hl]

end Page

/-- A page loses nothing of what it is made for, but the difference between no default action and an
empty one: two programs have a page in common if and only if all sizes of the one can be written,
their sources have the same name, they have the same controls with the same tables and actions in
the same order, and both have no listing or listings of the same parsers, structs and headers. -/
theorem page_eq_iff {o o' : Outline} {listing listing' : Option Listing} {name name' : String} :
    (∃ text, page o listing name = .ok text ∧ page o' listing' name' = .ok text) ↔
      o.isWritable = true ∧
        name = name' ∧ o.shown = o'.shown ∧
          listing.map Listing.shown = listing'.map Listing.shown := by
  rw [← Page.text_eq_iff]
  constructor
  · rintro ⟨text, h, h'⟩
    obtain ⟨hwritable, rfl⟩ := page_eq_ok_iff.1 h
    exact ⟨hwritable, (page_eq_ok_iff.1 h').2.symm⟩
  · rintro ⟨hwritable, htext⟩
    have hwritable' : o'.isWritable = true := by
      rw [← Page.isWritable_eq_of_shown (Page.text_eq_iff.1 htext).2.1, hwritable]
    exact ⟨_, page_eq_ok_iff.2 ⟨hwritable, rfl⟩, page_eq_ok_iff.2 ⟨hwritable', htext.symm⟩⟩

end P4Outline

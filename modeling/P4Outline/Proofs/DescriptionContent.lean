import P4Outline.Proofs.ReadBack
import P4Outline.Proofs.Tidy

/-!
# The content of a description

The description of an outline that was read from a source can be read back line by line: every line
begins in a way that tells what it is about, and what stands behind that is a word, a number, a list
of words or the texts of the keys. Only where one key ends and the next begins is lost.

* `Outline.described`: what a description tells.
* `readsBack_detail`, `readsBack_details`: lines that some tables have and others have not.
* `readsBack_tableLines`, `readsBack_controlLines`: the parts of a description can be read back.
* `description_eq_iff`: descriptions are equal if and only if they tell the same.
-/

namespace P4Outline

open P4Outline.Text

/-! ### What is described -/

/-- What a description tells of a table: the texts of its keys in one, its actions, its size and its
default action. -/
def Table.described (t : Table) : String × List String × Option Int × Option String :=
  (commaList t.keys, t.actions, t.size, t.defaultAction)

/-- What a description tells of a control: its tables under their names, and its actions. -/
def Control.described (c : Control) :
    List (String × String × List String × Option Int × Option String) × List String :=
  (c.tables.entries.map fun (name, t) => (name, t.described), c.actions)

/-- What a description tells of an outline: its controls under their names. -/
def Outline.described (o : Outline) :
    List
      (String × List (String × String × List String × Option Int × Option String) × List String) :=
  o.controls.entries.map fun (name, c) => (name, c.described)

namespace Description

/-! ### Lists of names -/

theorem toList_commaList_cons (text : String) (texts : List String) :
    (commaList (text :: texts)).toList = text.toList ++ texts.flatMap fun text => ", ".toList ++
      text.toList := by
  unfold commaList
  rw [String.toList_intercalate]
  induction texts generalizing text with
  | nil => rfl
  | cons next texts ih =>
    rw [List.map_cons, List.map_cons, List.intercalate_cons_cons, ← List.map_cons, ih,
      List.flatMap_cons]
    simp only [List.append_assoc]

theorem commaList_eq_empty_iff {texts : List String} (h : ∀ text ∈ texts, text ≠ "") :
    commaList texts = "" ↔ texts = [] := by
  constructor
  · intro he
    cases texts with
    | nil => rfl
    | cons text texts =>
      have hnil := congrArg String.toList he
      rw [toList_commaList_cons, String.toList_empty] at hnil
      have htext : text = "" := String.toList_eq_nil_iff.1 (List.append_eq_nil_iff.1 hnil).1
      exact absurd htext (h text List.mem_cons_self)
  · rintro rfl
    rfl

/-- A name ends where no character of a word follows. -/
theorem readsBack_name : ReadsBack String.toList id IsName WordStop := by
  apply readsBack_of_read fun cs => some (String.ofList (word cs), afterWord cs)
  intro name hname rest hrest
  rw [word_append hname.2 hrest, afterWord_append hname.2 hrest, String.ofList_toList]
  rfl

/-- A list of names is told by its text. -/
theorem commaList_inj {names names' : List String} (h : ∀ name ∈ names, IsName name)
    (h' : ∀ name ∈ names', IsName name) (he : commaList names = commaList names') :
    names = names' := by
  -- a name ends where the comma behind it begins, or with the list
  have hitem : ReadsBack (fun name => ", ".toList ++ name.toList) id IsName WordStop := by
    intro a b ha hb r s hr hs he
    simp only [List.append_assoc] at he
    exact readsBack_name a b ha hb r s hr hs (List.append_cancel_left he)
  have hcomma (name : String) (_ : IsName name) (rest : List Char) :
      WordStop ((", ".toList ++ name.toList) ++ rest) :=
    wordStop_cons (by decide) _
  have hend : ∀ r : List Char, r = [] → WordStop r := by
    rintro _ rfl _ hc
    cases hc
  have hitems := hitem.flatMap (· = []) hend hcomma (fun _ _ _ => by simp)
  cases names with
  | nil => exact ((commaList_eq_empty_iff fun name hn => (h' name hn).1).1 he.symm).symm
  | cons name names =>
    cases names' with
    | nil => exact (commaList_eq_empty_iff fun name hn => (h name hn).1).1 he
    | cons name' names' =>
      obtain ⟨hname, hnames⟩ := List.forall_mem_cons.1 h
      obtain ⟨hname', hnames'⟩ := List.forall_mem_cons.1 h'
      have hnext {names : List String} (h : ∀ name ∈ names, IsName name) :
          WordStop (names.flatMap fun name => ", ".toList ++ name.toList) := by
        have hstop := nextItem_flatMap hend hcomma h rfl
        rwa [List.append_nil] at hstop
      have he := congrArg String.toList he
      rw [toList_commaList_cons, toList_commaList_cons] at he
      obtain ⟨hfirst, he⟩ :=
        readsBack_name name name' hname hname' _ _ (hnext hnames) (hnext hnames') he
      obtain ⟨hrest, -⟩ :=
        hitems names names' hnames hnames' [] [] rfl rfl (by rwa [List.append_nil, List.append_nil])
      rw [List.map_id, List.map_id] at hrest
      rw [show name = name' from hfirst, hrest]

/-! ### Lines and how they begin -/

/-- Whether the line at the front, if there is one, begins in another way than with a text. -/
def NotAhead (text : String) (lines : List String) : Prop :=
  ∀ line ∈ lines.head?, ¬ text.toList <+: line.toList

theorem notAhead_nil (text : String) : NotAhead text [] := by
  intro line h
  cases h

@[simp] theorem notAhead_cons {text line : String} {lines : List String} :
    NotAhead text (line :: lines) ↔ ¬ text.toList <+: line.toList := by
  simp [NotAhead]

theorem NotAhead.mono {text more : String} {lines : List String} (h : NotAhead text lines)
    (hp : text.toList <+: more.toList) : NotAhead more lines :=
  fun line hl hm => h line hl (hp.trans hm)

theorem NotAhead.not_next {text line : String} {lines : List String} (h : NotAhead text lines)
    (hp : text.toList <+: line.toList) : ¬ [line] <+: lines := by
  rintro ⟨rest, rfl⟩
  exact notAhead_cons.1 h hp

theorem prefix_label {text label : String} (h : text.toList <+: label.toList) (rest : String) :
    text.toList <+: (label ++ rest).toList := by
  rw [String.toList_append]
  exact h.trans (List.prefix_append _ _)

theorem not_prefix_label {text label : String} (h : ¬ text.toList <+: label.toList)
    (h' : ¬ label.toList <+: text.toList) (rest : String) :
    ¬ text.toList <+: (label ++ rest).toList := by
  rw [String.toList_append]
  exact not_prefix_append h h' rest.toList

theorem append_left_inj {label a b : String} (h : label ++ a = label ++ b) : a = b := by
  have h := congrArg String.toList h
  rw [String.toList_append, String.toList_append] at h
  exact String.toList_inj.1 (List.append_cancel_left h)

/-! ### Tables -/

/-- A line about something that a table may have. -/
def detail (label : String) : Option String → List String
  | none => []
  | some text => [label ++ text]

/-- The texts in order, if there are any. -/
def listed? (texts : List String) : Option String :=
  if texts.isEmpty then none else some (commaList texts)

/-- Lines about several things that a table may have. -/
def details (ds : List (String × Option String)) : List String :=
  ds.flatMap fun (label, text?) => detail label text?

/-- What is told of a table below its name. -/
def tableDetails (t : Table) : List (String × Option String) :=
  [("      key: ", listed? t.keys), ("      actions: ", listed? t.actions),
    ("      size: ", t.size.map numeral),
    ("      default_action: ", t.defaultAction.filter (!·.isEmpty))]

theorem tableLines_eq (name : String) (t : Table) :
    tableLines name t = ("    ▪ " ++ name) :: details (tableDetails t) := by
  have hlist (label : String) (texts : List String) :
      (if texts.isEmpty then [] else [label ++ commaList texts]) =
        detail label (listed? texts) := by
    unfold listed?
    split <;> rfl
  have hdefault (action : String) :
    (if action.isEmpty then [] else ["      default_action: " ++ action]) =
      detail "      default_action: " ((some action).filter (!·.isEmpty)) := by
    rw [Option.filter_some]
    cases action.isEmpty <;> rfl
  obtain ⟨keys, actions, size, defaultAction⟩ := t
  unfold tableLines
  dsimp only
  rw [hlist, hlist]
  simp only [details, tableDetails, List.flatMap_cons, List.flatMap_nil, List.append_nil,
    List.append_assoc, List.cons_append, List.nil_append]
  congr 4
  · cases size <;> rfl
  · cases defaultAction with
    | none => rfl
    | some action => exact hdefault action

/-- Whether neither of two texts begins the other. -/
def LabelsApart (label label' : String) : Prop :=
  ¬ label.toList <+: label'.toList ∧ ¬ label'.toList <+: label.toList

instance (label label' : String) : Decidable (LabelsApart label label') :=
  inferInstanceAs (Decidable (¬ label.toList <+: label'.toList ∧ ¬ label'.toList <+: label.toList))

theorem notAhead_details {text : String} {ds : List (String × Option String)}
    (h : ∀ label ∈ ds.map Prod.fst, LabelsApart text label) {lines : List String}
    (hl : NotAhead text lines) :
    NotAhead text (details ds ++ lines) := by
  induction ds with
  | nil => exact hl
  | cons d ds ih =>
    obtain ⟨label, text?⟩ := d
    obtain ⟨⟨hlabel, hlabel'⟩, hds⟩ := List.forall_mem_cons.1 h
    rw [details, List.flatMap_cons, List.append_assoc]
    cases text? with
    | none => exact ih hds
    | some rest => exact notAhead_cons.2 (not_prefix_label hlabel hlabel' rest)

/-- A line that is there or not can be read back, if no line behind it begins like it. -/
theorem readsBack_detail (label : String) :
    ReadsBack (detail label) id (fun _ => True) (NotAhead label) := by
  intro a b _ _ r s hr hs he
  cases a with
  | none =>
    cases b with
    | none => exact ⟨rfl, he⟩
    | some text =>
      -- a line of one text only would stand ahead of what is behind the other
      rw [show r = (label ++ text) :: s from he] at hr
      exact absurd (prefix_label List.prefix_rfl text) (notAhead_cons.1 hr)
  | some text =>
    cases b with
    | none =>
      rw [show s = (label ++ text) :: r from he.symm] at hs
      exact absurd (prefix_label List.prefix_rfl text) (notAhead_cons.1 hs)
    | some text' =>
      obtain ⟨hline, hrest⟩ := List.cons.inj he
      exact ⟨congrArg some (append_left_inj hline), hrest⟩

/-- Lines under known labels can be read back one after the other, if no label begins like another
one, and no line behind them begins like any of them. -/
theorem readsBack_details {labels : List String} (hlabels : labels.Pairwise LabelsApart) :
    ReadsBack details id (fun ds => ds.map Prod.fst = labels)
      (fun r => ∀ label ∈ labels, NotAhead label r) := by
  intro ds ds' hds hds' r s hr hs he
  induction labels generalizing ds ds' with
  | nil =>
    cases List.map_eq_nil_iff.1 hds
    cases List.map_eq_nil_iff.1 hds'
    exact ⟨rfl, he⟩
  | cons label labels ih =>
    obtain ⟨⟨_, text?⟩, rest, rfl, rfl, hrest⟩ := List.map_eq_cons_iff.1 hds
    obtain ⟨⟨_, text?'⟩, rest', rfl, hlabel, hrest'⟩ := List.map_eq_cons_iff.1 hds'
    cases hlabel
    obtain ⟨hfirst, hlabels⟩ := List.pairwise_cons.1 hlabels
    obtain ⟨hr, hrs⟩ := List.forall_mem_cons.1 hr
    obtain ⟨hs, hss⟩ := List.forall_mem_cons.1 hs
    simp only [details, List.flatMap_cons, List.append_assoc] at he
    obtain ⟨htext, he⟩ := readsBack_detail _ text? text?' trivial trivial _ _
      (notAhead_details (by rwa [hrest]) hr) (notAhead_details (by rwa [hrest']) hs) he
    obtain ⟨hds, hlines⟩ := ih hlabels rest rest' hrest hrest' hrs hss he
    exact ⟨by rw [show text? = text?' from htext, show rest = rest' from hds], hlines⟩

theorem commaList_eq_of_listed? {texts texts' : List String} (h : listed? texts = listed? texts') :
    commaList texts = commaList texts' := by
  unfold listed? at h
  split at h
  · next hempty =>
    split at h
    · next hempty' => rw [List.isEmpty_iff.1 hempty, List.isEmpty_iff.1 hempty']
    · cases h
  · split at h
    · cases h
    · exact Option.some.inj h

theorem filter_defaultAction {t : Table} (h : t.Tidy) :
    t.defaultAction.filter (!·.isEmpty) = t.defaultAction := by
  cases hd : t.defaultAction with
  | none => rfl
  | some action =>
    have hne : action ≠ "" := (h.defaultAction action hd).1
    simp [Option.filter, hne]

/-- The lines about a table end where no line with the indentation of its details follows. -/
theorem readsBack_tableLines :
    ReadsBack (fun e : String × Table => tableLines e.1 e.2) (fun e => (e.1, e.2.described))
      (fun e => e.2.Tidy) (NotAhead "      ") := by
  intro e e' ht ht' r s hr hs he
  obtain ⟨name, t⟩ := e
  obtain ⟨name', t'⟩ := e'
  simp only [tableLines_eq, List.cons_append] at he
  obtain ⟨hname, he⟩ := List.cons.inj he
  -- what stands behind a table is indented less than its details
  have hbehind {lines : List String} (h : NotAhead "      " lines) :
      ∀ label ∈ (tableDetails t).map Prod.fst, NotAhead label lines := by
    have hlabels : ∀ label ∈ (tableDetails t).map Prod.fst, "      ".toList <+: label.toList := by
      simp only [tableDetails, List.map_cons, List.map_nil]
      decide
    exact fun label hl => h.mono (hlabels label hl)
  have hapart : ((tableDetails t).map Prod.fst).Pairwise LabelsApart := by
    simp only [tableDetails, List.map_cons, List.map_nil]
    decide
  obtain ⟨hdetails, he⟩ :=
    readsBack_details hapart (tableDetails t) (tableDetails t') rfl rfl r s
      (hbehind hr) (hbehind hs) he
  simp only [tableDetails, id_eq, List.cons.injEq, Prod.mk.injEq, true_and, and_true] at hdetails
  obtain ⟨hk, ha, hn, hd⟩ := hdetails
  have hactions : t.actions = t'.actions :=
    commaList_inj ht.actions ht'.actions (commaList_eq_of_listed? ha)
  have hsize : t.size = t'.size := Option.map_injective (fun _ _ => numeral_inj) hn
  -- a default action that is written is not empty, so that its line is left out for none only
  have hdefault : t.defaultAction = t'.defaultAction := by
    rw [← filter_defaultAction ht, ← filter_defaultAction ht']
    exact hd
  refine ⟨Prod.ext (append_left_inj hname) ?_, he⟩
  show t.described = t'.described
  unfold Table.described
  rw [commaList_eq_of_listed? hk, hactions, hsize, hdefault]

/-! ### Controls -/

/-- The lines about the tables of a control. -/
def tablesLines (tables : Keyed Table) : List String :=
  if tables.isEmpty then [] else "  ◦ Tables:" :: tables.entries.flatMap fun (name, t) =>
    tableLines name t

/-- The lines about the actions of a control. -/
def actionsLines (actions : List String) : List String :=
  if actions.isEmpty then [] else "  ◦ Actions:" :: actions.map ("    ▪ " ++ ·)

theorem controlLines_eq (name : String) (c : Control) :
    controlLines name c =
      ("• Control: " ++ name) :: (tablesLines c.tables ++ actionsLines c.actions) := by
  rfl

theorem not_prefix_of_ne {line line' : String} (h : line ≠ line') (lines : List String) :
    ¬ [line] <+: line' :: lines := by
  intro hp
  exact h (List.cons_prefix_cons.1 hp).1

/-- The actions of a control end where no line with their indentation follows. -/
theorem readsBack_actionsLines :
    ReadsBack actionsLines id (fun _ => True) (fun r => NotAhead "    " r ∧
      ¬ ["  ◦ Actions:"] <+: r) := by
  have hitem : ReadsBack (fun action => ["    ▪ " ++ action]) id (fun _ => True)
      (fun _ => True) := by
    intro a b _ _ r s _ _ he
    obtain ⟨hline, hrest⟩ := List.cons.inj he
    exact ⟨append_left_inj hline, hrest⟩
  have hitems := hitem.flatMap (NotAhead "    ") (fun _ _ => trivial) (fun _ _ _ => trivial) (by
    intro action _ rest h
    exact notAhead_cons.1 h (prefix_label (by decide) action))
  intro as as' _ _ r s hr hs he
  have hlines (actions : List String) : actionsLines actions =
      if actions.isEmpty = true then [] else ["  ◦ Actions:"] ++
          actions.flatMap fun action => ["    ▪ " ++ action] := by
    rw [← List.map_eq_flatMap]
    rfl
  rw [hlines, hlines] at he
  obtain ⟨has, hrs⟩ :=
    hitems.headed ["  ◦ Actions:"] as as' (fun _ _ => trivial) (fun _ _ => trivial) r s hr hs he
  rw [List.map_id, List.map_id] at has
  exact ⟨has, hrs⟩

/-- The tables of a control end where no line with their indentation follows. -/
theorem readsBack_tablesLines :
    ReadsBack tablesLines (fun tables => tables.entries.map fun (name, t) => (name, t.described))
      (fun tables => ∀ e ∈ tables.entries, e.2.Tidy) (fun r => NotAhead "    " r ∧
        ¬ ["  ◦ Tables:"] <+: r) := by
  have hrows := readsBack_tableLines.flatMap (NotAhead "    ") (fun _ h => h.mono (by decide))
    (by
      intro e _ rest
      rw [tableLines_eq]
      exact notAhead_cons.2 (not_prefix_label (by decide) (by decide) e.1))
    (by
      intro e _ rest h
      rw [tableLines_eq] at h
      exact notAhead_cons.1 h (prefix_label (by decide) e.1))
  intro ts ts' ht ht' r s hr hs he
  exact hrows.headed ["  ◦ Tables:"] ts.entries ts'.entries ht ht' r s hr hs he

/-- The lines about a control end where no line with an indentation follows. -/
theorem readsBack_controlLines :
    ReadsBack (fun e : String × Control => controlLines e.1 e.2) (fun e => (e.1, e.2.described))
      (fun e => e.2.Tidy) (NotAhead " ") := by
  intro e e' hc hc' r s hr hs he
  obtain ⟨name, c⟩ := e
  obtain ⟨name', c'⟩ := e'
  simp only [controlLines_eq, List.cons_append, List.append_assoc] at he
  obtain ⟨hname, he⟩ := List.cons.inj he
  have hbehind {lines : List String} (h : NotAhead " " lines) :
      NotAhead "    " lines ∧ ¬ ["  ◦ Actions:"] <+: lines :=
    ⟨h.mono (by decide), h.not_next (by decide)⟩
  have hactions {lines : List String} (h : NotAhead " " lines) (actions : List String) :
      NotAhead "    " (actionsLines actions ++ lines) ∧
      ¬ ["  ◦ Tables:"] <+: actionsLines actions ++ lines := by
    unfold actionsLines
    split
    · exact ⟨h.mono (by decide), h.not_next (by decide)⟩
    · exact ⟨notAhead_cons.2 (by decide), not_prefix_of_ne (by decide) _⟩
  obtain ⟨htables, he⟩ := readsBack_tablesLines c.tables c'.tables (fun e he => (hc.tables e he).2)
    (fun e he => (hc'.tables e he).2) _ _ (hactions hr c.actions) (hactions hs c'.actions) he
  obtain ⟨hlist, he⟩ :=
    readsBack_actionsLines c.actions c'.actions trivial trivial _ _ (hbehind hr) (hbehind hs) he
  refine ⟨Prod.ext (append_left_inj hname) ?_, he⟩
  show c.described = c'.described
  exact Prod.ext htables hlist

/-- The lines of a description tell the controls, if no listing goes with them. -/
theorem described_eq_of_lines {o o' : Outline} (ho : o.Tidy) (ho' : o'.Tidy)
    (h : lines o none = lines o' none) :
    o.described = o'.described := by
  have hcontrols :=
    readsBack_controlLines.flatMap (· = []) (by rintro _ rfl; exact notAhead_nil " ") (by
      intro e _ rest
      rw [controlLines_eq]
      exact notAhead_cons.2 (not_prefix_label (by decide) (by decide) e.1))
    (by simp [controlLines_eq])
  have hlines (o : Outline) : lines o none = "The system consists of the following components:" ::
      ((o.controls.entries.flatMap fun (name, c) => controlLines name c) ++ []) := rfl
  rw [hlines, hlines] at h
  exact (hcontrols _ _ (fun e he => (ho e he).2) (fun e he => (ho' e he).2) [] [] rfl rfl
    (List.cons.inj h).2).1

/-! ### Outlines that are described alike -/

theorem listed?_congr {texts texts' : List String} (h : ∀ text ∈ texts, text ≠ "")
    (h' : ∀ text ∈ texts', text ≠ "") (he : commaList texts = commaList texts') :
    listed? texts = listed? texts' := by
  have hempty : texts.isEmpty = texts'.isEmpty := by
    rw [Bool.eq_iff_iff, List.isEmpty_iff, List.isEmpty_iff, ← commaList_eq_empty_iff h,
      ← commaList_eq_empty_iff h', he]
  rw [listed?, listed?, hempty, he]

theorem tableLines_congr {e e' : String × Table} (ht : e.2.Tidy) (ht' : e'.2.Tidy)
    (h : (e.1, e.2.described) = (e'.1, e'.2.described)) :
    tableLines e.1 e.2 = tableLines e'.1 e'.2 := by
  obtain ⟨hname, h⟩ := Prod.mk.inj h
  obtain ⟨hkeys, h⟩ := Prod.mk.inj h
  obtain ⟨hactions, h⟩ := Prod.mk.inj h
  obtain ⟨hsize, hdefault⟩ := Prod.mk.inj h
  have hlisted : listed? e.2.keys = listed? e'.2.keys :=
    listed?_congr (fun key hk => (ht.keys key hk).1) (fun key hk => (ht'.keys key hk).1) hkeys
  rw [tableLines_eq, tableLines_eq, hname, tableDetails, tableDetails, hlisted, hactions,
    hsize, hdefault]

theorem controlLines_congr {e e' : String × Control} (hc : e.2.Tidy) (hc' : e'.2.Tidy)
    (h : (e.1, e.2.described) = (e'.1, e'.2.described)) :
    controlLines e.1 e.2 = controlLines e'.1 e'.2 := by
  obtain ⟨hname, h⟩ := Prod.mk.inj h
  obtain ⟨htables, hactions⟩ := Prod.mk.inj h
  have hrows : e.2.tables.entries.map (fun (name, t) => tableLines name t) =
      e'.2.tables.entries.map fun (name, t) => tableLines name t :=
    map_eq_of_shown (fun row hr row' hr' => tableLines_congr (hc.tables row hr).2
      (hc'.tables row' hr').2) htables
  have hempty : e.2.tables.isEmpty = e'.2.tables.isEmpty := by
    show e.2.tables.entries.isEmpty = e'.2.tables.entries.isEmpty
    simpa only [List.isEmpty_map] using congrArg List.isEmpty htables
  have hlines : tablesLines e.2.tables = tablesLines e'.2.tables := by
    unfold tablesLines
    rw [hempty, List.flatMap_def, hrows, ← List.flatMap_def]
  rw [controlLines_eq, controlLines_eq, hname, hlines, hactions]

theorem lines_congr {o o' : Outline} (ho : o.Tidy) (ho' : o'.Tidy)
    (h : o.described = o'.described) :
    lines o none = lines o' none := by
  have hcontrols : o.controls.entries.map (fun (name, c) => controlLines name c) =
      o'.controls.entries.map fun (name, c) => controlLines name c :=
    map_eq_of_shown (fun e he e' he' => controlLines_congr (ho e he).2 (ho' e' he').2) h
  unfold lines
  rw [List.flatMap_def, hcontrols, ← List.flatMap_def]

/-! ### The text of a description -/

theorem newline_notMem_label {label text : String} (hl : '\n' ∉ label.toList)
    (ht : '\n' ∉ text.toList) :
    '\n' ∉ (label ++ text).toList := by
  rw [String.toList_append, List.mem_append, not_or]
  exact ⟨hl, ht⟩

theorem newline_notMem_commaList {texts : List String} (h : ∀ text ∈ texts, '\n' ∉ text.toList) :
    '\n' ∉ (commaList texts).toList := by
  cases texts with
  | nil => decide
  | cons text texts =>
    obtain ⟨htext, htexts⟩ := List.forall_mem_cons.1 h
    rw [toList_commaList_cons, List.mem_append, not_or]
    refine ⟨htext, ?_⟩
    intro hm
    obtain ⟨text, ht, hm⟩ := List.mem_flatMap.1 hm
    rcases List.mem_append.1 hm with hm | hm
    · exact absurd hm (by decide)
    · exact htexts text ht hm

theorem newline_notMem_numeral (n : Int) : '\n' ∉ (numeral n).toList := by
  have hdigits (n : Nat) : '\n' ∉ natText n :=
    notMem_of_class (fun _ hc => isDigit_of_mem_natText hc) (by decide)
  rw [numeral, String.toList_ofList]
  cases n with
  | ofNat n => exact hdigits n
  | negSucc n =>
    intro hm
    rcases List.mem_cons.1 hm with he | hm
    · cases he
    · exact hdigits (n + 1) hm

theorem newline_notMem_detail {label : String} (hl : '\n' ∉ label.toList) {text? : Option String}
    (ht : ∀ text ∈ text?, '\n' ∉ text.toList) :
    ∀ line ∈ detail label text?, '\n' ∉ line.toList := by
  cases text? with
  | none => intro line h; cases h
  | some text =>
    intro line h
    rw [List.mem_singleton.1 h]
    exact newline_notMem_label hl (ht text rfl)

theorem newline_notMem_details {ds : List (String × Option String)}
    (h : ∀ d ∈ ds, '\n' ∉ d.1.toList ∧ ∀ text ∈ d.2, '\n' ∉ text.toList) :
    ∀ line ∈ details ds, '\n' ∉ line.toList := by
  intro line hl
  obtain ⟨d, hd, hline⟩ := List.mem_flatMap.1 hl
  exact newline_notMem_detail (h d hd).1 (h d hd).2 line hline

theorem newline_notMem_listed? {texts : List String} (h : ∀ text ∈ texts, '\n' ∉ text.toList) :
    ∀ text ∈ listed? texts, '\n' ∉ text.toList := by
  unfold listed?
  split
  · intro text ht
    cases ht
  · intro text ht
    cases ht
    exact newline_notMem_commaList h

theorem newline_notMem_tableLines {name : String} (hn : IsName name) {t : Table} (ht : t.Tidy) :
    ∀ line ∈ tableLines name t, '\n' ∉ line.toList := by
  have hsize : ∀ text ∈ t.size.map numeral, '\n' ∉ text.toList := by
    intro text h
    obtain ⟨n, -, rfl⟩ := Option.map_eq_some_iff.1 h
    exact newline_notMem_numeral n
  rw [tableLines_eq, tableDetails, filter_defaultAction ht]
  refine List.forall_mem_cons.2 ⟨newline_notMem_label (by decide) (newline_notMem_of_isName hn), ?_⟩
  apply newline_notMem_details
  simp only [List.forall_mem_cons]
  exact ⟨⟨by decide, newline_notMem_listed? fun key hk => (ht.keys key hk).2⟩,
    ⟨by decide, newline_notMem_listed? fun a ha => newline_notMem_of_isName (ht.actions a ha)⟩,
    ⟨by decide, hsize⟩,
    ⟨by decide, fun a ha => newline_notMem_of_isName (ht.defaultAction a ha)⟩, by simp⟩

theorem newline_notMem_controlLines {name : String} (hn : IsName name) {c : Control} (hc : c.Tidy) :
    ∀ line ∈ controlLines name c, '\n' ∉ line.toList := by
  have htables : ∀ line ∈ tablesLines c.tables, '\n' ∉ line.toList := by
    unfold tablesLines
    split
    · intro line h
      cases h
    · refine List.forall_mem_cons.2 ⟨by decide, ?_⟩
      intro line h
      obtain ⟨e, he, hline⟩ := List.mem_flatMap.1 h
      exact newline_notMem_tableLines (hc.tables e he).1 (hc.tables e he).2 line hline
  have hactions : ∀ line ∈ actionsLines c.actions, '\n' ∉ line.toList := by
    unfold actionsLines
    split
    · intro line h
      cases h
    · refine List.forall_mem_cons.2 ⟨by decide, ?_⟩
      intro line h
      obtain ⟨action, ha, rfl⟩ := List.mem_map.1 h
      exact newline_notMem_label (by decide) (newline_notMem_of_isName (hc.actions action ha))
  rw [controlLines_eq]
  simp only [List.forall_mem_cons, List.forall_mem_append]
  exact ⟨newline_notMem_label (by decide) (newline_notMem_of_isName hn), htables, hactions⟩

/-- No line of a description is broken. -/
theorem newline_notMem_lines {o : Outline} (ho : o.Tidy) :
    ∀ line ∈ lines o none, '\n' ∉ line.toList := by
  intro line h
  rw [lines, List.append_nil] at h
  rcases List.mem_cons.1 h with rfl | h
  · decide
  · obtain ⟨e, he, hline⟩ := List.mem_flatMap.1 h
    exact newline_notMem_controlLines (ho e he).1 (ho e he).2 line hline

/-- Unbroken lines are told by the text that they make up. -/
theorem intercalate_newline_inj {ls ls' : List String} (h : ∀ line ∈ ls, '\n' ∉ line.toList)
    (h' : ∀ line ∈ ls', '\n' ∉ line.toList) (hn : ls ≠ []) (hn' : ls' ≠ [])
    (he : "\n".intercalate ls = "\n".intercalate ls') : ls = ls' := by
  have hsplit {ls : List String} (h : ∀ line ∈ ls, '\n' ∉ line.toList) (hn : ls ≠ []) :
      ("\n".intercalate ls).toList.splitOn '\n' = ls.map String.toList := by
    rw [String.toList_intercalate]
    apply List.splitOn_intercalate
    · intro line hm
      obtain ⟨text, ht, rfl⟩ := List.mem_map.1 hm
      exact h text ht
    · simpa using hn
  have hmap : ls.map String.toList = ls'.map String.toList := by
    rw [← hsplit h hn, he, hsplit h' hn']
  exact (List.map_inj_right fun _ _ => String.toList_inj.1).1 hmap

end Description

/-- What was read from a source has a description. -/
theorem description_eq_ok {reading : Reading} {given : Value} {o : Outline}
    (h : Outline.ofGiven reading given = .ok o) (listing : Option Listing) :
    description o listing = .ok (Description.text o listing) := by
  rw [description, if_pos (Outline.tidy_of_ofGiven h).isWritable]

/-- The description of what was read from a source loses nothing but the places where one key of a
table ends and the next begins: there are such descriptions, and two of them without listings are
equal if and only if their outlines have the same controls with the same tables and actions in the
same order, and corresponding tables have the same actions, size and default action, and keys that
make up the same text. -/
theorem description_eq_iff {reading reading' : Reading} {given given' : Value} {o o' : Outline}
    (h : Outline.ofGiven reading given = .ok o) (h' : Outline.ofGiven reading' given' = .ok o') :
    ∃ text text', description o none = .ok text ∧ description o' none = .ok text' ∧
      (text = text' ↔ o.described = o'.described) := by
  have ho : o.Tidy := Outline.tidy_of_ofGiven h
  have ho' : o'.Tidy := Outline.tidy_of_ofGiven h'
  refine ⟨_, _, description_eq_ok h none, description_eq_ok h' none, ?_, ?_⟩
  -- equal texts have equal lines, from which the outlines are read back
  · intro he
    apply Description.described_eq_of_lines ho ho'
    apply Description.intercalate_newline_inj (Description.newline_notMem_lines ho)
      (Description.newline_notMem_lines ho') (by simp [Description.lines])
        (by simp [Description.lines])
    have hbreak := congrArg String.toList he
    rw [Description.text, Description.text, String.toList_append, String.toList_append] at hbreak
    exact String.toList_inj.1 (List.append_cancel_right hbreak)
  · intro he
    rw [Description.text, Description.text, Description.lines_congr ho ho' he]

/-- A program with a table of some keys. -/
def keyed (keys : String) : String :=
"control C() \x7b
  table t \x7b
    key = \x7b
" ++ keys ++ "
    \x7d
    size = 16;
  \x7d
\x7d
"

/-- The outline of a program with a table of some keys. -/
def keyedOutline (keys : List String) : Outline :=
  ⟨Keyed.empty.insert "C" ⟨Keyed.empty.insert "t" { keys := keys, size := some 16 }, []⟩⟩

/-- Two keys look like one key with a comma. -/
theorem description_keyed :
    Outline.ofGiven {} (.text (keyed "x\ny")) = .ok (keyedOutline ["x", "y"]) ∧
      Outline.ofGiven {} (.text (keyed "x, y")) = .ok (keyedOutline ["x, y"]) ∧
        ∃ text, description (keyedOutline ["x", "y"]) none = .ok text ∧
          description (keyedOutline ["x, y"]) none = .ok text := by
  have hlines : Outline.ofGiven {} (.text (keyed "x\ny")) = .ok (keyedOutline ["x", "y"]) := by
    decide +kernel
  have hline : Outline.ofGiven {} (.text (keyed "x, y")) = .ok (keyedOutline ["x, y"]) := by
    decide +kernel
  obtain ⟨text, text', htext, htext', hiff⟩ := description_eq_iff hlines hline
  have he : text = text' := hiff.2 rfl
  exact ⟨hlines, hline, text, htext, by rw [he, htext']⟩

end P4Outline

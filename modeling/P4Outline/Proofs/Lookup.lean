import P4Outline.Proofs.Cut
import P4Outline.Proofs.Effect
import P4Outline.Proofs.Independence

/-!
# Finding what an outline lists

Whatever an outline lists was declared on a line of the source, so its head stands in the text that
the lines come from, and it is found there by its name. The outline is read from the source without
its comments, a declaration is looked for in the source as it is: it is found there unless a comment
stands in its head.

* `Scan.lists_of_run`: what is listed behind some lines and was not before was declared on one of
  them.
* `Outline.hasHead_of_lists`: what an outline lists has a head in the source.
* `Outline.offset?_of_lists`: what an outline lists is found, unless comments are cut out of its
  heads.
-/

namespace P4Outline

open P4Outline.Text P4Outline.Source

/-- Whether a control lists a declaration of a kind and a name. -/
def Control.Lists (c : Control) : Kind → String → Prop
  | .table, name => name ∈ c.tables.keys
  | .action, name => name ∈ c.actions
  | _, _ => False

/-- Whether an outline lists a declaration of a kind and a name. -/
def Outline.Lists (o : Outline) : Kind → String → Prop
  | .control, name => name ∈ o.controls.keys
  | k, name => ∃ c ∈ o.controls.values, c.Lists k name

/-- Whether a line has the head of a declaration of a kind and a name. -/
def Kind.OnLine (k : Kind) (name : String) (line : List Char) : Prop :=
  ∃ head, k.inLine? line = some head ∧ name = String.ofList head.1

/-! ### Records that are stored and changed -/

theorem mem_insertEntry {α : Type _} {name : String} {a : α} {es : List (String × α)}
    {e : String × α} (h : e ∈ insertEntry name a es) : e = (name, a) ∨ e ∈ es := by
  induction es with
  | nil => exact .inl (List.mem_singleton.1 h)
  | cons e' es ih =>
    obtain ⟨n, b⟩ := e'
    rw [insertEntry] at h
    split at h
    · exact (List.mem_cons.1 h).imp id (List.mem_cons_of_mem _)
    · rcases List.mem_cons.1 h with rfl | h
      · exact .inr List.mem_cons_self
      · exact (ih h).imp id (List.mem_cons_of_mem _)

theorem mem_modifyEntry {α : Type _} {name : String} {f : α → α} {es : List (String × α)}
    {e : String × α} (h : e ∈ modifyEntry name f es) :
    e ∈ es ∨ ∃ a, (name, a) ∈ es ∧ e = (name, f a) := by
  induction es with
  | nil => cases h
  | cons e' es ih =>
    obtain ⟨n, b⟩ := e'
    rw [modifyEntry] at h
    split at h
    · next hn =>
      rcases List.mem_cons.1 h with rfl | h
      · exact .inr ⟨b, by rw [hn]; exact List.mem_cons_self, by rw [hn]⟩
      · exact .inl (List.mem_cons_of_mem _ h)
    · rcases List.mem_cons.1 h with rfl | h
      · exact .inl List.mem_cons_self
      · rcases ih h with h | ⟨a, ha, he⟩
        · exact .inl (List.mem_cons_of_mem _ h)
        · exact .inr ⟨a, List.mem_cons_of_mem _ ha, he⟩

section Lists

variable {o : Outline} {k : Kind} {name : String}

theorem Outline.lists_openControl {control : String} (h : (o.openControl control).Lists k name) :
    o.Lists k name ∨ k = .control ∧ name = control := by
  have hrecord (h : ∃ c ∈ (o.openControl control).controls.values, c.Lists k name) :
      ∃ c ∈ o.controls.values, c.Lists k name := by
    obtain ⟨c, hc, hl⟩ := h
    obtain ⟨e, he, rfl⟩ := List.mem_map.1 hc
    rcases mem_insertEntry he with rfl | he
    · -- a control that is opened lists nothing
      cases k <;> simp [Control.Lists, Keyed.keys, Keyed.empty] at hl
    · exact ⟨e.2, List.mem_map.2 ⟨e, he, rfl⟩, hl⟩
  cases k with
  | control =>
    have hk : name ∈ (o.controls.insert control {}).keys := h
    rw [Keyed.keys_insert] at hk
    split at hk
    · exact .inl hk
    · rcases List.mem_append.1 hk with hk | hk
      · exact .inl hk
      · exact .inr ⟨rfl, List.mem_singleton.1 hk⟩
  | _ => exact .inl (hrecord h)

/-- What is listed behind a change of a control was listed before, or the change adds it. -/
theorem Outline.lists_modifyControl {control : String} {f : Control → Control} {added : Prop}
    (hf : ∀ c : Control, (f c).Lists k name → c.Lists k name ∨ added)
    (h : (o.modifyControl control f).Lists k name) :
    o.Lists k name ∨ added := by
  have hrecord (h : ∃ c ∈ (o.modifyControl control f).controls.values, c.Lists k name) :
      (∃ c ∈ o.controls.values, c.Lists k name) ∨ added := by
    obtain ⟨c, hc, hl⟩ := h
    obtain ⟨e, he, rfl⟩ := List.mem_map.1 hc
    rcases mem_modifyEntry he with he | ⟨a, ha, rfl⟩
    · exact .inl ⟨e.2, List.mem_map.2 ⟨e, he, rfl⟩, hl⟩
    · exact (hf a hl).imp (fun hl => ⟨a, List.mem_map.2 ⟨_, ha, rfl⟩, hl⟩) id
  cases k with
  | control =>
    have hk : name ∈ (o.controls.modify control f).keys := h
    rw [Keyed.keys_modify] at hk
    exact .inl hk
  | _ => exact hrecord h

/-! ### What is listed was declared -/

/-- What is listed behind a line was listed before, or it is declared on the line. -/
theorem Scan.Change.lists {s s' : Scan} {line : List Char} (h : s.Change line s')
    (hl : s'.outline.Lists k name) :
    s.outline.Lists k name ∨ k.OnLine name line := by
  cases h with
  | control hd =>
    obtain ⟨-, head, hh, rfl⟩ := Place.declares?_eq_some_iff.1 hd
    rcases Outline.lists_openControl hl with hl | ⟨rfl, hn⟩
    · exact .inl hl
    · exact .inr ⟨head, hh, hn⟩
  | table ho =>
    obtain ⟨-, -, -, text, hh, rfl⟩ := Place.opens?_eq_some_iff.1 ho
    refine Outline.lists_modifyControl (fun c hc => ?_) hl
    cases k with
    | table =>
      have hk : name ∈ (c.tables.insert (String.ofList text) {}).keys := hc
      rw [Keyed.keys_insert] at hk
      split at hk
      · exact .inl hk
      · rcases List.mem_append.1 hk with hk | hk
        · exact .inl hk
        · exact .inr ⟨_, hh, List.mem_singleton.1 hk⟩
    | _ => exact .inl hc
  | action hc hh =>
    refine Outline.lists_modifyControl (fun c hc => ?_) hl
    cases k with
    | action =>
      rcases List.mem_append.1 hc with hc | hc
      · exact .inl hc
      · exact .inr ⟨_, hh, List.mem_singleton.1 hc⟩
    | _ => exact .inl hc
  | @within control table depth block hp f block' =>
    refine Outline.lists_modifyControl (fun c hc => .inl ?_) hl
    cases k with
    | table =>
      have hk : name ∈ (c.tables.modify table f).keys := hc
      rw [Keyed.keys_modify] at hk
      exact hk
    | _ => exact hc
  | idle => exact .inl hl

end Lists

/-- What is listed behind some lines and was not before was declared on one of them. -/
theorem Scan.lists_of_run {keyText : KeyText} {s s' : Scan} {lines : List (List Char)}
    (h : s.run keyText lines = .ok s') {k : Kind} {name : String} (hl : s'.outline.Lists k name) :
    s.outline.Lists k name ∨ ∃ line ∈ lines, k.OnLine name line := by
  induction lines generalizing s with
  | nil => cases h; exact .inl hl
  | cons line lines ih =>
    obtain ⟨t, ht, h⟩ := Scan.exists_of_run_cons h
    rcases ih h with hl | ⟨line', hm, hd⟩
    · rcases (Scan.change_of_step ht).lists hl with hl | hd
      · exact .inl hl
      · exact .inr ⟨line, List.mem_cons_self, hd⟩
    · exact .inr ⟨line', List.mem_cons_of_mem _ hm, hd⟩

/-- What an outline lists has a head in the source. -/
theorem Outline.hasHead_of_lists {reading : Reading} {source : String} {o : Outline}
    (h : Outline.ofSource reading source = .ok o) {k : Kind} {name : String} (hl : o.Lists k name) :
    k.HasHead name.toList (reading.layout.uncommented source.toList) := by
  obtain ⟨s, hs, rfl⟩ := Outline.exists_run_of_ofSource h
  rcases Scan.lists_of_run hs hl with hl | ⟨line, hm, head, hh, rfl⟩
  · -- the scan starts with nothing listed
    cases k <;> simp [Outline.Lists, Keyed.keys, Keyed.values, Keyed.empty] at hl
  · rw [String.toList_ofList]
    exact Kind.hasHead_of_mem_lines hm (Kind.hasHead_of_inLine? hh)

/-- What an outline lists is found in the source without its comments. It is found in the source
itself as soon as one of its heads has no comment cut out of it. -/
theorem Outline.offset?_of_lists {splitStatements : Bool} {keyText : KeyText}
    {source : String} {o : Outline}
    (h : Outline.ofSource ⟨⟨splitStatements, true⟩, keyText⟩ source = .ok o) {k : Kind}
    {name : String} (hl : o.Lists k name) :
    (k.offset? name (String.ofList (withoutComments source.toList))).isSome ∧
      ∀ front head behind, parts source.toList = front ++ (head ++ behind) →
        k.HeadAt name.toList front head →
        ¬ CutHead head → (k.offset? name source).isSome := by
  refine ⟨?_, fun front head behind he hh hc => ?_⟩
  · have hfound := (Outline.hasHead_of_lists h hl).isSome_offset?
    rw [String.ofList_toList] at hfound
    exact hfound
  · have hfound := (hh.hasHead he hc).isSome_offset?
    rw [String.ofList_toList, String.ofList_toList] at hfound
    exact hfound

theorem Outline.exists_of_keys {source : String} {names : List String}
    (h : (Outline.ofSource {} source).toOption.map (·.controls.keys) = some names) :
    ∃ o, Outline.ofSource {} source = .ok o ∧ ∀ name ∈ names, o.Lists .control name := by
  cases ho : Outline.ofSource {} source with
  | error e => rw [ho] at h; cases h
  | ok o =>
    rw [ho] at h
    have hkeys : o.controls.keys = names := Option.some.inj h
    exact ⟨o, rfl, fun name hn => show name ∈ o.controls.keys by rwa [hkeys]⟩

/-- A control with comments before its head and in its type parameters. -/
def commentedBrackets : String :=
  "/* a switch */ control C<H /* headers */>(inout H h) \x7b\n\x7d\n"

/-- A comment in the type parameters of a control does not hide it. -/
theorem Outline.offset?_commentedBrackets :
    (Kind.control.offset? "C" (String.ofList (withoutComments commentedBrackets.toList))).isSome ∧
      (Kind.control.offset? "C" commentedBrackets).isSome := by
  obtain ⟨o, ho, hlists⟩ := @Outline.exists_of_keys commentedBrackets ["C"] (by decide +kernel)
  obtain ⟨hbare, hfound⟩ := Outline.offset?_of_lists ho (hlists "C" (by decide))
  refine ⟨hbare, hfound [.comment "/* a switch */".toList, .char ' ']
    ("control C<H ".toList.map .char ++ .comment "/* headers */".toList :: ">(".toList.map .char)
    ("inout H h) \x7b\n\x7d\n".toList.map .char)
    (by decide +kernel) ⟨by decide +kernel, by decide +kernel⟩ ?_⟩
  exact not_cutHead_of_brackets (by decide) (by decide) (by decide)

/-- A control with a comment between its keyword and its name. -/
def commentedName : String := "control /* ingress */ C(inout h x) \x7b\n\x7d\n"

/-- A comment before the name of a control hides it. -/
theorem Outline.offset?_commentedName :
    ∃ o, Outline.ofSource {} commentedName = .ok o ∧ o.Lists .control "C" ∧
      Kind.control.offset? "C" commentedName = none := by
  obtain ⟨o, ho, hlists⟩ := @Outline.exists_of_keys commentedName ["C"] (by decide +kernel)
  exact ⟨o, ho, hlists "C" (by decide), by decide +kernel⟩

end P4Outline

import P4Outline.Proofs.Variables

/-!
# A scan finds its records

The records that a scan looks up are there wherever it stands, so whatever it is given, only a size
of too many digits stops it.

* `Scan.step_cases`: all that a line can do where the records are in place.
* `Scan.grounded_or_tooLong_step`: one line keeps the records in place, or writes out such a size.
* `Scan.grounded_or_tooLong_run`: so does every sequence of lines.
* `Outline.ofGiven_ok_or_tooLong`: an outline is read from everything but a source with such a line.
-/

namespace P4Outline

open P4Outline.Text P4Outline.Source

theorem Scan.grounded_start : Scan.Grounded {} := by
  intro control hc
  simp [Place.control?] at hc

theorem Scan.grounded_of_get? {s : Scan} {control : String} (record : Control)
    (hp : s.place.control? = some control) (hn : control ≠ "")
    (hr : s.outline.controls.get? control = some record) (hf : s.place.Fits record) :
    s.Grounded := by
  intro other ho
  rw [hp] at ho
  cases ho
  exact ⟨hn, record, hr, hf⟩

/-- The name of a control that is declared is not empty. -/
theorem Place.ne_empty_of_declares? {p : Place} {line : List Char} {control : String}
    (h : p.declares? line = some control) : control ≠ "" := by
  obtain ⟨-, ⟨name, rest⟩, hh, rfl⟩ := Place.declares?_eq_some_iff.1 h
  exact ofList_ne_empty (Kind.ne_nil_of_inLine? hh)

section Keep

variable (keyText : KeyText) {s : Scan} (hs : s.Grounded)

include hs

/-- All that a line can do: declare a control, be passed over, give the control that the scan stands
in a new record, or write out a size of too many digits. -/
theorem Scan.step_cases (line : List Char) :
    (∃ control, s.place.declares? line = some control ∧
      s.step keyText line = .ok ⟨s.outline.openControl control, .control control⟩) ∨
    (s.place.declares? line = none ∧ s.step keyText line = .ok s) ∨
    (s.place.declares? line = none ∧
      ∃ control record place, s.place.control? = some control ∧ control ≠ "" ∧
      control ∈ s.outline.controls.keys ∧ place.control? = some control ∧ place.Fits record ∧
        s.step keyText line = .ok ⟨⟨s.outline.controls.insert control record⟩, place⟩) ∨
    ∃ e, s.step keyText line = .error e ∧ TooLong line e := by
  cases hd : s.place.declares? line with
  | some control => exact .inl ⟨control, rfl, Scan.step_of_declares keyText s hd⟩
  | none =>
    apply Or.inr
    cases hp : s.place.control? with
    | none =>
      have ho : s.place = .outside := by
        cases hplace : s.place with
        | outside => rfl
        | _ => simp [hplace, Place.control?] at hp
      exact .inl ⟨rfl, Scan.step_outside keyText ho hd⟩
    | some control =>
      obtain ⟨hn, record, hr, hf⟩ := hs control hp
      -- the record that the control has may as well have been stored just now
      have hsame : s.step keyText line =
          Scan.step keyText ⟨⟨s.outline.controls.insert control record⟩, s.place⟩ line := by
        rw [Keyed.insert_of_get? hr]
      rcases Scan.step_stays keyText hp hf hd with ⟨record', place, hp', hf', hact⟩ | ⟨e, he, hact⟩
      · have hm : control ∈ s.outline.controls.keys := Keyed.mem_keys_iff.2 (by rw [hr]; rfl)
        exact .inr
          (.inl ⟨rfl, control, record', place, rfl, hn, hm, hp', hf', hsame.trans (hact _)⟩)
      · exact .inr (.inr ⟨e, hsame.trans (hact _), he⟩)

/-- One line keeps the records in place, or writes out a size of too many digits. -/
theorem Scan.grounded_or_tooLong_step (line : List Char) :
    (∃ s', s.step keyText line = .ok s' ∧ s'.Grounded) ∨
    ∃ e, s.step keyText line = .error e ∧ TooLong line e := by
  rcases Scan.step_cases keyText hs line with ⟨control, hd, hstep⟩ | ⟨-, hstep⟩ |
    ⟨-, control, record, place, -, hn, -, hp, hf, hstep⟩ | herror
  · refine .inl ⟨_, hstep, Scan.grounded_of_get? {} rfl (Place.ne_empty_of_declares? hd) ?_ trivial⟩
    simp [Outline.openControl]
  · exact .inl ⟨s, hstep, hs⟩
  · exact .inl ⟨_, hstep, Scan.grounded_of_get? record hp hn (by simp) hf⟩
  · exact .inr herror

/-- Lines keep the records in place, or one of them writes out a size of too many digits. -/
theorem Scan.grounded_or_tooLong_run (lines : List (List Char)) :
    (∃ s', s.run keyText lines = .ok s' ∧ s'.Grounded) ∨
      ∃ line ∈ lines, ∃ e, s.run keyText lines = .error e ∧ TooLong line e := by
  induction lines generalizing s with
  | nil => exact .inl ⟨s, rfl, hs⟩
  | cons line lines ih =>
    rcases Scan.grounded_or_tooLong_step keyText hs line with ⟨s', hstep, hs'⟩ | ⟨e, hstep, he⟩
    · rw [Scan.run_cons hstep]
      rcases ih hs' with hok | ⟨other, hm, he⟩
      · exact .inl hok
      · exact .inr ⟨other, List.mem_cons_of_mem _ hm, he⟩
    · exact .inr ⟨line, List.mem_cons_self, e, Scan.run_cons_error hstep lines, he⟩

end Keep

theorem Scan.grounded_of_step {keyText : KeyText} {s s' : Scan} {line : List Char} (hs : s.Grounded)
    (h : s.step keyText line = .ok s') : s'.Grounded := by
  rcases Scan.grounded_or_tooLong_step keyText hs line with ⟨t, hstep, ht⟩ | ⟨e, hstep, -⟩
  · cases h.symm.trans hstep
    exact ht
  · cases h.symm.trans hstep

theorem Scan.grounded_of_run {keyText : KeyText} {s s' : Scan} {lines : List (List Char)}
    (hs : s.Grounded) (h : s.run keyText lines = .ok s') : s'.Grounded := by
  rcases Scan.grounded_or_tooLong_run keyText hs lines with ⟨t, hrun, ht⟩ | ⟨line, -, e, hrun, -⟩
  · cases h.symm.trans hrun
    exact ht
  · cases h.symm.trans hrun

/-- Whatever is given as a source, an outline is read, or a line of it writes out a size of too many
digits; and wherever a scan comes to stand, the records that it looks up are there. So are those
that are looked up by plain variables: these come to what the scan comes to, an open block among
them is one of a current table, and the names of the current table and of its control have
records. -/
theorem Outline.ofGiven_ok_or_tooLong (reading : Reading) (given : Value) :
    ((∃ o, Outline.ofGiven reading given = .ok o) ∨
      ∃ source line digits, given = .text source ∧ line ∈ reading.layout.lines source.toList ∧
        WritesSize digits line ∧ maxDigits < digits.length ∧
          Outline.ofGiven reading given = .error (.sizeTooLong digits.length)) ∧
      (∀ lines s, Scan.run reading.keyText {} lines = .ok s → s.Grounded) ∧
      ∀ lines, (∃ v, Variables.run reading.keyText {} lines = .ok v ∧ v.Sound ∧
          Scan.run reading.keyText {} lines = .ok v.scan) ∨
        ∃ e, Variables.run reading.keyText {} lines = .error e ∧
          Scan.run reading.keyText {} lines = .error e := by
  refine ⟨?_, ?_, Variables.run_start reading.keyText⟩
  · cases given with
    | text source =>
      rw [Outline.ofGiven, Outline.ofSource]
      split
      · exact .inl ⟨{}, rfl⟩
      · rcases Scan.grounded_or_tooLong_run reading.keyText Scan.grounded_start
            (reading.layout.lines source.toList) with
          ⟨s, hs, -⟩ | ⟨line, hm, e, he, digits, hw, hl, rfl⟩
        · exact .inl ⟨s.outline, by rw [hs]; rfl⟩
        · exact .inr ⟨source, line, digits, rfl, hm, hw, hl, by rw [he]; rfl⟩
    | _ => exact .inl ⟨{}, rfl⟩
  · intro lines s h
    exact Scan.grounded_of_run Scan.grounded_start h

end P4Outline

import Mathlib.Algebra.Ring.Int.Defs
import P4Outline.Proofs.Effect
import P4Outline.Proofs.Independence

/-!
# The scope of a table

A table's scope ends with the line that closes the last of its braces, whatever is open at that
line. From then on its record stays as it is until the control is declared again or the table is
opened again, either of which starts it afresh; and a line changes the record of no other table than
the one that the scan stands in.

* `Scan.table?_step`: one line, and a table that the scan does not stand in.
* `Place.Counts`: how many braces of a table are open where a scan stands in it.
* `Scan.table_closed_for_good`: all of it, of every sequence of lines.
-/

namespace P4Outline

open P4Outline.Text P4Outline.Source

/-- Whether a line starts the record of a table afresh where a scan stands: it declares the table's
control, or it opens the table. -/
def Place.renews (p : Place) (control table : String) (line : List Char) : Bool :=
  p.declares? line = some control || (p.opens? line).any fun opened => opened.1 = control &&
    opened.2.1 = table

/-- Whether a scan starts the record of a table afresh on one of its lines. -/
def Scan.renews (keyText : KeyText) (control table : String) : Scan → List (List Char) → Bool
  | _, [] => false
  | s, line :: lines =>
    s.place.renews control table line ||
      match s.step keyText line with
      | .ok s' => s'.renews keyText control table lines
      | .error _ => false

/-- Whether a place, if it is in a table, has this many of the table's braces open. -/
def Place.Counts (control table : String) (depth : Int) (p : Place) : Prop :=
  ∀ n block, p = .table control table n block → n = depth

section Step

variable {keyText : KeyText} {s s' : Scan} {line : List Char} {control table : String}

/-! ### One line -/

theorem Place.renews_eq_false_iff {p : Place} :
    p.renews control table line = false ↔
      p.declares? line ≠ some control ∧ ∀ rest, p.opens? line ≠ some (control, table, rest) := by
  rw [renews, Bool.or_eq_false_iff, decide_eq_false_iff_not]
  refine and_congr_right fun _ => ?_
  cases p.opens? line with
  | none => simp
  | some opened =>
    obtain ⟨owner, name, rest⟩ := opened
    simp

/-- A line that starts no record afresh changes none but that of the table that the scan stands
in. -/
theorem Scan.table?_step (h : s.step keyText line = .ok s')
    (hp : s.place.table? ≠ some (control, table)) (hr : s.place.renews control table line = false) :
    s'.outline.table? control table = s.outline.table? control table := by
  -- what a line opens anew is another control or another table, and what it changes is the table it
  -- is in
  cases Scan.change_of_step h with
  | @control opened ho =>
    have hne : control ≠ opened := by
      rintro rfl
      exact (Place.renews_eq_false_iff.1 hr).1 ho
    rw [Outline.table?_openControl, if_neg hne]
  | @table owner opened rest ho =>
    refine Outline.table?_openTable _ owner opened control table ?_
    rintro ⟨rfl, rfl⟩
    exact (Place.renews_eq_false_iff.1 hr).2 rest ho
  | action => exact Outline.table?_addAction _ _ _ control table
  | @within owner name depth block hplace f block' =>
    have hne : ¬ (control = owner ∧ table = name) := by
      rintro ⟨rfl, rfl⟩
      exact hp (by rw [hplace]; rfl)
    rw [Outline.table?_modifyTable, if_neg hne]
  | idle => rfl

/-- A line that declares a control leaves it without tables. -/
theorem Scan.table?_step_of_declares (h : s.step keyText line = .ok s')
    (hd : s.place.declares? line = some control) (table : String) :
    s'.outline.table? control table = none := by
  cases h.symm.trans (Scan.step_of_declares keyText s hd)
  rw [Outline.table?_openControl, if_pos rfl]

/-- A line that opens a table leaves it with nothing said of it. -/
theorem Scan.table?_step_of_opens (hs : s.Grounded) (h : s.step keyText line = .ok s')
    {rest : List Char} (ho : s.place.opens? line = some (control, table, rest)) :
    s'.outline.table? control table = some {} := by
  cases h.symm.trans (Scan.step_of_opens keyText hs ho)
  obtain ⟨-, hc, -⟩ := Place.opens?_eq_some_iff.1 ho
  obtain ⟨-, record, hr, -⟩ := hs control hc
  exact Outline.table?_openTable_self _ (Keyed.mem_keys_iff.2 (by rw [hr]; rfl)) table

theorem Place.eq_of_settle {p : Place} {owner name : String} {depth : Int} {block : Option Block}
    (h : p.settle = .table owner name depth block) :
    p = .table owner name depth block ∧ 0 < depth := by
  cases p with
  | table owner' name' depth' block' =>
    rw [Place.settle] at h
    split at h
    · cases h
    · next hd => cases h; exact ⟨rfl, by omega⟩
  | _ => cases h

/-- Where a scan stands in a table, the braces of every line are counted. -/
theorem Place.counts_step {depth : Int} (h : s.step keyText line = .ok s')
    (hr : s.place.renews control table line = false) (hc : s.place.Counts control table depth) :
    s'.place.Counts control table (depth + balance line) := by
  -- counting leads into no table that the scan does not stand in
  have hcount : (s.place.count line).settle.Counts control table (depth + balance line) := by
    intro n block hn
    obtain ⟨hn, -⟩ := Place.eq_of_settle hn
    cases hp : s.place with
    | table owner name m open? =>
      rw [hp] at hn
      cases hn
      rw [hc m _ hp]
    | _ => rw [hp] at hn; cases hn
  intro n block hn
  cases Scan.change_of_step h with
  | control => cases hn
  | @table owner opened rest ho =>
    obtain ⟨he, -⟩ := @Place.eq_of_settle (.table owner opened (1 + balance rest) none) _ _ _ _ hn
    cases he
    exact absurd ho ((Place.renews_eq_false_iff.1 hr).2 rest)
  | action => exact hcount n block hn
  | @within owner name m _ hplace f block' =>
    obtain ⟨he, -⟩ := @Place.eq_of_settle (.table owner name (m + balance line) block') _ _ _ _ hn
    cases he
    rw [hc m _ hplace]
  | idle => exact hcount n block hn

/-- Where as many braces were closed as opened, a scan has left the table. -/
theorem Place.table?_ne_of_counts {p : Place} {depth : Int} (hp : p.settle = p)
    (hc : p.Counts control table depth) (hd : depth ≤ 0) : p.table? ≠ some (control, table) := by
  intro ht
  cases p with
  | table owner name n block =>
    cases ht
    have hn := hc n block rfl
    obtain ⟨-, hpos⟩ := Place.eq_of_settle hp
    omega
  | _ => cases ht

theorem Place.counts_of_table?_ne {p : Place} (h : p.table? ≠ some (control, table)) (depth : Int) :
    p.Counts control table depth := by
  rintro n block rfl
  exact absurd rfl h

/-- Only a line that opens a table leads into it. -/
theorem Place.table?_ne_step (h : s.step keyText line = .ok s')
    (hr : s.place.renews control table line = false) (hp : s.place.table? ≠ some (control, table)) :
    s'.place.table? ≠ some (control, table) := by
  have hc := Place.counts_step h hr (Place.counts_of_table?_ne hp (-balance line))
  exact Place.table?_ne_of_counts (Scan.settle_of_step h) hc (by omega)

end Step

/-! ### Line after line -/

section Run

variable {keyText : KeyText} {s s' : Scan} {lines : List (List Char)} {control table : String}

theorem Scan.renews_cons {t : Scan} {line : List Char} (h : s.step keyText line = .ok t) :
    s.renews keyText control table (line :: lines) =
      (s.place.renews control table line || t.renews keyText control table lines) := by
  rw [Scan.renews, h]

theorem Scan.renews_append {t : Scan} {front : List (List Char)} (h : s.run keyText front = .ok t) :
    s.renews keyText control table (front ++ lines) =
      (s.renews keyText control table front || t.renews keyText control table lines) := by
  induction front generalizing s with
  | nil => cases h; rfl
  | cons line front ih =>
    obtain ⟨u, hstep, hrun⟩ := Scan.exists_of_run_cons h
    rw [List.cons_append, Scan.renews_cons hstep, ih hrun, Scan.renews_cons hstep, Bool.or_assoc]

/-- Lines that start the record of a table nowhere afresh count its braces. -/
theorem Place.counts_run {depth : Int} (h : s.run keyText lines = .ok s')
    (hr : s.renews keyText control table lines = false) (hc : s.place.Counts control table depth) :
    s'.place.Counts control table (depth + (lines.map balance).sum) := by
  induction lines generalizing s depth with
  | nil =>
    cases h
    rw [List.map_nil, List.sum_nil, Int.add_zero]
    exact hc
  | cons line lines ih =>
    obtain ⟨t, hstep, hrun⟩ := Scan.exists_of_run_cons h
    rw [Scan.renews_cons hstep, Bool.or_eq_false_iff] at hr
    rw [List.map_cons, List.sum_cons, ← Int.add_assoc]
    exact ih hrun hr.2 (Place.counts_step hstep hr.1 hc)

/-- Lines that start the record of a table nowhere afresh leave it as it is, if the scan does not
stand in the table. -/
theorem Scan.table?_run (h : s.run keyText lines = .ok s')
    (hr : s.renews keyText control table lines = false)
    (hp : s.place.table? ≠ some (control, table)) :
    s'.outline.table? control table = s.outline.table? control table := by
  induction lines generalizing s with
  | nil => cases h; rfl
  | cons line lines ih =>
    obtain ⟨t, hstep, hrun⟩ := Scan.exists_of_run_cons h
    rw [Scan.renews_cons hstep, Bool.or_eq_false_iff] at hr
    rw [ih hrun hr.2 (Place.table?_ne_step hstep hr.1 hp), Scan.table?_step hstep hp hr.1]

end Run

/-- A table's record stays as it is from the line on with which its braces are closed. Let a table
be opened on `line`, with `rest` behind its brace, and let as many of its braces be closed as opened
at the end of the lines `inside`: whatever lines come after them, the record is what it was at that
end, unless the control is declared or the table is opened again. A line that declares the control
leaves it without tables, one that opens the table leaves it with nothing said of it, and any other
line changes the record of no table but the one that the scan stands in. -/
theorem Scan.table_closed_for_good (keyText : KeyText) :
    (∀ (before inside after : List (List Char)) (line rest : List Char) (s opened t u : Scan)
      (control table : String), Scan.run keyText {} before = .ok s →
        s.place.opens? line = some (control, table, rest) →
        s.step keyText line = .ok opened → opened.run keyText inside = .ok t →
          1 + balance rest + (inside.map balance).sum ≤ 0 → t.run keyText after = .ok u →
            opened.renews keyText control table (inside ++ after) = false →
              u.outline.table? control table = t.outline.table? control table) ∧
      ∀ (lines : List (List Char)) (line : List Char) (s s' : Scan) (control table : String),
        Scan.run keyText {} lines = .ok s → s.step keyText line = .ok s' →
          (s.place.declares? line = some control → s'.outline.table? control table = none) ∧
          (∀ rest, s.place.opens? line = some (control, table, rest) →
            s'.outline.table? control table = some {}) ∧
          (s.place.renews control table line = false → s.place.table? ≠ some (control, table) →
            s'.outline.table? control table = s.outline.table? control table) := by
  constructor
  · intro before inside after line rest s opened t u control table hs ho hopened hinside hd hu hr
    have hgrounded := Scan.grounded_of_run Scan.grounded_start hs
    cases hopened.symm.trans (Scan.step_of_opens keyText hgrounded ho)
    rw [Scan.renews_append hinside, Bool.or_eq_false_iff] at hr
    -- behind its opening the table has the braces open that were counted on the opening line
    have hstart : (Place.table control table (1 + balance rest) none).settle.Counts control table
        (1 + balance rest) := by
      intro n block hn
      obtain ⟨he, -⟩ := Place.eq_of_settle hn
      cases he
      rfl
    have hcounts := Place.counts_run hinside hr.1 hstart
    have hsettled : t.place.settle = t.place :=
      Scan.settle_of_run (Scan.settle_of_step hopened) hinside
    exact Scan.table?_run hu hr.2 (Place.table?_ne_of_counts hsettled hcounts hd)
  · intro lines line s s' control table hs h
    have hgrounded := Scan.grounded_of_run Scan.grounded_start hs
    exact ⟨fun hd => Scan.table?_step_of_declares h hd table,
      fun rest ho => Scan.table?_step_of_opens hgrounded h ho,
        fun hr hp => Scan.table?_step h hp hr⟩

/-- The scan of a control, and of a table of it with two keys whose braces are closed while its key
block is open. -/
def overfull : Scan :=
  ⟨(((Outline.openControl {} "C").modifyControl "C" (·.openTable "t")).modifyTable "C" "t"
    (·.addEntries .keys ["a: exact;", "b: exact; \x7d \x7d"])), .control "C"⟩

/-- A key and a size behind a table whose key block was left open are not the table's, nor are those
of the next table. -/
theorem Scan.table_closed_of_overfull :
    ∃ u, overfull.run .verbatim ["c: exact;".toList, "size = 4;".toList, "table v \x7b".toList,
      "size = 5;".toList] = .ok u ∧
      u.outline.table? "C" "t" = some { keys := ["a: exact;", "b: exact; \x7d \x7d"] } := by
  have hrun : (overfull.run .verbatim
      ["c: exact;".toList, "size = 4;".toList, "table v \x7b".toList, "size = 5;".toList]).isOk =
        true := by decide +kernel
  cases hu : overfull.run .verbatim
      ["c: exact;".toList, "size = 4;".toList, "table v \x7b".toList, "size = 5;".toList] with
  | error e => rw [hu] at hrun; cases hrun
  | ok u =>
    refine ⟨u, rfl, ?_⟩
    rw [(Scan.table_closed_for_good .verbatim).1 ["control C() \x7b".toList]
      ["key = \x7b".toList, "a: exact;".toList, "b: exact; \x7d \x7d".toList]
      ["c: exact;".toList, "size = 4;".toList, "table v \x7b".toList,
        "size = 5;".toList] "table t \x7b".toList []
      ⟨Outline.openControl {} "C", .control "C"⟩
      ⟨(Outline.openControl {} "C").modifyControl "C" (·.openTable "t"),
        .table "C" "t" 1 none⟩ overfull u "C" "t"
      (by decide +kernel) (by decide +kernel) (by decide +kernel) (by decide +kernel)
        (by decide +kernel) hu
      (by decide +kernel)]
    decide +kernel

end P4Outline

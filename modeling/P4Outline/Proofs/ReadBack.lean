import P4Outline.Proofs.Text
import P4Outline.Report.Description

/-!
# Writers whose texts can be read back

A writer can be read back if the front of a text settles what was written there and where it ends,
whatever goes on behind it. The statement is about two texts: where they are equal, the same was
written, and the same goes on. Writers that can be read back are put together like the texts they
write.

* `ReadsBack`: what a writer shows can be read back, up to what it leaves out.
* `readsBack_of_read`: it can, if there is a reader for it.
* `ReadsBack.flatMap`: a list, item by item, if no item begins like what may follow the list.
* `ReadsBack.unless`, `ReadsBack.headed`, `ReadsBack.enclosed`: a part that some things have and
  others have not.
* `ReadsBack.orRemark`: a list, or a remark that it is empty.
* `numeral_inj`: numbers.
-/

namespace P4Outline

open P4Outline.Text

/-- Whether what a writer shows of things can be read back from the front of a longer text. `Fits`
says of which things this holds, and `Next` what may stand behind them. -/
def ReadsBack {α β γ : Type _} (write : α → List γ) (shown : α → β) (Fits : α → Prop)
    (Next : List γ → Prop) : Prop :=
  ∀ x y, Fits x → Fits y → ∀ r s, Next r → Next s → write x ++ r = write y ++ s →
    shown x = shown y ∧ r = s

/-- A writer can be read back if something reads it. -/
theorem readsBack_of_read {α β γ : Type _} {write : α → List γ} {shown : α → β} {Fits : α → Prop}
    {Next : List γ → Prop} (read? : List γ → Option (β × List γ))
    (h : ∀ x, Fits x → ∀ r, Next r → read? (write x ++ r) = some (shown x, r)) :
    ReadsBack write shown Fits Next := by
  intro x y hx hy r s hr hs he
  have hread : some (shown x, r) = some (shown y, s) := by rw [← h x hx r hr, he, h y hy s hs]
  exact Prod.mk.inj (Option.some.inj hread)

/-- What is written of every item can be told from what is shown of the items, if it can be for each
of them. -/
theorem map_eq_of_shown {α β γ : Type _} {write : α → γ} {shown : α → β} {xs ys : List α}
    (h : ∀ x ∈ xs, ∀ y ∈ ys, shown x = shown y → write x = write y)
    (he : xs.map shown = ys.map shown) :
    xs.map write = ys.map write := by
  induction xs generalizing ys with
  | nil => rw [List.map_eq_nil_iff.1 he.symm]
  | cons x xs ih =>
    cases ys with
    | nil => cases he
    | cons y ys =>
      obtain ⟨hxy, hrest⟩ := List.cons.inj he
      have hmap :=
        ih (fun x hx y hy => h x (List.mem_cons_of_mem _ hx) y (List.mem_cons_of_mem _ hy)) hrest
      rw [List.map_cons, List.map_cons, h x List.mem_cons_self y List.mem_cons_self hxy, hmap]

section Lists

variable {α β γ : Type _} {write : α → List γ} {shown : α → β} {Fits : α → Prop}
    {Next NextItem : List γ → Prop}

/-- Behind the items of a list stands what may stand behind one of them. -/
theorem nextItem_flatMap (hnext : ∀ r, Next r → NextItem r)
    (hitem : ∀ x, Fits x → ∀ r, NextItem (write x ++ r)) {xs : List α} (hxs : ∀ x ∈ xs, Fits x)
    {r : List γ} (hr : Next r) : NextItem (xs.flatMap write ++ r) := by
  cases xs with
  | nil => exact hnext r hr
  | cons x xs =>
    rw [List.flatMap_cons, List.append_assoc]
    exact hitem x (hxs x List.mem_cons_self) _

/-- A list can be read back item by item, if an item may stand behind an item, and what stands
behind the list does not begin like one. -/
theorem ReadsBack.flatMap (h : ReadsBack write shown Fits NextItem) (Next : List γ → Prop)
    (hnext : ∀ r, Next r → NextItem r) (hitem : ∀ x, Fits x → ∀ r, NextItem (write x ++ r))
    (hend : ∀ x, Fits x → ∀ r, ¬ Next (write x ++ r)) :
    ReadsBack (List.flatMap write) (List.map shown) (fun xs => ∀ x ∈ xs, Fits x) Next := by
  intro xs ys hxs hys r s hr hs he
  -- the induction is on the first list; a list that ends where the other goes on would have an item
  -- where the end is
  induction xs generalizing ys with
  | nil =>
    cases ys with
    | nil => exact ⟨rfl, he⟩
    | cons y ys =>
      rw [List.flatMap_nil, List.nil_append, List.flatMap_cons, List.append_assoc] at he
      rw [he] at hr
      exact absurd hr (hend y (hys y List.mem_cons_self) _)
  | cons x xs ih =>
    cases ys with
    | nil =>
      rw [List.flatMap_nil, List.nil_append, List.flatMap_cons, List.append_assoc] at he
      rw [← he] at hs
      exact absurd hs (hend x (hxs x List.mem_cons_self) _)
    | cons y ys =>
      obtain ⟨hx, hxs⟩ := List.forall_mem_cons.1 hxs
      obtain ⟨hy, hys⟩ := List.forall_mem_cons.1 hys
      rw [List.flatMap_cons, List.flatMap_cons, List.append_assoc, List.append_assoc] at he
      obtain ⟨hshown, hrest⟩ := h x y hx hy _ _ (nextItem_flatMap hnext hitem hxs hr)
        (nextItem_flatMap hnext hitem hys hs) he
      obtain ⟨hmap, hrs⟩ := ih ys hxs hys hrest
      exact ⟨by rw [List.map_cons, List.map_cons, hshown, hmap], hrs⟩

/-- What is left out of some things can be read back, if what stands behind the rest does not begin
like it. -/
theorem ReadsBack.unless {skip : α → Bool}
    (h : ReadsBack write shown (fun x => Fits x ∧ skip x = false) NextItem)
    (hnext : ∀ r, Next r → NextItem r)
    (hskip : ∀ x y, Fits x → Fits y → skip x = true → skip y = true → shown x = shown y)
    (hend : ∀ x, Fits x → skip x = false → ∀ r, ¬ Next (write x ++ r)) :
    ReadsBack (fun x => if skip x = true then [] else write x) shown Fits Next := by
  intro x y hx hy r s hr hs he
  -- either both are left out, or both are written: what is behind one is never the other
  cases hsx : skip x with
  | true =>
    cases hsy : skip y with
    | true =>
      simp only [hsx, hsy, if_true, List.nil_append] at he
      exact ⟨hskip x y hx hy hsx hsy, he⟩
    | false =>
      simp only [hsx, hsy, if_true, Bool.false_eq_true, if_false, List.nil_append] at he
      rw [he] at hr
      exact absurd hr (hend y hy hsy s)
  | false =>
    cases hsy : skip y with
    | true =>
      simp only [hsx, hsy, if_true, Bool.false_eq_true, if_false, List.nil_append] at he
      rw [← he] at hs
      exact absurd hs (hend x hx hsx r)
    | false =>
      simp only [hsx, hsy, Bool.false_eq_true, if_false] at he
      exact h x y ⟨hx, hsx⟩ ⟨hy, hsy⟩ r s (hnext r hr) (hnext s hs) he

/-- What is written of a list, or a remark in place of an empty one, can be read back, if no list is
written like the remark. -/
theorem ReadsBack.orRemark {write : List α → List γ} {shown : List α → β} {Fits : List α → Prop}
    (h : ReadsBack write shown Fits Next) (remark : List γ)
    (hapart : ∀ xs, xs.isEmpty = false → ∀ r s, write xs ++ r ≠ remark ++ s) :
    ReadsBack (fun xs => if xs.isEmpty = true then remark else write xs) shown Fits Next := by
  intro xs ys hxs hys r s hr hs he
  cases hex : xs.isEmpty with
  | true =>
    cases hey : ys.isEmpty with
    | true =>
      simp only [hex, hey, if_true] at he
      exact ⟨by rw [List.isEmpty_iff.1 hex, List.isEmpty_iff.1 hey], List.append_cancel_left he⟩
    | false =>
      simp only [hex, hey, if_true, Bool.false_eq_true, if_false] at he
      exact absurd he.symm (hapart ys hey s r)
  | false =>
    cases hey : ys.isEmpty with
    | true =>
      simp only [hex, hey, if_true, Bool.false_eq_true, if_false] at he
      exact absurd he (hapart xs hex r s)
    | false =>
      simp only [hex, hey, Bool.false_eq_true, if_false] at he
      exact h xs ys hxs hys r s hr hs he

theorem ReadsBack.mono (h : ReadsBack write shown Fits NextItem) (Next : List γ → Prop)
    (hnext : ∀ r, Next r → NextItem r) :
    ReadsBack write shown Fits Next :=
  fun x y hx hy r s hr hs => h x y hx hy r s (hnext r hr) (hnext s hs)

/-- What is written of a list behind a fixed text can be read back, if it is left out for an empty
list, and what stands behind it does not begin with that text. -/
theorem ReadsBack.headed {write : List α → List γ} {shown : List α → β} {Fits : List α → Prop}
    (h : ReadsBack write shown Fits NextItem) (front : List γ) :
    ReadsBack (fun xs => if xs.isEmpty = true then [] else front ++ write xs) shown Fits
      (fun r => NextItem r ∧ ¬ front <+: r) := by
  have hlist : ReadsBack (fun xs => front ++ write xs) shown (fun xs => Fits xs ∧
      xs.isEmpty = false) NextItem := by
    intro xs ys hxs hys r s hr hs he
    simp only [List.append_assoc] at he
    exact h xs ys hxs.1 hys.1 r s hr hs (List.append_cancel_left he)
  refine hlist.unless (fun _ hr => hr.1) ?none ?start
  case none =>
    intro xs ys _ _ hxs hys
    rw [List.isEmpty_iff.1 hxs, List.isEmpty_iff.1 hys]
  case start =>
    intro xs _ _ r hr
    rw [List.append_assoc] at hr
    exact hr.2 (List.prefix_append front _)

/-- What is written of a list between two fixed texts can be read back, if it is left out for an
empty list, and what stands behind it does not begin with the first of the two. -/
theorem ReadsBack.enclosed {write : List α → List γ} {shown : List α → β} {Fits : List α → Prop}
    {back : List γ} (h : ReadsBack write shown Fits (back <+: ·)) (front : List γ) :
    ReadsBack (fun xs => if xs.isEmpty = true then [] else front ++ write xs ++ back) shown Fits
      (¬ front <+: ·) := by
  have hlist : ReadsBack (fun xs => write xs ++ back) shown Fits (fun _ => True) := by
    intro xs ys hxs hys r s _ _ he
    simp only [List.append_assoc] at he
    obtain ⟨hmap, he⟩ :=
      h xs ys hxs hys _ _ (List.prefix_append back r) (List.prefix_append back s) he
    exact ⟨hmap, List.append_cancel_left he⟩
  have hheaded := (hlist.headed front).mono (¬ front <+: ·) fun _ hr => ⟨trivial, hr⟩
  simpa only [List.append_assoc] using hheaded

end Lists

/-! ### Beginnings -/

section Beginnings

variable {γ : Type _} {p q : List γ}

/-- Of two beginnings of one text the shorter one begins the longer. -/
theorem not_prefix_of_apart {text : List γ} (hq : q <+: text) (h : ¬ p <+: q) (h' : ¬ q <+: p) :
    ¬ p <+: text := by
  intro hp
  rcases List.prefix_or_prefix_of_prefix hp hq with hpq | hqp
  · exact h hpq
  · exact h' hqp

theorem not_prefix_append (h : ¬ p <+: q) (h' : ¬ q <+: p) (rest : List γ) : ¬ p <+: q ++ rest :=
  not_prefix_of_apart (List.prefix_append q rest) h h'

end Beginnings

/-! ### Numbers -/

theorem natText_inj {m n : Nat} (h : natText m = natText n) : m = n := by
  rw [← digitsValue_natText m, h, digitsValue_natText]

theorem minus_notMem_natText (n : Nat) : '-' ∉ natText n :=
  notMem_of_class (fun _ hc => isDigit_of_mem_natText hc) (by decide)

theorem intText_inj {m n : Int} (h : intText m = intText n) : m = n := by
  cases m with
  | ofNat m =>
    cases n with
    | ofNat n => rw [natText_inj h]
    | negSucc n =>
      have hm : '-' ∈ natText m := by
        rw [show natText m = '-' :: natText (n + 1) from h]
        exact List.mem_cons_self
      exact absurd hm (minus_notMem_natText m)
  | negSucc m =>
    cases n with
    | ofNat n =>
      have hn : '-' ∈ natText n := by
        rw [show natText n = '-' :: natText (m + 1) from h.symm]
        exact List.mem_cons_self
      exact absurd hn (minus_notMem_natText n)
    | negSucc n => rw [Nat.succ_injective (natText_inj (List.cons.inj h).2)]

/-- A numeral writes one number. -/
theorem numeral_inj {m n : Int} (h : numeral m = numeral n) : m = n :=
  intText_inj (String.ofList_injective h)

theorem numeral_ne_empty (n : Int) : numeral n ≠ "" := by
  intro h
  have hnil : intText n = [] := String.ofList_injective (by rw [String.ofList_nil]; exact h)
  cases n with
  | ofNat n => exact absurd hnil Nat.toDigits_ne_nil
  | negSucc n => cases hnil

end P4Outline

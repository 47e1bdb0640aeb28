import P4Outline.Proofs.Precedence
import P4Outline.Proofs.Rounding

/-!
# What a setting is taken for

A setting is asked for as a truth value, as a whole number or as a floating point number. It is
taken for what its value counts as, and for the default if there is none or if it counts as nothing.
Two values are taken for neither but are an error: an infinity that is asked for as a whole number,
and a whole number beyond the floating point numbers that is asked for as one of those.

* `Value.toInt_eq_ok_some_iff`, `Value.toFloat_eq_ok_some_iff`: what a value counts as.
* `Value.toInt_eq_error_iff`, `Value.toFloat_eq_error_iff`: when that is an error.
* `Settings.accessors_answer_iff`: what the accessors answer.
-/

namespace P4Outline

open P4Outline.Text

/-! ### Values as numbers -/

/-- Whether a value counts as a whole number: a truth value as zero or one, a floating point number
as its whole part, a text as the number that it writes in at most `maxDigits` digits, and a value of
another kind as the number that can be read from it. -/
inductive Value.CountsAsInt : Value → Int → Prop
  | whole {v : Value} {n : Int} (h : v.wholeNumber? = some n) : CountsAsInt v n
  | part {x : Binary64} {n : Int} (h : x.toInt? = some n) : CountsAsInt (.float x) n
  | text {s : String} {n : Int} (h : readInt? maxDigits s.toList = some n) : CountsAsInt (.text s) n
  | other {o : OtherValue} {n : Int} (h : o.int? = some n) : CountsAsInt (.other o) n

/-- Whether a value counts as a floating point number: a whole number as the nearest one, a truth
value as zero or one, a text as the number that it writes, and a value of another kind as the number
that can be read from it. -/
inductive Value.CountsAsFloat : Value → Binary64 → Prop
  | whole {v : Value} {n : Int} {x : Binary64} (hn : v.wholeNumber? = some n)
      (h : Binary64.ofInt? n = some x) :
      CountsAsFloat v x
  | float (x : Binary64) : CountsAsFloat (.float x) x
  | text {s : String} {x : Binary64} (h : readBinary64? s.toList = some x) :
      CountsAsFloat (.text s) x
  | other {o : OtherValue} {x : Binary64} (h : o.float? = some x) : CountsAsFloat (.other o) x

namespace Value

theorem toInt_eq_ok_some_iff {v : Value} {n : Int} : v.toInt = .ok (some n) ↔ v.CountsAsInt n := by
  constructor
  · intro h
    cases v with
    | bool b => cases h; exact .whole rfl
    | int n => cases h; exact .whole rfl
    | float x =>
      cases x with
      | infinite negative => cases h
      | _ => exact .part (Except.ok.inj h)
    | text s => exact .text (Except.ok.inj h)
    | other o => exact .other (Except.ok.inj h)
    | _ => cases h
  · rintro (h | h | h | h)
    · cases v <;> cases h <;> rfl
    · next x =>
      cases x with
      | infinite negative => cases h
      | _ => exact congrArg Except.ok h
    · exact congrArg Except.ok h
    · exact congrArg Except.ok h

/-- Infinities are the only values that are an error as whole numbers. -/
theorem toInt_eq_error_iff {v : Value} :
    (∃ e, v.toInt = .error e) ↔ ∃ negative, v = .float (.infinite negative) := by
  constructor
  · rintro ⟨e, h⟩
    cases v with
    | float x =>
      cases x with
      | infinite negative => exact ⟨negative, rfl⟩
      | _ => cases h
    | _ => cases h
  · rintro ⟨negative, rfl⟩
    exact ⟨.infinite, rfl⟩

theorem toFloat_int (n : Int) : (Value.int n).toFloat =
    match Binary64.ofInt? n with
    | some x => .ok (some x)
    | none => .error .tooLarge := rfl

theorem toFloat_eq_ok_some_iff {v : Value} {x : Binary64} :
    v.toFloat = .ok (some x) ↔ v.CountsAsFloat x := by
  constructor
  · intro h
    cases v with
    | bool b => exact .whole rfl (Except.ok.inj h)
    | int n =>
      rw [toFloat_int] at h
      split at h
      · next y hy =>
        cases h
        exact .whole rfl hy
      · cases h
    | float y =>
      cases h
      exact .float x
    | text s => exact .text (Except.ok.inj h)
    | other o => exact .other (Except.ok.inj h)
    | _ => cases h
  · rintro (⟨hn, h⟩ | _ | h | h)
    · cases v with
      | bool b =>
        cases hn
        exact congrArg Except.ok h
      | int n =>
        cases hn
        rw [toFloat_int, h]
      | _ => cases hn
    · rfl
    · exact congrArg Except.ok h
    · exact congrArg Except.ok h

/-- Whole numbers that are too large are the only values that are an error as floating point
numbers. -/
theorem toFloat_eq_error_iff {v : Value} :
    (∃ e, v.toFloat = .error e) ↔ ∃ n, v = .int n ∧ Binary64.wholeLimit ≤ n.natAbs := by
  constructor
  · rintro ⟨e, h⟩
    cases v with
    | int n =>
      rw [toFloat_int] at h
      split at h
      · cases h
      · next hnone => exact ⟨n, rfl, (Binary64.ofInt?_eq_none_iff n).1 hnone⟩
    | _ => cases h
  · rintro ⟨n, rfl, hn⟩
    exact ⟨.tooLarge, by rw [toFloat_int, (Binary64.ofInt?_eq_none_iff n).2 hn]⟩

end Value

/-! ### What accessors answer -/

/-- Whether `a` is what the value that was found counts as, or else, if none was found or it counts
as nothing, the default. -/
def Settings.Answers {α : Type} (Counts : Value → α → Prop) (found : Option Value) (default a : α) :
    Prop :=
  (∃ v ∈ found, Counts v a) ∨ (∀ v ∈ found, ∀ b, ¬ Counts v b) ∧ a = default

namespace Settings

variable (s : Settings) (address : String)

/-- An accessor that converts what it finds, or its default, answers unless that conversion is an
error. -/
theorem exists_answer_iff {α : Type} (convert : Value → Except NumberError (Option α))
    (inject : α → Value) {Counts : Value → α → Prop}
    (hcounts : ∀ {v a}, convert v = .ok (some a) ↔ Counts v a)
    (hinject : ∀ a, convert (inject a) = .ok (some a)) (default : α) :
    (∃ a, (convert (s.get address (inject default))).map
      (fun found => inject (found.getD default)) = .ok (inject a) ∧
      Answers Counts (s.find? address) default a) ↔
        ∀ v ∈ s.find? address, ¬ ∃ e, convert v = .error e := by
  unfold get
  cases hfound : s.find? address with
  | none =>
    rw [Option.getD_none, hinject]
    exact iff_of_true ⟨default, rfl, .inr ⟨by simp, rfl⟩⟩ (by simp)
  | some v =>
    simp only [Option.getD_some, Option.mem_some_iff, forall_eq']
    cases hv : convert v with
    | error e => simp [Except.map]
    | ok found =>
      refine iff_of_true ⟨found.getD default, rfl, ?_⟩ (by simp)
      cases found with
      | some a => exact .inl ⟨v, rfl, hcounts.1 hv⟩
      | none =>
        refine .inr ⟨?_, rfl⟩
        rintro _ ⟨⟩ a ha
        rw [hcounts.2 ha] at hv
        cases hv

theorem getInt_eq (default : Int) : s.getInt address (.int default) =
    ((s.get address (.int default)).toInt).map fun found => .int (found.getD default) := by
  unfold getInt
  cases (s.get address (.int default)).toInt with
  | error e => rfl
  | ok found => cases found <;> rfl

theorem getFloat_eq (default : Binary64) : s.getFloat address (.float default) =
    ((s.get address (.float default)).toFloat).map fun found => .float (found.getD default) := by
  unfold getFloat
  cases (s.get address (.float default)).toFloat with
  | error e => rfl
  | ok found => cases found <;> rfl

/-- Whatever settings have at an address: it is taken for a truth value; it is taken for a whole
number unless it is an infinity; and it is taken for a floating point number unless it is a whole
number beyond those. -/
theorem accessors_answer_iff :
    (∀ default : Bool, ∃ b, s.getBool address (.bool default) = .bool b ∧
      Answers (fun v b => isOn v = b) (s.find? address) default b) ∧
    (∀ default : Int, (∃ n, s.getInt address (.int default) = .ok (.int n) ∧
      Answers Value.CountsAsInt (s.find? address) default n) ↔
        ∀ negative, s.find? address ≠ some (.float (.infinite negative))) ∧
    (∀ default : Binary64, (∃ x, s.getFloat address (.float default) = .ok (.float x) ∧
      Answers Value.CountsAsFloat (s.find? address) default x) ↔
        ∀ n, s.find? address = some (.int n) → n.natAbs < Binary64.wholeLimit) := by
  refine ⟨fun default => ?_, fun default => ?_, fun default => ?_⟩
  · unfold getBool
    cases s.find? address with
    | none => exact ⟨default, rfl, .inr ⟨by simp, rfl⟩⟩
    | some v => exact ⟨isOn v, rfl, .inl ⟨v, rfl, rfl⟩⟩
  · simp only [getInt_eq]
    rw [exists_answer_iff s address Value.toInt .int Value.toInt_eq_ok_some_iff fun _ => rfl]
    simp only [Value.toInt_eq_error_iff]
    constructor
    · exact fun h negative hfound => h _ hfound ⟨negative, rfl⟩
    · rintro h v hfound ⟨negative, rfl⟩
      exact h negative hfound
  · simp only [getFloat_eq]
    rw [exists_answer_iff s address Value.toFloat .float Value.toFloat_eq_ok_some_iff fun _ => rfl]
    simp only [Value.toFloat_eq_error_iff, ← Nat.not_le]
    constructor
    · exact fun h n hfound hn => h _ hfound ⟨n, rfl, hn⟩
    · rintro h v hfound ⟨n, rfl, hn⟩
      exact h n hfound hn

/-- Settings with an endless timeout, and with a temperature of 309 digits more than one. -/
def endlessText : String :=
  "llm:\n  timeout: .inf\n  temperature: 1" ++ String.ofList (List.replicate 309 '0') ++ "\n"

def endless : Site := { files := [(["c.yaml"], encode endlessText)] }

/-- The settings are read, but an infinity is no whole number, and a whole number may be no floating
point number. -/
theorem getInt_endless : ∃ s, load Yaml.readFile endless (some "c.yaml") none = .ok s ∧
    s.getInt "llm.timeout" (.int 60) = .error .infinite ∧
      s.getFloat "llm.temperature" (.float (.ofDecimal false 1 (-1))) = .error .tooLarge := by
  obtain ⟨s, hs, h⟩ := exists_of_any_toOption (x := load Yaml.readFile endless (some "c.yaml") none)
    (p := fun s =>
      match s.getInt "llm.timeout" (.int 60),
          s.getFloat "llm.temperature" (.float (.ofDecimal false 1 (-1))) with
      | .error .infinite, .error .tooLarge => true
      | _, _ => false) (by decide +kernel)
  refine ⟨s, hs, ?_⟩
  split at h
  · next hint hfloat => exact ⟨hint, hfloat⟩
  · cases h

end Settings

end P4Outline

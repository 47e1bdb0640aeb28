import P4Outline.File.Site

/-!
# Bytes that encode a text

Bytes are well-formed if and only if they are what some text is encoded as, and that text is what
they decode to.

* `Text.codePoint_eq_some_iff`: what is read as a character is what encodes one.
* `Text.decode?_eq_some_iff`: the same for texts.
* `fileText?_eq_some_iff`: the text of a file is the text that its content encodes, with plain line
  breaks.
-/

namespace P4Outline

namespace Text

/-! ### One character -/

section Continuation

variable {acc lo hi n : Nat} {bs rest : List UInt8}

theorem continuation_zero_eq_some_iff :
    continuation acc lo hi 0 bs = (some n, rest) ↔ acc = n ∧ bs = rest := by
  simp [continuation]

/-- A continuation goes on with a byte between its bounds. -/
theorem continuation_succ_eq_some_iff {left : Nat} :
    continuation acc lo hi (left + 1) bs = (some n, rest) ↔
      ∃ b tail, bs = b :: tail ∧ lo ≤ b.toNat ∧ b.toNat ≤ hi ∧
        continuation (acc * 64 + b.toNat % 64) 0x80 0xBF left tail = (some n, rest) := by
  cases bs with
  | nil => simp [continuation]
  | cons b tail =>
    rw [continuation]
    split
    · next h =>
      constructor
      · exact fun hread => ⟨b, tail, rfl, h.1, h.2, hread⟩
      · rintro ⟨_, _, hbytes, -, -, hread⟩
        cases hbytes
        exact hread
    · next h =>
      constructor
      · intro hread
        cases hread
      · rintro ⟨_, _, hbytes, hlo, hhi, -⟩
        cases hbytes
        exact absurd ⟨hlo, hhi⟩ h

theorem continuation_one_eq_some_iff :
    continuation acc lo hi 1 bs = (some n, rest) ↔
      ∃ b, bs = b :: rest ∧ lo ≤ b.toNat ∧ b.toNat ≤ hi ∧ acc * 64 + b.toNat % 64 = n := by
  rw [continuation_succ_eq_some_iff]
  constructor
  · rintro ⟨b, tail, rfl, hlo, hhi, h⟩
    obtain ⟨hn, rfl⟩ := continuation_zero_eq_some_iff.1 h
    exact ⟨b, rfl, hlo, hhi, hn⟩
  · rintro ⟨b, rfl, hlo, hhi, hn⟩
    exact ⟨b, rest, rfl, hlo, hhi, continuation_zero_eq_some_iff.2 ⟨hn, rfl⟩⟩

theorem continuation_two_eq_some_iff :
    continuation acc lo hi 2 bs = (some n, rest) ↔
      ∃ b₁ b₂, bs = b₁ :: b₂ :: rest ∧ lo ≤ b₁.toNat ∧ b₁.toNat ≤ hi ∧ 0x80 ≤ b₂.toNat ∧
        b₂.toNat ≤ 0xBF ∧
        (acc * 64 + b₁.toNat % 64) * 64 + b₂.toNat % 64 = n := by
  rw [continuation_succ_eq_some_iff]
  constructor
  · rintro ⟨b₁, tail, rfl, hlo, hhi, h⟩
    obtain ⟨b₂, rfl, hlo₂, hhi₂, hn⟩ := continuation_one_eq_some_iff.1 h
    exact ⟨b₁, b₂, rfl, hlo, hhi, hlo₂, hhi₂, hn⟩
  · rintro ⟨b₁, b₂, rfl, hlo, hhi, hlo₂, hhi₂, hn⟩
    exact ⟨b₁, _, rfl, hlo, hhi, continuation_one_eq_some_iff.2 ⟨b₂, rfl, hlo₂, hhi₂, hn⟩⟩

theorem continuation_three_eq_some_iff :
    continuation acc lo hi 3 bs = (some n, rest) ↔
      ∃ b₁ b₂ b₃, bs = b₁ :: b₂ :: b₃ :: rest ∧ lo ≤ b₁.toNat ∧ b₁.toNat ≤ hi ∧ 0x80 ≤ b₂.toNat ∧
        b₂.toNat ≤ 0xBF ∧
        0x80 ≤ b₃.toNat ∧ b₃.toNat ≤ 0xBF ∧
          ((acc * 64 + b₁.toNat % 64) * 64 + b₂.toNat % 64) * 64 + b₃.toNat % 64 = n := by
  rw [continuation_succ_eq_some_iff]
  constructor
  · rintro ⟨b₁, tail, rfl, hlo, hhi, h⟩
    obtain ⟨b₂, b₃, rfl, hlo₂, hhi₂, hlo₃, hhi₃, hn⟩ := continuation_two_eq_some_iff.1 h
    exact ⟨b₁, b₂, b₃, rfl, hlo, hhi, hlo₂, hhi₂, hlo₃, hhi₃, hn⟩
  · rintro ⟨b₁, b₂, b₃, rfl, hlo, hhi, hlo₂, hhi₂, hlo₃, hhi₃, hn⟩
    exact ⟨b₁, _, rfl, hlo, hhi,
      continuation_two_eq_some_iff.2 ⟨b₂, b₃, rfl, hlo₂, hhi₂, hlo₃, hhi₃, hn⟩⟩

end Continuation

/-- The bytes of one character: as many as its code point needs, the bits of that spread over
them. -/
inductive Encodes (n : Nat) : List UInt8 → Prop
  | one {b : UInt8} (hn : n ≤ 0x7F) (h : b.toNat = n) : Encodes n [b]
  | two {b b₁ : UInt8} (hn : 0x7F < n ∧ n ≤ 0x7FF) (h : b.toNat = n / 64 + 0xC0)
      (h₁ : b₁.toNat = n % 64 + 0x80) : Encodes n [b, b₁]
  | three {b b₁ b₂ : UInt8} (hn : 0x7FF < n ∧ n ≤ 0xFFFF) (h : b.toNat = n / 4096 + 0xE0)
      (h₁ : b₁.toNat = n / 64 % 64 + 0x80) (h₂ : b₂.toNat = n % 64 + 0x80) : Encodes n [b, b₁, b₂]
  | four {b b₁ b₂ b₃ : UInt8} (hn : 0xFFFF < n ∧ n < 0x110000) (h : b.toNat = n / 262144 + 0xF0)
      (h₁ : b₁.toNat = n / 4096 % 64 + 0x80) (h₂ : b₂.toNat = n / 64 % 64 + 0x80)
      (h₃ : b₃.toNat = n % 64 + 0x80) : Encodes n [b, b₁, b₂, b₃]

theorem encodes_utf8EncodeChar (c : Char) : Encodes c.toNat (String.utf8EncodeChar c) := by
  have hvalid : c.toNat.isValidChar := c.valid
  have hval : c.val.toNat = c.toNat := rfl
  have hbyte {m : Nat} (h : m < 256) : (UInt8.ofNat m).toNat = m := by
    rw [UInt8.toNat_ofNat', Nat.mod_eq_of_lt h]
  unfold String.utf8EncodeChar
  rw [hval]
  generalize c.toNat = n at hvalid
  unfold Nat.isValidChar at hvalid
  dsimp only
  split
  · exact .one (by omega) (hbyte (by omega))
  · split
    · exact .two (by omega) (by rw [hbyte] <;> omega) (hbyte (by omega))
    · split
      · exact .three (by omega) (by rw [hbyte] <;> omega) (hbyte (by omega)) (hbyte (by omega))
      · exact .four (by omega) (by rw [hbyte] <;> omega) (hbyte (by omega)) (hbyte (by omega))
          (hbyte (by omega))

theorem Encodes.unique {n : Nat} {bs bs' : List UInt8} (h : Encodes n bs) (h' : Encodes n bs') :
    bs = bs' := by
  cases h <;> cases h' <;> first
    | omega
    | simp only [List.cons.injEq, and_true, ← UInt8.toNat_inj]; omega

/-- What a byte and two continuations are read as encodes it: overlong forms and surrogates are kept
out by the bounds of the first continuation. -/
theorem exists_encodes_of_two {b : UInt8} {bs rest : List UInt8} {acc lo hi n : Nat}
    (h : continuation acc lo hi 2 bs = (some n, rest))
    (hlead : b.toNat = acc + 0xE0 ∧ b.toNat < 0xF0) (hbounds : 0x80 ≤ lo ∧ hi ≤ 0xBF)
    (hlong : b.toNat = 0xE0 → 0xA0 ≤ lo) (hsurrogate : b.toNat = 0xED → hi ≤ 0x9F) :
    n.isValidChar ∧ ∃ front, Encodes n front ∧ b :: bs = front ++ rest := by
  obtain ⟨b₁, b₂, rfl, hlo₁, hhi₁, hlo₂, hhi₂, hn⟩ := continuation_two_eq_some_iff.1 h
  unfold Nat.isValidChar
  exact ⟨by omega, _, .three (by omega) (by omega) (by omega) (by omega), rfl⟩

/-- What a byte and three continuations are read as encodes it: overlong forms and numbers beyond
the last character are kept out by the bounds of the first continuation. -/
theorem exists_encodes_of_three {b : UInt8} {bs rest : List UInt8} {acc lo hi n : Nat}
    (h : continuation acc lo hi 3 bs = (some n, rest))
    (hlead : b.toNat = acc + 0xF0 ∧ b.toNat < 0xF5) (hbounds : 0x80 ≤ lo ∧ hi ≤ 0xBF)
    (hlong : b.toNat = 0xF0 → 0x90 ≤ lo) (hlast : b.toNat = 0xF4 → hi ≤ 0x8F) :
    n.isValidChar ∧ ∃ front, Encodes n front ∧ b :: bs = front ++ rest := by
  obtain ⟨b₁, b₂, b₃, rfl, hlo₁, hhi₁, hlo₂, hhi₂, hlo₃, hhi₃, hn⟩ :=
    continuation_three_eq_some_iff.1 h
  unfold Nat.isValidChar
  exact ⟨by omega, _, .four (by omega) (by omega) (by omega) (by omega) (by omega), rfl⟩

/-- What is read as a character encodes it. -/
theorem exists_encodes_of_codePoint {b : UInt8} {bs rest : List UInt8} {n : Nat}
    (h : codePoint b.toNat bs = (some n, rest)) :
    n.isValidChar ∧ ∃ front, Encodes n front ∧ b :: bs = front ++ rest := by
  unfold codePoint at h
  split at h
  · cases h
    exact ⟨.inl (by omega), _, .one (by omega) rfl, rfl⟩
  · split at h
    · cases h
    · split at h
      · obtain ⟨b₁, rfl, hlo, hhi, hn⟩ := continuation_one_eq_some_iff.1 h
        exact ⟨.inl (by omega), _, .two (by omega) (by omega) (by omega), rfl⟩
      -- each first byte has bounds of its own for the second one, all of them within those of the
      -- encoding
      · repeat' split at h
        all_goals first
          | exact exists_encodes_of_two h (by omega) (by omega) (by omega) (by omega)
          | exact exists_encodes_of_three h (by omega) (by omega) (by omega) (by omega)
          | cases h

/-- What encodes a character is read as it. -/
theorem Encodes.codePoint_eq {b : UInt8} {bs rest front : List UInt8} {n : Nat}
    (hf : Encodes n front) (hp : n.isValidChar) (hbytes : b :: bs = front ++ rest) :
    codePoint b.toNat bs = (some n, rest) := by
  unfold Nat.isValidChar at hp
  unfold codePoint
  cases hf with
  | one hn h =>
    cases hbytes
    rw [if_pos (by omega), h]
    rfl
  | two hn h h₁ =>
    cases hbytes
    rw [if_neg (by omega), if_neg (by omega), if_pos (by omega)]
    exact continuation_one_eq_some_iff.2 ⟨_, rfl, by omega, by omega, by omega⟩
  -- which bounds the second byte has depends on the first one; within them the rest is read alike
  | @three _ b₁ b₂ hn h h₁ h₂ =>
    cases hbytes
    have hread (acc lo hi : Nat) (hacc : acc = n / 4096) (hlo : lo ≤ b₁.toNat)
        (hhi : b₁.toNat ≤ hi) :
        continuation acc lo hi 2 (b₁ :: b₂ :: rest) = (some n, rest) :=
      continuation_two_eq_some_iff.2 ⟨b₁, b₂, rfl, hlo, hhi, by omega, by omega, by omega⟩
    rw [if_neg (by omega), if_neg (by omega), if_neg (by omega)]
    repeat' split
    all_goals first
      | omega
      | exact hread _ _ _ (by omega) (by omega) (by omega)
  | @four _ b₁ b₂ b₃ hn h h₁ h₂ h₃ =>
    cases hbytes
    have hread (acc lo hi : Nat) (hacc : acc = n / 262144) (hlo : lo ≤ b₁.toNat)
        (hhi : b₁.toNat ≤ hi) :
        continuation acc lo hi 3 (b₁ :: b₂ :: b₃ :: rest) = (some n, rest) :=
      continuation_three_eq_some_iff.2 ⟨b₁, b₂, b₃, rfl, hlo,
        hhi, by omega, by omega, by omega, by omega, by omega⟩
    rw [if_neg (by omega), if_neg (by omega), if_neg (by omega), if_neg (by omega),
      if_neg (by omega), if_neg (by omega)]
    repeat' split
    all_goals first
      | omega
      | exact hread _ _ _ (by omega) (by omega) (by omega)

/-- What is read as a character is what encodes one. -/
theorem codePoint_eq_some_iff {b : UInt8} {bs rest : List UInt8} {n : Nat} :
    codePoint b.toNat bs = (some n, rest) ↔
      n.isValidChar ∧ ∃ front, Encodes n front ∧ b :: bs = front ++ rest := by
  constructor
  · exact exists_encodes_of_codePoint
  · rintro ⟨hp, front, hf, hbytes⟩
    exact hf.codePoint_eq hp hbytes

/-! ### Texts -/

theorem loop_toList (bytes : ByteArray) (i : Nat) (r : List UInt8) :
    ByteArray.toList.loop bytes i r = r.reverse ++ bytes.data.toList.drop i := by
  fun_induction ByteArray.toList.loop bytes i r with
  | case1 i r hi ih =>
    have hi' : i < bytes.data.toList.length := hi
    have hget : bytes.get! i = bytes.data.toList[i] := by
      rw [ByteArray.get!]
      simp [hi]
    rw [ih, List.drop_eq_getElem_cons hi', hget]
    simp
  | case2 i r hi =>
    have hi' : bytes.data.toList.length ≤ i := Nat.le_of_not_lt hi
    rw [List.drop_eq_nil_of_le hi', List.append_nil]

theorem encode_eq_flatMap (text : String) :
    encode text = text.toList.flatMap String.utf8EncodeChar := by
  rw [encode, String.toUTF8_eq_toByteArray, ByteArray.toList, loop_toList,
    ← String.utf8Encode_toList, List.utf8Encode]
  simp [List.data_toByteArray]

theorem units_utf8EncodeChar (c : Char) (rest : List UInt8) :
    units (String.utf8EncodeChar c ++ rest) = some c :: units rest := by
  obtain ⟨b, bs, hbytes⟩ := List.exists_cons_of_ne_nil (l := String.utf8EncodeChar c ++ rest)
    (by simp [String.utf8EncodeChar_ne_nil])
  have hread : codePoint b.toNat bs = (some c.toNat, rest) :=
    codePoint_eq_some_iff.2 ⟨c.valid, _, encodes_utf8EncodeChar c, hbytes.symm⟩
  rw [hbytes, units, hread, Option.map_some, Char.ofNat_toNat]

theorem units_eq_map_iff {bs : List UInt8} {cs : List Char} :
    units bs = cs.map some ↔ bs = cs.flatMap String.utf8EncodeChar := by
  constructor
  · intro h
    induction cs generalizing bs with
    | nil =>
      cases bs with
      | nil => rfl
      | cons b bs => rw [units] at h; cases h
    | cons c cs ih =>
      cases bs with
      | nil => rw [units] at h; cases h
      | cons b bs =>
        rw [units, List.map_cons, List.cons.injEq] at h
        obtain ⟨hfirst, hrest⟩ := h
        -- the bytes in front are those of some character, which can only be the first one
        obtain ⟨n, hn, rfl⟩ := Option.map_eq_some_iff.1 hfirst
        obtain ⟨hp, front, hf, hbytes⟩ := codePoint_eq_some_iff.1 (Prod.ext hn rfl)
        have hpoint : (Char.ofNat n).toNat = n := by
          rw [Char.ofNat, dif_pos hp]
          rfl
        have hc := encodes_utf8EncodeChar (Char.ofNat n)
        rw [hpoint] at hc
        rw [hbytes, List.flatMap_cons, hf.unique hc, ← ih hrest]
  · rintro rfl
    induction cs with
    | nil => rw [List.flatMap_nil, units]; rfl
    | cons c cs ih => rw [List.flatMap_cons, units_utf8EncodeChar, ih, List.map_cons]

theorem mapM_id_eq_some_iff {α : Type _} {found : List (Option α)} {all : List α} :
    found.mapM id = some all ↔ found = all.map some := by
  induction found generalizing all with
  | nil => cases all <;> simp
  | cons x found ih =>
    rw [List.mapM_cons]
    cases x with
    | none => cases all <;> simp
    | some a =>
      show (found.mapM id).bind (fun rest => some (a :: rest)) = some all ↔ _
      rw [Option.bind_eq_some_iff]
      constructor
      · rintro ⟨rest, hrest, h⟩
        cases h
        rw [ih.1 hrest, List.map_cons]
      · intro h
        cases all with
        | nil => cases h
        | cons b all =>
          rw [List.map_cons, List.cons.injEq, Option.some.injEq] at h
          obtain ⟨rfl, h⟩ := h
          exact ⟨all, ih.2 h, rfl⟩

/-- Bytes decode to a text if and only if they are what the text is encoded as. -/
theorem decode?_eq_some_iff {bs : List UInt8} {cs : List Char} :
    decode? bs = some cs ↔ bs = encode (String.ofList cs) := by
  rw [decode?, mapM_id_eq_some_iff, units_eq_map_iff, encode_eq_flatMap, String.toList_ofList]

end Text

open P4Outline.Text

/-- The text of a file is the text that its content encodes, with plain line breaks. -/
theorem fileText?_eq_some_iff {content : List UInt8} {cs : List Char} :
    fileText? content = some cs ↔
      ∃ text : String, content = encode text ∧ cs = plainBreaks text.toList := by
  rw [fileText?, Option.map_eq_some_iff]
  constructor
  · rintro ⟨written, hdecode, rfl⟩
    exact ⟨String.ofList written, decode?_eq_some_iff.1 hdecode, by rw [String.toList_ofList]⟩
  · rintro ⟨text, rfl, rfl⟩
    exact ⟨text.toList, decode?_eq_some_iff.2 (by rw [String.ofList_toList]), rfl⟩

theorem fileText?_encode (text : String) :
    fileText? (encode text) = some (plainBreaks text.toList) :=
  fileText?_eq_some_iff.2 ⟨text, rfl, rfl⟩

end P4Outline

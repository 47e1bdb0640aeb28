/-!
# UTF-8

`units` cuts bytes into characters and ill-formed parts. An ill-formed part is as long as it can be
while it is still the beginning of a character, and one byte if it is none. `decode?` refuses
ill-formed parts, `decodeLossy` writes a replacement character for each.
-/

namespace P4Outline.Text

/-- Reads `left` continuation bytes behind the bits `acc`, the first of them between `lo` and `hi`:
the code point if all are there, and the bytes from the first one that is not a continuation. -/
def continuation (acc lo hi : Nat) : Nat → List UInt8 → Option Nat × List UInt8
  | 0, bs => (some acc, bs)
  | _ + 1, [] => (none, [])
  | left + 1, b :: bs =>
    if lo ≤ b.toNat ∧ b.toNat ≤ hi then continuation (acc * 64 + b.toNat % 64) 0x80 0xBF left bs
    else (none, b :: bs)

theorem length_continuation_le (acc lo hi left : Nat) (bs : List UInt8) :
    (continuation acc lo hi left bs).2.length ≤ bs.length := by
  induction left generalizing acc lo hi bs with
  | zero => simp [continuation]
  | succ left ih =>
    cases bs with
    | nil => simp [continuation]
    | cons b bs =>
      rw [continuation]
      split
      · have := ih (acc * 64 + b.toNat % 64) 0x80 0xBF bs
        simp only [List.length_cons]
        omega
      · simp

/-- The code point that starts with the byte `b`, if it is well-formed, and the bytes behind what
was read of it. -/
def codePoint (b : Nat) (bs : List UInt8) : Option Nat × List UInt8 :=
  if b < 0x80 then (some b, bs)
  else if b < 0xC2 then (none, bs)
  else if b < 0xE0 then continuation (b % 32) 0x80 0xBF 1 bs
  else if b = 0xE0 then continuation 0 0xA0 0xBF 2 bs
  else if b = 0xED then continuation 13 0x80 0x9F 2 bs
  else if b < 0xF0 then continuation (b % 16) 0x80 0xBF 2 bs
  else if b = 0xF0 then continuation 0 0x90 0xBF 3 bs
  else if b < 0xF4 then continuation (b % 8) 0x80 0xBF 3 bs
  else if b = 0xF4 then continuation 4 0x80 0x8F 3 bs
  else (none, bs)

theorem length_codePoint_le (b : Nat) (bs : List UInt8) :
    (codePoint b bs).2.length ≤ bs.length := by
  unfold codePoint
  repeat' split
  all_goals first
    | exact Nat.le_refl _
    | exact length_continuation_le ..

/-- The characters of a sequence of bytes, with nothing for every ill-formed part. -/
def units (bs : List UInt8) : List (Option Char) :=
  match bs with
  | [] => []
  | b :: bs => (codePoint b.toNat bs).1.map Char.ofNat :: units (codePoint b.toNat bs).2
termination_by bs.length
decreasing_by
  have := length_codePoint_le b.toNat bs
  simp only [List.length_cons]
  omega

/-- The text that bytes encode, if all of them are well-formed. -/
def decode? (bs : List UInt8) : Option (List Char) := (units bs).mapM id

/-- The text that bytes encode, with a replacement character for every ill-formed part. -/
def decodeLossy (bs : List UInt8) : List Char := (units bs).map (·.getD '\uFFFD')

/-- The bytes that encode a text. -/
def encode (text : String) : List UInt8 := text.toUTF8.toList

end P4Outline.Text

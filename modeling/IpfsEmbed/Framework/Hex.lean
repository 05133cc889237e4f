import Mathlib.Data.List.Basic

/-!
# Bytes in hexadecimal

Printing a byte with `{:02x}` gives two lowercase hexadecimal digits; reading them back takes
the text two characters at a time (`chunks(2)`) and parses each chunk with
`u8::from_str_radix(chunk, 16)`.  `from_str_radix` refuses an empty text and a lone sign, skips
one leading `+`, takes the digits `0-9`, `a-f` and `A-F`, and refuses a value above 255.

The text is a list of characters and is cut into chunks of two characters.  The byte slices of
the source give the same result: a chunk with a non-ASCII byte fails either as UTF-8 or as a
digit, and on ASCII text bytes and characters coincide.

The result is that decoding an encoding gives the bytes back (`hexDecode_hexEncode`), and that
an encoding is made of digits only (`mem_hexEncode`).
-/

namespace Hex

/-- The lowercase hexadecimal digit of `d < 16`. -/
def hexDigit (d : Nat) : Char :=
  Char.ofNat (if d < 10 then 48 + d else 87 + d)

/-- `{:02x}`: a byte as two lowercase hexadecimal digits. -/
def hexByte (b : UInt8) : List Char :=
  [hexDigit (b.toNat / 16), hexDigit (b.toNat % 16)]

/-- The bytes printed one after the other with `{:02x}`. -/
def hexEncode (bs : List UInt8) : List Char :=
  bs.flatMap hexByte

/-- `char::to_digit(16)`. -/
def digitValue (c : Char) : Option Nat :=
  if '0' ≤ c ∧ c ≤ '9' then some (c.toNat - '0'.toNat)
  else if 'a' ≤ c ∧ c ≤ 'f' then some (c.toNat - 'a'.toNat + 10)
  else if 'A' ≤ c ∧ c ≤ 'F' then some (c.toNat - 'A'.toNat + 10)
  else none

/-- The value of a run of digits after `acc`, refused as soon as it exceeds a byte. -/
def accumDigits (acc : Nat) : List Char → Option Nat
  | [] => some acc
  | c :: cs => do
    let d ← digitValue c
    let v := acc * 16 + d
    if v < 256 then accumDigits v cs else none

/-- `u8::from_str_radix(s, 16)`. -/
def u8FromStrRadix16 (s : List Char) : Option UInt8 :=
  if s = [] then none
  else if s = ['+'] ∨ s = ['-'] then none
  else (accumDigits 0 (if s.head? = some '+' then s.tail else s)).map UInt8.ofNat

/-- `chunks(2)`. -/
def chunks2 {α : Type*} : List α → List (List α)
  | [] => []
  | [a] => [[a]]
  | a :: b :: l => [a, b] :: chunks2 l

/-- The loop that reads the data of a block back: one byte per chunk, the first failure
failing all. -/
def hexDecode (s : List Char) : Option (List UInt8) :=
  (chunks2 s).mapM u8FromStrRadix16

/-! ## Decoding an encoding -/

theorem digitValue_hexDigit : ∀ d : Fin 16, digitValue (hexDigit d.val) = some d.val := by
  decide

theorem hexDigit_toNat : ∀ d : Fin 16, 48 ≤ (hexDigit d.val).toNat ∧ (hexDigit d.val).toNat ≤ 102 := by
  decide

theorem hexByte_decode (b : UInt8) : u8FromStrRadix16 (hexByte b) = some b := by
  have hb : b.toNat < 256 := UInt8.toNat_lt_size b
  have hhi := digitValue_hexDigit ⟨b.toNat / 16, by omega⟩
  have hlo := digitValue_hexDigit ⟨b.toNat % 16, by omega⟩
  -- the first digit is neither a sign nor `+`
  have hsign : (hexDigit (b.toNat / 16)) ≠ '+' ∧ (hexDigit (b.toNat / 16)) ≠ '-' := by
    have h := hexDigit_toNat ⟨b.toNat / 16, by omega⟩
    constructor <;> intro heq <;> rw [heq] at h <;> simp at h
  have hvalue : b.toNat / 16 * 16 + b.toNat % 16 = b.toNat := by omega
  simp only [hexByte, u8FromStrRadix16, accumDigits, hhi, hlo, List.head?_cons,
    Option.some.injEq, hsign.1, hsign.2, List.cons.injEq, and_false, or_self, if_false,
    reduceCtorEq, Nat.zero_mul, Nat.zero_add]
  simp [show b.toNat / 16 < 256 by omega, hvalue, hb]

theorem chunks2_hexEncode (bs : List UInt8) : chunks2 (hexEncode bs) = bs.map hexByte := by
  induction bs with
  | nil => rfl
  | cons b bs ih =>
    show chunks2 (hexByte b ++ hexEncode bs) = hexByte b :: bs.map hexByte
    rw [← ih]
    rfl

/-- **Decoding an encoding gives the bytes back.** -/
theorem hexDecode_hexEncode (bs : List UInt8) : hexDecode (hexEncode bs) = some bs := by
  rw [hexDecode, chunks2_hexEncode]
  induction bs with
  | nil => rfl
  | cons b bs ih => simp [hexByte_decode, ih]

theorem hexEncode_eq_nil {bs : List UInt8} : hexEncode bs = [] ↔ bs = [] := by
  cases bs with
  | nil => simp [hexEncode]
  | cons b bs => simp [hexEncode, hexByte]

/-- An encoding is made of the digits `0-9` and `a-f`. -/
theorem mem_hexEncode {bs : List UInt8} {c : Char} (h : c ∈ hexEncode bs) :
    48 ≤ c.toNat ∧ c.toNat ≤ 102 := by
  obtain ⟨b, -, hc⟩ := List.mem_flatMap.1 h
  have hb : b.toNat < 256 := UInt8.toNat_lt_size b
  simp only [hexByte, List.mem_cons, List.not_mem_nil, or_false] at hc
  rcases hc with rfl | rfl
  · exact hexDigit_toNat ⟨b.toNat / 16, by omega⟩
  · exact hexDigit_toNat ⟨b.toNat % 16, by omega⟩

end Hex

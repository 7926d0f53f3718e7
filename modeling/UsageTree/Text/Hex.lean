import UsageTree.Text

/-!
# Bytes in hexadecimal digits

Two digits a byte. Written digits are lower case; read digits may have either case, and ASCII
blanks may stand between bytes and at the ends.

## Main definitions

* `Hex.encode` — the digits of a list of bytes.
* `Hex.decode?` — the bytes of a text of digits.
-/

namespace UsageTree.Hex

/-- The lower-case digit of a number below sixteen. -/
def digit (n : Nat) : CodePoint := Nat.digitChar n

/-- The value of a hexadecimal digit of either case. -/
def value? (c : CodePoint) : Option Nat :=
  if c.between '0' '9' then some (c.val - 48)
  else if c.between 'a' 'f' then some (c.val - 87)
  else if c.between 'A' 'F' then some (c.val - 55)
  else none

/-- The ASCII characters that may stand between bytes. -/
def isBlank (c : CodePoint) : Bool :=
  c == ' ' || c == '\t' || c == '\n' || c == '\x0b' || c == '\x0c' || c == '\r'

/-- Both digits of a byte, the higher first. -/
def encodeByte (b : UInt8) : Text := [digit (b.toNat / 16), digit (b.toNat % 16)]

/-- The byte of two digits. -/
def joinByte (high low : Nat) : UInt8 := UInt8.ofNat (16 * high + low)

/-- The digits of the bytes in order, without blanks. -/
def encode (bytes : List UInt8) : Text := bytes.flatMap encodeByte

/-- The bytes of a text of hexadecimal digits, each from two adjacent digits. -/
def decode? : Text → Option (List UInt8)
  | [] => some []
  | [c] => if isBlank c then some [] else none
  | c :: d :: rest =>
    if isBlank c then decode? (d :: rest)
    else do
      let high ← value? c
      let low ← value? d
      let bytes ← decode? rest
      some (joinByte high low :: bytes)

/-! ## Reading back -/

theorem value?_digit {n : Nat} (h : n < 16) : value? (digit n) = some n := by
  revert n
  decide

theorem isBlank_digit {n : Nat} (h : n < 16) : isBlank (digit n) = false := by
  revert n
  decide

theorem joinByte_div_mod (b : UInt8) : joinByte (b.toNat / 16) (b.toNat % 16) = b := by
  have : 16 * (b.toNat / 16) + b.toNat % 16 = b.toNat := by omega
  rw [joinByte, this, UInt8.ofNat_toNat]

theorem decode?_encodeByte_append (b : UInt8) (rest : Text) :
    decode? (encodeByte b ++ rest) = (decode? rest).map (b :: ·) := by
  have hb := b.toNat_lt
  have hq : b.toNat / 16 < 16 := by omega
  have hr : b.toNat % 16 < 16 := by omega
  cases hd : decode? rest <;>
    simp [encodeByte, decode?, isBlank_digit hq, value?_digit hq, value?_digit hr,
      joinByte_div_mod, hd]

/-- What is written reads back. -/
theorem decode?_encode (bytes : List UInt8) : decode? (encode bytes) = some bytes := by
  induction bytes with
  | nil => rfl
  | cons b bytes ih =>
    rw [encode] at ih
    simp [encode, decode?_encodeByte_append, ih]

end UsageTree.Hex

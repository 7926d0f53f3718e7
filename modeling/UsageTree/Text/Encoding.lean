import UsageTree.Text

/-!
# Unicode encodings

A text in bytes is in UTF-8, or in UTF-16 or UTF-32 of either byte order. A surrogate may stand
where an encoding can express one. In code units of sixteen bits a code point past `U+FFFF` is
written as two, the halves of a pair; a half that is not completed stands for itself.

## Main definitions

* `CodeUnit` — what a unit of sixteen bits stands for, and `CodeUnit.join`, the text of units.
* `Text.utf8` — the bytes of a text in UTF-8.
* `Encoding` — the encodings.
* `Encoding.detect` — the encoding of bytes, told by a byte order mark or by where zeros stand.
* `Encoding.decode?` — the text of bytes.
-/

namespace UsageTree

/-! ## Code units -/

/-- What a unit stands for: a code point of its own, or half of a pair. -/
inductive CodeUnit where
  | point (c : CodePoint)
  | half (n : Nat)
  deriving Repr, DecidableEq

namespace CodeUnit

/-- What the unit with a number stands for. -/
def ofNat (n : Nat) : CodeUnit :=
  if 0xD800 ≤ n ∧ n ≤ 0xDFFF then half n else point (CodePoint.ofNat n)

/-- The code point of two halves, if the first is a high and the second a low one. -/
def pair? (high low : Nat) : Option CodePoint :=
  if high < 0xDC00 ∧ 0xDC00 ≤ low then
    some (CodePoint.ofNat (0x10000 + (high - 0xD800) * 0x400 + (low - 0xDC00)))
  else none

/-- The text of units that come in reverse order, in front of a text. -/
def joinBefore : List CodeUnit → Text → Text
  | [], t => t
  | point c :: rest, t => joinBefore rest (c :: t)
  | [half low], t => CodePoint.ofNat low :: t
  | half low :: point c :: rest, t => joinBefore rest (c :: CodePoint.ofNat low :: t)
  | half low :: half high :: rest, t =>
    match pair? high low with
    | some c => joinBefore rest (c :: t)
    | none => joinBefore (half high :: rest) (CodePoint.ofNat low :: t)

/-- The text of units that come in reverse order. -/
def join (units : List CodeUnit) : Text := joinBefore units []

end CodeUnit

/-! ## Writing UTF-8 -/

/-- The byte with a number, of which the last eight bits count. -/
def lowByte (n : Nat) : UInt8 := UInt8.ofNat n

/-- The bytes of a code point in UTF-8. -/
def CodePoint.utf8 (c : CodePoint) : List UInt8 :=
  let n := c.val
  if n < 0x80 then [lowByte n]
  else if n < 0x800 then [lowByte (0xC0 + n / 64), lowByte (0x80 + n % 64)]
  else if n < 0x10000 then
    [lowByte (0xE0 + n / 4096), lowByte (0x80 + n / 64 % 64), lowByte (0x80 + n % 64)]
  else
    [lowByte (0xF0 + n / 262144), lowByte (0x80 + n / 4096 % 64), lowByte (0x80 + n / 64 % 64),
      lowByte (0x80 + n % 64)]

/-- The bytes of a text in UTF-8. -/
def Text.utf8 (t : Text) : List UInt8 := t.flatMap CodePoint.utf8

/-- An encoding of texts. -/
inductive Encoding where
  | utf8
  | utf16 (bigEndian : Bool)
  | utf32 (bigEndian : Bool)
  deriving Repr, DecidableEq

namespace Encoding

/-! ## Reading -/

/-- A byte behind the first one of a code point in UTF-8. -/
def isTail (b : UInt8) : Bool := 0x80 ≤ b && b ≤ 0xBF

/-- The number in the last six bits of a byte. -/
def tailBits (b : UInt8) : Nat := b.toNat % 64

/-- The text of bytes in UTF-8 behind the code points read before, which come in reverse order.
A code point must be written in as few bytes as hold it. -/
def readUtf8? : List UInt8 → Text → Option Text
  | [], read => some read.reverse
  | a :: rest, read =>
    if a < 0x80 then readUtf8? rest (CodePoint.ofNat a.toNat :: read)
    else if a < 0xE0 then
      match rest with
      | b :: rest =>
        let n := a.toNat % 32 * 64 + tailBits b
        if 0xC0 ≤ a && isTail b && 0x80 ≤ n then readUtf8? rest (CodePoint.ofNat n :: read)
        else none
      | _ => none
    else if a < 0xF0 then
      match rest with
      | b :: c :: rest =>
        let n := a.toNat % 16 * 4096 + tailBits b * 64 + tailBits c
        if isTail b && isTail c && 0x800 ≤ n then readUtf8? rest (CodePoint.ofNat n :: read)
        else none
      | _ => none
    else
      match rest with
      | b :: c :: d :: rest =>
        let n := a.toNat % 16 * 262144 + tailBits b * 4096 + tailBits c * 64 + tailBits d
        if isTail b && isTail c && isTail d && 0x10000 ≤ n && n < 0x110000 then
          readUtf8? rest (CodePoint.ofNat n :: read)
        else none
      | _ => none

/-- The number of bytes in the given order. -/
def number (bigEndian : Bool) (bytes : List UInt8) : Nat :=
  (if bigEndian then bytes else bytes.reverse).foldl (fun n b => 256 * n + b.toNat) 0

/-- The units of bytes in UTF-16 in reverse order, in front of those read before. -/
def readUnits? (bigEndian : Bool) : List UInt8 → List CodeUnit → Option (List CodeUnit)
  | [], read => some read
  | [_], _ => none
  | a :: b :: rest, read =>
    readUnits? bigEndian rest (CodeUnit.ofNat (number bigEndian [a, b]) :: read)

/-- The text of bytes in UTF-32 behind the code points read before, which come in reverse order. -/
def readUtf32? (bigEndian : Bool) : List UInt8 → Text → Option Text
  | [], read => some read.reverse
  | a :: b :: c :: d :: rest, read =>
    let n := number bigEndian [a, b, c, d]
    if n < 0x110000 then readUtf32? bigEndian rest (CodePoint.ofNat n :: read) else none
  | _, _ => none

/-- The text of bytes in an encoding. -/
def decode? : Encoding → List UInt8 → Option Text
  | utf8, bytes => readUtf8? bytes []
  | utf16 bigEndian, bytes => (readUnits? bigEndian bytes []).map CodeUnit.join
  | utf32 bigEndian, bytes => readUtf32? bigEndian bytes []

/-! ## Detection -/

/-- The byte order marks, longer ones first. -/
def marks : List (List UInt8 × Encoding) := [
  ([0x00, 0x00, 0xFE, 0xFF], utf32 true),
  ([0xFF, 0xFE, 0x00, 0x00], utf32 false),
  ([0xFE, 0xFF], utf16 true),
  ([0xFF, 0xFE], utf16 false),
  ([0xEF, 0xBB, 0xBF], utf8)]

/-- The encoding of a text that starts with two ASCII characters, or is one, told by which of its
first bytes are zero. -/
def ofZeros : List UInt8 → Encoding
  | a :: b :: c :: d :: _ =>
    if a = 0 then if b = 0 then utf32 true else utf16 true
    else if b = 0 then if c = 0 ∧ d = 0 then utf32 false else utf16 false
    else utf8
  | [a, b] => if a = 0 then utf16 true else if b = 0 then utf16 false else utf8
  | _ => utf8

/-- The encoding of bytes, and the bytes without their mark. -/
def detect (bytes : List UInt8) : Encoding × List UInt8 :=
  match marks.find? fun m => m.1.isPrefixOf bytes with
  | some (mark, e) => (e, bytes.drop mark.length)
  | none => (ofZeros bytes, bytes)

/-- The text of bytes in the encoding that they show. -/
def read? (bytes : List UInt8) : Option Text :=
  let (e, rest) := detect bytes
  e.decode? rest

end Encoding

end UsageTree

import UsageTree.Json
import UsageTree.Text.Encoding
import UsageTree.Text.Hex

/-!
# Reading JSON

A text is cut into tokens: brackets, separators and values without parts. Tokens are put together by
a machine with a stack of the lists and objects that are still open. Whoever reads says how deep
these may be nested.

## Main definitions

* `Json.string?` — a string up to its closing quote.
* `Json.number?` — the longest number at the start of a text.
* `Json.Token` — brackets, separators and values without parts.
* `Json.Token.scan` — the tokens of a text.
* `Json.Refusal` — why a text is not read.
* `Json.State` — what may come next, over a stack of frames, and `Json.State.step`, one token.
* `Json.ofTokens`, `Json.read`, `Json.ofBytes` — the value of tokens, of a text, of bytes.
-/

namespace UsageTree.Json

/-! ## Strings -/

/-- The character of an escape of one letter. -/
def escape? (c : CodePoint) : Option CodePoint :=
  if c = '\x22' ∨ c = '\\' ∨ c = '/' then some c
  else if c = 'b' then some '\x08'
  else if c = 'f' then some '\x0c'
  else if c = 'n' then some '\n'
  else if c = 'r' then some '\r'
  else if c = 't' then some '\t'
  else none

/-- The value of four hexadecimal digits. -/
def unit? (a b c d : CodePoint) : Option Nat := do
  let a ← Hex.value? a
  let b ← Hex.value? b
  let c ← Hex.value? c
  let d ← Hex.value? d
  some (4096 * a + 256 * b + 16 * c + d)

/-- The units of a string in reverse order, in front of those read before, and the text behind the
closing quote. Control characters must be escaped; only escaped halves make pairs. -/
def units? : Text → List CodeUnit → Option (List CodeUnit × Text)
  | [], _ => none
  | c :: rest, read =>
    if c = '\x22' then some (read, rest)
    else if c = '\\' then
      match rest with
      | [] => none
      | e :: rest =>
        if e = 'u' then
          match rest with
          | a :: b :: c :: d :: rest =>
            match unit? a b c d with
            | some n => units? rest (.ofNat n :: read)
            | none => none
          | _ => none
        else
          match escape? e with
          | some c => units? rest (.point c :: read)
          | none => none
    else if c.val < 0x20 then none
    else units? rest (.point c :: read)

/-- The string whose opening quote has been read, and what follows its closing quote. -/
def string? (cs : Text) : Option (Text × Text) := do
  let (read, rest) ← units? cs []
  some (CodeUnit.join read, rest)

/-! ## Numbers -/

/-- The leading digits and the rest. -/
def digits (cs : Text) : Text × Text := (cs.takeWhile Text.isDigit, cs.dropWhile Text.isDigit)

/-- A point and digits; without both there is no fraction. -/
def fraction? : Text → Option (Text × Text)
  | [] => none
  | c :: rest =>
    if c = '.' then
      match digits rest with
      | ([], _) => none
      | r => some r
    else none

/-- A sign, if there is one, and the rest. -/
def sign : Text → Bool × Text
  | [] => (false, [])
  | c :: rest =>
    if c = '-' then (true, rest) else if c = '+' then (false, rest) else (false, c :: rest)

/-- The mark of an exponent, a sign that may be missing, and digits. -/
def exponent? : Text → Option (Int × Text)
  | [] => none
  | c :: rest =>
    if c = 'e' ∨ c = 'E' then
      let s := sign rest
      match digits s.2 with
      | ([], _) => none
      | (ds, rest) =>
        let n : Int := Text.digitsValue ds
        some (if s.1 then -n else n, rest)
    else none

/-- The whole part of a number: a zero, or digits of which the first is no zero. -/
def whole? : Text → Option (Text × Text)
  | [] => none
  | c :: rest =>
    if c = '0' then some ([c], rest)
    else
      match digits (c :: rest) with
      | ([], _) => none
      | r => some r

/-- The longest number at the start of a text, without its minus sign, and the rest. An integer
must not have more than `Text.maxDigits` digits. -/
def unsigned? (negative : Bool) (cs : Text) : Option (Json × Text) := do
  let (whole, rest) ← whole? cs
  match fraction? rest, exponent? ((fraction? rest).map Prod.snd |>.getD rest) with
  | none, none =>
    if whole.length ≤ Text.maxDigits then
      let n : Int := Text.digitsValue whole
      some (int (if negative then -n else n), rest)
    else none
  | frac, exponent =>
    let (part, rest) := frac.getD ([], rest)
    let (e, rest) := exponent.getD (0, rest)
    let x := Binary64.ofDecimal negative (Text.digitsValue (whole ++ part)) (e - part.length)
    some (float x, rest)

/-- The rest of a text that starts with a word. -/
def word? (word cs : Text) : Option Text :=
  if word.isPrefixOf cs then some (cs.drop word.length) else none

/-- A number with its sign at the start of a text, or one of the words for infinities. -/
def number? : Text → Option (Json × Text)
  | [] => none
  | c :: rest =>
    if c = '-' then
      match word? "Infinity" rest with
      | some rest => some (float (.infinite true), rest)
      | none => unsigned? true rest
    else unsigned? false (c :: rest)

/-! ## Tokens -/

/-- A bracket, a separator, or a value without parts. -/
inductive Token where
  | openList
  | closeList
  | openObject
  | closeObject
  | comma
  | colon
  | value (v : Json)
  /-- The place where no token starts. Nothing is read behind it. -/
  | unreadable
  deriving Repr, Inhabited

namespace Token

/-- The blanks that may stand between tokens. -/
def isBlank (c : CodePoint) : Bool := c == ' ' || c == '\t' || c == '\n' || c == '\r'

/-- A value that is a word, and the rest of the text. -/
def word? (cs : Text) : Option (Json × Text) :=
  let read (word : Text) (v : Json) := (Json.word? word cs).map fun rest => (v, rest)
  read "null" .null <|> read "true" (.bool true) <|> read "false" (.bool false) <|>
    read "NaN" (.float .nan) <|> read "Infinity" (.float (.infinite false))

/-- The token at the start of a text, and the rest. -/
def next? (cs : Text) : Option (Token × Text) :=
  match cs with
  | [] => none
  | c :: rest =>
    if c = '[' then some (openList, rest)
    else if c = ']' then some (closeList, rest)
    else if c = '\x7b' then some (openObject, rest)
    else if c = '\x7d' then some (closeObject, rest)
    else if c = ',' then some (comma, rest)
    else if c = ':' then some (colon, rest)
    else if c = '\x22' then (string? rest).map fun (s, rest) => (value (.text s), rest)
    else (number? cs <|> word? cs).map fun (v, rest) => (value v, rest)

/-- The tokens of a text behind those read before, which come in reverse order. Every token takes
a character, so that `fuel`, the length of the text, lasts. -/
def scanFrom : (fuel : Nat) → List Token → Text → List Token
  | 0, read, cs => (if cs.dropWhile isBlank = [] then read else unreadable :: read).reverse
  | fuel + 1, read, cs =>
    match cs.dropWhile isBlank with
    | [] => read.reverse
    | cs =>
      match next? cs with
      | some (t, rest) => scanFrom fuel (t :: read) rest
      | none => (unreadable :: read).reverse

/-- The tokens of a text. -/
def scan (cs : Text) : List Token := scanFrom cs.length [] cs

end Token

/-! ## Values -/

/-- Why a text is not read. Of two reasons the one met first counts. -/
inductive Refusal where
  | malformed
  | tooDeep
  deriving Repr, DecidableEq

/-- A list or an object still open, with its parts in reverse order. -/
inductive Frame where
  | list (items : List Json)
  /-- A value for `key` is being read. -/
  | object (fields : List (Text × Json)) (key : Text)

/-- What may come next. -/
inductive State where
  /-- A value; the end of the innermost list too if the list has just been opened. -/
  | value (stack : List Frame) (opened : Bool)
  /-- A key of an object; the end of the object too if it has just been opened. -/
  | key (stack : List Frame) (fields : List (Text × Json)) (opened : Bool)
  /-- The colon behind a key. -/
  | colon (stack : List Frame) (fields : List (Text × Json)) (key : Text)
  /-- What may stand behind a value. -/
  | after (stack : List Frame) (v : Json)

/-- An object of fields in reverse order. Of fields with one key the last counts. -/
def ofFields (fields : List (Text × Json)) : Json := object (Table.ofList fields.reverse).entries

/-- The state behind an opening bracket, which `limit` other ones must not enclose. -/
def State.opened (limit : Nat) (stack : List Frame) (s : State) : Except Refusal State :=
  if stack.length < limit then .ok s else .error .tooDeep

/-- The state after one token more. -/
def State.step (limit : Nat) : State → Token → Except Refusal State
  | value stack _, .value v => .ok (after stack v)
  | value stack _, .openList => opened limit stack (value (.list [] :: stack) true)
  | value stack _, .openObject => opened limit stack (key stack [] true)
  | value (.list _ :: stack) true, .closeList => .ok (after stack (list []))
  | key stack fields _, .value (.text k) => .ok (colon stack fields k)
  | key stack _ true, .closeObject => .ok (after stack (object []))
  | colon stack fields k, .colon => .ok (value (.object fields k :: stack) false)
  | after (.list items :: stack) v, .comma => .ok (value (.list (v :: items) :: stack) false)
  | after (.list items :: stack) v, .closeList => .ok (after stack (list (v :: items).reverse))
  | after (.object fields k :: stack) v, .comma => .ok (key stack ((k, v) :: fields) false)
  | after (.object fields k :: stack) v, .closeObject =>
    .ok (after stack (ofFields ((k, v) :: fields)))
  | _, _ => .error .malformed

/-- The value that a list of tokens makes up, nested `limit` deep at most. -/
def ofTokens (limit : Nat) (tokens : List Token) : Except Refusal Json := do
  match ← tokens.foldlM (State.step limit) (.value [] false) with
  | .after [] v => .ok v
  | _ => .error .malformed

/-- The value of a text, nested `limit` deep at most. -/
def read (limit : Nat) (cs : Text) : Except Refusal Json := ofTokens limit (Token.scan cs)

/-- The value of a text in bytes, in the encoding that they show. -/
def ofBytes (limit : Nat) (bytes : List UInt8) : Except Refusal Json :=
  match Encoding.read? bytes with
  | some cs => read limit cs
  | none => .error .malformed

end UsageTree.Json

import UsageTree.Text.Encoding
import UsageTree.Text.Hex

/-!
# Targets and routes of calls

A target is a reference: a path, with a scheme and an authority possibly in front of it, and a
query and a fragment behind. The path alone says which place is called, and routes lead to places.

## Main definitions

* `Target.path` — the path of a reference.
* `Target.unescape` — the bytes of a path, in which `%` and two digits stand for a byte.
* `Target.place` — the place that a target names, in bytes.
* `Route` — the places that can be called.
* `Route.ofPlace?` — the route to a place, and `Route.find?`, the route to it by a method.
-/

namespace UsageTree

/-! ## Targets -/

namespace Target

/-! ### Paths of references -/

/-- Tabs and line breaks, which are passed over wherever they stand. -/
def isIgnored (c : CodePoint) : Bool := c == '\t' || c == '\n' || c == '\r'

/-- The reference without control characters and spaces in front and without ignored characters. -/
def tidy (t : Text) : Text := (t.dropWhile (·.val ≤ 0x20)).filter (!isIgnored ·)

def isLetter (c : CodePoint) : Bool := c.between 'a' 'z' || c.between 'A' 'Z'

/-- The characters of a scheme. -/
def isSchemeChar (c : CodePoint) : Bool :=
  isLetter c || c.between '0' '9' || c == '+' || c == '-' || c == '.'

/-- What stands behind the scheme, which starts with a letter and ends at the first colon. -/
def dropScheme (t : Text) : Text :=
  let scheme := t.takeWhile fun (c : CodePoint) => c != ':'
  match t.drop scheme.length with
  | [] => t
  | _ :: rest => if scheme.head?.any isLetter && scheme.all isSchemeChar then rest else t

/-- The characters at which an authority ends. -/
def endsAuthority (c : CodePoint) : Bool := c == '/' || c == '?' || c == '#'

/-- What stands behind the authority, which two slashes announce. -/
def dropAuthority (t : Text) : Text :=
  if (Text.ofString "//").isPrefixOf t then (t.drop 2).dropWhile (!endsAuthority ·) else t

/-- The path of a reference. -/
def path (t : Text) : Text :=
  (dropAuthority (dropScheme (tidy t))).takeWhile fun (c : CodePoint) => c != '?' && c != '#'

/-! ### Places -/

/-- The bytes of a path, in which `%` and two hexadecimal digits stand for a byte. -/
def unescape : Text → List UInt8
  | [] => []
  | c :: rest =>
    if c = '%' then
      match rest with
      | [] => c.utf8
      | [d] => c.utf8 ++ d.utf8
      | d :: e :: rest =>
        match Hex.value? d, Hex.value? e with
        | some high, some low => Hex.joinByte high low :: unescape rest
        | _, _ => c.utf8 ++ unescape (d :: e :: rest)
    else c.utf8 ++ unescape rest

/-- The byte of a slash. -/
def slash : UInt8 := 0x2F

/-- The place that a target names: its path, read once more as a reference, with one slash in
front. -/
def place (target : Text) : List UInt8 :=
  match unescape (path (path target)) with
  | [] => []
  | b :: bytes => slash :: (b :: bytes).dropWhile (· == slash)

/-- The place with one slash for every run of them. -/
def mergeSlashes : List UInt8 → List UInt8
  | [] => []
  | [b] => [b]
  | a :: b :: rest =>
    if a = slash ∧ b = slash then mergeSlashes (b :: rest) else a :: mergeSlashes (b :: rest)

end Target

/-! ## Routes -/

/-- A place that can be called. -/
inductive Route where
  | trees
  | rows
  | ping
  /-- A stored file. None is stored. -/
  | file
  deriving Repr, DecidableEq

namespace Route

/-- Where the trees, the rows and the sign of life are found. -/
def fixed : List (Text × Route) := [
  ("/api/v0/storage_usage", trees),
  ("/api/v0/storage_usage/rows", rows),
  ("/api/v0/ping", ping)]

/-- Where files are found, under their names. -/
def folder : Text := "/static/"

/-- The name of a file does not start with a slash and has no line break behind its first
character. -/
def isFileName : List UInt8 → Bool
  | [] => false
  | b :: bytes => b != Target.slash && !bytes.contains 0x0A

/-- The route to a place. -/
def ofPlace? (place : List UInt8) : Option Route :=
  match fixed.find? fun r => Text.utf8 r.1 == place with
  | some (_, route) => some route
  | none =>
    if (Text.utf8 folder).isPrefixOf place && isFileName (place.drop folder.length) then some file
    else none

/-- The methods by which a place can be called. -/
def methods : Route → List Text
  | trees | rows => ["POST", "OPTIONS"]
  | ping | file => ["GET", "HEAD", "OPTIONS"]

/-- The route to a place by a method. -/
def find? (method : Text) (place : List UInt8) : Option Route :=
  (ofPlace? place).filter fun route => route.methods.contains method

end Route

end UsageTree

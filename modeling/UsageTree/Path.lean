import UsageTree.Text.Cut

/-!
# Paths

A path is a text whose pieces are separated by slashes. Empty pieces do not count, so
`a//b` and `a/b/` have the same pieces. The root is the empty path.

## Main definitions

* `Path.clean` — backslashes become slashes, slashes at the ends go.
* `Path.pieces` — the non-empty pieces.
* `Path.chain` — every path from the root down to the path itself.
* `Path.label` — the last piece, the name under which a path is shown.
-/

namespace UsageTree.Path

/-- The character between two pieces. -/
def slash : CodePoint := '/'

/-- A backslash counts as a slash. -/
def toSlash (c : CodePoint) : CodePoint := if c = '\\' then slash else c

/-- The path with forward slashes only and none at its ends. -/
def clean (path : Text) : Text := Text.trim (· == slash) (path.map toSlash)

/-- The non-empty pieces between slashes, from the root down. -/
def pieces (path : Text) : List Text := (Text.cut slash path).filter (· ≠ [])

/-- The path one piece below `parent`. -/
def extend (parent piece : Text) : Text :=
  if parent = [] then piece else parent ++ slash :: piece

/-- The paths met on the way down from `parent` along `pieces`, without `parent` itself. -/
def descend (parent : Text) : List Text → List Text
  | [] => []
  | piece :: rest => extend parent piece :: descend (extend parent piece) rest

/-- The root, then one path more for every piece. -/
def chain (path : Text) : List Text := [] :: descend [] (pieces path)

/-- How many pieces lie between the root and the path. -/
def depth (path : Text) : Nat := (pieces path).length

/-- The last piece, or `Root` for a path without pieces. -/
def label (path : Text) : Text := (pieces path).getLast?.getD "Root"

/-! ## Laws -/

@[simp] theorem extend_root (piece : Text) : extend [] piece = piece := by simp [extend]

@[simp] theorem descend_cons (parent piece : Text) (rest : List Text) :
    descend parent (piece :: rest) =
      extend parent piece :: descend (extend parent piece) rest := rfl

end UsageTree.Path

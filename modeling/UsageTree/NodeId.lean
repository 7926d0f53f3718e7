import UsageTree.Fault
import UsageTree.Text.Hex

/-!
# Node ids

A node id is a list of bytes of any length.

## Main definitions

* `NodeId.ofInts` — the id of a list of integers, each of which must be a byte.
* `NodeId.hex` — the id in hexadecimal digits.
* `NodeId.display` — the id as it is shown; the empty id is `unknown`.
-/

namespace UsageTree

/-- Which node a record belongs to. -/
structure NodeId where
  bytes : List UInt8
  deriving Repr, DecidableEq, Inhabited

namespace NodeId

/-- The byte that an integer is. -/
def byte? (n : Int) : Option UInt8 :=
  if 0 ≤ n ∧ n < 256 then some (UInt8.ofNat n.toNat) else none

/-- The id whose bytes are the given integers. -/
def ofInts? (ns : List Int) : Option NodeId := (ns.mapM byte?).map NodeId.mk

/-- The id whose bytes are the given integers; a number that is no byte is a fault. -/
def ofInts (ns : List Int) : Except Fault NodeId :=
  match ofInts? ns with
  | some id => .ok id
  | none => .error .byteRange

/-- The bytes as integers. -/
def toInts (id : NodeId) : List Int := id.bytes.map fun b => (b.toNat : Int)

/-- The id in lower-case hexadecimal digits, two a byte. -/
def hex (id : NodeId) : Text := Hex.encode id.bytes

/-- The id as it is shown. -/
def display (id : NodeId) : Text := if id.bytes = [] then "unknown" else id.hex

/-- An integer is a byte exactly when it lies in `0..255`. -/
theorem byte?_isSome (n : Int) : (byte? n).isSome ↔ 0 ≤ n ∧ n < 256 := by
  unfold byte?
  split <;> simp_all

@[simp] theorem byte?_toNat (b : UInt8) : byte? b.toNat = some b := by
  have := b.toNat_lt
  simp [byte?]
  omega

@[simp] theorem ofInts?_toInts (id : NodeId) : ofInts? id.toInts = some id := by
  obtain ⟨bytes⟩ := id
  have h : (bytes.map fun b => (b.toNat : Int)).mapM byte? = some bytes := by
    induction bytes with
    | nil => rfl
    | cons b bytes ih => simp [ih]
  simp [ofInts?, toInts, h]

/-- An id is read back from its integers. -/
@[simp] theorem ofInts_toInts (id : NodeId) : ofInts id.toInts = .ok id := by
  simp [ofInts]

theorem byte?_eq_some {n : Int} {b : UInt8} : byte? n = some b ↔ n = b.toNat := by
  constructor
  · intro h
    unfold byte? at h
    split at h
    · rename_i range
      cases h
      rw [UInt8.toNat_ofNat_of_lt' (by omega : n.toNat < 256), Int.toNat_of_nonneg range.1]
    · cases h
  · rintro rfl
    exact byte?_toNat b

/-- An id is read from its own integers alone. -/
theorem ofInts?_eq_some {ns : List Int} {id : NodeId} : ofInts? ns = some id ↔ ns = id.toInts := by
  constructor
  · intro h
    obtain ⟨bytes, read, rfl⟩ := Option.map_eq_some_iff.1 h
    clear h
    induction ns generalizing bytes with
    | nil => cases read; rfl
    | cons n ns ih =>
      rw [List.mapM_cons] at read
      obtain ⟨b, first, read⟩ := Option.bind_eq_some_iff.1 read
      obtain ⟨rest, others, read⟩ := Option.bind_eq_some_iff.1 read
      cases read
      rw [byte?_eq_some.1 first, ih rest others]
      rfl
  · rintro rfl
    exact ofInts?_toInts id

theorem ofInts_eq_ok {ns : List Int} {id : NodeId} : ofInts ns = .ok id ↔ ns = id.toInts := by
  rw [ofInts, ← ofInts?_eq_some]
  cases ofInts? ns <;> simp

end NodeId

end UsageTree

-- Reading a record of known fields. A record may also stand as a list of its values in the
-- order of the fields; fields nobody knows are skipped, and a known field may not repeat.
import WarehouseJobs.Json.Value
import WarehouseJobs.Text.Whole

namespace WarehouseJobs.Json

/-- What it means that a field is not there. -/
inductive WhenAbsent where
  /-- The record cannot be read. -/
  | refused
  /-- The field counts as null in a record, but a list may not stop before it. -/
  | null
  /-- The field takes its default. -/
  | default
deriving DecidableEq, Repr

abbrev Shape := List (String × WhenAbsent)

/-- All values of the fields called `name`. -/
def valuesOf (name : String) (fields : List (String × Json)) : List Json :=
  fields.filterMap fun (n, j) => if n = name then some j else none

/-- One field of a record: its value, or nothing where the default applies. -/
def fieldOf? (fields : List (String × Json)) : String × WhenAbsent → Option (Option Json)
  | (name, absent) =>
    match valuesOf name fields with
    | [j] => some (some j)
    | [] =>
      match absent with
      | .refused => none
      | .null => some (some .null)
      | .default => some none
    | _ => none

/-- The values of a list, one for each field. -/
def itemsOf? : Shape → List Json → Option (List (Option Json))
  | [], [] => some []
  | [], _ :: _ => none
  | (_, absent) :: shape, [] =>
    if absent = .default then (itemsOf? shape []).map (none :: ·) else none
  | _ :: shape, j :: js => (itemsOf? shape js).map (some j :: ·)

/-- The values of the fields of `shape`, in its order. -/
def fields? (shape : Shape) : Json → Option (List (Option Json))
  | .record fields => shape.mapM (fieldOf? fields)
  | .list items => itemsOf? shape items
  | _ => none

/-! ## Plain values -/

def text? : Json → Option String
  | .text s => some s
  | _ => none

def bool? : Json → Option Bool
  | .bool b => some b
  | _ => none

def natUpTo? (limit : Nat) : Json → Option Nat
  | .number (.whole i) => if 0 ≤ i ∧ i ≤ limit then some i.toNat else none
  | _ => none

def uint16? (j : Json) : Option UInt16 := (natUpTo? Text.largest16 j).map UInt16.ofNat

def uint32? (j : Json) : Option UInt32 := (natUpTo? Text.largest32 j).map UInt32.ofNat

def uint64? (j : Json) : Option UInt64 := (natUpTo? Text.largest64 j).map UInt64.ofNat

/-- Null is no value; anything else must be one. -/
def optional? {α : Type} (read : Json → Option α) : Json → Option (Option α)
  | .null => some none
  | j => (read j).map some

def list? {α : Type} (read : Json → Option α) : Json → Option (List α)
  | .list items => items.mapM read
  | _ => none

/-- A field that takes a default when it is not there. -/
def orElse? {α : Type} (fallback : α) (read : Json → Option α) : Option Json → Option α
  | none => some fallback
  | some j => read j

end WarehouseJobs.Json

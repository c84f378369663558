-- JSON values as they stand in a text: fields keep their order and may repeat, and a number
-- remembers whether it was written as a whole number. Settings are read into the same values.

namespace WarehouseJobs

inductive Json.Number where
  /-- Written without point and exponent, and of 64 bits. -/
  | whole (value : Int)
  /-- As it is written: its sign, its digits and a power of ten. -/
  | real (negative : Bool) (digits : Nat) (exponent : Int)
  /-- A double of its own, which may also be no number or beyond all of them. -/
  | double (value : Float)
deriving Repr

inductive Json where
  | null
  | bool (value : Bool)
  | number (value : Json.Number)
  | text (value : String)
  | list (items : List Json)
  | record (fields : List (String × Json))
  /-- Well written, but nothing a reader can take: half a surrogate pair in a text or a
  field name, or a number beyond the largest double. It may stand where it is skipped. -/
  | unreadable
deriving Repr

namespace Json

def ofNat (n : Nat) : Json := .number (.whole n)

def ofUInt64 (n : UInt64) : Json := ofNat n.toNat

def ofFloat (x : Float) : Json := .number (.double x)

def ofOption {α : Type} (f : α → Json) : Option α → Json
  | none => .null
  | some a => f a

/-- A field that is left out when it has no value. -/
def optionalField {α : Type} (name : String) (f : α → Json) : Option α → List (String × Json)
  | none => []
  | some a => [(name, f a)]

mutual

/-- How deep lists and records are nested; a plain value has depth 0. -/
def depth : Json → Nat
  | .list items => depthItems items + 1
  | .record fields => depthFields fields + 1
  | _ => 0

def depthItems : List Json → Nat
  | [] => 0
  | j :: js => max (depth j) (depthItems js)

def depthFields : List (String × Json) → Nat
  | [] => 0
  | (_, j) :: fs => max (depth j) (depthFields fs)

end

mutual

/-- Whether nothing unreadable is anywhere in the value. -/
def readable : Json → Bool
  | .unreadable => false
  | .list items => readableItems items
  | .record fields => readableFields fields
  | _ => true

def readableItems : List Json → Bool
  | [] => true
  | j :: js => readable j && readableItems js

def readableFields : List (String × Json) → Bool
  | [] => true
  | (_, j) :: fs => readable j && readableFields fs

end

end Json
end WarehouseJobs

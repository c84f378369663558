-- The tables of a settings text while it is read. A table may be opened by its header once;
-- a table that only came up in a longer header may still be opened, and one that came up in
-- dotted keys may only grow by them.
import WarehouseJobs.Json.Value

namespace WarehouseJobs.Toml

/-- What a key stands for. -/
inductive Item where
  | value (v : Json)
  /-- `implicit`: no header has opened it. `dotted`: it came up in a dotted key. -/
  | table (implicit dotted : Bool) (entries : List (String × Item))
  /-- Tables under one repeated header. -/
  | tables (all : List (List (String × Item)))

structure Table where
  implicit : Bool := false
  dotted : Bool := false
  entries : List (String × Item) := []

namespace Table

def item (t : Table) : Item := .table t.implicit t.dotted t.entries

def get? (t : Table) (key : String) : Option Item := t.entries.lookup key

/-- Puts an item under a key, in the place of the one that is there. -/
def set (t : Table) (key : String) (i : Item) : Table :=
  if (t.get? key).isSome then
    { t with entries := t.entries.map fun (k, old) => if k = key then (k, i) else (k, old) }
  else { t with entries := t.entries ++ [(key, i)] }

def drop (t : Table) (key : String) : Table :=
  { t with entries := t.entries.filter fun (k, _) => k ≠ key }

/-- A table of a repeated header is never implicit. -/
def ofEntries (entries : List (String × Item)) : Table := { entries }

/-- Changes the table at the end of a path. Tables on the way are made where there are none;
of tables under a repeated header, the last one counts. Dotted keys do not enter a table
that was opened by a header. -/
def change (dotted : Bool) (f : Table → Option Table) : List String → Table → Option Table
  | [], t => f t
  | key :: path, t =>
    match t.get? key with
    | none => (change dotted f path { implicit := true, dotted }).map fun inner => t.set key inner.item
    | some (.value _) => none
    | some (.tables all) =>
      match all.getLast? with
      | none => none
      | some last =>
        (change dotted f path (ofEntries last)).map fun inner =>
          t.set key (.tables (all.dropLast ++ [inner.entries]))
    | some (.table implicit was entries) =>
      if dotted && !implicit then none
      else
        (change dotted f path { implicit, dotted := was, entries }).map fun inner =>
          t.set key inner.item

/-- The item under the last key of a path, for headers. -/
def find? : List String → Table → Option Item
  | [], _ => none
  | [key], t => t.get? key
  | key :: path, t =>
    match t.get? key with
    | some (.tables all) => find? path (ofEntries (all.getLast?.getD []))
    | some (.table implicit dotted entries) => find? path { implicit, dotted, entries }
    | _ => none

/-- Puts a value under a key that may be dotted; nothing may stand there yet. -/
def put (t : Table) (path : List String) (key : String) (v : Json) : Option Table :=
  change true (fun inner =>
    if inner.dotted == path.isEmpty || (inner.get? key).isSome then none
    else some (inner.set key (.value v))) path t

end Table

/-! ## The value of a table -/

mutual

def Item.toJson : Item → Json
  | .value v => v
  | .table _ _ entries => .record (entriesToJson entries)
  | .tables all => .list (tablesToJson all)

def entriesToJson : List (String × Item) → List (String × Json)
  | [] => []
  | (key, i) :: rest => (key, i.toJson) :: entriesToJson rest

def tablesToJson : List (List (String × Item)) → List Json
  | [] => []
  | entries :: rest => .record (entriesToJson entries) :: tablesToJson rest

end

/-! ## Headers -/

/-- The tables so far, and the one whose lines are being read. -/
structure Reading where
  root : Table := {}
  current : Table := {}
  /-- Where the current table belongs; empty for the root. -/
  path : List String := []
  repeated : Bool := false

namespace Reading

/-- Puts the current table in its place. -/
def settle (r : Reading) : Option Table :=
  match r.path.getLast? with
  | none => some r.current
  | some key =>
    r.root.change false (fun parent =>
      match parent.get? key with
      | none => some (parent.set key (if r.repeated then .tables [r.current.entries] else r.current.item))
      | some (.tables all) =>
        if r.repeated then some (parent.set key (.tables (all ++ [r.current.entries]))) else none
      | some _ => none) r.path.dropLast

/-- A header: the lines behind it belong to the table at `path`. -/
def openTable (r : Reading) (path : List String) : Option Reading := do
  let root ← r.settle
  match root.find? path with
  | none =>
    let root ← root.change false some path.dropLast
    some { root, path }
  | some (.table true false entries) =>
    let root ← root.change false (fun parent => some (parent.drop (path.getLast?.getD "")))
      path.dropLast
    some { root, current := { entries }, path }
  | some _ => none

/-- A repeated header: the lines behind it belong to a new table. -/
def openRepeated (r : Reading) (path : List String) : Option Reading := do
  let root ← r.settle
  match root.find? path with
  | none =>
    let root ← root.change false some path.dropLast
    some { root, path, repeated := true }
  | some (.tables _) => some { root, path, repeated := true }
  | some _ => none

def put (r : Reading) (path : List String) (key : String) (v : Json) : Option Reading :=
  (r.current.put path key v).map fun current => { r with current }

end Reading
end WarehouseJobs.Toml

-- Which events are told: a list of directives, each with a level and the targets it is for.
-- The directive with the longest target decides.
import WarehouseJobs.Logging.Event
import WarehouseJobs.Text.Category
import WarehouseJobs.Text.Split
import WarehouseJobs.Text.Whole

namespace WarehouseJobs

/-- One directive of a filter. -/
structure LogDirective where
  /-- The targets that start with this text; all targets if it is missing. -/
  target : Option String
  /-- The least pressing level that is told; nothing is told without one. -/
  level : Option LogLevel
  /-- Holds only inside a part of the program that is marked by a name. -/
  inSpan : Bool := false
deriving DecidableEq, Repr

abbrev LogFilter := List LogDirective

namespace LogDirective

/-! ## What a directive means -/

/-- Whether the directive is for the event. No part of this program is marked, so a directive
for a marked part is never for any event. -/
def concerns (d : LogDirective) (e : LogEvent) : Bool :=
  !d.inSpan &&
    match d.target with
    | none => true
    | some target => target.toList.isPrefixOf e.target.toList

/-- How well a directive knows its targets. -/
def precision (d : LogDirective) : Nat :=
  match d.target with
  | none => 0
  | some target => target.utf8ByteSize + 1

def allows (d : LogDirective) (e : LogEvent) : Bool :=
  match d.level with
  | none => false
  | some level => level.rank ≤ e.level.rank

/-! ## Reading -/

/-- A level by its name in any case, or by its number. The inner option is none for the
level at which nothing is told. -/
def level? (s : String) : Option (Option LogLevel) :=
  match LogLevel.ofName? s with
  | some level => some (some level)
  | none =>
    if s.toLower = "off" then some none
    else
      match Text.natUpTo? 5 s with
      | some 0 => some none
      | some n => (LogLevel.all[5 - n]?).map some
      | none => none

def isTargetChar (c : Char) : Bool := Text.isWordChar c || c = ':' || c = '-'

/-- The name of a marked part between square brackets, and what follows. -/
def skipSpan : List Char → Option (Bool × List Char)
  | '[' :: rest => (Text.splitFirst ']' rest).map fun (_, after) => (true, after)
  | cs => some (false, cs)

/-- A directive of the forms `level`, `target` and `target=level`, where `[part]` may stand
behind or in place of the target. Without a level everything is told. -/
def ofText? (s : String) : Option LogDirective :=
  match level? s with
  | some level => some { target := none, level }
  | none => do
    let (given, rest) := s.toList.span isTargetChar
    let (inSpan, rest) ← skipSpan rest
    let (later, rest) := rest.span isTargetChar
    if given.isEmpty && !inSpan then none
    else if !later.isEmpty && !given.isEmpty then none
    else
      let target := if given.isEmpty then later else given
      let level ← match rest with
        | [] => some (some .trace)
        | ['='] => some (some .trace)
        | '=' :: name => level? (String.ofList name)
        | _ => none
      some
        { target := if target.isEmpty then none else some (String.ofList target)
          level, inSpan }

end LogDirective

namespace LogFilter

/-- The directive that decides about an event: the most precise one, and of equals the last. -/
def decisive? (f : LogFilter) (e : LogEvent) : Option LogDirective :=
  f.foldl (fun best d =>
    if d.concerns e then
      match best with
      | none => some d
      | some b => if b.precision ≤ d.precision then some d else some b
    else best) none

def allows (f : LogFilter) (e : LogEvent) : Bool :=
  match decisive? f e with
  | none => false
  | some d => d.allows e

/-- Directives with commas between them. The empty text tells nothing. -/
def ofText? (s : String) : Option LogFilter :=
  if s.isEmpty then some []
  else (Text.splitAll ',' s.toList).mapM fun part => LogDirective.ofText? (String.ofList part)

/-- Everything from a level on that this program tells. -/
def ofLevel (level : LogLevel) : LogFilter := [{ target := some "jobrelay", level := some level }]

end LogFilter
end WarehouseJobs

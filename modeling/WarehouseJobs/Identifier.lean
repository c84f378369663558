-- The ids of new jobs. An id is a prefix, a hyphen and a random part; both the prefix and
-- the whole id have to follow the rules for ids.
import WarehouseJobs.Fault
import WarehouseJobs.Regex.Reader
import WarehouseJobs.Settings.Schema

namespace WarehouseJobs

/-! ## Rules -/

/-- The pattern of a text that stands for whole ids. -/
def wholePattern? (source : String) : Option Regex.Pattern :=
  Regex.Pattern.ofText? ("^(?:" ++ source ++ ")$")

/-- What ids have to look like. -/
structure IdRules where
  /-- The pattern as it was given. -/
  source : String
  pattern : Regex.Pattern
  /-- In characters. -/
  maxLength : UInt64

namespace IdRules

def ofText (source : String) (maxLength : UInt64) : Except Fault IdRules :=
  match wholePattern? source with
  | some pattern => .ok ⟨source, pattern, maxLength⟩
  | none => .error (.configuration (.badPattern source "regex parse error"))

def ofSettings (s : JobSettings) : Except Fault IdRules := ofText s.idPattern s.idMaxLength

def accepts (rules : IdRules) (s : String) : Bool := rules.pattern.isIn s

/-- One or more letters, digits, underscores and hyphens of ASCII. -/
def defaultPattern : Regex.Pattern :=
  .sequence
    [.condition .textStart,
      .group (.sequence [.condition .textStart, .repeated 1 none (.char idChar 600),
        .condition .textEnd]),
      .condition .textEnd]
where
  idChar (c : Char) : Bool := Text.isAsciiLetter c || Text.isAsciiDigit c || c = '_' || c = '-'

def default : IdRules := ⟨defaultIdPattern, defaultPattern, defaultIdMaxLength⟩

end IdRules

/-! ## Random parts -/

/-- A random part: thirty-two hexadecimal digits. -/
structure Uuid where
  digits : List (Fin 16)
  size : digits.length = 32
deriving DecidableEq

namespace Uuid

def digitChar (d : Fin 16) : Char := Nat.digitChar d.val

/-- The digits in five groups with hyphens between them. -/
def hyphenated (u : Uuid) : List Char :=
  let cs := u.digits.map digitChar
  cs.take 8 ++ '-' :: (cs.drop 8).take 4 ++ '-' :: (cs.drop 12).take 4 ++
    '-' :: (cs.drop 16).take 4 ++ '-' :: cs.drop 20

def shown (u : Uuid) : String := String.ofList u.hyphenated

/-- A random part from random numbers, one for each digit. Two places tell that it is random. -/
def ofRandom (digit : Nat → Nat) : Uuid :=
  { digits := (List.range 32).map fun i =>
      Fin.ofNat 16 (if i = 12 then 4 else if i = 16 then 8 + digit i % 4 else digit i)
    size := by simp }

theorem hyphenated_length (u : Uuid) : u.hyphenated.length = 36 := by
  simp [hyphenated, u.size]

end Uuid

/-! ## New ids -/

/-- The id of a prefix and a random part. -/
def newId (idPrefix : String) (u : Uuid) : String := idPrefix ++ "-" ++ u.shown

/-- What has to hold before a random part is drawn. -/
def IdRules.checkPrefix (rules : IdRules) (project idPrefix : String) : Except Fault ProjectId :=
  match ProjectId.ofText project with
  | .error fault => .error (.argument (.name fault))
  | .ok project =>
    if idPrefix.isEmpty then .error (.argument .emptyIdPrefix)
    else if !rules.accepts idPrefix then
      .error (.argument (.prefixMismatch idPrefix rules.source))
    else .ok project

/-- A reference to a new job of a project, with the random part `u`. -/
def IdRules.generate (rules : IdRules) (project idPrefix : String) (u : Uuid) :
    Except Fault JobReference :=
  match rules.checkPrefix project idPrefix with
  | .error fault => .error fault
  | .ok project =>
    let id := newId idPrefix u
    if rules.maxLength.toNat < id.length then
      .error (.argument (.idTooLong id id.length rules.maxLength.toNat))
    else if !rules.accepts id then .error (.argument (.idMismatch id rules.source))
    else .ok { project, id := ⟨id⟩ }

end WarehouseJobs

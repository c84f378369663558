-- Patterns as they are understood: what one character may be, where one stands, and how
-- patterns follow, replace and repeat each other.

namespace WarehouseJobs.Regex

/-- What one character may be. -/
abbrev CharSet := Char → Bool

/-- Conditions on a place between two characters. -/
inductive Condition where
  | textStart
  | textEnd
  /-- Line ends are line feeds. -/
  | lineStart
  | lineEnd
  /-- Line ends are line feeds, carriage returns, or both in a row. -/
  | lineStartAny
  | lineEndAny
  /-- The conditions on words depend on what counts as a character of a word. -/
  | wordBoundary (inWord : CharSet)
  | noWordBoundary (inWord : CharSet)
  | wordStart (inWord : CharSet)
  | wordEnd (inWord : CharSet)
  | wordStartHalf (inWord : CharSet)
  | wordEndHalf (inWord : CharSet)

/-- A pattern. `weight` is about what the set of a character costs in bytes once it is
compiled; patterns that would cost too much are refused. -/
inductive Pattern where
  | empty
  | char (set : CharSet) (weight : Nat)
  | condition (c : Condition)
  | group (inner : Pattern)
  | sequence (parts : List Pattern)
  | choice (branches : List Pattern)
  | repeated (least : Nat) (most : Option Nat) (inner : Pattern)

namespace Pattern

/-- What patterns may cost together: ten mebibytes. -/
def weightLimit : Nat := 10 * Nat.pow 2 20

/-- What one state costs. -/
def stateWeight : Nat := 32

mutual

def weight : Pattern → Nat
  | .empty => stateWeight
  | .char _ weight => weight
  | .condition _ => stateWeight
  | .group inner => inner.weight + 2 * stateWeight
  | .sequence parts => weightOf parts
  | .choice branches => weightOf branches + stateWeight
  | .repeated least most inner =>
    match most with
    | none => max 1 least * inner.weight + stateWeight
    | some most => most * inner.weight + (most - least) * stateWeight

def weightOf : List Pattern → Nat
  | [] => 0
  | p :: ps => p.weight + weightOf ps

end

/-- How deep patterns may be nested. -/
def depthLimit : Nat := 250

mutual

def depth : Pattern → Nat
  | .empty | .char .. | .condition _ => 0
  | .group inner => inner.depth + 1
  | .sequence parts => depthOf parts + 1
  | .choice branches => depthOf branches + 1
  | .repeated _ _ inner => inner.depth + 1

def depthOf : List Pattern → Nat
  | [] => 0
  | p :: ps => max p.depth (depthOf ps)

end

/-- One pattern after the other. -/
def inSequence : List Pattern → Pattern
  | [] => .empty
  | [p] => p
  | ps => .sequence ps

/-- One pattern or another. -/
def oneOf : List Pattern → Pattern
  | [p] => p
  | ps => .choice ps

end Pattern
end WarehouseJobs.Regex

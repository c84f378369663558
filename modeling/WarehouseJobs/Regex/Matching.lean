-- Where a pattern ends. From a set of places in a text, a pattern leads to the set of places
-- where it may end; it matches if it leads from some place to any.
import WarehouseJobs.Regex.Pattern

namespace WarehouseJobs.Regex

/-- A text with its characters by place. -/
abbrev Subject := Array Char

/-- The places in rising order that `p` holds for. -/
def placesWhere (text : Subject) (p : Nat → Bool) : List Nat :=
  (List.range (text.size + 1)).filter p

/-! ## Conditions -/

def before? (text : Subject) (i : Nat) : Option Char := if i = 0 then none else text[i - 1]?

def after? (text : Subject) (i : Nat) : Option Char := text[i]?

def wordBefore (inWord : CharSet) (text : Subject) (i : Nat) : Bool := (before? text i).any inWord

def wordAfter (inWord : CharSet) (text : Subject) (i : Nat) : Bool := (after? text i).any inWord

def Condition.holds (text : Subject) (i : Nat) : Condition → Bool
  | .textStart => i = 0
  | .textEnd => i = text.size
  | .lineStart => i = 0 || before? text i = some '\n'
  | .lineEnd => i = text.size || after? text i = some '\n'
  | .lineStartAny =>
    i = 0 || before? text i = some '\n' ||
      (before? text i = some '\r' && after? text i ≠ some '\n')
  | .lineEndAny =>
    i = text.size || after? text i = some '\r' ||
      (after? text i = some '\n' && before? text i ≠ some '\r')
  | .wordBoundary w => wordBefore w text i != wordAfter w text i
  | .noWordBoundary w => wordBefore w text i == wordAfter w text i
  | .wordStart w => !wordBefore w text i && wordAfter w text i
  | .wordEnd w => wordBefore w text i && !wordAfter w text i
  | .wordStartHalf w => !wordBefore w text i
  | .wordEndHalf w => !wordAfter w text i

/-! ## Repetition -/

/-- A set of places as a table: whether each place is in it. -/
abbrev Places := Array Bool

/-- The places of a list, each once, in rising order. -/
def distinct (text : Subject) (ps : List Nat) : List Nat :=
  let table : Places := ps.foldl (fun t i => t.setIfInBounds i true) (Array.replicate (text.size + 1) false)
  placesWhere text fun i => table.getD i false

/-- Takes a step `count` times. -/
def iterate (step : List Nat → List Nat) : Nat → List Nat → List Nat
  | 0, ps => ps
  | n + 1, ps => if ps.isEmpty then [] else iterate step n (step ps)

/-- All places on the way of at most `rounds` steps: `seen` already, and `fresh` from the
last step. -/
def reach (text : Subject) (step : List Nat → List Nat) : Nat → (seen fresh : List Nat) → List Nat
  | 0, seen, _ => seen
  | n + 1, seen, fresh =>
    let table : Places :=
      seen.foldl (fun t i => t.setIfInBounds i true) (Array.replicate (text.size + 1) false)
    let fresh := (step fresh).filter fun i => !table.getD i false
    if fresh.isEmpty then seen else reach text step n (distinct text (seen ++ fresh)) fresh

/-! ## Patterns -/

mutual

/-- The places where a pattern may end that starts at one of the places `ps`. More rounds
than places bring nothing new. -/
def ends (text : Subject) : Pattern → List Nat → List Nat
  | .empty, ps => ps
  | .char set _, ps => (ps.filter fun i => (after? text i).any set).map (· + 1)
  | .condition c, ps => ps.filter fun i => c.holds text i
  | .group inner, ps => ends text inner ps
  | .sequence parts, ps => endsInTurn text parts ps
  | .choice branches, ps => distinct text (endsOfAny text branches ps)
  | .repeated least most inner, ps =>
    let rounds := text.size + 1
    let start := iterate (ends text inner) (min least rounds) ps
    match most with
    | none => reach text (ends text inner) rounds start start
    | some most => reach text (ends text inner) (min (most - least) rounds) start start

def endsInTurn (text : Subject) : List Pattern → List Nat → List Nat
  | [], ps => ps
  | p :: rest, ps => endsInTurn text rest (ends text p ps)

def endsOfAny (text : Subject) : List Pattern → List Nat → List Nat
  | [], _ => []
  | p :: rest, ps => ends text p ps ++ endsOfAny text rest ps

end

/-- Whether a pattern matches anywhere in a text. -/
def Pattern.isIn (p : Pattern) (s : String) : Bool :=
  let text := s.toList.toArray
  !(ends text p (List.range (text.size + 1))).isEmpty

end WarehouseJobs.Regex

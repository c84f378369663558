-- Patterns that do not tell some characters apart. Two texts that differ in such characters
-- only have the same matches: from the same places a pattern leads to the same places, since
-- nothing that looks at a character can see the difference.
import Mathlib.Data.List.Forall2
import WarehouseJobs.Regex.Matching

namespace WarehouseJobs.Regex

/-- Some characters that count as alike. The ends of lines are not among them, since a
condition on a line asks for them by name. -/
structure Likeness where
  chars : List Char
  lineFeed : '\n' ∉ chars
  carriageReturn : '\r' ∉ chars

def Likeness.Like (l : Likeness) (a b : Char) : Prop := a = b ∨ a ∈ l.chars ∧ b ∈ l.chars

theorem Likeness.like_refl (l : Likeness) (a : Char) : l.Like a a := .inl rfl

/-- Like characters are the same character wherever one is asked for that has no like. -/
theorem Likeness.eq_iff {l : Likeness} {a b c : Char} (hc : c ∉ l.chars) (h : l.Like a b) :
    a = c ↔ b = c := by
  rcases h with rfl | ⟨ha, hb⟩
  · rfl
  · constructor
    · rintro rfl
      exact absurd ha hc
    · rintro rfl
      exact absurd hb hc

/-! ## What does not tell them apart -/

def CharSet.ignores (l : Likeness) (set : CharSet) : Bool :=
  l.chars.all fun a => l.chars.all fun b => set a == set b

/-- Only the conditions on words have a set of their own. -/
def Condition.ignores (l : Likeness) : Condition → Bool
  | .textStart | .textEnd | .lineStart | .lineEnd | .lineStartAny | .lineEndAny => true
  | .wordBoundary w | .noWordBoundary w | .wordStart w | .wordEnd w | .wordStartHalf w
  | .wordEndHalf w => CharSet.ignores l w

mutual

def Pattern.ignores (l : Likeness) : Pattern → Bool
  | .empty => true
  | .char set _ => CharSet.ignores l set
  | .condition c => c.ignores l
  | .group inner => inner.ignores l
  | .sequence parts => allIgnore l parts
  | .choice branches => allIgnore l branches
  | .repeated _ _ inner => inner.ignores l

def allIgnore (l : Likeness) : List Pattern → Bool
  | [] => true
  | p :: ps => p.ignores l && allIgnore l ps

end

theorem CharSet.eq_of_ignores {l : Likeness} {set : CharSet} (hset : CharSet.ignores l set = true)
    {a b : Char} (h : l.Like a b) : set a = set b := by
  rcases h with rfl | ⟨ha, hb⟩
  · rfl
  · have hall := List.all_eq_true.mp (List.all_eq_true.mp hset a ha) b hb
    exact beq_iff_eq.mp hall

/-! ## Texts that are alike -/

/-- Texts of one length, alike in every place. -/
structure Likeness.Alike (l : Likeness) (s t : Subject) : Prop where
  size : s.size = t.size
  place : ∀ i : Nat, Option.Rel l.Like s[i]? t[i]?

variable {l : Likeness} {s t : Subject}

theorem Likeness.Alike.after (h : l.Alike s t) (i : Nat) :
    Option.Rel l.Like (after? s i) (after? t i) := h.place i

theorem Likeness.Alike.before (h : l.Alike s t) (i : Nat) :
    Option.Rel l.Like (before? s i) (before? t i) := by
  unfold before?
  split
  · exact .none
  · exact h.place (i - 1)

theorem any_eq_of_rel {set : CharSet} (hset : CharSet.ignores l set = true) {a b : Option Char}
    (h : Option.Rel l.Like a b) : a.any set = b.any set := by
  cases h with
  | some h => exact CharSet.eq_of_ignores hset h
  | none => rfl

theorem some_iff_of_rel {c : Char} (hc : c ∉ l.chars) {a b : Option Char}
    (h : Option.Rel l.Like a b) : a = some c ↔ b = some c := by
  cases h with
  | some h => simpa using Likeness.eq_iff hc h
  | none => rfl

/-! ## The same places -/

theorem Condition.holds_eq (h : l.Alike s t) {c : Condition} (hc : c.ignores l = true) (i : Nat) :
    c.holds s i = c.holds t i := by
  have hfeedBefore := some_iff_of_rel l.lineFeed (h.before i)
  have hfeedAfter := some_iff_of_rel l.lineFeed (h.after i)
  have hreturnBefore := some_iff_of_rel l.carriageReturn (h.before i)
  have hreturnAfter := some_iff_of_rel l.carriageReturn (h.after i)
  cases c with
  | textStart => rfl
  | textEnd => simp only [holds, h.size]
  | lineStart => simp only [holds, hfeedBefore]
  | lineEnd => simp only [holds, h.size, hfeedAfter]
  | lineStartAny => simp only [holds, ne_eq, hfeedBefore, hreturnBefore, hfeedAfter]
  | lineEndAny => simp only [holds, ne_eq, h.size, hreturnBefore, hreturnAfter, hfeedAfter]
  | wordBoundary w | noWordBoundary w | wordStart w | wordEnd w | wordStartHalf w
  | wordEndHalf w =>
    simp only [holds, wordBefore, wordAfter, any_eq_of_rel hc (h.before i),
      any_eq_of_rel hc (h.after i)]

/-- Which places there are depends on the length of the text alone. -/
theorem distinct_eq (h : s.size = t.size) : distinct s = distinct t := by
  funext ps
  unfold distinct placesWhere
  rw [h]

theorem reach_eq (h : s.size = t.size) (step : List Nat → List Nat) (rounds : Nat)
    (seen fresh : List Nat) : reach s step rounds seen fresh = reach t step rounds seen fresh := by
  induction rounds generalizing seen fresh with
  | zero => rfl
  | succ rounds ih => simp only [reach, h, distinct_eq h, ih]

mutual

/-- A pattern that ignores the difference leads to the same places. -/
theorem ends_eq (h : l.Alike s t) {p : Pattern} (hp : p.ignores l = true) : ends s p = ends t p := by
  funext ps
  cases p with
  | empty => simp only [ends]
  | char set weight =>
    simp only [ends]
    congr 1
    apply List.filter_congr
    intro i _
    exact any_eq_of_rel hp (h.after i)
  | condition c =>
    simp only [ends]
    apply List.filter_congr
    intro i _
    exact Condition.holds_eq h hp i
  | group inner =>
    rw [Pattern.ignores] at hp
    simp only [ends, ends_eq h hp]
  | sequence parts =>
    rw [Pattern.ignores] at hp
    simp only [ends, endsInTurn_eq h hp]
  | choice branches =>
    rw [Pattern.ignores] at hp
    simp only [ends, endsOfAny_eq h hp, distinct_eq h.size]
  | repeated least most inner =>
    rw [Pattern.ignores] at hp
    simp only [ends, ends_eq h hp, h.size]
    cases most with
    | none => exact reach_eq h.size _ _ _ _
    | some most => exact reach_eq h.size _ _ _ _

theorem endsInTurn_eq (h : l.Alike s t) {parts : List Pattern} (hps : allIgnore l parts = true) :
    endsInTurn s parts = endsInTurn t parts := by
  funext ps
  cases parts with
  | nil => simp only [endsInTurn]
  | cons p rest =>
    rw [allIgnore, Bool.and_eq_true] at hps
    simp only [endsInTurn, ends_eq h hps.1, endsInTurn_eq h hps.2]

theorem endsOfAny_eq (h : l.Alike s t) {branches : List Pattern} (hps : allIgnore l branches = true) :
    endsOfAny s branches = endsOfAny t branches := by
  funext ps
  cases branches with
  | nil => simp only [endsOfAny]
  | cons p rest =>
    rw [allIgnore, Bool.and_eq_true] at hps
    simp only [endsOfAny, ends_eq h hps.1, endsOfAny_eq h hps.2]

end

/-! ## The same matches -/

theorem Likeness.alike_of_forall₂ {cs ds : List Char} (h : List.Forall₂ l.Like cs ds) :
    l.Alike cs.toArray ds.toArray := by
  refine ⟨by simpa using h.length_eq, ?_⟩
  intro i
  simp only [List.getElem?_toArray]
  induction h generalizing i with
  | nil => exact .none
  | cons hcd _ ih =>
    cases i with
    | zero => exact .some hcd
    | succ i => simpa using ih i

/-- A pattern that ignores the difference between two texts matches both or neither. -/
theorem isIn_eq {p : Pattern} (hp : p.ignores l = true) {a b : String}
    (h : List.Forall₂ l.Like a.toList b.toList) : p.isIn a = p.isIn b := by
  have halike := Likeness.alike_of_forall₂ h
  unfold Pattern.isIn
  simp only [ends_eq halike hp, halike.size]

end WarehouseJobs.Regex

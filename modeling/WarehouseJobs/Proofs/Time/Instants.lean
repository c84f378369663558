-- Points in time as texts: what is written reads back as the same point in time, as long as it is
-- one that is kept, and goes on over a whole second only at the end of a minute.
import Mathlib.Tactic.SplitIfs
import WarehouseJobs.Proofs.Text.Digits
import WarehouseJobs.Proofs.Time.Calendar
import WarehouseJobs.Time.Instant

namespace WarehouseJobs.Instant

open Text (padded)

/-- A point in time that can be kept. Only the last second of a minute may be a leap second. -/
structure IsProper (t : Instant) : Prop where
  kept : isKept t.seconds = true
  bounded : t.nanos < 2 * 10 ^ 9
  leap : 10 ^ 9 ≤ t.nanos → t.seconds % 60 = 59

variable {ds rest : List Char} {most n : Nat}

/-! ## Digits and marks -/

/-- No digit comes next. -/
def NoDigit (cs : List Char) : Prop := ∀ c ∈ cs.head?, c.isDigit = false

theorem noDigit_cons {c : Char} (h : c.isDigit = false) (cs : List Char) : NoDigit (c :: cs) := by
  intro d hd
  obtain rfl := Option.some.inj hd
  exact h

theorem takeWhile_of_noDigit (h : NoDigit rest) :
    rest.takeWhile (fun c => (Text.digitValue? c).isSome) = [] := by
  cases rest with
  | nil => rfl
  | cons c cs => simp [Text.digitValue?_of_not_isDigit (h c rfl)]

theorem digitsUpTo?_append (hds : ∀ c ∈ ds, c.isDigit = true) (hne : ds ≠ [])
    (hlength : ds.length ≤ most) (hrest : ds.length = most ∨ NoDigit rest) :
    digitsUpTo? most (ds ++ rest) = some (Nat.ofDigitChars 10 ds 0, rest) := by
  have hall : ∀ c ∈ ds, (Text.digitValue? c).isSome = true := fun c hc => by
    rw [Text.digitValue?_of_isDigit (hds c hc)]
    rfl
  have hnone : (rest.take (most - ds.length)).takeWhile
      (fun c => (Text.digitValue? c).isSome) = [] := by
    rcases hrest with hfull | hstop
    · rw [hfull, Nat.sub_self]
      rfl
    · refine takeWhile_of_noDigit fun c hc => hstop c ?_
      cases rest with
      | nil => simp at hc
      | cons d rest =>
        cases hmore : most - ds.length with
        | zero => simp [hmore] at hc
        | succ k => simpa [hmore] using hc
  have hdigits : ((ds ++ rest).take most).takeWhile (fun c => (Text.digitValue? c).isSome) =
      ds := by
    rw [List.take_append, List.take_of_length_le hlength, List.takeWhile_append_of_pos hall, hnone,
      List.append_nil]
  unfold digitsUpTo?
  simp only [hdigits, Text.digits?_of_isDigit hne hds, Option.map_some, List.drop_left]

theorem not_isBlankChar_of_isDigit {c : Char} (h : c.isDigit = true) :
    Text.isBlankChar c = false := by
  simp only [Char.isDigit, Bool.and_eq_true, decide_eq_true_eq] at h
  have hlow : 48 ≤ c.toNat := h.1
  have hhigh : c.toNat ≤ 57 := h.2
  simp only [Text.isBlankChar, Text.isBlankCode, Bool.or_eq_false_iff, Bool.and_eq_false_iff,
    decide_eq_false_iff_not, beq_eq_false_iff_ne]
  omega

theorem trimLeft_cons {c : Char} (h : Text.isBlankChar c = false) (cs : List Char) :
    Text.trimLeft (c :: cs) = c :: cs := List.dropWhile_cons_of_neg (by simp [h])

theorem trimLeft_padded (width n : Nat) (rest : List Char) :
    Text.trimLeft ((padded width n).toList ++ rest) = (padded width n).toList ++ rest := by
  cases hdigits : (padded width n).toList with
  | nil => exact absurd hdigits (Text.padded_ne_nil width n)
  | cons d ds =>
    have hd : d ∈ (padded width n).toList := by simp [hdigits]
    exact trimLeft_cons (not_isBlankChar_of_isDigit (Text.isDigit_of_mem_padded hd)) _

theorem digitsUpTo?_padded {width : Nat} (hlength : (padded width n).toList.length ≤ most)
    (hrest : (padded width n).toList.length = most ∨ NoDigit rest) :
    digitsUpTo? most ((padded width n).toList ++ rest) = some (n, rest) := by
  rw [digitsUpTo?_append (fun c => Text.isDigit_of_mem_padded) (Text.padded_ne_nil width n) hlength
    hrest, Text.ofDigitChars_padded]

theorem short?_padded (hn : n < 100) (rest : List Char) :
    short? ((padded 2 n).toList ++ rest) = some (n, rest) := by
  have hlength : (padded 2 n).toList.length = 2 := Text.length_padded (by decide) hn
  rw [short?, trimLeft_padded]
  exact digitsUpTo?_padded (Nat.le_of_eq hlength) (.inl hlength)

theorem behind?_cons {mark : Char} (h : Text.isBlankChar mark = false) (rest : List Char) :
    behind? mark (mark :: rest) = some rest := by
  rw [behind?, trimLeft_cons h]
  exact if_pos rfl

/-! ## The date -/

theorem year?_plus (rest : List Char) :
    year? ('+' :: rest) =
      (digitsUpTo? rest.length rest).map fun (n, rest) => ((n : Int), rest) := by
  rw [year?, trimLeft_cons rfl]
  rfl

theorem year?_minus (rest : List Char) : year? ('-' :: rest) =
    (digitsUpTo? rest.length rest).map fun (n, rest) => (-(n : Int), rest) := by
  rw [year?, trimLeft_cons rfl]
  rfl

theorem year?_padded (hlength : (padded 4 n).toList.length = 4) (rest : List Char) :
    year? ((padded 4 n).toList ++ rest) = some ((n : Int), rest) := by
  have hread : digitsUpTo? 4 ((padded 4 n).toList ++ rest) = some (n, rest) :=
    digitsUpTo?_padded (Nat.le_of_eq hlength) (.inl hlength)
  have hdigit : ∀ c ∈ (padded 4 n).toList, c.isDigit = true := fun c =>
    Text.isDigit_of_mem_padded
  rw [year?, trimLeft_padded]
  cases hdigits : (padded 4 n).toList with
  | nil => exact absurd hdigits (Text.padded_ne_nil 4 n)
  | cons d ds =>
    have hd : d.isDigit = true := hdigit d (by simp [hdigits])
    rw [hdigits] at hread
    split
    · rename_i heq
      obtain rfl := (List.cons.inj heq).1
      cases hd
    · rename_i heq
      obtain rfl := (List.cons.inj heq).1
      cases hd
    · rw [hread]
      rfl

theorem year?_yearShown (year : Int) (rest : List Char) :
    year? ((yearShown year).toList ++ '-' :: rest) = some (year, '-' :: rest) := by
  have hsigned : ∀ n : Nat, digitsUpTo? ((padded 4 n).toList ++ '-' :: rest).length
      ((padded 4 n).toList ++ '-' :: rest) = some (n, '-' :: rest) := fun n =>
    digitsUpTo?_padded (by simp) (.inr (noDigit_cons rfl rest))
  unfold yearShown
  split_ifs with hfour hlate
  · rw [year?_padded (Text.length_padded (by decide) (by omega)), Int.toNat_of_nonneg hfour.1]
  · have hplus : ("+" ++ padded 4 year.toNat).toList = '+' :: (padded 4 year.toNat).toList :=
      String.toList_append
    rw [hplus, List.cons_append, year?_plus, hsigned]
    simp only [Option.map_some, Int.toNat_of_nonneg hlate]
  · have hminus : ("-" ++ padded 4 year.natAbs).toList = '-' :: (padded 4 year.natAbs).toList :=
      String.toList_append
    have hyear : -(year.natAbs : Int) = year := by omega
    rw [hminus, List.cons_append, year?_minus, hsigned]
    simp only [Option.map_some, hyear]

theorem date?_shown {date : Date} (hreal : date.isReal = true) (rest : List Char) :
    date? ((yearShown date.year).toList ++ '-' :: ((padded 2 date.month).toList ++
      '-' :: ((padded 2 date.day).toList ++ rest))) = some (date, rest) := by
  have hbounds : date.month < 100 ∧ date.day < 100 := by
    simp only [Date.isReal, Bool.and_eq_true, decide_eq_true_eq] at hreal
    obtain ⟨⟨⟨-, hmonth⟩, -⟩, hday⟩ := hreal
    have hdays : Date.daysInMonth date.year date.month ≤ 31 := by
      unfold Date.daysInMonth
      split_ifs <;> decide
    omega
  have hmark : ∀ rest, behind? '-' ('-' :: rest) = some rest := fun rest => behind?_cons rfl rest
  unfold date?
  simp only [year?_yearShown, hmark, short?_padded hbounds.1, short?_padded hbounds.2,
    Option.bind_eq_bind, Option.bind_some, hreal, if_true]

/-! ## The time -/

theorem fraction?_point {width : Nat} (hwidth : 0 < width) (hmost : width ≤ 9)
    (hn : n < 10 ^ width) (hrest : NoDigit rest) :
    fraction? ('.' :: ((padded width n).toList ++ rest)) =
      some (n * 10 ^ (9 - width), rest) := by
  have hlength := Text.length_padded hwidth hn
  have hskip : rest.dropWhile (fun c => (Text.digitValue? c).isSome) = rest := by
    have hsplit := List.takeWhile_append_dropWhile
      (p := fun c => (Text.digitValue? c).isSome) (l := rest)
    rwa [takeWhile_of_noDigit hrest, List.nil_append] at hsplit
  have hplaces : ((padded width n).toList ++ rest).length - rest.length = width := by
    rw [List.length_append, hlength, Nat.add_sub_cancel]
  rw [fraction?, digitsUpTo?_padded (by omega) (.inr hrest)]
  simp only [Option.map_some, hskip, hplaces]
  rfl

/-- What stands behind a time is neither a digit nor a point. -/
theorem fraction?_shown (hn : n < 10 ^ 9) (rest : List Char) :
    fraction? ((fractionShown n).toList ++ 'Z' :: rest) = some (n, 'Z' :: rest) := by
  have hrest : NoDigit ('Z' :: rest) := noDigit_cons rfl rest
  have hpoint : ∀ s : String, ("." ++ s).toList = '.' :: s.toList := fun s =>
    String.toList_append
  unfold fractionShown
  split_ifs with hnone hmillis hmicros
  · rw [hnone]
    rfl
  · rw [hpoint, List.cons_append, fraction?_point (by decide) (by decide) (by omega) hrest]
    congr 2
    omega
  · rw [hpoint, List.cons_append, fraction?_point (by decide) (by decide) (by omega) hrest]
    congr 2
    omega
  · rw [hpoint, List.cons_append, fraction?_point (by decide) (by decide) hn hrest]
    congr 2
    omega

/-- A second that goes on over its end is written as the sixtieth one. -/
theorem time?_shown {inDay nanos : Nat} (hday : inDay < 86400) (hnanos : nanos < 2 * 10 ^ 9)
    (hleap : 10 ^ 9 ≤ nanos → inDay % 60 = 59) (rest : List Char) :
    time? ((padded 2 (inDay / 3600)).toList ++ ':' :: ((padded 2 (inDay / 60 % 60)).toList ++
      ':' :: ((padded 2 (inDay % 60 + nanos / 10 ^ 9)).toList ++
        ((fractionShown (nanos % 10 ^ 9)).toList ++ 'Z' :: rest)))) =
      some (inDay, nanos, 'Z' :: rest) := by
  have hsecond : inDay % 60 + nanos / 10 ^ 9 ≤ 60 := by omega
  have hmark : ∀ rest, behind? ':' (':' :: rest) = some rest := fun rest => behind?_cons rfl rest
  unfold time?
  simp only [short?_padded (show inDay / 3600 < 100 by omega), hmark,
    short?_padded (show inDay / 60 % 60 < 100 by omega),
    short?_padded (show inDay % 60 + nanos / 10 ^ 9 < 100 by omega),
    fraction?_shown (Nat.mod_lt nanos (show 10 ^ 9 > 0 by decide)), Option.bind_eq_bind,
    Option.bind_some]
  rw [if_pos ⟨by omega, by omega, hsecond⟩]
  split
  · congr 2
    · omega
    · congr 1
      omega
  · congr 2
    · omega
    · congr 1
      omega

/-! ## The whole text -/

theorem toList_shown (t : Instant) : t.shown.toList =
    (yearShown (Date.ofDays (t.seconds / 86400)).year).toList ++
      '-' :: ((padded 2 (Date.ofDays (t.seconds / 86400)).month).toList ++
      '-' :: ((padded 2 (Date.ofDays (t.seconds / 86400)).day).toList ++
      'T' :: ((padded 2 ((t.seconds % 86400).toNat / 3600)).toList ++
      ':' :: ((padded 2 ((t.seconds % 86400).toNat / 60 % 60)).toList ++
      ':' :: ((padded 2 ((t.seconds % 86400).toNat % 60 + t.nanos / 10 ^ 9)).toList ++
        ((fractionShown (t.nanos % 10 ^ 9)).toList ++ ['Z'])))))) := by
  have hdash : "-".toList = ['-'] := rfl
  have hcolon : ":".toList = [':'] := rfl
  have htime : "T".toList = ['T'] := rfl
  have hzone : "Z".toList = ['Z'] := rfl
  simp only [shown, localShown, dayShown, hourShown, String.toList_append, List.append_assoc,
    hdash, hcolon, htime, hzone, List.cons_append, List.nil_append]
  rfl

/-- A point in time that is written reads back as it was. -/
theorem ofText?_shown {t : Instant} (ht : t.IsProper) : ofText? t.shown = some t := by
  have hday : (t.seconds % 86400).toNat < 86400 := by omega
  have hleap : 10 ^ 9 ≤ t.nanos → (t.seconds % 86400).toNat % 60 = 59 := fun h => by
    have := ht.leap h
    omega
  have hhere : (Date.ofDays (t.seconds / 86400)).toDays * 86400 +
      ((t.seconds % 86400).toNat : Int) = t.seconds := by
    rw [Date.toDays_ofDays]
    omega
  have hzone : zone? (Text.trimLeft ['Z']) = some (0, []) := rfl
  unfold ofText?
  rw [toList_shown]
  simp only [date?_shown (Date.isReal_ofDays _), Option.bind_eq_bind, Option.bind_some, true_or,
    if_true, time?_shown hday ht.bounded hleap, hzone, hhere, Int.sub_zero]
  exact if_pos ⟨rfl, by decide, ht.kept, ht.kept⟩

end WarehouseJobs.Instant

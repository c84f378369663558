-- Cutting a text: white space at its ends, at the places of one character, and into its lines.

namespace WarehouseJobs.Text

/-! ## White space

White space of every script counts, not only of ASCII: a text of white space alone is blank
wherever a name is asked for. -/

/-- The code points with the Unicode property White_Space. -/
def isBlankCode (n : Nat) : Bool :=
  (9 ≤ n && n ≤ 13) || n == 0x20 || n == 0x85 || n == 0xA0 || n == 0x1680 ||
  (0x2000 ≤ n && n ≤ 0x200A) || n == 0x2028 || n == 0x2029 || n == 0x202F ||
  n == 0x205F || n == 0x3000

def isBlankChar (c : Char) : Bool := isBlankCode c.toNat

/-- A text is blank when nothing but white space is in it; the empty text is blank. -/
def isBlank (s : String) : Bool := s.toList.all isBlankChar

/-- Drops the white space in front of the first other character. -/
def trimLeft (cs : List Char) : List Char := cs.dropWhile isBlankChar

/-- Drops the characters at the end for which `p` holds. -/
def dropEndWhile (p : Char → Bool) (cs : List Char) : List Char :=
  (cs.reverse.dropWhile p).reverse

def trim (cs : List Char) : List Char := dropEndWhile isBlankChar (trimLeft cs)

/-! ## Cuts -/

/-- The parts before and after the first `c`; nothing if there is no `c`. -/
def splitFirst (c : Char) : List Char → Option (List Char × List Char)
  | [] => none
  | x :: xs =>
    if x = c then some ([], xs)
    else (splitFirst c xs).map fun (before, after) => (x :: before, after)

/-- The parts before and after the last `c`; nothing if there is no `c`. -/
def splitLast (c : Char) : List Char → Option (List Char × List Char)
  | [] => none
  | x :: xs =>
    match splitLast c xs with
    | some (before, after) => some (x :: before, after)
    | none => if x = c then some ([], xs) else none

/-- The parts between all the `c`; always one part more than there are `c`. -/
def splitAll (c : Char) : List Char → List (List Char)
  | [] => [[]]
  | x :: xs =>
    if x = c then [] :: splitAll c xs
    else
      match splitAll c xs with
      | [] => [[x]]
      | part :: parts => (x :: part) :: parts

/-- The rest of the text behind `lead`, if the text starts with it. -/
def dropLead? : List Char → List Char → Option (List Char)
  | [], rest => some rest
  | _ :: _, [] => none
  | x :: lead, y :: rest => if x = y then dropLead? lead rest else none

/-- The parts before and after the first place where `needle` stands. -/
def splitAtText (needle : List Char) : List Char → Option (List Char × List Char)
  | [] => (dropLead? needle []).map fun rest => ([], rest)
  | x :: xs =>
    match dropLead? needle (x :: xs) with
    | some rest => some ([], rest)
    | none => (splitAtText needle xs).map fun (before, after) => (x :: before, after)

/-- Puts `value` for every `needle`, from left to right; what was put in is not looked at
again. `skip` counts the characters that still belong to the last needle. -/
def replaceFrom (needle value : List Char) : Nat → List Char → List Char
  | _, [] => []
  | skip + 1, _ :: rest => replaceFrom needle value skip rest
  | 0, c :: rest =>
    match needle with
    | [] => c :: replaceFrom needle value 0 rest
    | _ :: later =>
      if needle.isPrefixOf (c :: rest) then value ++ replaceFrom needle value later.length rest
      else c :: replaceFrom needle value 0 rest

def replaceAll (needle value text : List Char) : List Char := replaceFrom needle value 0 text

/-! ## Lines

A line feed ends a line, or a carriage return with one. -/

/-- A line without the carriage return at its end. -/
def dropReturn (line : List Char) : List Char :=
  match line.reverse with
  | '\r' :: before => before.reverse
  | _ => line

/-- Every line that a line feed ends, and a last one without, if it is not empty. -/
def lines (cs : List Char) : List (List Char) :=
  let parts := splitAll '\n' cs
  parts.dropLast.map dropReturn ++
    match parts.getLast? with
    | some (c :: rest) => [c :: rest]
    | _ => []

/-! ## Small laws -/

/-- A cut at the first `c` loses nothing, and there is no `c` in front of it. -/
theorem splitFirst_eq_some {c : Char} {cs before after : List Char}
    (h : splitFirst c cs = some (before, after)) :
    cs = before ++ c :: after ∧ c ∉ before := by
  induction cs generalizing before after with
  | nil => simp [splitFirst] at h
  | cons x xs ih =>
    simp only [splitFirst] at h
    split at h
    · rename_i hx
      simp only [Option.some.injEq, Prod.mk.injEq] at h
      obtain ⟨rfl, rfl⟩ := h
      simp [hx]
    · rename_i hx
      obtain ⟨⟨b, a⟩, hb, hp⟩ := Option.map_eq_some_iff.1 h
      simp only [Prod.mk.injEq] at hp
      obtain ⟨rfl, rfl⟩ := hp
      obtain ⟨rfl, hn⟩ := ih hb
      exact ⟨rfl, by simp [hn, Ne.symm hx]⟩

theorem splitFirst_eq_none_iff {c : Char} {cs : List Char} :
    splitFirst c cs = none ↔ c ∉ cs := by
  induction cs with
  | nil => simp [splitFirst]
  | cons x xs ih =>
    simp only [splitFirst]
    split
    · rename_i hx; simp [hx]
    · rename_i hx; simp [ih, Ne.symm hx]

theorem splitFirst_append {c : Char} {before : List Char} (after : List Char)
    (h : c ∉ before) : splitFirst c (before ++ c :: after) = some (before, after) := by
  induction before with
  | nil => simp [splitFirst]
  | cons x xs ih =>
    simp only [List.mem_cons, not_or] at h
    simp [splitFirst, Ne.symm h.1, ih h.2]

theorem splitLast_eq_none_iff {c : Char} {cs : List Char} :
    splitLast c cs = none ↔ c ∉ cs := by
  induction cs with
  | nil => simp [splitLast]
  | cons x xs ih =>
    simp only [splitLast]
    cases h : splitLast c xs with
    | some p =>
      have : c ∈ xs := by
        apply Classical.byContradiction
        intro hn
        simp [ih.2 hn] at h
      simp [this]
    | none =>
      have hn := ih.1 h
      by_cases hx : x = c
      · simp [hx]
      · simp [hx, hn, Ne.symm hx]

/-- A cut at the last `c` loses nothing, and there is no `c` behind it. -/
theorem splitLast_eq_some {c : Char} {cs before after : List Char}
    (h : splitLast c cs = some (before, after)) :
    cs = before ++ c :: after ∧ c ∉ after := by
  induction cs generalizing before after with
  | nil => simp [splitLast] at h
  | cons x xs ih =>
    simp only [splitLast] at h
    cases hl : splitLast c xs with
    | some p =>
      obtain ⟨b, a⟩ := p
      simp only [hl, Option.some.injEq, Prod.mk.injEq] at h
      obtain ⟨rfl, rfl⟩ := h
      obtain ⟨rfl, hn⟩ := ih hl
      exact ⟨rfl, hn⟩
    | none =>
      simp only [hl] at h
      split at h
      · rename_i hx
        simp only [Option.some.injEq, Prod.mk.injEq] at h
        obtain ⟨rfl, rfl⟩ := h
        exact ⟨by simp [hx], splitLast_eq_none_iff.1 hl⟩
      · simp at h

theorem splitAll_ne_nil (c : Char) (cs : List Char) : splitAll c cs ≠ [] := by
  cases cs with
  | nil => simp [splitAll]
  | cons x xs =>
    simp only [splitAll]
    split
    · simp
    · split <;> simp

theorem splitLast_append {c : Char} (before : List Char) {after : List Char} (h : c ∉ after) :
    splitLast c (before ++ c :: after) = some (before, after) := by
  induction before with
  | nil => simp [splitLast, splitLast_eq_none_iff.2 h]
  | cons x xs ih => simp [splitLast, ih]

theorem splitAll_of_not_mem {c : Char} {cs : List Char} (h : c ∉ cs) : splitAll c cs = [cs] := by
  induction cs with
  | nil => rfl
  | cons x xs ih =>
    simp only [List.mem_cons, not_or] at h
    simp [splitAll, Ne.symm h.1, ih h.2]

theorem splitAll_append {c : Char} {before : List Char} (after : List Char) (h : c ∉ before) :
    splitAll c (before ++ c :: after) = before :: splitAll c after := by
  induction before with
  | nil => simp [splitAll]
  | cons x xs ih =>
    simp only [List.mem_cons, not_or] at h
    simp [splitAll, Ne.symm h.1, ih h.2]

/-- The first part ends at the first `c`, and the other parts are those behind it. -/
theorem splitAll_eq_cons {c : Char} {cs part next : List Char} {parts : List (List Char)}
    (h : splitAll c cs = part :: next :: parts) :
    ∃ rest, cs = part ++ c :: rest ∧ c ∉ part ∧ splitAll c rest = next :: parts := by
  cases hfirst : splitFirst c cs with
  | none =>
    rw [splitAll_of_not_mem (splitFirst_eq_none_iff.1 hfirst)] at h
    simp at h
  | some cut =>
    obtain ⟨before, after⟩ := cut
    obtain ⟨rfl, hbefore⟩ := splitFirst_eq_some hfirst
    rw [splitAll_append after hbefore] at h
    obtain ⟨rfl, hrest⟩ := List.cons.inj h
    exact ⟨after, rfl, hbefore, hrest⟩

theorem splitAll_eq_singleton {c : Char} {cs part : List Char} (h : splitAll c cs = [part]) :
    cs = part ∧ c ∉ part := by
  cases hfirst : splitFirst c cs with
  | none =>
    have hcs := splitFirst_eq_none_iff.1 hfirst
    rw [splitAll_of_not_mem hcs] at h
    obtain ⟨rfl, -⟩ := List.cons.inj h
    exact ⟨rfl, hcs⟩
  | some cut =>
    obtain ⟨before, after⟩ := cut
    obtain ⟨rfl, hbefore⟩ := splitFirst_eq_some hfirst
    rw [splitAll_append after hbefore] at h
    exact absurd (List.cons.inj h).2 (splitAll_ne_nil c after)

/-- There is one part more than there are `c`. -/
theorem length_splitAll (c : Char) (cs : List Char) :
    (splitAll c cs).length = cs.count c + 1 := by
  induction cs with
  | nil => rfl
  | cons x xs ih =>
    by_cases hx : x = c
    · simp [splitAll, hx, ih]
    · have hcount : (x :: xs).count c = xs.count c := List.count_cons_of_ne hx
      rw [hcount, ← ih]
      simp only [splitAll, if_neg hx]
      split
      · rename_i hnil
        exact absurd hnil (splitAll_ne_nil c xs)
      · rename_i hparts
        rw [hparts]
        rfl

end WarehouseJobs.Text

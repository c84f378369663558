-- A line cut at its placeholders. Putting in the value of one variable touches the pieces that
-- stand for this variable, and no others; so a line goes from piece to piece, by the induction
-- below, and no place in the middle of a placeholder is ever looked at.
import Mathlib.Data.List.TakeDrop
import WarehouseJobs.Settings.Environment

namespace WarehouseJobs

/-! ## Replacing -/

namespace Text

variable {needle value : List Char}

theorem replaceFrom_drop (needle value : List Char) (skip : Nat) (cs : List Char) :
    replaceFrom needle value skip cs = replaceFrom needle value 0 (cs.drop skip) := by
  induction cs generalizing skip with
  | nil => simp [replaceFrom]
  | cons c cs ih =>
    cases skip with
    | zero => rfl
    | succ skip => rw [replaceFrom, List.drop_succ_cons, ih skip]

@[simp] theorem replaceAll_nil : replaceAll needle value [] = [] := by
  simp [replaceAll, replaceFrom]

theorem replaceAll_needle (hneedle : needle ≠ []) (rest : List Char) :
    replaceAll needle value (needle ++ rest) = value ++ replaceAll needle value rest := by
  obtain ⟨first, later, rfl⟩ := List.exists_cons_of_ne_nil hneedle
  have hprefix : (first :: later).isPrefixOf (first :: (later ++ rest)) = true := by
    rw [List.isPrefixOf_iff_prefix]
    exact List.prefix_append (first :: later) rest
  unfold replaceAll
  rw [List.cons_append, replaceFrom]
  rw [if_pos hprefix, replaceFrom_drop, List.drop_left]

theorem replaceAll_cons {c : Char} {rest : List Char} (h : ¬ needle <+: c :: rest) :
    replaceAll needle value (c :: rest) = c :: replaceAll needle value rest := by
  cases needle with
  | nil => rfl
  | cons first later =>
    have hprefix : ¬ (first :: later).isPrefixOf (c :: rest) = true := by
      rw [List.isPrefixOf_iff_prefix]
      exact h
    unfold replaceAll
    rw [replaceFrom, if_neg hprefix]

/-- A text without the first character of the needle stays as it is. -/
theorem replaceAll_append {first : Char} {later before : List Char} (h : first ∉ before)
    (rest : List Char) :
    replaceAll (first :: later) value (before ++ rest) =
      before ++ replaceAll (first :: later) value rest := by
  induction before with
  | nil => rfl
  | cons c before ih =>
    rw [List.mem_cons, not_or] at h
    have hprefix : ¬ first :: later <+: c :: (before ++ rest) := by
      rw [List.cons_prefix_cons]
      exact fun hp => h.1 hp.1
    rw [List.cons_append, replaceAll_cons hprefix, ih h.2, List.cons_append]

end Text

namespace Substitution

/-! ## Names -/

/-- A text that can be the name of a placeholder. -/
structure IsName (name : List Char) : Prop where
  start : ∃ first later, name = first :: later ∧ isNameStart first = true
  chars : ∀ c ∈ name, isNameChar c = true

variable {name rest line : List Char} {c : Char}

theorem IsName.not_mem (h : IsName name) (hc : isNameChar c = false) : c ∉ name := by
  intro hmem
  rw [h.chars c hmem] at hc
  cases hc

theorem IsName.no_dollar (h : IsName name) : '$' ∉ name := h.not_mem (by decide)

theorem nameAt?_eq_some_iff :
    nameAt? line = some name ↔ IsName name ∧ ∃ rest, line = name ++ '\x7d' :: rest := by
  unfold nameAt?
  rw [List.span_eq_takeWhile_dropWhile]
  constructor
  · intro h
    simp only at h
    split at h
    · rename_i first later rest hname hrest
      split at h
      · rename_i hstart
        obtain rfl := Option.some.inj h
        refine ⟨⟨⟨first, later, hname, hstart⟩, fun c hc => ?_⟩, rest, ?_⟩
        · exact List.all_eq_true.mp List.all_takeWhile c hc
        · rw [← hrest, List.takeWhile_append_dropWhile]
      · cases h
    · cases h
  · rintro ⟨⟨⟨first, later, rfl, hstart⟩, hchars⟩, rest, rfl⟩
    have hbrace : isNameChar '\x7d' = false := by decide
    rw [List.takeWhile_append_of_pos hchars, List.dropWhile_append_of_pos hchars]
    simp [hbrace, hstart]

/-- The name of the placeholder that a text begins with. -/
def referenceAt? : List Char → Option (List Char)
  | '$' :: '\x7b' :: rest => nameAt? rest
  | _ => none

theorem referenceAt?_eq_some_iff :
    referenceAt? line = some name ↔ IsName name ∧ ∃ rest, line = placeholder name ++ rest := by
  unfold referenceAt? placeholder
  split
  · rw [nameAt?_eq_some_iff]
    simp
  · rename_i hother
    simp only [reduceCtorEq, false_iff, not_and, not_exists]
    rintro - rest rfl
    exact hother _ rfl

/-- A line is empty, or begins with a placeholder, or with a character that begins none. -/
theorem line_induction {motive : List Char → Prop} (nil : motive [])
    (reference : ∀ name rest, IsName name → motive rest → motive (placeholder name ++ rest))
    (char : ∀ c rest, referenceAt? (c :: rest) = none → motive rest → motive (c :: rest))
    (line : List Char) : motive line := by
  induction hn : line.length using Nat.strongRecOn generalizing line with
  | _ n ih =>
    cases line with
    | nil => exact nil
    | cons c rest =>
      cases hat : referenceAt? (c :: rest) with
      | none => exact char c rest hat (ih rest.length (by simp [← hn]) rest rfl)
      | some name =>
        obtain ⟨hname, behind, hline⟩ := referenceAt?_eq_some_iff.mp hat
        have hshorter : behind.length < n := by
          rw [← hn, hline]
          simp only [placeholder, List.cons_append, List.append_assoc, List.length_cons,
            List.length_append]
          omega
        rw [hline]
        exact reference name behind hname (ih behind.length hshorter behind rfl)

/-! ## Names in a line -/

theorem namesIn_cons_of_ne (h : c ≠ '$') (rest : List Char) :
    namesIn (c :: rest) = namesIn rest := by
  rw [namesIn]
  rintro _ rfl
  exact absurd rfl h

theorem namesIn_append {before : List Char} (h : '$' ∉ before) (rest : List Char) :
    namesIn (before ++ rest) = namesIn rest := by
  induction before with
  | nil => rfl
  | cons c before ih =>
    rw [List.mem_cons, not_or] at h
    rw [List.cons_append, namesIn_cons_of_ne (Ne.symm h.1), ih h.2]

theorem namesIn_placeholder (h : IsName name) (rest : List Char) :
    namesIn (placeholder name ++ rest) = name :: namesIn rest := by
  have hname : nameAt? (name ++ '\x7d' :: rest) = some name :=
    nameAt?_eq_some_iff.mpr ⟨h, rest, rfl⟩
  have hdollar : '$' ∉ name ++ ['\x7d'] := by simp [h.no_dollar]
  have hbehind : namesIn (name ++ '\x7d' :: rest) = namesIn rest := by
    simpa using namesIn_append hdollar rest
  simp [placeholder, namesIn, hname, hbehind]

/-- In front of a line, one more character makes one more name, or none. -/
theorem namesIn_cons (c : Char) (rest : List Char) :
    namesIn (c :: rest) = (referenceAt? (c :: rest)).toList ++ namesIn rest := by
  unfold referenceAt?
  split
  · rename_i behind hline
    obtain ⟨rfl, rfl⟩ := List.cons.inj hline
    have hbrace : namesIn ('\x7b' :: behind) = namesIn behind :=
      namesIn_cons_of_ne (by decide) behind
    rw [namesIn, hbrace]
    cases nameAt? behind <;> rfl
  · rename_i hother
    rw [namesIn]
    · rfl
    · rintro behind rfl rfl
      exact hother behind rfl

theorem isName_of_mem (h : name ∈ namesIn line) : IsName name := by
  induction line using line_induction with
  | nil => cases h
  | reference first rest hfirst ih =>
    rw [namesIn_placeholder hfirst, List.mem_cons] at h
    rcases h with rfl | h
    · exact hfirst
    · exact ih h
  | char c rest hat ih =>
    rw [namesIn_cons, hat] at h
    exact ih h

/-! ## Pieces -/

/-- A piece of a line. -/
inductive Piece where
  | text (c : Char)
  | reference (name : List Char)
deriving DecidableEq

/-- The piece as it stands in the line. -/
def Piece.source : Piece → List Char
  | .text c => [c]
  | .reference name => placeholder name

/-- Cuts a line at its placeholders. `skip` counts the characters that still belong to the last
placeholder. -/
def cutFrom : (skip : Nat) → List Char → List Piece
  | _, [] => []
  | skip + 1, _ :: rest => cutFrom skip rest
  | 0, c :: rest =>
    match referenceAt? (c :: rest) with
    | some name => .reference name :: cutFrom (name.length + 2) rest
    | none => .text c :: cutFrom 0 rest

def cut (line : List Char) : List Piece := cutFrom 0 line

theorem cutFrom_drop (skip : Nat) (line : List Char) :
    cutFrom skip line = cut (line.drop skip) := by
  induction line generalizing skip with
  | nil => simp [cut, cutFrom]
  | cons c rest ih =>
    cases skip with
    | zero => rfl
    | succ skip => rw [cutFrom, List.drop_succ_cons, ih skip]

/-- A placeholder behind its dollar sign. -/
theorem placeholder_append (name rest : List Char) :
    placeholder name ++ rest = '$' :: (('\x7b' :: name ++ ['\x7d']) ++ rest) := rfl

theorem cut_placeholder (h : IsName name) (rest : List Char) :
    cut (placeholder name ++ rest) = .reference name :: cut rest := by
  have hat : referenceAt? (placeholder name ++ rest) = some name :=
    referenceAt?_eq_some_iff.mpr ⟨h, rest, rfl⟩
  have hlength : ('\x7b' :: name ++ ['\x7d']).length = name.length + 2 := by simp
  have hdrop : ('\x7b' :: name ++ ['\x7d'] ++ rest).drop (name.length + 2) = rest := by
    rw [← hlength, List.drop_left]
  rw [placeholder_append] at hat ⊢
  rw [cut, cutFrom, hat]
  simp only
  rw [cutFrom_drop, hdrop]

theorem cut_cons (h : referenceAt? (c :: rest) = none) : cut (c :: rest) = .text c :: cut rest := by
  rw [cut, cutFrom, h]
  rfl

/-- Nothing of a line is lost in its pieces. -/
theorem flatMap_source_cut (line : List Char) : (cut line).flatMap Piece.source = line := by
  induction line using line_induction with
  | nil => rfl
  | reference name rest hname ih => rw [cut_placeholder hname, List.flatMap_cons, ih, Piece.source]
  | char c rest hat ih =>
    rw [cut_cons hat, List.flatMap_cons, ih]
    rfl

theorem mem_namesIn_iff : name ∈ namesIn line ↔ .reference name ∈ cut line := by
  induction line using line_induction with
  | nil => simp [namesIn, cut, cutFrom]
  | reference first rest hfirst ih => simp [namesIn_placeholder hfirst, cut_placeholder hfirst, ih]
  | char c rest hat ih => simp [namesIn_cons, hat, cut_cons hat, ih]

/-! ## One value put in -/

/-- A piece after the value of one variable has been put in. -/
def Piece.put (name value : List Char) : Piece → List Char
  | .text c => [c]
  | .reference other => if other = name then value else placeholder other

theorem placeholder_ne_nil (name : List Char) : placeholder name ≠ [] := List.cons_ne_nil _ _

theorem placeholder_prefix_iff {other : List Char} (hname : IsName name) (hother : IsName other) :
    placeholder name <+: placeholder other ++ rest ↔ name = other := by
  constructor
  · rintro ⟨behind, hbehind⟩
    have hat : referenceAt? (placeholder name ++ behind) = some name :=
      referenceAt?_eq_some_iff.mpr ⟨hname, behind, rfl⟩
    rw [hbehind, referenceAt?_eq_some_iff.mpr ⟨hother, rest, rfl⟩] at hat
    exact (Option.some.inj hat).symm
  · rintro rfl
    exact List.prefix_append _ rest

/-- Another placeholder stays as it is. -/
theorem replaceAll_placeholder {other : List Char} (hname : IsName name) (hother : IsName other)
    (hne : other ≠ name) (value rest : List Char) :
    Text.replaceAll (placeholder name) value (placeholder other ++ rest) =
      placeholder other ++ Text.replaceAll (placeholder name) value rest := by
  have hfirst : ¬ placeholder name <+: placeholder other ++ rest :=
    mt (placeholder_prefix_iff hname hother).mp (Ne.symm hne)
  have hdollar : '$' ∉ '\x7b' :: other ++ ['\x7d'] := by simp [hother.no_dollar]
  have hrest : Text.replaceAll (placeholder name) value (('\x7b' :: other ++ ['\x7d']) ++ rest) =
      ('\x7b' :: other ++ ['\x7d']) ++ Text.replaceAll (placeholder name) value rest :=
    Text.replaceAll_append hdollar rest
  rw [placeholder_append] at hfirst ⊢
  rw [Text.replaceAll_cons hfirst, hrest, placeholder_append]

/-- The value of a variable goes where its placeholders are, and nowhere else. -/
theorem replaceAll_eq (hname : IsName name) (value line : List Char) :
    Text.replaceAll (placeholder name) value line = (cut line).flatMap (Piece.put name value) := by
  induction line using line_induction with
  | nil => rfl
  | reference other rest hother ih =>
    rw [cut_placeholder hother, List.flatMap_cons, ← ih, Piece.put]
    by_cases hsame : other = name
    · subst hsame
      rw [Text.replaceAll_needle (placeholder_ne_nil other), if_pos rfl]
    · rw [replaceAll_placeholder hname hother hsame, if_neg hsame]
  | char c rest hat ih =>
    have hprefix : ¬ placeholder name <+: c :: rest := by
      rintro ⟨behind, hbehind⟩
      rw [← hbehind, referenceAt?_eq_some_iff.mpr ⟨hname, behind, rfl⟩] at hat
      cases hat
    rw [Text.replaceAll_cons hprefix, ih, cut_cons hat]
    rfl

end Substitution
end WarehouseJobs

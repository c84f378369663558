-- Escapes in front of a closing parenthesis. What is read of a text in front of one is read of this
-- text by itself too, as long as the parenthesis is left. Only one escape looks ahead of what it
-- takes: after a brace behind a word boundary something has to stand.
import Mathlib.Data.List.Infix
import WarehouseJobs.Regex.Escape

namespace WarehouseJobs.Regex

open Text (hexValue?)

variable {flags : Flags} {cs rest u x : List Char} {c : Char}

/-! ## What is left of a text -/

/-- A text between what is left in the end and what there was at first. -/
theorem exists_append_of_suffix (h : rest ++ u <:+ x) (hx : x <:+ cs ++ u) :
    ∃ y, x = y ++ u ∧ rest <:+ y ∧ y <:+ cs := by
  obtain ⟨between, rfl⟩ := h
  obtain ⟨before, hbefore⟩ := hx
  refine ⟨between ++ rest, by simp, List.suffix_append _ _, before, ?_⟩
  have hsame : (before ++ (between ++ rest)) ++ u = cs ++ u := by simpa using hbefore
  exact List.append_cancel_right hsame

theorem eq_nil_of_append_suffix (h : rest ++ u <:+ u) : rest = [] := by
  have hlength := h.length_le
  rw [List.length_append] at hlength
  exact List.length_eq_zero_iff.mp (by omega)

theorem not_append_suffix (c : Char) (rest u : List Char) : ¬ rest ++ c :: u <:+ u := by
  intro h
  have hlength := h.length_le
  simp only [List.length_append, List.length_cons] at hlength
  omega

theorem suffix_cons_of_suffix (h : rest <:+ x) (c : Char) : rest <:+ c :: x :=
  h.trans (List.suffix_cons c x)

/-! ## What does not count -/

theorem skipGo_suffix (inComment : Bool) (cs : List Char) : skip.go inComment cs <:+ cs := by
  induction cs generalizing inComment with
  | nil => exact List.suffix_rfl
  | cons c cs ih =>
    unfold skip.go
    split
    · exact suffix_cons_of_suffix (ih _) c
    · split
      · exact suffix_cons_of_suffix (ih _) c
      · split
        · exact suffix_cons_of_suffix (ih _) c
        · exact List.suffix_rfl

theorem skipGo_alone {inComment : Bool} (h : skip.go inComment (cs ++ u) = rest ++ u) :
    skip.go inComment cs = rest := by
  induction cs generalizing inComment with
  | nil =>
    have hrest : rest = [] := eq_nil_of_append_suffix (h ▸ skipGo_suffix inComment u)
    rw [hrest, skip.go]
  | cons c cs ih =>
    rw [List.cons_append, skip.go] at h
    rw [skip.go]
    by_cases hcomment : inComment = true
    · rw [if_pos hcomment] at h ⊢
      exact ih h
    · rw [if_neg hcomment] at h ⊢
      by_cases hblank : Text.isBlankChar c = true
      · rw [if_pos hblank] at h ⊢
        exact ih h
      · rw [if_neg hblank] at h ⊢
        by_cases hsharp : c = '#'
        · rw [if_pos hsharp] at h ⊢
          exact ih h
        · rw [if_neg hsharp] at h ⊢
          rw [← List.cons_append] at h
          exact List.append_cancel_right h

/-- Once something is left, more behind the text makes no difference. -/
theorem skipGo_append {inComment : Bool} (h : skip.go inComment cs = c :: x) (u : List Char) :
    skip.go inComment (cs ++ u) = c :: x ++ u := by
  induction cs generalizing inComment with
  | nil => cases h
  | cons d cs ih =>
    rw [List.cons_append, skip.go]
    rw [skip.go] at h
    by_cases hcomment : inComment = true
    · rw [if_pos hcomment] at h ⊢
      exact ih h
    · rw [if_neg hcomment] at h ⊢
      by_cases hblank : Text.isBlankChar d = true
      · rw [if_pos hblank] at h ⊢
        exact ih h
      · rw [if_neg hblank] at h ⊢
        by_cases hsharp : d = '#'
        · rw [if_pos hsharp] at h ⊢
          exact ih h
        · rw [if_neg hsharp] at h ⊢
          rw [← List.cons_append, h]

theorem skip_suffix (flags : Flags) (cs : List Char) : skip flags cs <:+ cs := by
  unfold skip
  split
  · exact skipGo_suffix false cs
  · exact List.suffix_rfl

theorem skip_of_append (h : skip flags (cs ++ u) = rest ++ u) : skip flags cs = rest := by
  unfold skip at h ⊢
  by_cases hspaced : flags.spaced = true
  · rw [if_pos hspaced] at h ⊢
    exact skipGo_alone h
  · rw [if_neg hspaced] at h ⊢
    exact List.append_cancel_right h

/-- What is skipped in front of a text that is left is skipped without it. -/
theorem skip_alone (h : rest ++ u <:+ skip flags (cs ++ u)) :
    ∃ y, skip flags (cs ++ u) = y ++ u ∧ skip flags cs = y ∧ rest <:+ y := by
  obtain ⟨y, hy, hrest, -⟩ := exists_append_of_suffix h (skip_suffix flags _)
  exact ⟨y, hy, skip_of_append hy, hrest⟩

theorem skip_append (h : skip flags cs = c :: x) (u : List Char) :
    skip flags (cs ++ u) = c :: x ++ u := by
  unfold skip at h ⊢
  by_cases hspaced : flags.spaced = true
  · rw [if_pos hspaced] at h ⊢
    exact skipGo_append h u
  · rw [if_neg hspaced] at h ⊢
    rw [h]

/-! ## Numbers -/

theorem hexDigits?_suffix {count : Nat} {ds : List Nat}
    (h : hexDigits? flags count cs = some (ds, rest)) : rest <:+ cs := by
  induction count generalizing cs ds with
  | zero =>
    rw [hexDigits?] at h
    cases h
    exact List.suffix_rfl
  | succ count ih =>
    cases cs with
    | nil =>
      rw [hexDigits?] at h
      · cases h
      · simp
    | cons c cs =>
      rw [hexDigits?] at h
      split at h
      · obtain ⟨⟨ds, left⟩, hread, heq⟩ := Option.map_eq_some_iff.mp h
        cases heq
        refine suffix_cons_of_suffix ((ih hread).trans ?_) c
        split
        · exact List.suffix_rfl
        · exact skip_suffix flags cs
      · cases h

theorem hexDigits?_alone {count : Nat} {ds : List Nat}
    (h : hexDigits? flags count (cs ++ ')' :: u) = some (ds, rest ++ ')' :: u)) :
    hexDigits? flags count cs = some (ds, rest) := by
  induction count generalizing cs ds with
  | zero =>
    rw [hexDigits?, Option.some.injEq, Prod.mk.injEq] at h ⊢
    exact ⟨h.1, List.append_cancel_right h.2⟩
  | succ count ih =>
    cases cs with
    | nil =>
      have hparen : hexValue? ')' = none := by decide
      rw [List.nil_append, hexDigits?, hparen] at h
      cases h
    | cons c cs =>
      rw [List.cons_append, hexDigits?] at h
      rw [hexDigits?]
      cases hdigit : hexValue? c with
      | none =>
        rw [hdigit] at h
        cases h
      | some d =>
        rw [hdigit] at h
        obtain ⟨⟨later, left⟩, hread, heq⟩ := Option.map_eq_some_iff.mp h
        cases heq
        refine Option.map_eq_some_iff.mpr ⟨(later, rest), ?_, rfl⟩
        by_cases hlast : count = 0
        · rw [if_pos hlast] at hread ⊢
          exact ih hread
        · rw [if_neg hlast] at hread ⊢
          obtain ⟨y, hy, hcs, -⟩ := skip_alone (hexDigits?_suffix hread)
          rw [hy] at hread
          rw [hcs]
          exact ih hread

/-- A text up to a closing brace, as it is read one character after the other. -/
theorem bracedDigits?_succ (fuel : Nat) : bracedDigits? flags (fuel + 1) cs =
    match skip flags cs with
    | [] => none
    | c :: rest =>
      if c = '\x7d' then some ([], rest)
      else (hexValue? c).bind fun d =>
        (bracedDigits? flags fuel rest).map fun (ds, rest) => (d :: ds, rest) := by
  rw [bracedDigits?]
  cases skip flags cs with
  | nil => rfl
  | cons c rest =>
    by_cases hbrace : c = '\x7d'
    · subst hbrace
      rfl
    · simp only [hbrace, if_false]
      cases hexValue? c <;> rfl

theorem bracedDigits?_suffix {fuel : Nat} {ds : List Nat}
    (h : bracedDigits? flags fuel cs = some (ds, rest)) : rest <:+ skip flags cs := by
  induction fuel generalizing cs ds with
  | zero => cases h
  | succ fuel ih =>
    rw [bracedDigits?_succ] at h
    cases hskip : skip flags cs with
    | nil =>
      rw [hskip] at h
      cases h
    | cons c behind =>
      simp only [hskip] at h
      split at h
      · cases h
        exact List.suffix_cons c rest
      · obtain ⟨d, -, hmap⟩ := Option.bind_eq_some_iff.mp h
        obtain ⟨⟨ds, left⟩, hread, heq⟩ := Option.map_eq_some_iff.mp hmap
        cases heq
        exact suffix_cons_of_suffix ((ih hread).trans (skip_suffix flags _)) c

theorem bracedDigits?_alone {fuel fuel' : Nat} {ds : List Nat} (hfuel : cs.length < fuel')
    (h : bracedDigits? flags fuel (cs ++ ')' :: u) = some (ds, rest ++ ')' :: u)) :
    bracedDigits? flags fuel' cs = some (ds, rest) := by
  induction fuel generalizing cs ds fuel' with
  | zero => cases h
  | succ fuel ih =>
    obtain ⟨y, hy, hcs, -⟩ := skip_alone (bracedDigits?_suffix h)
    obtain ⟨fuel', rfl⟩ := Nat.exists_eq_add_of_lt hfuel
    have hlength : y.length ≤ cs.length := hcs ▸ (skip_suffix flags cs).length_le
    rw [bracedDigits?_succ] at h ⊢
    rw [hy] at h
    rw [hcs]
    cases y with
    | nil =>
      have hparen : hexValue? ')' = none := by decide
      simp [hparen] at h
    | cons c y =>
      simp only [List.cons_append, List.length_cons] at h hlength ⊢
      by_cases hbrace : c = '\x7d'
      · rw [if_pos hbrace, Option.some.injEq, Prod.mk.injEq] at h ⊢
        exact ⟨h.1, List.append_cancel_right h.2⟩
      · rw [if_neg hbrace] at h ⊢
        obtain ⟨d, hdigit, hmap⟩ := Option.bind_eq_some_iff.mp h
        obtain ⟨⟨later, left⟩, hread, heq⟩ := Option.map_eq_some_iff.mp hmap
        cases heq
        rw [hdigit, Option.bind_some, ih (by omega) hread]
        rfl

/-- A character that a text does not begin with is not in front of it either, once the parenthesis
stands behind. -/
theorem append_ne_cons {y : List Char} (h : ∀ z, y ≠ c :: z) (hc : c ≠ ')') (z : List Char) :
    y ++ ')' :: u ≠ c :: z := by
  cases y with
  | nil =>
    intro heq
    exact hc (List.cons.inj heq).1.symm
  | cons d y =>
    intro heq
    exact h y (by rw [(List.cons.inj heq).1])

section Numbered

variable {letter : Char}

theorem numbered?_brace (h : skip flags cs = '\x7b' :: x) : numbered? flags letter cs =
    (bracedDigits? flags (x.length + 1) x).bind fun read =>
      if read.1 = [] then none else (charOf? read.1).map fun c => (c, read.2) := by
  simp only [numbered?, h]
  cases bracedDigits? flags (x.length + 1) x with
  | none => rfl
  | some read =>
    obtain ⟨digits, rest⟩ := read
    cases digits <;> rfl

theorem numbered?_bare (h : ∀ z, skip flags cs ≠ '\x7b' :: z) : numbered? flags letter cs =
    (hexDigits? flags (if letter = 'x' then 2 else if letter = 'u' then 4 else 8)
      (skip flags cs)).bind fun read =>
        (charOf? read.1).bind fun c =>
          if letter = 'x' ∧ !flags.unicode ∧ 0x7F < c.toNat then none else some (c, read.2) := by
  rw [numbered?]
  split
  · rename_i z hz
    exact absurd hz (h z)
  · simp only
    cases hexDigits? flags (if letter = 'x' then 2 else if letter = 'u' then 4 else 8)
      (skip flags cs) <;> rfl

theorem numbered?_suffix (h : numbered? flags letter cs = some (c, rest)) :
    rest <:+ skip flags cs := by
  by_cases hbrace : ∃ z, skip flags cs = '\x7b' :: z
  · obtain ⟨z, hz⟩ := hbrace
    rw [numbered?_brace hz] at h
    obtain ⟨⟨digits, left⟩, hread, hchar⟩ := Option.bind_eq_some_iff.mp h
    simp only at hchar
    split at hchar
    · cases hchar
    · obtain ⟨d, -, heq⟩ := Option.map_eq_some_iff.mp hchar
      cases heq
      rw [hz]
      exact suffix_cons_of_suffix ((bracedDigits?_suffix hread).trans (skip_suffix flags z)) _
  · rw [not_exists] at hbrace
    rw [numbered?_bare hbrace] at h
    obtain ⟨⟨digits, left⟩, hread, hchar⟩ := Option.bind_eq_some_iff.mp h
    obtain ⟨d, -, heq⟩ := Option.bind_eq_some_iff.mp hchar
    split at heq
    · cases heq
    · cases heq
      exact hexDigits?_suffix hread

theorem numbered?_alone (h : numbered? flags letter (cs ++ ')' :: u) = some (c, rest ++ ')' :: u)) :
    numbered? flags letter cs = some (c, rest) := by
  obtain ⟨y, hy, hcs, -⟩ := skip_alone (numbered?_suffix h)
  by_cases hbrace : ∃ z, y = '\x7b' :: z
  · obtain ⟨z, rfl⟩ := hbrace
    rw [numbered?_brace hy] at h
    rw [numbered?_brace hcs]
    obtain ⟨⟨digits, left⟩, hread, hchar⟩ := Option.bind_eq_some_iff.mp h
    simp only at hchar
    split at hchar
    · cases hchar
    · rename_i hdigits
      obtain ⟨d, hd, heq⟩ := Option.map_eq_some_iff.mp hchar
      cases heq
      rw [bracedDigits?_alone (Nat.lt_succ_self _) hread, Option.bind_some]
      simp only [if_neg hdigits, hd, Option.map_some]
  · rw [not_exists] at hbrace
    have hbehind := append_ne_cons (u := u) hbrace (by decide)
    rw [numbered?_bare (hy ▸ hbehind), hy] at h
    rw [numbered?_bare (hcs ▸ hbrace), hcs]
    obtain ⟨⟨digits, left⟩, hread, hchar⟩ := Option.bind_eq_some_iff.mp h
    obtain ⟨d, hd, heq⟩ := Option.bind_eq_some_iff.mp hchar
    split at heq
    · cases heq
    · rename_i hsmall
      cases heq
      rw [hexDigits?_alone hread, Option.bind_some]
      simp only [hd, Option.bind_some, if_neg hsmall]

end Numbered

/-! ## Properties -/

theorem braced?_succ (fuel : Nat) : braced? flags (fuel + 1) cs =
    match skip flags cs with
    | [] => none
    | c :: rest =>
      if c = '\x7d' then some ([], rest)
      else (braced? flags fuel rest).map fun (name, rest) => (c :: name, rest) := by
  rw [braced?]
  cases skip flags cs with
  | nil => rfl
  | cons c rest =>
    by_cases hbrace : c = '\x7d'
    · subst hbrace
      rfl
    · simp only [hbrace, if_false]

theorem braced?_suffix {fuel : Nat} {name : List Char}
    (h : braced? flags fuel cs = some (name, rest)) : rest <:+ skip flags cs := by
  induction fuel generalizing cs name with
  | zero => cases h
  | succ fuel ih =>
    rw [braced?_succ] at h
    cases hskip : skip flags cs with
    | nil =>
      rw [hskip] at h
      cases h
    | cons c behind =>
      simp only [hskip] at h
      split at h
      · cases h
        exact List.suffix_cons c rest
      · obtain ⟨⟨later, left⟩, hread, heq⟩ := Option.map_eq_some_iff.mp h
        cases heq
        exact suffix_cons_of_suffix ((ih hread).trans (skip_suffix flags _)) c

theorem braced?_alone {fuel fuel' : Nat} {name : List Char} (hfuel : cs.length < fuel')
    (h : braced? flags fuel (cs ++ ')' :: u) = some (name, rest ++ ')' :: u)) :
    braced? flags fuel' cs = some (name, rest) := by
  induction fuel generalizing cs name fuel' with
  | zero => cases h
  | succ fuel ih =>
    obtain ⟨y, hy, hcs, -⟩ := skip_alone (braced?_suffix h)
    obtain ⟨fuel', rfl⟩ := Nat.exists_eq_add_of_lt hfuel
    have hlength : y.length ≤ cs.length := hcs ▸ (skip_suffix flags cs).length_le
    rw [braced?_succ] at h ⊢
    rw [hy] at h
    rw [hcs]
    cases y with
    | nil =>
      -- The parenthesis would be a character of the name.
      simp only [List.nil_append, Option.map_eq_some_iff, if_neg (by decide : ¬ ')' = '\x7d')] at h
      obtain ⟨⟨later, left⟩, hread, heq⟩ := h
      cases heq
      exact absurd ((braced?_suffix hread).trans (skip_suffix flags _)) (not_append_suffix _ _ _)
    | cons c y =>
      simp only [List.cons_append, List.length_cons] at h hlength ⊢
      by_cases hbrace : c = '\x7d'
      · rw [if_pos hbrace, Option.some.injEq, Prod.mk.injEq] at h ⊢
        exact ⟨h.1, List.append_cancel_right h.2⟩
      · rw [if_neg hbrace] at h ⊢
        obtain ⟨⟨later, left⟩, hread, heq⟩ := Option.map_eq_some_iff.mp h
        cases heq
        rw [ih (by omega) hread]
        rfl

/-- The name of a property: one letter, or a text between braces. -/
def propertyName? (flags : Flags) (cs : List Char) : Option (List Char × List Char) :=
  match skip flags cs with
  | [] => none
  | c :: rest =>
    if c = '\x7b' then braced? flags (rest.length + 1) rest
    else if c = '\\' then none
    else some ([c], rest)

theorem property?_eq (negated : Bool) : property? flags negated cs =
    (propertyName? flags cs).bind fun read =>
      (if flags.unicode then propertySet? (String.ofList read.1) else none).map fun s =>
        let s := if flags.ignoreCase then anyCase s else s
        (.set (if negated then notIn s else s) broadWeight, read.2) := by
  unfold property? propertyName?
  cases skip flags cs with
  | nil => rfl
  | cons c rest =>
    by_cases hbrace : c = '\x7b'
    · subst hbrace
      simp only [if_true]
      cases braced? flags (rest.length + 1) rest with
      | none => rfl
      | some read =>
        simp only [Option.bind_some]
        cases if flags.unicode then propertySet? (String.ofList read.1) else none <;> rfl
    · by_cases hslash : c = '\\'
      · subst hslash
        rfl
      · simp only [hbrace, hslash, if_false, Option.bind_some]
        cases if flags.unicode then propertySet? (String.ofList [c]) else none <;> rfl

theorem propertyName?_suffix {name : List Char} (h : propertyName? flags cs = some (name, rest)) :
    rest <:+ skip flags cs := by
  unfold propertyName? at h
  cases hskip : skip flags cs with
  | nil =>
    rw [hskip] at h
    cases h
  | cons c behind =>
    simp only [hskip] at h
    split at h
    · exact suffix_cons_of_suffix ((braced?_suffix h).trans (skip_suffix flags _)) c
    · split at h
      · cases h
      · cases h
        exact List.suffix_cons c rest

theorem propertyName?_alone {name : List Char}
    (h : propertyName? flags (cs ++ ')' :: u) = some (name, rest ++ ')' :: u)) :
    propertyName? flags cs = some (name, rest) := by
  obtain ⟨y, hy, hcs, -⟩ := skip_alone (propertyName?_suffix h)
  unfold propertyName? at h ⊢
  rw [hy] at h
  rw [hcs]
  cases y with
  | nil =>
    simp only [List.nil_append, if_neg (by decide : ¬ ')' = '\x7b'),
      if_neg (by decide : ¬ ')' = '\\'), Option.some.injEq, Prod.mk.injEq] at h
    exact absurd (h.2 ▸ List.suffix_rfl) (not_append_suffix ')' rest u)
  | cons c y =>
    simp only [List.cons_append] at h ⊢
    by_cases hbrace : c = '\x7b'
    · rw [if_pos hbrace] at h ⊢
      exact braced?_alone (Nat.lt_succ_self _) h
    · rw [if_neg hbrace] at h ⊢
      split at h
      · cases h
      · rename_i hslash
        rw [if_neg hslash]
        rw [Option.some.injEq, Prod.mk.injEq] at h ⊢
        exact ⟨h.1, List.append_cancel_right h.2⟩

section Property

variable {negated : Bool} {item : Item}

theorem property?_suffix (h : property? flags negated cs = some (item, rest)) :
    rest <:+ skip flags cs := by
  rw [property?_eq] at h
  obtain ⟨⟨name, left⟩, hname, hmap⟩ := Option.bind_eq_some_iff.mp h
  obtain ⟨s, -, heq⟩ := Option.map_eq_some_iff.mp hmap
  cases heq
  exact propertyName?_suffix hname

theorem property?_alone
    (h : property? flags negated (cs ++ ')' :: u) = some (item, rest ++ ')' :: u)) :
    property? flags negated cs = some (item, rest) := by
  rw [property?_eq] at h ⊢
  obtain ⟨⟨name, left⟩, hname, hmap⟩ := Option.bind_eq_some_iff.mp h
  obtain ⟨s, hs, heq⟩ := Option.map_eq_some_iff.mp hmap
  cases heq
  rw [propertyName?_alone hname, Option.bind_some]
  simp only [hs, Option.map_some]

end Property

/-! ## Conditions on words -/

theorem boundaryName_suffix (flags : Flags) (fuel : Nat) (cs : List Char) :
    (boundaryName flags fuel cs).2 <:+ cs := by
  induction fuel generalizing cs with
  | zero => exact List.suffix_rfl
  | succ fuel ih =>
    have hskip := skip_suffix flags cs
    rw [boundaryName]
    cases hcs : skip flags cs with
    | nil => exact List.nil_suffix
    | cons c behind =>
      rw [hcs] at hskip
      simp only
      split
      · exact (suffix_cons_of_suffix (ih behind) c).trans hskip
      · exact hskip

theorem boundaryName_alone {fuel fuel' : Nat} {name : List Char}
    (hfuel : cs.length + u.length < fuel) (hfuel' : cs.length < fuel')
    (h : boundaryName flags fuel (cs ++ ')' :: u) = (name, rest ++ ')' :: u)) :
    boundaryName flags fuel' cs = (name, rest) := by
  induction fuel generalizing cs name fuel' with
  | zero => omega
  | succ fuel ih =>
    obtain ⟨fuel', rfl⟩ := Nat.exists_eq_add_of_lt hfuel'
    rw [boundaryName] at h ⊢
    have hleft : rest ++ ')' :: u <:+ skip flags (cs ++ ')' :: u) := by
      cases hskip : skip flags (cs ++ ')' :: u) with
      | nil =>
        simp [hskip] at h
      | cons c behind =>
        simp only [hskip] at h
        split at h
        · rw [← (Prod.mk.inj h).2]
          exact suffix_cons_of_suffix (boundaryName_suffix flags fuel behind) c
        · rw [← (Prod.mk.inj h).2]
    obtain ⟨y, hy, hcs, -⟩ := skip_alone hleft
    have hlength : y.length ≤ cs.length := hcs ▸ (skip_suffix flags cs).length_le
    rw [hy] at h
    rw [hcs]
    cases y with
    | nil =>
      have hparen : ¬ isBoundaryChar ')' = true := by decide
      simp only [List.nil_append, if_neg hparen, Prod.mk.injEq] at h
      have hrest : [] = rest := List.append_cancel_right h.2
      rw [← h.1, ← hrest]
    | cons c y =>
      simp only [List.cons_append, List.length_cons] at h hlength ⊢
      by_cases hc : isBoundaryChar c = true
      · simp only [if_pos hc, Prod.mk.injEq] at h ⊢
        have hmore : y.length + u.length < fuel := by omega
        have hless : y.length < cs.length + fuel' := by omega
        have hrest := ih hmore hless (Prod.ext rfl h.2)
        rw [hrest]
        exact ⟨h.1, rfl⟩
      · simp only [if_neg hc, Prod.mk.injEq] at h ⊢
        exact ⟨h.1, List.append_cancel_right h.2⟩

/-- The condition that a name between braces stands for. -/
def boundaryOf? (inWord : CharSet) : String → Option Condition
  | "start" => some (.wordStart inWord)
  | "end" => some (.wordEnd inWord)
  | "start-half" => some (.wordStartHalf inWord)
  | "end-half" => some (.wordEndHalf inWord)
  | _ => none

theorem boundary?_brace {behind : List Char} (h : skip flags rest = c :: behind)
    (hc : isBoundaryChar c = true) : boundary? flags ('\x7b' :: rest) =
      match boundaryName flags (rest.length + 1) rest with
      | (name, '\x7d' :: rest) =>
        (boundaryOf? (wordSet flags) (String.ofList name)).map fun b => (b, rest)
      | _ => none := by
  simp only [boundary?, h, hc, if_true]
  cases boundaryName flags (rest.length + 1) rest with
  | mk name left =>
    cases left with
    | nil => rfl
    | cons d left =>
      by_cases hbrace : d = '\x7d'
      · subst hbrace
        simp only [boundaryOf?]
        split <;> simp_all
      · simp [hbrace]

theorem boundary?_bare (h : ∀ z, cs ≠ '\x7b' :: z) :
    boundary? flags cs = some (.wordBoundary (wordSet flags), cs) := by
  rw [boundary?]
  exact h

section Boundary

variable {b : Condition}

theorem boundary?_suffix (h : boundary? flags cs = some (b, rest)) : rest <:+ cs := by
  by_cases hbrace : ∃ z, cs = '\x7b' :: z
  · obtain ⟨z, rfl⟩ := hbrace
    cases hskip : skip flags z with
    | nil => simp [boundary?, hskip] at h
    | cons c later =>
      by_cases hc : isBoundaryChar c = true
      · rw [boundary?_brace hskip hc] at h
        split at h
        · rename_i name left hread
          obtain ⟨d, -, heq⟩ := Option.map_eq_some_iff.mp h
          cases heq
          have hleft := boundaryName_suffix flags (z.length + 1) z
          rw [hread] at hleft
          exact suffix_cons_of_suffix ((List.suffix_cons _ _).trans hleft) _
        · cases h
      · simp only [boundary?, hskip, hc, Bool.false_eq_true, if_false, Option.some.injEq,
          Prod.mk.injEq] at h
        rw [h.2]
  · rw [not_exists] at hbrace
    rw [boundary?_bare hbrace] at h
    cases h
    exact List.suffix_rfl

/-- A brace with nothing behind it. -/
def BareBrace (flags : Flags) (rest : List Char) : Prop :=
  ∃ z, rest = '\x7b' :: z ∧ skip flags z = []

/-- A brace behind a word boundary is left with nothing behind it, or all is read without the
parenthesis too. -/
theorem boundary?_alone (h : boundary? flags (cs ++ ')' :: u) = some (b, rest ++ ')' :: u)) :
    BareBrace flags rest ∨ boundary? flags cs = some (b, rest) := by
  by_cases hbrace : ∃ z, cs = '\x7b' :: z
  · obtain ⟨z, rfl⟩ := hbrace
    rw [List.cons_append] at h
    cases hskip : skip flags (z ++ ')' :: u) with
    | nil => simp [boundary?, hskip] at h
    | cons c later =>
      by_cases hc : isBoundaryChar c = true
      · right
        rw [boundary?_brace hskip hc] at h
        split at h
        · rename_i name left hread
          obtain ⟨d, hd, heq⟩ := Option.map_eq_some_iff.mp h
          cases heq
          have hfuel : z.length + u.length < (z ++ ')' :: u).length + 1 := by
            simp only [List.length_append, List.length_cons]
            omega
          have hname : boundaryName flags (z.length + 1) z = (name, '\x7d' :: rest) :=
            boundaryName_alone hfuel (Nat.lt_succ_self _) hread
          cases hz : skip flags z with
          | nil => simp [boundaryName, hz] at hname
          | cons d w =>
            rw [skip_append hz] at hskip
            have hd' : isBoundaryChar d = true := by
              rw [(List.cons.inj hskip).1]
              exact hc
            rw [boundary?_brace hz hd', hname]
            simp only [hd, Option.map_some]
        · cases h
      · simp only [boundary?, hskip, hc, Bool.false_eq_true, if_false, Option.some.injEq,
          Prod.mk.injEq] at h
        have hrest : '\x7b' :: z = rest := List.append_cancel_right h.2
        cases hz : skip flags z with
        | nil => exact .inl ⟨z, hrest.symm, hz⟩
        | cons d w =>
          right
          rw [skip_append hz] at hskip
          have hd : ¬ isBoundaryChar d = true := by
            rw [(List.cons.inj hskip).1]
            exact hc
          rw [← hrest, ← h.1]
          simp only [boundary?, hz, if_neg hd]
  · rw [not_exists] at hbrace
    right
    rw [boundary?_bare (append_ne_cons hbrace (by decide)), Option.some.injEq, Prod.mk.injEq] at h
    rw [boundary?_bare hbrace, h.1, List.append_cancel_right h.2]

end Boundary

/-! ## Escapes -/

/-- An escape that its letter says all about. -/
def fixedEscape? (flags : Flags) (c : Char) : Option Item :=
  if Text.isAsciiDigit c then none
  else if ['d', 's', 'w', 'D', 'S', 'W'].contains c then
    (letterSet? flags c).map fun s => .set s.1 s.2
  else
    match c with
    | 'a' => some (.literal '\x07')
    | 'f' => some (.literal '\x0c')
    | 't' => some (.literal '\t')
    | 'n' => some (.literal '\n')
    | 'r' => some (.literal '\r')
    | 'v' => some (.literal '\x0b')
    | 'A' => some (.condition .textStart)
    | 'z' => some (.condition .textEnd)
    | 'B' => some (.condition (.noWordBoundary (wordSet flags)))
    | '<' => some (.condition (.wordStart (wordSet flags)))
    | '>' => some (.condition (.wordEnd (wordSet flags)))
    | c => if Text.isAscii c ∧ !Text.isAsciiLetter c then some (.literal c) else none

theorem escape?_cons : escape? flags (c :: rest) =
    if c = 'x' ∨ c = 'u' ∨ c = 'U' then (numbered? flags c rest).map fun r => (.literal r.1, r.2)
    else if c = 'p' ∨ c = 'P' then property? flags (c = 'P') rest
    else if c = 'b' then (boundary? flags rest).map fun r => (.condition r.1, r.2)
    else (fixedEscape? flags c).map fun item => (item, rest) := by
  unfold escape?
  by_cases hnumber : c = 'x' ∨ c = 'u' ∨ c = 'U'
  · have hdigit : ¬ Text.isAsciiDigit c = true := by rcases hnumber with rfl | rfl | rfl <;> decide
    simp only [if_neg hdigit, if_pos hnumber]
  · by_cases hproperty : c = 'p' ∨ c = 'P'
    · have hdigit : ¬ Text.isAsciiDigit c = true := by rcases hproperty with rfl | rfl <;> decide
      simp only [if_neg hdigit, if_neg hnumber, if_pos hproperty]
    · simp only [if_neg hnumber, if_neg hproperty]
      by_cases hb : c = 'b'
      · subst hb
        rfl
      · rw [if_neg hb]
        unfold fixedEscape?
        split
        · rfl
        · split
          · cases letterSet? flags c <;> rfl
          · split
            all_goals first
              | rfl
              | exact absurd rfl hb
              | split <;> simp_all

variable {item : Item}

theorem escape?_suffix (h : escape? flags cs = some (item, rest)) : rest <:+ cs := by
  cases cs with
  | nil => cases h
  | cons c cs =>
    rw [escape?_cons] at h
    refine suffix_cons_of_suffix ?_ c
    split at h
    · obtain ⟨⟨d, left⟩, hread, heq⟩ := Option.map_eq_some_iff.mp h
      cases heq
      exact (numbered?_suffix hread).trans (skip_suffix flags cs)
    · split at h
      · exact (property?_suffix h).trans (skip_suffix flags cs)
      · split at h
        · obtain ⟨⟨b, left⟩, hread, heq⟩ := Option.map_eq_some_iff.mp h
          cases heq
          exact boundary?_suffix hread
        · obtain ⟨item, -, heq⟩ := Option.map_eq_some_iff.mp h
          cases heq
          exact List.suffix_rfl

/-- Only a condition can be left in front of a bare brace. -/
theorem escape?_alone (h : escape? flags (cs ++ ')' :: u) = some (item, rest ++ ')' :: u)) :
    (∃ b, item = .condition b ∧ BareBrace flags rest) ∨ escape? flags cs = some (item, rest) := by
  cases cs with
  | nil =>
    -- The parenthesis itself would be taken.
    have hparen : fixedEscape? flags ')' = some (.literal ')') := by rfl
    rw [List.nil_append, escape?_cons, if_neg (by decide), if_neg (by decide), if_neg (by decide),
      hparen, Option.map_some, Option.some.injEq, Prod.mk.injEq] at h
    exact absurd (h.2 ▸ List.suffix_rfl) (not_append_suffix ')' rest u)
  | cons c cs =>
    rw [List.cons_append, escape?_cons] at h
    rw [escape?_cons]
    by_cases hnumber : c = 'x' ∨ c = 'u' ∨ c = 'U'
    · right
      rw [if_pos hnumber] at h ⊢
      obtain ⟨⟨d, left⟩, hread, heq⟩ := Option.map_eq_some_iff.mp h
      cases heq
      rw [numbered?_alone hread, Option.map_some]
    · rw [if_neg hnumber] at h ⊢
      by_cases hproperty : c = 'p' ∨ c = 'P'
      · right
        rw [if_pos hproperty] at h ⊢
        exact property?_alone h
      · rw [if_neg hproperty] at h ⊢
        by_cases hb : c = 'b'
        · rw [if_pos hb] at h ⊢
          obtain ⟨⟨b, left⟩, hread, heq⟩ := Option.map_eq_some_iff.mp h
          cases heq
          rcases boundary?_alone hread with hbare | hread
          · exact .inl ⟨b, rfl, hbare⟩
          · rw [hread, Option.map_some]
            exact .inr rfl
        · right
          rw [if_neg hb] at h ⊢
          obtain ⟨fixed, hfixed, heq⟩ := Option.map_eq_some_iff.mp h
          rw [Prod.mk.injEq] at heq
          rw [hfixed, Option.map_some, heq.1, List.append_cancel_right heq.2]

end WarehouseJobs.Regex

-- Groups in front of a closing parenthesis. A group is read up to the first parenthesis that closes
-- nothing inside of it; whether one more stands behind makes no difference to what is read before.
import WarehouseJobs.Proofs.Regex.Bracket
import WarehouseJobs.Regex.Reader

namespace WarehouseJobs.Regex

variable {flags : Flags} {cs rest u x : List Char} {c : Char}

/-! ## Openings -/

theorem flags?_suffix {flags' : Flags} {seen seen' : List Char}
    (h : flags? flags seen cs = some (flags', seen', rest)) : rest <:+ cs := by
  induction cs generalizing flags seen with
  | nil => cases h
  | cons c cs ih =>
    rw [flags?] at h
    split at h
    · split at h
      · cases h
      · cases h
        exact List.suffix_rfl
    · refine suffix_cons_of_suffix ?_ c
      split at h
      · cases h
      · split at h
        · exact ih h
        · split at h
          · exact ih h
          · cases h

/-- Flags end in front of a mark of their own. -/
theorem flags?_alone {flags' : Flags} {seen seen' : List Char}
    (h : flags? flags seen (cs ++ ')' :: u) = some (flags', seen', c :: (rest ++ ')' :: u))) :
    flags? flags seen cs = some (flags', seen', c :: rest) := by
  induction cs generalizing flags seen with
  | nil =>
    have hlength := (flags?_suffix h).length_le
    simp only [List.length_cons, List.length_append, List.nil_append] at hlength
    omega
  | cons d cs ih =>
    rw [List.cons_append, flags?] at h
    rw [flags?]
    by_cases hend : d = ':' ∨ d = ')'
    · rw [if_pos hend] at h ⊢
      split at h
      · cases h
      · rename_i hhyphen
        rw [if_neg hhyphen]
        simp only [Option.some.injEq, Prod.mk.injEq, List.cons.injEq] at h ⊢
        exact ⟨h.1, h.2.1, h.2.2.1, List.append_cancel_right h.2.2.2⟩
    · rw [if_neg hend] at h ⊢
      split at h
      · cases h
      · rename_i hseen
        rw [if_neg hseen]
        split at h
        · rename_i hhyphen
          rw [if_pos hhyphen]
          exact ih h
        · rename_i hhyphen
          rw [if_neg hhyphen]
          split at h
          · rename_i hletter
            rw [if_pos hletter]
            exact ih h
          · cases h

theorem groupName?_eq_some_iff {name : String} : groupName? cs = some (name, rest) ↔
    ∃ first later c, cs.span (· ≠ '>') = (first :: later, c :: rest) ∧
      (isNameStart first ∧ later.all isNameChar) ∧ String.ofList (first :: later) = name := by
  unfold groupName?
  constructor
  · intro h
    simp only at h
    split at h
    · rename_i first later c left hname hleft
      split at h
      · rename_i hchars
        cases h
        exact ⟨first, later, c, Prod.ext hname hleft, hchars, congrArg String.ofList hname.symm⟩
      · cases h
    · cases h
  · rintro ⟨first, later, c, hspan, hchars, rfl⟩
    simp only [hspan, if_pos hchars]

theorem groupName?_suffix {name : String} (h : groupName? cs = some (name, rest)) :
    rest <:+ cs := by
  obtain ⟨first, later, c, hspan, -⟩ := groupName?_eq_some_iff.mp h
  rw [(span_eq_iff.mp hspan).1]
  exact (List.suffix_cons c rest).trans (List.suffix_append _ _)

theorem groupName?_alone {name : String}
    (h : groupName? (cs ++ ')' :: u) = some (name, rest ++ ')' :: u)) :
    groupName? cs = some (name, rest) := by
  obtain ⟨first, later, c, hspan, hchars, hname⟩ := groupName?_eq_some_iff.mp h
  have hleft : cs.span (· ≠ '>') = (first :: later, c :: rest) := by
    rw [← List.cons_append] at hspan
    exact span_alone hspan
  exact groupName?_eq_some_iff.mpr ⟨first, later, c, hleft, hchars, hname⟩

/-- A name behind an opening parenthesis, up to its closing bracket. -/
def named? (flags : Flags) (cs : List Char) : Option (Opening × List Char) :=
  (groupName? cs).map fun r => (.group (some r.1) flags, r.2)

/-- Flags behind an opening parenthesis and a question mark. -/
def flagged? (flags : Flags) (cs : List Char) : Option (Opening × List Char) :=
  match flags? flags [] cs with
  | some (_, [], ')' :: _) => none
  | some (flags, _, ')' :: rest) => some (.setting flags, rest)
  | some (flags, _, _ :: rest) => some (.group none flags, rest)
  | _ => none

theorem opening?_longName (h : skip flags cs = '?' :: 'P' :: '<' :: x) :
    opening? flags cs = named? flags x := by
  unfold opening?
  rw [h]
  rfl

theorem opening?_shortName (h : skip flags cs = '?' :: '<' :: x) : opening? flags cs =
    if x.head? = some '=' ∨ x.head? = some '!' then none else named? flags x := by
  unfold opening?
  rw [h]
  rfl

theorem opening?_flags (h : skip flags cs = '?' :: x) (hlong : ∀ z, x ≠ 'P' :: '<' :: z)
    (hshort : ∀ z, x ≠ '<' :: z) : opening? flags cs = flagged? flags x := by
  unfold opening?
  rw [h]
  split
  · rename_i heq
    exact absurd (List.cons.inj heq).2 (hlong _)
  · rename_i heq
    exact absurd (List.cons.inj heq).2 (hshort _)
  · rename_i heq
    rw [(List.cons.inj heq).2]
    rfl
  · rename_i hmark
    exact absurd rfl (hmark x)

theorem opening?_plain (h : ∀ z, skip flags cs ≠ '?' :: z) :
    opening? flags cs = some (.group none flags, skip flags cs) := by
  unfold opening?
  split
  · rename_i heq
    exact absurd heq (h _)
  · rename_i heq
    exact absurd heq (h _)
  · rename_i heq
    exact absurd heq (h _)
  · rfl

/-- The forms of what stands behind an opening parenthesis. -/
theorem opening_forms (cs : List Char) :
    (∃ x, cs = '?' :: 'P' :: '<' :: x) ∨ (∃ x, cs = '?' :: '<' :: x) ∨
      (∃ x, cs = '?' :: x ∧ (∀ z, x ≠ 'P' :: '<' :: z) ∧ ∀ z, x ≠ '<' :: z) ∨
      ∀ z, cs ≠ '?' :: z := by
  by_cases hmark : ∃ x, cs = '?' :: x
  · obtain ⟨x, rfl⟩ := hmark
    by_cases hlong : ∃ z, x = 'P' :: '<' :: z
    · obtain ⟨z, rfl⟩ := hlong
      exact .inl ⟨z, rfl⟩
    · by_cases hshort : ∃ z, x = '<' :: z
      · obtain ⟨z, rfl⟩ := hshort
        exact .inr (.inl ⟨z, rfl⟩)
      · exact .inr (.inr (.inl ⟨x, rfl, not_exists.mp hlong, not_exists.mp hshort⟩))
  · exact .inr (.inr (.inr (not_exists.mp hmark)))

section Opening

variable {opening : Opening}

theorem named?_suffix (h : named? flags cs = some (opening, rest)) : rest <:+ cs := by
  obtain ⟨⟨name, left⟩, hname, heq⟩ := Option.map_eq_some_iff.mp h
  cases heq
  exact groupName?_suffix hname

theorem named?_alone (h : named? flags (cs ++ ')' :: u) = some (opening, rest ++ ')' :: u)) :
    named? flags cs = some (opening, rest) := by
  obtain ⟨⟨name, left⟩, hname, heq⟩ := Option.map_eq_some_iff.mp h
  cases heq
  rw [named?, groupName?_alone hname, Option.map_some]

theorem flagged?_eq_some_iff : flagged? flags cs = some (opening, rest) ↔
    ∃ flags' seen c, flags? flags [] cs = some (flags', seen, c :: rest) ∧
      ¬ (seen = [] ∧ c = ')') ∧
      opening = if c = ')' then .setting flags' else .group none flags' := by
  unfold flagged?
  constructor
  · intro h
    split at h
    · cases h
    · rename_i flags' seen left hseen heq
      cases h
      exact ⟨flags', seen, ')', heq, fun hempty => hseen hempty.1, rfl⟩
    · rename_i flags' seen c left _ hclose heq
      cases h
      exact ⟨flags', seen, c, heq, fun hempty => hclose hempty.2, (if_neg hclose).symm⟩
    · cases h
  · rintro ⟨flags', seen, c, hread, hempty, rfl⟩
    rw [hread]
    by_cases hclose : c = ')'
    · subst hclose
      cases seen with
      | nil => exact absurd ⟨rfl, rfl⟩ hempty
      | cons d seen => rfl
    · rw [if_neg hclose]
      split
      · rename_i heq
        simp only [Option.some.injEq, Prod.mk.injEq, List.cons.injEq] at heq
        exact absurd heq.2.2.1 hclose
      · rename_i heq
        simp only [Option.some.injEq, Prod.mk.injEq, List.cons.injEq] at heq
        exact absurd heq.2.2.1 hclose
      · rename_i heq
        cases heq
        rfl
      · rename_i hother
        exact absurd rfl (hother flags' seen c rest)

theorem opening?_suffix (h : opening? flags cs = some (opening, rest)) :
    rest <:+ skip flags cs := by
  rcases opening_forms (skip flags cs) with ⟨x, hx⟩ | ⟨x, hx⟩ | ⟨x, hx, hlong, hshort⟩ | hplain
  · rw [opening?_longName hx] at h
    rw [hx]
    exact (named?_suffix h).trans (List.suffix_append ['?', 'P', '<'] x)
  · rw [opening?_shortName hx] at h
    rw [hx]
    split at h
    · cases h
    · exact (named?_suffix h).trans (List.suffix_append ['?', '<'] x)
  · rw [opening?_flags hx hlong hshort] at h
    obtain ⟨flags', seen, c, hflags, -, -⟩ := flagged?_eq_some_iff.mp h
    rw [hx]
    exact suffix_cons_of_suffix ((List.suffix_cons _ _).trans (flags?_suffix hflags)) _
  · rw [opening?_plain hplain] at h
    cases h
    exact List.suffix_rfl

theorem opening?_alone (h : opening? flags (cs ++ ')' :: u) = some (opening, rest ++ ')' :: u)) :
    opening? flags cs = some (opening, rest) := by
  obtain ⟨y, hy, hcs, -⟩ := skip_alone (opening?_suffix h)
  rcases opening_forms y with ⟨x, rfl⟩ | ⟨x, rfl⟩ | ⟨x, rfl, hlong, hshort⟩ | hplain
  · rw [opening?_longName hy] at h
    rw [opening?_longName hcs]
    exact named?_alone h
  · rw [opening?_shortName hy] at h
    rw [opening?_shortName hcs]
    split at h
    · cases h
    · rename_i hlook
      have hname := named?_alone h
      cases x with
      | nil =>
        obtain ⟨⟨name, left⟩, hgroup, -⟩ := Option.map_eq_some_iff.mp hname
        cases hgroup
      | cons d x =>
        have hlook' : ¬ ((d :: x).head? = some '=' ∨ (d :: x).head? = some '!') := hlook
        rw [if_neg hlook']
        exact hname
  · have hlong' : ∀ z, x ++ ')' :: u ≠ 'P' :: '<' :: z := by
      intro z heq
      cases x with
      | nil => exact absurd (List.cons.inj heq).1 (by decide)
      | cons d x =>
        refine append_ne_cons ?_ (by decide) z (List.cons.inj heq).2
        rintro w rfl
        exact hlong w (by rw [(List.cons.inj heq).1])
    rw [opening?_flags hy hlong' (append_ne_cons hshort (by decide))] at h
    rw [opening?_flags hcs hlong hshort]
    obtain ⟨flags', seen, c, hflags, hform⟩ := flagged?_eq_some_iff.mp h
    exact flagged?_eq_some_iff.mpr ⟨flags', seen, c, flags?_alone hflags, hform⟩
  · rw [opening?_plain (hy ▸ append_ne_cons hplain (by decide)), hy, Option.some.injEq,
      Prod.mk.injEq] at h
    rw [opening?_plain (hcs ▸ hplain), hcs, h.1, List.append_cancel_right h.2]

end Opening

/-! ## Counts -/

theorem dropWhile_alone {p : Char → Bool} (h : (cs ++ u).dropWhile p = rest ++ u) :
    cs.dropWhile p = rest := by
  have hspan : (cs ++ u).span p = ((cs ++ u).takeWhile p, rest ++ u) := by
    rw [List.span_eq_takeWhile_dropWhile, h]
  have hleft := span_alone hspan
  rw [List.span_eq_takeWhile_dropWhile] at hleft
  exact (Prod.mk.inj hleft).2

theorem digitsOf_suffix (flags : Flags) (fuel : Nat) (cs : List Char) :
    (count?.digitsOf flags fuel cs).2 <:+ cs := by
  induction fuel generalizing cs with
  | zero => exact List.suffix_rfl
  | succ fuel ih =>
    cases cs with
    | nil => exact List.suffix_rfl
    | cons c cs =>
      rw [count?.digitsOf]
      split
      · exact suffix_cons_of_suffix ((ih _).trans (skip_suffix flags cs)) c
      · exact List.suffix_rfl

theorem digitsOf_alone {fuel fuel' : Nat} {ds : List Char} (hfuel : cs.length + u.length < fuel)
    (hfuel' : cs.length ≤ fuel')
    (h : count?.digitsOf flags fuel (cs ++ ')' :: u) = (ds, rest ++ ')' :: u)) :
    count?.digitsOf flags fuel' cs = (ds, rest) := by
  induction fuel generalizing cs ds fuel' with
  | zero => omega
  | succ fuel ih =>
    cases cs with
    | nil =>
      rw [List.nil_append, count?.digitsOf, if_neg (by decide), Prod.mk.injEq] at h
      have hrest : [] = rest := List.append_cancel_right h.2
      rw [← h.1, ← hrest]
      cases fuel' <;> rfl
    | cons c cs =>
      rw [List.length_cons] at hfuel hfuel'
      obtain ⟨fuel', rfl⟩ := Nat.exists_eq_add_of_le' (Nat.le_trans (Nat.le_add_left 1 _) hfuel')
      rw [List.cons_append, count?.digitsOf] at h
      rw [count?.digitsOf]
      by_cases hdigit : Text.isAsciiDigit c = true
      · rw [if_pos hdigit] at h ⊢
        rw [Prod.mk.injEq] at h
        have hleft : rest ++ ')' :: u <:+ skip flags (cs ++ ')' :: u) := by
          rw [← h.2]
          exact digitsOf_suffix flags fuel _
        obtain ⟨y, hy, hskip, -⟩ := skip_alone hleft
        have hlength : y.length ≤ cs.length := hskip ▸ (skip_suffix flags cs).length_le
        rw [hy] at h
        rw [hskip, ih (by omega) (by omega) (Prod.ext rfl h.2), ← h.1]
      · rw [if_neg hdigit, Prod.mk.injEq] at h ⊢
        rw [← List.cons_append] at h
        exact ⟨h.1, List.append_cancel_right h.2⟩

section Count

variable {n least : Nat} {most : Option Nat}

/-- The digits of a count, and what is left behind the blanks around them. -/
def countDigits (flags : Flags) (cs : List Char) : List Char × List Char :=
  let cs := cs.dropWhile Text.isBlankChar
  let read := count?.digitsOf flags cs.length cs
  (read.1, skip flags (read.2.dropWhile Text.isBlankChar))

theorem count?_eq : count? flags cs =
    ((Text.digits? (countDigits flags cs).1).filter (· ≤ Text.largest32)).map fun n =>
      (n, (countDigits flags cs).2) := rfl

theorem countDigits_suffix (flags : Flags) (cs : List Char) : (countDigits flags cs).2 <:+ cs :=
  (((skip_suffix flags _).trans (List.dropWhile_suffix _)).trans (digitsOf_suffix flags _ _)).trans
    (List.dropWhile_suffix _)

theorem countDigits_alone {ds : List Char}
    (h : countDigits flags (cs ++ ')' :: u) = (ds, rest ++ ')' :: u)) :
    countDigits flags cs = (ds, rest) := by
  simp only [countDigits, Prod.mk.injEq] at h ⊢
  obtain ⟨hdigits, hleft⟩ := h
  obtain ⟨start, hstart⟩ : ∃ start, start = (cs ++ ')' :: u).dropWhile Text.isBlankChar := ⟨_, rfl⟩
  rw [← hstart] at hdigits hleft
  cases hread : count?.digitsOf flags start.length start with
  | mk d left =>
    rw [hread] at hdigits hleft
    have hblanks : rest ++ ')' :: u <:+ left.dropWhile Text.isBlankChar := by
      rw [← hleft]
      exact skip_suffix flags _
    have hstartSuffix : start <:+ cs ++ ')' :: u := hstart ▸ List.dropWhile_suffix _
    have hleftSuffix : left <:+ start := by
      have hsuffix := digitsOf_suffix flags start.length start
      rw [hread] at hsuffix
      exact hsuffix
    -- The text as it is left by each step is left in front of the parenthesis.
    have hbehind := hblanks.trans (List.dropWhile_suffix _)
    obtain ⟨y, rfl, -, -⟩ := exists_append_of_suffix (hbehind.trans hleftSuffix) hstartSuffix
    obtain ⟨z, rfl, -, -⟩ := exists_append_of_suffix hbehind hleftSuffix
    obtain ⟨w, hw, -, -⟩ := exists_append_of_suffix hblanks (List.dropWhile_suffix _)
    have hfuel : y.length + u.length < (y ++ ')' :: u).length := by
      rw [List.length_append, List.length_cons]
      omega
    rw [hw] at hleft
    rw [dropWhile_alone hstart.symm, digitsOf_alone hfuel (Nat.le_refl y.length) hread,
      dropWhile_alone hw]
    exact ⟨hdigits, skip_of_append hleft⟩

theorem count?_suffix (h : count? flags cs = some (n, rest)) : rest <:+ cs := by
  rw [count?_eq] at h
  obtain ⟨m, -, heq⟩ := Option.map_eq_some_iff.mp h
  cases heq
  exact countDigits_suffix flags cs

theorem count?_alone (h : count? flags (cs ++ ')' :: u) = some (n, rest ++ ')' :: u)) :
    count? flags cs = some (n, rest) := by
  rw [count?_eq] at h ⊢
  obtain ⟨m, hm, heq⟩ := Option.map_eq_some_iff.mp h
  rw [Prod.mk.injEq] at heq
  rw [countDigits_alone (Prod.ext rfl heq.2), hm, Option.map_some, heq.1]

theorem count?_nil (flags : Flags) : count? flags [] = none := rfl

/-- The rest of a count, behind its first number and a comma. -/
def countTo? (flags : Flags) (least : Nat) (cs : List Char) :
    Option (Nat × Option Nat × List Char) :=
  (count? flags cs).bind fun r =>
    match r.2 with
    | [] => none
    | c :: rest => if c = '\x7d' ∧ least ≤ r.1 then some (least, some r.1, rest) else none

/-- The rest of a count, behind its first number. -/
def countFrom? (flags : Flags) (least : Nat) : List Char → Option (Nat × Option Nat × List Char)
  | [] => none
  | c :: rest =>
    if c = '\x7d' then some (least, some least, rest)
    else if c = ',' then
      match skip flags rest with
      | [] => none
      | d :: later =>
        if d = '\x7d' then some (least, none, later) else countTo? flags least (d :: later)
    else none

theorem counts?_eq : counts? flags cs =
    (count? flags (skip flags cs)).bind fun r => countFrom? flags r.1 r.2 := by
  unfold counts?
  cases count? flags (skip flags cs) with
  | none => rfl
  | some read =>
    obtain ⟨least, left⟩ := read
    simp only [Option.bind_some]
    cases left with
    | nil => rfl
    | cons c rest =>
      by_cases hclose : c = '\x7d'
      · subst hclose
        rfl
      · by_cases hcomma : c = ','
        · subst hcomma
          simp only [countFrom?]
          rw [if_neg (by decide), if_pos trivial]
          cases skip flags rest with
          | nil => rfl
          | cons d later =>
            by_cases hend : d = '\x7d'
            · subst hend
              rfl
            · simp only [if_neg hend, countTo?]
              split
              · rename_i heq
                exact absurd (List.cons.inj heq).1 hend
              · cases count? flags (d :: later) with
                | none => rfl
                | some read =>
                  obtain ⟨most, left⟩ := read
                  cases left with
                  | nil => rfl
                  | cons e left =>
                    by_cases hlast : e = '\x7d'
                    · subst hlast
                      simp
                    · simp [hlast]
        · simp only [countFrom?, if_neg hclose, if_neg hcomma]
          split <;> simp_all

theorem countTo?_suffix (h : countTo? flags n cs = some (least, most, rest)) : rest <:+ cs := by
  obtain ⟨⟨m, left⟩, hcount, hclose⟩ := Option.bind_eq_some_iff.mp h
  cases left with
  | nil => cases hclose
  | cons c left =>
    simp only at hclose
    split at hclose
    · cases hclose
      exact (List.suffix_cons c rest).trans (count?_suffix hcount)
    · cases hclose

theorem countTo?_alone
    (h : countTo? flags n (cs ++ ')' :: u) = some (least, most, rest ++ ')' :: u)) :
    countTo? flags n cs = some (least, most, rest) := by
  obtain ⟨⟨m, left⟩, hcount, hclose⟩ := Option.bind_eq_some_iff.mp h
  cases left with
  | nil => cases hclose
  | cons c left =>
    simp only at hclose
    split at hclose
    · rename_i hend
      cases hclose
      have hread : count? flags cs = some (m, c :: rest) := count?_alone hcount
      rw [countTo?, hread]
      simp only [Option.bind_some, if_pos hend]
    · cases hclose

theorem countFrom?_suffix (h : countFrom? flags n cs = some (least, most, rest)) : rest <:+ cs := by
  cases cs with
  | nil => cases h
  | cons c cs =>
    rw [countFrom?] at h
    split at h
    · cases h
      exact List.suffix_cons c rest
    · split at h
      · have hskip := skip_suffix flags cs
        cases hcs : skip flags cs with
        | nil =>
          rw [hcs] at h
          cases h
        | cons d later =>
          rw [hcs] at hskip
          simp only [hcs] at h
          refine suffix_cons_of_suffix (List.IsSuffix.trans ?_ hskip) c
          split at h
          · cases h
            exact List.suffix_cons d rest
          · exact countTo?_suffix h
      · cases h

theorem countFrom?_alone
    (h : countFrom? flags n (cs ++ ')' :: u) = some (least, most, rest ++ ')' :: u)) :
    countFrom? flags n cs = some (least, most, rest) := by
  cases cs with
  | nil => cases h
  | cons c cs =>
    rw [List.cons_append, countFrom?] at h
    rw [countFrom?]
    by_cases hclose : c = '\x7d'
    · rw [if_pos hclose] at h ⊢
      simp only [Option.some.injEq, Prod.mk.injEq] at h ⊢
      exact ⟨h.1, h.2.1, List.append_cancel_right h.2.2⟩
    · rw [if_neg hclose] at h ⊢
      by_cases hcomma : c = ','
      · rw [if_pos hcomma] at h ⊢
        have hleft : rest ++ ')' :: u <:+ skip flags (cs ++ ')' :: u) := by
          cases hskip : skip flags (cs ++ ')' :: u) with
          | nil =>
            rw [hskip] at h
            cases h
          | cons d later =>
            simp only [hskip] at h
            split at h
            · cases h
              exact List.suffix_cons _ _
            · exact countTo?_suffix h
        obtain ⟨y, hy, hskip, -⟩ := skip_alone hleft
        rw [hy] at h
        rw [hskip]
        cases y with
        | nil =>
          -- The parenthesis would be a number.
          simp only [List.nil_append, if_neg (by decide : ¬ ')' = '\x7d')] at h
          have hnone : countTo? flags n [] = some (least, most, rest) := countTo?_alone h
          rw [countTo?, count?_nil] at hnone
          cases hnone
        | cons d y =>
          simp only [List.cons_append] at h ⊢
          by_cases hend : d = '\x7d'
          · rw [if_pos hend] at h ⊢
            simp only [Option.some.injEq, Prod.mk.injEq] at h ⊢
            exact ⟨h.1, h.2.1, List.append_cancel_right h.2.2⟩
          · rw [if_neg hend] at h ⊢
            exact countTo?_alone h
      · rw [if_neg hcomma] at h
        cases h

theorem counts?_suffix (h : counts? flags cs = some (least, most, rest)) :
    rest <:+ skip flags cs := by
  rw [counts?_eq] at h
  obtain ⟨⟨m, left⟩, hcount, hfrom⟩ := Option.bind_eq_some_iff.mp h
  exact (countFrom?_suffix hfrom).trans (count?_suffix hcount)

theorem counts?_alone (h : counts? flags (cs ++ ')' :: u) = some (least, most, rest ++ ')' :: u)) :
    counts? flags cs = some (least, most, rest) := by
  obtain ⟨y, hy, hcs, -⟩ := skip_alone (counts?_suffix h)
  rw [counts?_eq, hy] at h
  rw [counts?_eq, hcs]
  obtain ⟨⟨m, left⟩, hcount, hfrom⟩ := Option.bind_eq_some_iff.mp h
  obtain ⟨z, rfl, -, -⟩ := exists_append_of_suffix (countFrom?_suffix hfrom) (count?_suffix hcount)
  rw [count?_alone hcount, Option.bind_some]
  exact countFrom?_alone hfrom

end Count

/-! ## Parts -/

/-- What a character stands for that is no escape. -/
def plainPart? (flags : Flags) (c : Char) : Option Pattern :=
  if c = '.' then partOf? flags .dot
  else if c = '^' then some (.condition (if !flags.manyLines then .textStart
    else if flags.anyLineEnd then .lineStartAny else .lineStart))
  else if c = '$' then some (.condition (if !flags.manyLines then .textEnd
    else if flags.anyLineEnd then .lineEndAny else .lineEnd))
  else partOf? flags (.literal c)

theorem part?_cons : part? flags (c :: cs) =
    if c = '\\' then
      (escape? flags cs).bind fun r => (partOf? flags r.1).map fun p => (p, r.2)
    else (plainPart? flags c).map fun p => (p, cs) := by
  unfold part? plainPart?
  split
  · rename_i heq
    cases heq
  · rename_i heq
    cases heq
    rfl
  · rename_i heq
    cases heq
    rfl
  · rename_i heq
    cases heq
    rfl
  · rename_i heq
    cases heq
    rfl
  · rename_i hslash hdot hcaret hdollar heq
    cases heq
    rw [if_neg hslash, if_neg hdot, if_neg hcaret, if_neg hdollar]

variable {p : Pattern}

theorem part?_suffix (h : part? flags (c :: cs) = some (p, rest)) : rest <:+ cs := by
  rw [part?_cons] at h
  split at h
  · obtain ⟨⟨item, left⟩, hread, hmap⟩ := Option.bind_eq_some_iff.mp h
    obtain ⟨p, -, heq⟩ := Option.map_eq_some_iff.mp hmap
    cases heq
    exact escape?_suffix hread
  · obtain ⟨p, -, heq⟩ := Option.map_eq_some_iff.mp h
    cases heq
    exact List.suffix_rfl

theorem part?_alone (h : part? flags (c :: cs ++ ')' :: u) = some (p, rest ++ ')' :: u)) :
    BareBrace flags rest ∨ part? flags (c :: cs) = some (p, rest) := by
  rw [List.cons_append, part?_cons] at h
  rw [part?_cons]
  split at h
  · rename_i hslash
    obtain ⟨⟨item, left⟩, hread, hmap⟩ := Option.bind_eq_some_iff.mp h
    obtain ⟨p, hp, heq⟩ := Option.map_eq_some_iff.mp hmap
    cases heq
    refine (escape?_alone hread).imp (fun ⟨_, _, hbare⟩ => hbare) fun hread => ?_
    rw [if_pos hslash, hread]
    simp only [Option.bind_some, hp, Option.map_some]
  · rename_i hslash
    right
    obtain ⟨p, hp, heq⟩ := Option.map_eq_some_iff.mp h
    rw [Prod.mk.injEq] at heq
    rw [if_neg hslash, hp, Option.map_some, heq.1, List.append_cancel_right heq.2]

theorem skipLazy_suffix (cs : List Char) : skipLazy cs <:+ cs := by
  unfold skipLazy
  split
  · exact List.suffix_cons _ _
  · exact List.suffix_rfl

theorem skipLazy_alone (h : rest ++ ')' :: u <:+ skipLazy (cs ++ ')' :: u)) :
    ∃ y, skipLazy (cs ++ ')' :: u) = y ++ ')' :: u ∧ skipLazy cs = y := by
  cases cs with
  | nil => exact ⟨[], rfl, rfl⟩
  | cons c cs =>
    by_cases hlazy : c = '?'
    · subst hlazy
      exact ⟨cs, rfl, rfl⟩
    · refine ⟨c :: cs, ?_, ?_⟩ <;> simp [skipLazy, hlazy]

/-! ## Repetition -/

section Repetition

variable {r r' : Parsed}

/-- A mark that repeats the last part, and how often. -/
def countBehind? (flags : Flags) (c : Char) (cs : List Char) :
    Option (Nat × Option Nat × List Char) :=
  if c = '?' then some (0, some 1, cs)
  else if c = '*' then some (0, none, cs)
  else if c = '+' then some (1, none, cs)
  else (counts? flags cs).map fun n => (n.1, n.2.1, skip flags n.2.2)

/-- Repeats the last part. -/
def repeated? (flags : Flags) (r : Parsed) (c : Char) (cs : List Char) :
    Option (Parsed × List Char) :=
  (countBehind? flags c cs).bind fun n =>
    (r.repeatLast? n.1 n.2.1).map fun r => (r, skipLazy n.2.2)

theorem countBehind?_suffix {least : Nat} {most : Option Nat}
    (h : countBehind? flags c cs = some (least, most, rest)) : rest <:+ cs := by
  unfold countBehind? at h
  split at h
  · cases h
    exact List.suffix_rfl
  · split at h
    · cases h
      exact List.suffix_rfl
    · split at h
      · cases h
        exact List.suffix_rfl
      · obtain ⟨⟨n, m, left⟩, hcounts, heq⟩ := Option.map_eq_some_iff.mp h
        cases heq
        exact ((skip_suffix flags left).trans (counts?_suffix hcounts)).trans (skip_suffix flags cs)

theorem countBehind?_alone {least : Nat} {most : Option Nat}
    (h : countBehind? flags c (cs ++ ')' :: u) = some (least, most, rest ++ ')' :: u)) :
    countBehind? flags c cs = some (least, most, rest) := by
  have hplain : ∀ {n : Nat} {m : Option Nat},
      some (n, m, cs ++ ')' :: u) = some (least, most, rest ++ ')' :: u) →
        some (n, m, cs) = some (least, most, rest) := by
    intro n m heq
    simp only [Option.some.injEq, Prod.mk.injEq] at heq ⊢
    exact ⟨heq.1, heq.2.1, List.append_cancel_right heq.2.2⟩
  unfold countBehind? at h ⊢
  by_cases hmaybe : c = '?'
  · rw [if_pos hmaybe] at h ⊢
    exact hplain h
  · rw [if_neg hmaybe] at h ⊢
    by_cases hany : c = '*'
    · rw [if_pos hany] at h ⊢
      exact hplain h
    · rw [if_neg hany] at h ⊢
      by_cases hsome : c = '+'
      · rw [if_pos hsome] at h ⊢
        exact hplain h
      · rw [if_neg hsome] at h ⊢
        obtain ⟨⟨n, m, left⟩, hcounts, heq⟩ := Option.map_eq_some_iff.mp h
        simp only [Prod.mk.injEq] at heq
        have hleft : rest ++ ')' :: u <:+ left := by
          rw [← heq.2.2]
          exact skip_suffix flags left
        obtain ⟨z, rfl, -, -⟩ := exists_append_of_suffix hleft
          ((counts?_suffix hcounts).trans (skip_suffix flags _))
        rw [counts?_alone hcounts, Option.map_some]
        simp only [heq.1, heq.2.1, skip_of_append heq.2.2]

theorem repeated?_suffix (h : repeated? flags r c cs = some (r', rest)) : rest <:+ cs := by
  obtain ⟨⟨least, most, left⟩, hcount, hmap⟩ := Option.bind_eq_some_iff.mp h
  obtain ⟨r', -, heq⟩ := Option.map_eq_some_iff.mp hmap
  cases heq
  exact (skipLazy_suffix left).trans (countBehind?_suffix hcount)

theorem repeated?_alone (h : repeated? flags r c (cs ++ ')' :: u) = some (r', rest ++ ')' :: u)) :
    repeated? flags r c cs = some (r', rest) := by
  obtain ⟨⟨least, most, left⟩, hcount, hmap⟩ := Option.bind_eq_some_iff.mp h
  obtain ⟨r', hr, heq⟩ := Option.map_eq_some_iff.mp hmap
  simp only [Prod.mk.injEq] at hr heq
  have hleft : rest ++ ')' :: u <:+ skipLazy left := by
    rw [← heq.2]
  obtain ⟨z, rfl, -, -⟩ := exists_append_of_suffix (hleft.trans (skipLazy_suffix left))
    (countBehind?_suffix hcount)
  obtain ⟨y, hy, hlazy⟩ := skipLazy_alone hleft
  rw [hy] at heq
  rw [repeated?, countBehind?_alone hcount, Option.bind_some]
  simp only [hr, Option.map_some, heq.1, hlazy, List.append_cancel_right heq.2]

end Repetition

/-! ## Groups -/

section Step

/-- How a group inside of a group is read. -/
abbrev GroupReader := Flags → Parsed → List Char → Option (Parsed × List Char)

variable {inner inner' : GroupReader} {flags' : Flags} {r r' : Parsed}

/-- A group inside of a group, or flags for the rest of the group around them. -/
def opened? (inner : GroupReader) (flags : Flags) (r : Parsed) (cs : List Char) :
    Option (Flags × Parsed × List Char) :=
  (opening? flags cs).bind fun o =>
    match o.1 with
    | .setting flags => some (flags, r.add none, o.2)
    | .group name innerFlags =>
      if name.any r.names.contains then none
      else (inner innerFlags { names := name.toList ++ r.names } o.2).bind fun g =>
        match g.2 with
        | [] => none
        | c :: rest =>
          if c = ')' then
            some (flags, { r.add (some (.group g.1.pattern)) with names := g.1.names }, rest)
          else none

/-- One step through a group. -/
def step? (inner : GroupReader) (flags : Flags) (r : Parsed) (c : Char) (cs : List Char) :
    Option (Flags × Parsed × List Char) :=
  if c = '|' then some (flags, { r with branches := r.branch :: r.branches, parts := [] }, cs)
  else if c = '(' then opened? inner flags r cs
  else if c = '[' then
    (set? flags (cs.length + 1) cs).map fun s => (flags, r.add (some (.char s.1 narrowWeight)), s.2)
  else if c = '?' ∨ c = '*' ∨ c = '+' ∨ c = '\x7b' then
    (repeated? flags r c cs).map fun q => (flags, q.1, q.2)
  else (part? flags (c :: cs)).map fun p => (flags, r.add (some p.1), p.2)

theorem group?_succ (fuel : Nat) : group? (fuel + 1) flags r cs =
    match skip flags cs with
    | [] => some (r, [])
    | c :: rest =>
      if c = ')' then some (r, c :: rest)
      else (step? (group? fuel) flags r c rest).bind fun q => group? fuel q.1 q.2.1 q.2.2 := by
  rw [group?]
  cases skip flags cs with
  | nil => rfl
  | cons c rest =>
    simp only [step?]
    split
    · rfl
    · split
      · rfl
      · split
        · unfold opened?
          cases opening? flags rest with
          | none => rfl
          | some read =>
            obtain ⟨opening, later⟩ := read
            cases opening with
            | setting flags => rfl
            | group name innerFlags =>
              simp only [Option.bind_some]
              split
              · rfl
              · cases group? fuel innerFlags { names := name.toList ++ r.names } later with
                | none => rfl
                | some read =>
                  obtain ⟨read, left⟩ := read
                  cases left with
                  | nil => rfl
                  | cons d left =>
                    by_cases hclose : d = ')'
                    · subst hclose
                      rfl
                    · simp [hclose]
        · split
          · cases set? flags (rest.length + 1) rest <;> rfl
          · by_cases hmark : c = '?' ∨ c = '*' ∨ c = '+' ∨ c = '\x7b'
            · rw [if_pos hmark]
              rcases hmark with rfl | rfl | rfl | rfl
              · have hread : repeated? flags r '?' rest =
                    (r.repeatLast? 0 (some 1)).map fun r => (r, skipLazy rest) := rfl
                rw [hread]
                cases r.repeatLast? 0 (some 1) <;> rfl
              · have hread : repeated? flags r '*' rest =
                    (r.repeatLast? 0 none).map fun r => (r, skipLazy rest) := rfl
                rw [hread]
                cases r.repeatLast? 0 none <;> rfl
              · have hread : repeated? flags r '+' rest =
                    (r.repeatLast? 1 none).map fun r => (r, skipLazy rest) := rfl
                rw [hread]
                cases r.repeatLast? 1 none <;> rfl
              · have hread : repeated? flags r '\x7b' rest = (counts? flags rest).bind fun n =>
                    (r.repeatLast? n.1 n.2.1).map fun r => (r, skipLazy (skip flags n.2.2)) := by
                  unfold repeated? countBehind?
                  cases counts? flags rest <;> rfl
                rw [hread]
                obtain ⟨branches, parts, names⟩ := r
                cases counts? flags rest with
                | none => cases parts <;> simp
                | some read =>
                  obtain ⟨least, most, left⟩ := read
                  cases parts with
                  | nil => rfl
                  | cons part parts => cases part <;> rfl
            · rw [if_neg hmark]
              simp only [not_or] at hmark
              simp only [hmark, if_false]
              cases part? flags (c :: rest) <;> rfl

theorem opened?_suffix (hinner : ∀ {flags : Flags} {r r' : Parsed} {cs rest : List Char},
      inner flags r cs = some (r', rest) → rest <:+ cs)
    (h : opened? inner flags r cs = some (flags', r', rest)) : rest <:+ cs := by
  obtain ⟨⟨opening, later⟩, hopening, h⟩ := Option.bind_eq_some_iff.mp h
  have hlater := (opening?_suffix hopening).trans (skip_suffix flags cs)
  cases opening with
  | setting flags =>
    cases h
    exact hlater
  | group name innerFlags =>
    simp only at h
    split at h
    · cases h
    · obtain ⟨⟨read, left⟩, hread, hclose⟩ := Option.bind_eq_some_iff.mp h
      cases left with
      | nil => cases hclose
      | cons c left =>
        simp only at hclose
        split at hclose
        · cases hclose
          exact ((List.suffix_cons c rest).trans (hinner hread)).trans hlater
        · cases hclose

theorem step?_suffix (hinner : ∀ {flags : Flags} {r r' : Parsed} {cs rest : List Char},
      inner flags r cs = some (r', rest) → rest <:+ cs)
    (h : step? inner flags r c cs = some (flags', r', rest)) : rest <:+ cs := by
  unfold step? at h
  split at h
  · cases h
    exact List.suffix_rfl
  · split at h
    · exact opened?_suffix hinner h
    · split at h
      · obtain ⟨⟨s, left⟩, hset, heq⟩ := Option.map_eq_some_iff.mp h
        cases heq
        exact ((List.suffix_cons _ _).trans (set?_suffix hset)).trans (skip_suffix flags cs)
      · split at h
        · obtain ⟨⟨r', left⟩, hrepeated, heq⟩ := Option.map_eq_some_iff.mp h
          cases heq
          exact repeated?_suffix hrepeated
        · obtain ⟨⟨p, left⟩, hpart, heq⟩ := Option.map_eq_some_iff.mp h
          cases heq
          exact part?_suffix hpart

theorem group?_suffix {fuel : Nat} (h : group? fuel flags r cs = some (r', rest)) :
    rest <:+ skip flags cs := by
  induction fuel generalizing flags r r' cs rest with
  | zero => cases h
  | succ fuel ih =>
    rw [group?_succ] at h
    cases hskip : skip flags cs with
    | nil =>
      simp only [hskip] at h
      cases h
      exact List.suffix_rfl
    | cons c behind =>
      simp only [hskip] at h
      split at h
      · cases h
        exact List.suffix_rfl
      · obtain ⟨⟨flags', r₁, later⟩, hstep, hgroup⟩ := Option.bind_eq_some_iff.mp h
        have hlater : later <:+ behind :=
          step?_suffix (fun h => (ih h).trans (skip_suffix _ _)) hstep
        exact suffix_cons_of_suffix (((ih hgroup).trans (skip_suffix _ _)).trans hlater) c

theorem opened?_alone (hinner : ∀ {flags : Flags} {r r' : Parsed} {cs rest : List Char},
      inner flags r cs = some (r', rest) → rest <:+ cs)
    (halone : ∀ {flags : Flags} {r r' : Parsed} {x rest : List Char}, x <:+ cs →
      inner flags r (x ++ ')' :: u) = some (r', rest ++ ')' :: u) →
        inner' flags r x = some (r', rest))
    (h : opened? inner flags r (cs ++ ')' :: u) = some (flags', r', rest ++ ')' :: u)) :
    opened? inner' flags r cs = some (flags', r', rest) := by
  obtain ⟨⟨opening, later⟩, hopening, h⟩ := Option.bind_eq_some_iff.mp h
  have hlater := (opening?_suffix hopening).trans (skip_suffix flags _)
  cases opening with
  | setting flags =>
    simp only [Option.some.injEq, Prod.mk.injEq] at h
    obtain ⟨hflags, hr, hrest⟩ := h
    rw [hrest] at hopening
    rw [opened?, opening?_alone hopening, Option.bind_some, hflags, hr]
  | group name innerFlags =>
    simp only at h
    split at h
    · cases h
    · rename_i hname
      obtain ⟨⟨read, left⟩, hread, hclose⟩ := Option.bind_eq_some_iff.mp h
      cases left with
      | nil => cases hclose
      | cons c left =>
        simp only at hclose
        split at hclose
        · rename_i hparen
          simp only [Option.some.injEq, Prod.mk.injEq] at hclose
          obtain ⟨hflags, hr, rfl⟩ := hclose
          obtain ⟨z, rfl, -, hz⟩ := exists_append_of_suffix
            ((List.suffix_cons c _).trans (hinner hread)) hlater
          have hgroup : inner' innerFlags { names := name.toList ++ r.names } z =
              some (read, c :: rest) := halone hz hread
          rw [opened?, opening?_alone hopening, Option.bind_some]
          simp only [if_neg hname, hgroup, Option.bind_some, if_pos hparen, hflags, hr]
        · cases hclose

/-- Only a part may look ahead, and it is left in front of a bare brace then. -/
theorem step?_alone (hinner : ∀ {flags : Flags} {r r' : Parsed} {cs rest : List Char},
      inner flags r cs = some (r', rest) → rest <:+ cs)
    (halone : ∀ {flags : Flags} {r r' : Parsed} {x rest : List Char}, x <:+ cs →
      inner flags r (x ++ ')' :: u) = some (r', rest ++ ')' :: u) →
        inner' flags r x = some (r', rest))
    (h : step? inner flags r c (cs ++ ')' :: u) = some (flags', r', rest ++ ')' :: u)) :
    BareBrace flags' rest ∨ step? inner' flags r c cs = some (flags', r', rest) := by
  unfold step? at h ⊢
  by_cases hbar : c = '|'
  · right
    rw [if_pos hbar, Option.some.injEq, Prod.mk.injEq, Prod.mk.injEq] at h ⊢
    exact ⟨h.1, h.2.1, List.append_cancel_right h.2.2⟩
  · rw [if_neg hbar] at h ⊢
    by_cases hopen : c = '('
    · right
      rw [if_pos hopen] at h ⊢
      exact opened?_alone hinner halone h
    · rw [if_neg hopen] at h ⊢
      by_cases hset : c = '['
      · right
        rw [if_pos hset] at h ⊢
        obtain ⟨⟨s, left⟩, hread, heq⟩ := Option.map_eq_some_iff.mp h
        simp only [Prod.mk.injEq] at heq
        obtain ⟨hflags, hr, rfl⟩ := heq
        rw [set?_alone (Nat.lt_succ_self _) hread, Option.map_some, hflags, hr]
      · rw [if_neg hset] at h ⊢
        by_cases hmark : c = '?' ∨ c = '*' ∨ c = '+' ∨ c = '\x7b'
        · right
          rw [if_pos hmark] at h ⊢
          obtain ⟨⟨r₁, left⟩, hread, heq⟩ := Option.map_eq_some_iff.mp h
          simp only [Prod.mk.injEq] at heq
          obtain ⟨hflags, hr, rfl⟩ := heq
          rw [repeated?_alone hread, Option.map_some, hflags, hr]
        · rw [if_neg hmark] at h ⊢
          obtain ⟨⟨p, left⟩, hread, heq⟩ := Option.map_eq_some_iff.mp h
          simp only [Prod.mk.injEq] at heq
          obtain ⟨rfl, hr, rfl⟩ := heq
          refine (part?_alone hread).imp id fun hread => ?_
          rw [hread, Option.map_some, hr]

/-- Behind a bare brace no group goes on. -/
theorem group?_bareBrace (h : BareBrace flags cs) (fuel : Nat) (r : Parsed) :
    group? fuel flags r cs = none := by
  obtain ⟨z, rfl, hz⟩ := h
  cases fuel with
  | zero => rfl
  | succ fuel =>
    have hskip : skip flags ('\x7b' :: z) = '\x7b' :: z :=
      skip_cons_of_mark (by decide) (by decide) z
    have hcounts : counts? flags z = none := by rw [counts?_eq, hz, count?_nil, Option.bind_none]
    rw [group?_succ, hskip]
    simp [step?, repeated?, countBehind?, hcounts]

/-- What a group takes in front of a closing parenthesis, it takes of the text alone. -/
theorem group?_alone {fuel fuel' : Nat} (hfuel : cs.length < fuel')
    (h : group? fuel flags r (cs ++ ')' :: u) = some (r', rest ++ ')' :: u)) :
    group? fuel' flags r cs = some (r', rest) := by
  induction fuel generalizing flags r r' cs rest fuel' with
  | zero => cases h
  | succ fuel ih =>
    obtain ⟨y, hy, hcs, -⟩ := skip_alone (group?_suffix h)
    have hlength : y.length ≤ cs.length := hcs ▸ (skip_suffix flags cs).length_le
    obtain ⟨fuel', rfl⟩ := Nat.exists_eq_add_of_lt hfuel
    rw [group?_succ] at h ⊢
    rw [hy] at h
    rw [hcs]
    cases y with
    | nil =>
      simp only [List.nil_append, if_true, Option.some.injEq, Prod.mk.injEq] at h ⊢
      have hrest : [] = rest := List.append_cancel_right h.2
      exact ⟨h.1, hrest⟩
    | cons c y =>
      simp only [List.cons_append] at h ⊢
      by_cases hclose : c = ')'
      · rw [if_pos hclose, Option.some.injEq, Prod.mk.injEq] at h ⊢
        rw [← List.cons_append] at h
        exact ⟨h.1, List.append_cancel_right h.2⟩
      · rw [if_neg hclose] at h ⊢
        rw [List.length_cons] at hlength
        have hinner : ∀ {flags : Flags} {r r' : Parsed} {cs rest : List Char},
            group? fuel flags r cs = some (r', rest) → rest <:+ cs :=
          fun h => (group?_suffix h).trans (skip_suffix _ _)
        obtain ⟨⟨flags', r₁, later⟩, hstep, hgroup⟩ := Option.bind_eq_some_iff.mp h
        obtain ⟨z, rfl, -, hz⟩ :=
          exists_append_of_suffix (hinner hgroup) (step?_suffix hinner hstep)
        have hzlength := hz.length_le
        have hbehind : group? (cs.length + fuel') flags' r₁ z = some (r', rest) :=
          ih (by omega) hgroup
        have halone : ∀ {flags : Flags} {r r' : Parsed} {x rest : List Char}, x <:+ y →
            group? fuel flags r (x ++ ')' :: u) = some (r', rest ++ ')' :: u) →
              group? (cs.length + fuel') flags r x = some (r', rest) := by
          intro flags r r' x rest hx hread
          have hxlength := hx.length_le
          exact ih (by omega) hread
        rcases step?_alone hinner halone hstep with hbare | hstep
        · rw [group?_bareBrace hbare] at hbehind
          cases hbehind
        · rw [hstep, Option.bind_some]
          exact hbehind

end Step

end WarehouseJobs.Regex

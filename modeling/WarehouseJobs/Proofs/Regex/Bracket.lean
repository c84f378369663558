-- Sets in front of a closing parenthesis. A set ends at its own bracket, so a parenthesis behind
-- it makes no difference; but a reader that looks ahead inside of one may see it.
import WarehouseJobs.Proofs.Regex.Escape
import WarehouseJobs.Regex.Bracket

namespace WarehouseJobs.Regex

variable {flags : Flags} {cs rest u x : List Char} {c : Char} {item first : Item} {s s' : CharSet}

/-! ## Items -/

theorem setItem?_suffix (h : setItem? flags (c :: cs) = some (item, rest)) : rest <:+ cs := by
  by_cases hslash : c = '\\'
  · subst hslash
    exact escape?_suffix h
  · rw [setItem?] at h
    · cases h
      exact List.suffix_rfl
    · exact hslash

/-- Only a condition can be left in front of a bare brace. -/
theorem setItem?_alone (h : setItem? flags (cs ++ ')' :: u) = some (item, rest ++ ')' :: u)) :
    (∃ b, item = .condition b) ∨ setItem? flags cs = some (item, rest) := by
  cases cs with
  | nil => exact absurd (setItem?_suffix h) (not_append_suffix ')' rest u)
  | cons c cs =>
    by_cases hslash : c = '\\'
    · subst hslash
      exact (escape?_alone h).imp (fun ⟨b, hb, _⟩ => ⟨b, hb⟩) id
    · right
      rw [List.cons_append, setItem?] at h
      · rw [Option.some.injEq, Prod.mk.injEq] at h
        rw [setItem?, h.1, List.append_cancel_right h.2]
        exact hslash
      · exact hslash

/-- The characters from one item to another. -/
def charsBetween? (flags : Flags) : Item → Item → Option CharSet
  | .literal a, .literal b =>
    if (literalSet? flags a).isSome ∧ (literalSet? flags b).isSome ∧ a ≤ b then some (between a b)
    else none
  | _, _ => none

/-- The rest of a range, behind its hyphen. -/
def rangeTo? (flags : Flags) (first : Item) (cs : List Char) : Option (CharSet × List Char) :=
  (setItem? flags cs).bind fun r => (charsBetween? flags first r.1).map fun s => (s, r.2)

theorem rangeTo?_suffix (h : rangeTo? flags first (c :: cs) = some (s, rest)) : rest <:+ cs := by
  obtain ⟨⟨second, left⟩, hread, hmap⟩ := Option.bind_eq_some_iff.mp h
  obtain ⟨s, -, heq⟩ := Option.map_eq_some_iff.mp hmap
  cases heq
  exact setItem?_suffix hread

theorem rangeTo?_nil : rangeTo? flags first [] = none := rfl

/-- No range ends with a condition, so its last item makes no difference. -/
theorem rangeTo?_alone (h : rangeTo? flags first (cs ++ ')' :: u) = some (s, rest ++ ')' :: u)) :
    rangeTo? flags first cs = some (s, rest) := by
  obtain ⟨⟨second, left⟩, hread, hmap⟩ := Option.bind_eq_some_iff.mp h
  obtain ⟨s, hs, heq⟩ := Option.map_eq_some_iff.mp hmap
  cases heq
  rcases setItem?_alone hread with ⟨b, rfl⟩ | hread
  · cases first <;> cases hs
  · simp only [rangeTo?, hread, Option.bind_some, hs, Option.map_some]

/-- The rest of a range, behind its first item. -/
def rangeBehind? (flags : Flags) (first : Item) (cs : List Char) : Option (CharSet × List Char) :=
  match skip flags cs with
  | [] => none
  | c :: behind =>
    if c = '-' then
      match skip flags behind with
      | [] => none
      | d :: later =>
        if d = ']' ∨ d = '-' then (itemSet? flags first).map fun s => (s, c :: behind)
        else rangeTo? flags first (d :: later)
    else (itemSet? flags first).map fun s => (s, c :: behind)

theorem setRange?_eq : setRange? flags cs =
    (setItem? flags cs).bind fun r => rangeBehind? flags r.1 r.2 := by
  unfold setRange?
  cases setItem? flags cs with
  | none => rfl
  | some read =>
    obtain ⟨first, left⟩ := read
    simp only [Option.bind_some, rangeBehind?]
    cases skip flags left with
    | nil => rfl
    | cons c behind =>
      by_cases hhyphen : c = '-'
      · subst hhyphen
        simp only [if_true]
        cases skip flags behind with
        | nil => rfl
        | cons d later =>
          by_cases hclose : d = ']'
          · subst hclose
            rfl
          · by_cases hagain : d = '-'
            · subst hagain
              rfl
            · have hitem : ¬ (d = ']' ∨ d = '-') := by simp [hclose, hagain]
              simp only [if_neg hitem, rangeTo?]
              split
              · rename_i heq
                exact absurd (List.cons.inj heq).1 hclose
              · rename_i heq
                exact absurd (List.cons.inj heq).1 hagain
              · rename_i heq
                cases heq
              · cases setItem? flags (d :: later) with
                | none => cases first <;> rfl
                | some read =>
                  obtain ⟨second, rest⟩ := read
                  cases first <;> cases second <;> try rfl
                  rename_i a b
                  simp only [Option.bind_some, charsBetween?]
                  cases literalSet? flags a <;> cases literalSet? flags b <;> simp
      · simp [hhyphen]

theorem rangeBehind?_suffix (h : rangeBehind? flags first cs = some (s, rest)) :
    rest <:+ skip flags cs := by
  unfold rangeBehind? at h
  cases hskip : skip flags cs with
  | nil =>
    rw [hskip] at h
    cases h
  | cons c behind =>
    simp only [hskip] at h
    split at h
    · cases hbehind : skip flags behind with
      | nil =>
        rw [hbehind] at h
        cases h
      | cons d later =>
        simp only [hbehind] at h
        split at h
        · obtain ⟨s, -, heq⟩ := Option.map_eq_some_iff.mp h
          cases heq
          exact List.suffix_rfl
        · have hlater : d :: later <:+ behind := hbehind ▸ skip_suffix flags behind
          exact suffix_cons_of_suffix
            ((suffix_cons_of_suffix (rangeTo?_suffix h) d).trans hlater) c
    · obtain ⟨s, -, heq⟩ := Option.map_eq_some_iff.mp h
      cases heq
      exact List.suffix_rfl

/-- A condition stands for no character, so no range begins with one. -/
theorem rangeBehind?_condition (b : Condition) : rangeBehind? flags (.condition b) cs = none := by
  unfold rangeBehind?
  split
  · rfl
  · split
    · split
      · rfl
      · split
        · rfl
        · rw [rangeTo?, Option.bind_eq_none_iff]
          exact fun _ _ => rfl
    · rfl

/-- The hyphen of a range with nothing behind it. -/
def BareHyphen (flags : Flags) (rest : List Char) : Prop :=
  ∃ z, rest = '-' :: z ∧ skip flags z = []

/-- Nothing is left, or a hyphen with nothing behind it, or all is read without the parenthesis
too. -/
theorem rangeBehind?_alone
    (h : rangeBehind? flags first (cs ++ ')' :: u) = some (s, rest ++ ')' :: u)) :
    rest = [] ∨ BareHyphen flags rest ∨ rangeBehind? flags first cs = some (s, rest) := by
  obtain ⟨y, hy, hcs, -⟩ := skip_alone (rangeBehind?_suffix h)
  unfold rangeBehind? at h ⊢
  rw [hy] at h
  rw [hcs]
  cases y with
  | nil =>
    left
    simp only [List.nil_append, if_neg (by decide : ¬ ')' = '-')] at h
    obtain ⟨s, -, heq⟩ := Option.map_eq_some_iff.mp h
    have hrest : [] = rest := List.append_cancel_right (Prod.mk.inj heq).2
    exact hrest.symm
  | cons c y =>
    right
    simp only [List.cons_append] at h ⊢
    by_cases hhyphen : c = '-'
    · rw [if_pos hhyphen] at h ⊢
      cases hskip : skip flags (y ++ ')' :: u) with
      | nil =>
        rw [hskip] at h
        cases h
      | cons d later =>
        simp only [hskip] at h
        by_cases hend : d = ']' ∨ d = '-'
        · rw [if_pos hend] at h
          obtain ⟨s, hs, heq⟩ := Option.map_eq_some_iff.mp h
          rw [Prod.mk.injEq] at heq
          have hrest : c :: y = rest := List.append_cancel_right heq.2
          cases hskipy : skip flags y with
          | nil => exact .inl ⟨y, by rw [← hrest, hhyphen], hskipy⟩
          | cons e w =>
            rw [skip_append hskipy] at hskip
            have he : e = ']' ∨ e = '-' := by
              rw [(List.cons.inj hskip).1]
              exact hend
            right
            simp only [if_pos he, hs, Option.map_some, heq.1, hrest]
        · rw [if_neg hend] at h
          right
          have hleft : rest ++ ')' :: u <:+ skip flags (y ++ ')' :: u) := by
            rw [hskip]
            exact suffix_cons_of_suffix (rangeTo?_suffix h) d
          obtain ⟨z, hz, hskipy, -⟩ := skip_alone hleft
          rw [← hskip, hz] at h
          have hread := rangeTo?_alone h
          rw [hskipy]
          cases z with
          | nil =>
            rw [rangeTo?_nil] at hread
            cases hread
          | cons e w =>
            rw [hz] at hskip
            rw [(List.cons.inj hskip).1] at hread ⊢
            simp only [if_neg hend, hread]
    · rw [if_neg hhyphen] at h ⊢
      obtain ⟨s, hs, heq⟩ := Option.map_eq_some_iff.mp h
      rw [Prod.mk.injEq] at heq
      have hrest : c :: y = rest := List.append_cancel_right heq.2
      rw [hs, Option.map_some, heq.1, hrest]
      exact .inr rfl

theorem setRange?_suffix (h : setRange? flags (c :: cs) = some (s, rest)) : rest <:+ cs := by
  rw [setRange?_eq] at h
  obtain ⟨⟨first, left⟩, hread, hrange⟩ := Option.bind_eq_some_iff.mp h
  exact ((rangeBehind?_suffix hrange).trans (skip_suffix flags _)).trans (setItem?_suffix hread)

theorem setRange?_alone (h : setRange? flags (c :: cs ++ ')' :: u) = some (s, rest ++ ')' :: u)) :
    rest = [] ∨ BareHyphen flags rest ∨ setRange? flags (c :: cs) = some (s, rest) := by
  rw [setRange?_eq] at h ⊢
  obtain ⟨⟨first, left⟩, hread, hrange⟩ := Option.bind_eq_some_iff.mp h
  obtain ⟨y, rfl, -, -⟩ := exists_append_of_suffix
    ((rangeBehind?_suffix hrange).trans (skip_suffix flags _)) (setItem?_suffix hread)
  rcases setItem?_alone hread with ⟨b, rfl⟩ | hread
  · rw [rangeBehind?_condition] at hrange
    cases hrange
  · rw [hread, Option.bind_some]
    exact rangeBehind?_alone hrange

/-! ## Classes by name -/

section Span

variable {p : Char → Bool} {name : List Char}

/-- A text is divided where a condition first fails, or at its end. -/
theorem span_eq_iff : cs.span p = (name, rest) ↔
    cs = name ++ rest ∧ (∀ d ∈ name, p d = true) ∧ ∀ c x, rest = c :: x → p c = false := by
  rw [List.span_eq_takeWhile_dropWhile, Prod.mk.injEq]
  constructor
  · rintro ⟨rfl, rfl⟩
    refine ⟨List.takeWhile_append_dropWhile.symm, List.all_eq_true.mp List.all_takeWhile, ?_⟩
    intro c x hleft
    have hhead := List.head?_dropWhile_not p cs
    rw [hleft] at hhead
    simpa using hhead
  · rintro ⟨rfl, hall, hfirst⟩
    rw [List.takeWhile_append_of_pos hall, List.dropWhile_append_of_pos hall]
    cases rest with
    | nil => simp
    | cons c x => simp [hfirst c x rfl]

theorem span_append (h : cs.span p = (name, c :: x)) (u : List Char) :
    (cs ++ u).span p = (name, c :: x ++ u) := by
  rw [span_eq_iff] at h ⊢
  obtain ⟨rfl, hall, hfirst⟩ := h
  refine ⟨List.append_assoc _ _ _, hall, ?_⟩
  rintro d y heq
  exact hfirst d x (by rw [(List.cons.inj heq).1])

theorem span_alone (h : (cs ++ u).span p = (name, rest ++ u)) : cs.span p = (name, rest) := by
  rw [span_eq_iff] at h ⊢
  obtain ⟨hsplit, hall, hfirst⟩ := h
  rw [← List.append_assoc] at hsplit
  refine ⟨List.append_cancel_right hsplit, hall, ?_⟩
  rintro d y rfl
  exact hfirst d (y ++ u) rfl

end Span

/-- A class from its name on. -/
def classFrom? (flags : Flags) (negated : Bool) (cs : List Char) : Option (CharSet × List Char) :=
  match cs.span (· ≠ ':') with
  | (name, ':' :: ']' :: rest) =>
    (asciiClass? (String.ofList name)).map fun s =>
      (if negated then notIn (foldedSet flags s) else foldedSet flags s, rest)
  | _ => none

theorem classFrom?_eq_some_iff {negated : Bool} : classFrom? flags negated cs = some (s, rest) ↔
    ∃ name class', cs.span (· ≠ ':') = (name, ':' :: ']' :: rest) ∧
      asciiClass? (String.ofList name) = some class' ∧
      (if negated then notIn (foldedSet flags class') else foldedSet flags class') = s := by
  unfold classFrom?
  constructor
  · intro h
    split at h
    · rename_i name left hspan
      obtain ⟨class', hclass, heq⟩ := Option.map_eq_some_iff.mp h
      cases heq
      exact ⟨name, class', hspan, hclass, rfl⟩
    · cases h
  · rintro ⟨name, class', hspan, hclass, rfl⟩
    simp only [hspan, hclass, Option.map_some]

theorem classFrom?_suffix {negated : Bool} (h : classFrom? flags negated cs = some (s, rest)) :
    rest <:+ cs := by
  obtain ⟨name, class', hspan, -⟩ := classFrom?_eq_some_iff.mp h
  rw [(span_eq_iff.mp hspan).1]
  exact (suffix_cons_of_suffix (List.suffix_cons ']' rest) ':').trans (List.suffix_append _ _)

/-- A text that a class begins with, and where the class goes on behind its opening. -/
def OpensClass (cs : List Char) (negated : Bool) (z : List Char) : Prop :=
  (negated = true ∧ cs = '[' :: ':' :: '^' :: z) ∨
    (negated = false ∧ cs = '[' :: ':' :: z ∧ ∀ w, z ≠ '^' :: w)

theorem asciiSet?_eq_some_iff : asciiSet? flags cs = some (s, rest) ↔
    ∃ negated z, OpensClass cs negated z ∧ classFrom? flags negated z = some (s, rest) := by
  have hform : ∀ negated z, OpensClass cs negated z →
      asciiSet? flags cs = classFrom? flags negated z := by
    rintro negated z (⟨rfl, rfl⟩ | ⟨rfl, rfl, hplain⟩)
    · simp only [asciiSet?, classFrom?]
      split <;> rename_i heq <;> split <;> simp_all
    · simp only [asciiSet?, classFrom?]
      split <;> rename_i heq <;> split <;> simp_all
  constructor
  · intro h
    have hopens : ∃ negated z, OpensClass cs negated z := by
      unfold asciiSet? at h
      split at h
      · rename_i behind
        by_cases hnegated : ∃ w, behind = '^' :: w
        · obtain ⟨w, rfl⟩ := hnegated
          exact ⟨true, w, .inl ⟨rfl, rfl⟩⟩
        · exact ⟨false, behind, .inr ⟨rfl, rfl, not_exists.mp hnegated⟩⟩
      · cases h
    obtain ⟨negated, z, hopens⟩ := hopens
    rw [hform negated z hopens] at h
    exact ⟨negated, z, hopens, h⟩
  · rintro ⟨negated, z, hopens, h⟩
    rw [hform negated z hopens, h]

theorem asciiSet?_suffix (h : asciiSet? flags (c :: cs) = some (s, rest)) : rest <:+ cs := by
  obtain ⟨negated, z, hopens, hclass⟩ := asciiSet?_eq_some_iff.mp h
  have hsuffix := classFrom?_suffix hclass
  rcases hopens with ⟨-, heq⟩ | ⟨-, heq, -⟩
  · rw [(List.cons.inj heq).2]
    exact suffix_cons_of_suffix (suffix_cons_of_suffix hsuffix _) _
  · rw [(List.cons.inj heq).2]
    exact suffix_cons_of_suffix hsuffix _

theorem asciiSet?_append (h : asciiSet? flags cs = some (s, rest)) (u : List Char) :
    asciiSet? flags (cs ++ ')' :: u) = some (s, rest ++ ')' :: u) := by
  obtain ⟨negated, z, hopens, hclass⟩ := asciiSet?_eq_some_iff.mp h
  obtain ⟨name, class', hspan, hname, hs⟩ := classFrom?_eq_some_iff.mp hclass
  have hbehind : classFrom? flags negated (z ++ ')' :: u) = some (s, rest ++ ')' :: u) :=
    classFrom?_eq_some_iff.mpr ⟨name, class', span_append hspan _, hname, hs⟩
  refine asciiSet?_eq_some_iff.mpr ⟨negated, z ++ ')' :: u, ?_, hbehind⟩
  rcases hopens with ⟨hnegated, rfl⟩ | ⟨hnegated, rfl, hplain⟩
  · exact .inl ⟨hnegated, rfl⟩
  · exact .inr ⟨hnegated, rfl, append_ne_cons hplain (by decide)⟩

theorem asciiSet?_alone (h : asciiSet? flags (cs ++ ')' :: u) = some (s, rest ++ ')' :: u)) :
    asciiSet? flags cs = some (s, rest) := by
  obtain ⟨negated, z, hopens, hclass⟩ := asciiSet?_eq_some_iff.mp h
  have hz : z <:+ cs ++ ')' :: u := by
    rcases hopens with ⟨-, heq⟩ | ⟨-, heq, -⟩
    · exact heq ▸ List.suffix_append ['[', ':', '^'] z
    · exact heq ▸ List.suffix_append ['[', ':'] z
  obtain ⟨y, rfl, -, -⟩ := exists_append_of_suffix (classFrom?_suffix hclass) hz
  obtain ⟨name, class', hspan, hname, hs⟩ := classFrom?_eq_some_iff.mp hclass
  have hbehind : classFrom? flags negated y = some (s, rest) :=
    classFrom?_eq_some_iff.mpr ⟨name, class', span_alone hspan, hname, hs⟩
  refine asciiSet?_eq_some_iff.mpr ⟨negated, y, ?_, hbehind⟩
  rcases hopens with ⟨hnegated, heq⟩ | ⟨hnegated, heq, hplain⟩
  · have hcs : cs = '[' :: ':' :: '^' :: y := List.append_cancel_right heq
    exact .inl ⟨hnegated, hcs⟩
  · have hcs : cs = '[' :: ':' :: y := List.append_cancel_right heq
    exact .inr ⟨hnegated, hcs, fun w hw => hplain (w ++ ')' :: u) (by rw [hw]; rfl)⟩

/-! ## The start of a set -/

theorem leadingHyphens_bare (h : ∀ z, cs ≠ '-' :: z) (fuel : Nat) (s : CharSet) (any : Bool) :
    leadingHyphens flags fuel s any cs = (s, any, cs) := by
  cases fuel with
  | zero => rfl
  | succ fuel =>
    rw [leadingHyphens]
    exact h

theorem leadingHyphens_suffix (flags : Flags) (fuel : Nat) (s : CharSet) (any : Bool)
    (cs : List Char) : (leadingHyphens flags fuel s any cs).2.2 <:+ cs := by
  induction fuel generalizing s any cs with
  | zero => exact List.suffix_rfl
  | succ fuel ih =>
    by_cases hhyphen : ∃ z, cs = '-' :: z
    · obtain ⟨z, rfl⟩ := hhyphen
      exact suffix_cons_of_suffix ((ih _ _ _).trans (skip_suffix flags z)) _
    · rw [leadingHyphens_bare (not_exists.mp hhyphen)]

theorem leadingHyphens_alone {fuel fuel' : Nat} {any any' : Bool}
    (hfuel : cs.length + u.length < fuel) (hfuel' : cs.length ≤ fuel')
    (h : leadingHyphens flags fuel s any (cs ++ ')' :: u) = (s', any', rest ++ ')' :: u)) :
    leadingHyphens flags fuel' s any cs = (s', any', rest) := by
  induction fuel generalizing s any cs fuel' with
  | zero => omega
  | succ fuel ih =>
    by_cases hhyphen : ∃ z, cs = '-' :: z
    · obtain ⟨z, rfl⟩ := hhyphen
      rw [List.length_cons] at hfuel hfuel'
      obtain ⟨fuel', rfl⟩ := Nat.exists_eq_add_of_le' (Nat.le_trans (Nat.le_add_left 1 _) hfuel')
      rw [List.cons_append, leadingHyphens] at h
      rw [leadingHyphens]
      have hleft : rest ++ ')' :: u <:+ skip flags (z ++ ')' :: u) := by
        have hsuffix := leadingHyphens_suffix flags fuel (either s (single '-')) true
          (skip flags (z ++ ')' :: u))
        rw [h] at hsuffix
        exact hsuffix
      obtain ⟨y, hy, hskip, -⟩ := skip_alone hleft
      have hlength : y.length ≤ z.length := hskip ▸ (skip_suffix flags z).length_le
      rw [hy] at h
      rw [hskip]
      exact ih (by omega) (by omega) h
    · have hbare : ∀ z, cs ≠ '-' :: z := not_exists.mp hhyphen
      rw [leadingHyphens_bare (append_ne_cons hbare (by decide)), Prod.mk.injEq, Prod.mk.injEq] at h
      rw [leadingHyphens_bare hbare, h.1, h.2.1, List.append_cancel_right h.2.2]

/-- A mark that a set is turned round. -/
def afterCaret (flags : Flags) (cs : List Char) : Bool × List Char :=
  match skip flags cs with
  | '^' :: rest => (true, skip flags rest)
  | cs => (false, cs)

/-- A closing bracket where no set can end yet is a character of the set. -/
def afterBracket (flags : Flags) (s : CharSet) : Bool → List Char → CharSet × List Char
  | false, ']' :: rest => (single ']', skip flags rest)
  | _, cs => (s, cs)

/-- The start of a set, up to its items. -/
def setStart (flags : Flags) (cs : List Char) : Bool × CharSet × List Char :=
  let caret := afterCaret flags cs
  let hyphens := leadingHyphens flags caret.2.length noChar false caret.2
  (caret.1, afterBracket flags hyphens.1 hyphens.2.1 hyphens.2.2)

/-- A set once its items are read. -/
def closed? (flags : Flags) (negated : Bool) : Option (CharSet × List Char) →
    Option (CharSet × List Char)
  | some (s, rest) => (finished? flags negated s).map fun s => (s, rest)
  | none => none

theorem closed?_eq_bind (negated : Bool) (items : Option (CharSet × List Char)) :
    closed? flags negated items =
      items.bind fun r => (finished? flags negated r.1).map fun s => (s, r.2) := by
  cases items <;> rfl

theorem set?_succ (fuel : Nat) : set? flags (fuel + 1) cs =
    (setItems? flags fuel none (setStart flags cs).2.1 (setStart flags cs).2.2).bind fun r =>
      (finished? flags (setStart flags cs).1 r.1).map fun s => (s, r.2) := by
  rw [set?, ← closed?_eq_bind]
  rfl

theorem afterCaret_suffix (flags : Flags) (cs : List Char) :
    (afterCaret flags cs).2 <:+ skip flags cs := by
  unfold afterCaret
  split
  · rename_i behind heq
    rw [heq]
    exact suffix_cons_of_suffix (skip_suffix flags behind) _
  · exact List.suffix_rfl

theorem afterCaret_bare (h : ∀ z, skip flags cs ≠ '^' :: z) :
    afterCaret flags cs = (false, skip flags cs) := by
  unfold afterCaret
  split
  · rename_i z heq
    exact absurd heq (h z)
  · rfl

theorem afterCaret_alone {negated : Bool}
    (h : afterCaret flags (cs ++ ')' :: u) = (negated, rest ++ ')' :: u)) :
    afterCaret flags cs = (negated, rest) := by
  have hleft := afterCaret_suffix flags (cs ++ ')' :: u)
  rw [h] at hleft
  obtain ⟨y, hy, hcs, -⟩ := skip_alone hleft
  by_cases hcaret : ∃ z, y = '^' :: z
  · obtain ⟨z, rfl⟩ := hcaret
    simp only [afterCaret, hy, List.cons_append, Prod.mk.injEq] at h
    simp only [afterCaret, hcs, Prod.mk.injEq]
    exact ⟨h.1, skip_of_append h.2⟩
  · have hbare : ∀ z, y ≠ '^' :: z := not_exists.mp hcaret
    rw [afterCaret_bare (hy ▸ append_ne_cons hbare (by decide)), hy, Prod.mk.injEq] at h
    rw [afterCaret_bare (hcs ▸ hbare), hcs, h.1, List.append_cancel_right h.2]

theorem afterBracket_bare (any : Bool) (h : ∀ z, cs ≠ ']' :: z) :
    afterBracket flags s any cs = (s, cs) := by
  unfold afterBracket
  split
  · rename_i z
    exact absurd rfl (h z)
  · rfl

theorem afterBracket_suffix (flags : Flags) (s : CharSet) (any : Bool) (cs : List Char) :
    (afterBracket flags s any cs).2 <:+ cs := by
  unfold afterBracket
  split
  · rename_i z
    exact suffix_cons_of_suffix (skip_suffix flags z) _
  · exact List.suffix_rfl

theorem afterBracket_alone {any : Bool}
    (h : afterBracket flags s any (cs ++ ')' :: u) = (s', rest ++ ')' :: u)) :
    afterBracket flags s any cs = (s', rest) := by
  by_cases hclose : ∃ z, cs = ']' :: z
  · obtain ⟨z, rfl⟩ := hclose
    cases any with
    | true =>
      simp only [afterBracket, Prod.mk.injEq] at h ⊢
      exact ⟨h.1, List.append_cancel_right h.2⟩
    | false =>
      simp only [afterBracket, List.cons_append, Prod.mk.injEq] at h ⊢
      exact ⟨h.1, skip_of_append h.2⟩
  · have hbare : ∀ z, cs ≠ ']' :: z := not_exists.mp hclose
    rw [afterBracket_bare any (append_ne_cons hbare (by decide)), Prod.mk.injEq] at h
    rw [afterBracket_bare any hbare, h.1, List.append_cancel_right h.2]

theorem setStart_suffix (flags : Flags) (cs : List Char) :
    (setStart flags cs).2.2 <:+ skip flags cs :=
  ((afterBracket_suffix _ _ _ _).trans (leadingHyphens_suffix _ _ _ _ _)).trans
    (afterCaret_suffix flags cs)

theorem setStart_alone {negated : Bool}
    (h : setStart flags (cs ++ ')' :: u) = (negated, s, rest ++ ')' :: u)) :
    setStart flags cs = (negated, s, rest) := by
  rw [setStart, Prod.mk.injEq] at h
  obtain ⟨hnegated, hbracket⟩ := h
  cases hcaret : afterCaret flags (cs ++ ')' :: u) with
  | mk turned left =>
    rw [hcaret] at hnegated hbracket
    cases hhyphens : leadingHyphens flags left.length noChar false left with
    | mk s₁ read =>
      obtain ⟨any, behind⟩ := read
      simp only [hhyphens] at hbracket
      have hbehind : rest ++ ')' :: u <:+ behind := by
        have hsuffix := afterBracket_suffix flags s₁ any behind
        rw [hbracket] at hsuffix
        exact hsuffix
      have hleft : behind <:+ left := by
        have hsuffix := leadingHyphens_suffix flags left.length noChar false left
        rw [hhyphens] at hsuffix
        exact hsuffix
      have hall : left <:+ cs ++ ')' :: u := by
        have hsuffix := (afterCaret_suffix flags (cs ++ ')' :: u)).trans (skip_suffix flags _)
        rw [hcaret] at hsuffix
        exact hsuffix
      obtain ⟨y, rfl, -, -⟩ := exists_append_of_suffix (hbehind.trans hleft) hall
      obtain ⟨z, rfl, -, -⟩ := exists_append_of_suffix hbehind hleft
      have hfuel : y.length + u.length < (y ++ ')' :: u).length := by
        rw [List.length_append, List.length_cons]
        omega
      simp only [setStart, afterCaret_alone hcaret,
        leadingHyphens_alone hfuel (Nat.le_refl y.length) hhyphens, afterBracket_alone hbracket,
        ← hnegated]

/-! ## Sets -/

/-- An operation of two marks, from the first of them. -/
def operation? (c : Char) : List Char → Option (SetOperation × List Char)
  | [] => none
  | d :: rest =>
    if c ≠ d then none
    else if c = '&' then some (.intersection, rest)
    else if c = '-' then some (.difference, rest)
    else if c = '~' then some (.symmetricDifference, rest)
    else none

theorem operation?_append (c : Char) (cs u : List Char) :
    operation? c (cs ++ ')' :: u) = (operation? c cs).map fun r => (r.1, r.2 ++ ')' :: u) := by
  cases cs with
  | nil =>
    by_cases hc : c = ')'
    · subst hc
      rfl
    · simp [operation?, hc]
  | cons d cs =>
    simp only [List.cons_append, operation?]
    split
    · rfl
    · split
      · rfl
      · split
        · rfl
        · split <;> rfl

/-- The mark that an operation is written with, twice. -/
def SetOperation.mark : SetOperation → Char
  | .intersection => '&'
  | .difference => '-'
  | .symmetricDifference => '~'

theorem operation?_eq_some_iff {operation : SetOperation} :
    operation? c cs = some (operation, rest) ↔ c = operation.mark ∧ cs = c :: rest := by
  constructor
  · intro h
    cases cs with
    | nil => cases h
    | cons d cs =>
      simp only [operation?] at h
      split at h
      · cases h
      · rename_i hsame
        rw [not_ne_iff] at hsame
        subst hsame
        split at h
        · cases h
          exact ⟨‹_›, rfl⟩
        · split at h
          · cases h
            exact ⟨‹_›, rfl⟩
          · split at h
            · cases h
              exact ⟨‹_›, rfl⟩
            · cases h
  · rintro ⟨rfl, rfl⟩
    cases operation <;> rfl

theorem operation?_eq_none (h : ∀ operation z, c = SetOperation.mark operation → cs ≠ c :: z) :
    operation? c cs = none := by
  rw [Option.eq_none_iff_forall_not_mem]
  rintro ⟨operation, z⟩ hsome
  obtain ⟨hmark, hz⟩ := operation?_eq_some_iff.mp hsome
  exact h operation z hmark hz

theorem operation?_suffix {operation : SetOperation}
    (h : operation? c cs = some (operation, rest)) : rest <:+ cs := by
  obtain ⟨-, rfl⟩ := operation?_eq_some_iff.mp h
  exact List.suffix_cons c rest

/-- How a set inside of a set is read. -/
abbrev SetReader := List Char → Option (CharSet × List Char)

/-- A class, a set or a range inside of a set. -/
def member? (inner : SetReader) (flags : Flags) (c : Char) (cs : List Char) :
    Option (CharSet × List Char) :=
  if c = '[' then (asciiSet? flags (c :: cs)).or (inner cs) else setRange? flags (c :: cs)

/-- One step through a set. -/
def setStep? (inner : SetReader) (flags : Flags) (left : Option (SetOperation × CharSet))
    (s : CharSet) (c : Char) (cs : List Char) :
    Option (Option (SetOperation × CharSet) × CharSet × List Char) :=
  match operation? c cs with
  | some (operation, rest) => some (some (operation, combine flags left s), noChar, rest)
  | none => (member? inner flags c cs).map fun r => (left, either s r.1, r.2)

theorem setItems?_succ (fuel : Nat) (left : Option (SetOperation × CharSet)) :
    setItems? flags (fuel + 1) left s cs =
      match skip flags cs with
      | [] => none
      | c :: rest =>
        if c = ']' then some (combine flags left s, rest)
        else (setStep? (set? flags fuel) flags left s c rest).bind fun q =>
          setItems? flags fuel q.1 q.2.1 q.2.2 := by
  rw [setItems?]
  split
  · rename_i heq
    rw [heq]
  · rename_i heq
    rw [heq]
    rfl
  · rename_i heq
    rw [heq]
    rfl
  · rename_i heq
    rw [heq]
    rfl
  · rename_i heq
    rw [heq]
    rfl
  · rename_i rest heq
    have hoperation : operation? '[' rest = none := by
      refine operation?_eq_none fun operation _ hmark => ?_
      cases operation <;> exact absurd hmark (by decide)
    simp only [heq, setStep?, hoperation, member?]
    rw [if_neg (by decide), if_pos trivial]
    cases asciiSet? flags ('[' :: rest) with
    | some read => rfl
    | none => cases set? flags fuel rest <;> rfl
  · rename_i hnil hclose hand hminus htilde hopen
    cases hskip : skip flags cs with
    | nil => exact absurd hskip hnil
    | cons c rest =>
      have hoperation : operation? c rest = none := by
        refine operation?_eq_none fun operation z hmark hz => ?_
        rw [hz, hmark] at hskip
        cases operation with
        | intersection => exact hand z hskip
        | difference => exact hminus z hskip
        | symmetricDifference => exact htilde z hskip
      have hc : ¬ c = ']' := fun heq => hclose rest (by rw [hskip, heq])
      have ho : ¬ c = '[' := fun heq => hopen rest (by rw [hskip, heq])
      simp only [if_neg hc, setStep?, hoperation, member?, if_neg ho]
      cases setRange? flags (c :: rest) <;> rfl

theorem member?_suffix {inner : SetReader}
    (hinner : ∀ {cs rest : List Char} {s : CharSet}, inner cs = some (s, rest) → rest <:+ cs)
    (h : member? inner flags c cs = some (s, rest)) : rest <:+ cs := by
  unfold member? at h
  split at h
  · rcases Option.or_eq_some_iff.mp h with hclass | ⟨-, hset⟩
    · exact asciiSet?_suffix hclass
    · exact hinner hset
  · exact setRange?_suffix h

theorem setStep?_suffix {inner : SetReader} {left left' : Option (SetOperation × CharSet)}
    (hinner : ∀ {cs rest : List Char} {s : CharSet}, inner cs = some (s, rest) → rest <:+ cs)
    (h : setStep? inner flags left s c cs = some (left', s', rest)) : rest <:+ cs := by
  unfold setStep? at h
  split at h
  · rename_i hoperation
    cases h
    exact operation?_suffix hoperation
  · obtain ⟨⟨t, later⟩, hmember, heq⟩ := Option.map_eq_some_iff.mp h
    cases heq
    exact member?_suffix hinner hmember

/-- A set ends at a closing bracket. -/
theorem set?_and_setItems?_suffix (fuel : Nat) :
    (∀ {cs rest : List Char} {s : CharSet}, set? flags fuel cs = some (s, rest) →
      ']' :: rest <:+ skip flags cs) ∧
    (∀ {left : Option (SetOperation × CharSet)} {cs rest : List Char} {s s' : CharSet},
      setItems? flags fuel left s cs = some (s', rest) → ']' :: rest <:+ skip flags cs) := by
  induction fuel with
  | zero =>
    constructor
    · intro cs rest s h
      rw [set?] at h
      cases h
    · intro left cs rest s s' h
      rw [setItems?] at h
      cases h
  | succ fuel ih =>
    obtain ⟨ihSet, ihItems⟩ := ih
    constructor
    · intro cs rest s h
      rw [set?_succ] at h
      obtain ⟨⟨items, later⟩, hitems, hmap⟩ := Option.bind_eq_some_iff.mp h
      obtain ⟨t, -, heq⟩ := Option.map_eq_some_iff.mp hmap
      cases heq
      exact ((ihItems hitems).trans (skip_suffix flags _)).trans (setStart_suffix flags cs)
    · intro left cs rest s s' h
      rw [setItems?_succ] at h
      cases hskip : skip flags cs with
      | nil =>
        rw [hskip] at h
        cases h
      | cons c behind =>
        simp only [hskip] at h
        split at h
        · rename_i hclose
          cases h
          rw [hclose]
        · obtain ⟨⟨left', t, later⟩, hstep, hitems⟩ := Option.bind_eq_some_iff.mp h
          have hlater : later <:+ behind := setStep?_suffix
            (fun h => ((List.suffix_cons _ _).trans (ihSet h)).trans (skip_suffix _ _)) hstep
          have hrest := (ihItems hitems).trans (skip_suffix flags later)
          exact suffix_cons_of_suffix (hrest.trans hlater) c

theorem set?_suffix {fuel : Nat} (h : set? flags fuel cs = some (s, rest)) :
    ']' :: rest <:+ skip flags cs := (set?_and_setItems?_suffix fuel).1 h

theorem setItems?_suffix {fuel : Nat} {left : Option (SetOperation × CharSet)}
    (h : setItems? flags fuel left s cs = some (s', rest)) : ']' :: rest <:+ skip flags cs :=
  (set?_and_setItems?_suffix fuel).2 h

theorem skip_cons_of_mark (hblank : Text.isBlankChar c = false) (hsharp : c ≠ '#')
    (cs : List Char) : skip flags (c :: cs) = c :: cs := by
  unfold skip
  split
  · simp [skip.go, hblank, hsharp]
  · rfl

/-- Behind a bare hyphen no set can end. -/
theorem setItems?_bareHyphen (h : BareHyphen flags cs) (fuel : Nat)
    (left : Option (SetOperation × CharSet)) : setItems? flags fuel left s cs = none := by
  obtain ⟨z, rfl, hz⟩ := h
  cases fuel with
  | zero => rw [setItems?]
  | succ fuel =>
    have hskip : ∀ w, skip flags ('-' :: w) = '-' :: w :=
      skip_cons_of_mark (by decide) (by decide)
    have hoperation : operation? '-' z = none := by
      refine operation?_eq_none fun _ w _ hw => ?_
      rw [hw, hskip] at hz
      cases hz
    have hrange : setRange? flags ('-' :: z) = none := by
      simp [setRange?_eq, setItem?, rangeBehind?, hz]
    have hstep : setStep? (set? flags fuel) flags left s '-' z = none := by
      simp only [setStep?, hoperation, member?, if_neg (by decide : ¬ '-' = '['), hrange,
        Option.map_none]
    rw [setItems?_succ, hskip]
    simp only [if_neg (by decide : ¬ '-' = ']'), hstep, Option.bind_none]

/-- What a set has still to read, where a parenthesis stands behind it. -/
theorem setItems?_split {fuel : Nat} {left : Option (SetOperation × CharSet)}
    (h : setItems? flags fuel left s x = some (s', rest ++ ')' :: u)) (hx : x <:+ cs ++ ')' :: u) :
    ∃ z, x = z ++ ')' :: u ∧ z <:+ cs ∧ rest.length < z.length := by
  have hclose := (setItems?_suffix h).trans (skip_suffix flags x)
  obtain ⟨z, rfl, -, hz⟩ := exists_append_of_suffix ((List.suffix_cons _ _).trans hclose) hx
  have hlength := hclose.length_le
  simp only [List.length_cons, List.length_append] at hlength
  exact ⟨z, rfl, hz, by omega⟩

theorem member?_alone {inner inner' : SetReader}
    (halone : ∀ {s : CharSet}, inner (cs ++ ')' :: u) = some (s, rest ++ ')' :: u) →
      inner' cs = some (s, rest))
    (h : member? inner flags c (cs ++ ')' :: u) = some (s, rest ++ ')' :: u)) :
    rest = [] ∨ BareHyphen flags rest ∨ member? inner' flags c cs = some (s, rest) := by
  unfold member? at h ⊢
  split at h
  · rename_i hopen
    rw [if_pos hopen]
    right
    right
    rcases Option.or_eq_some_iff.mp h with hclass | ⟨hclass, hset⟩
    · have hread : asciiSet? flags (c :: cs) = some (s, rest) := asciiSet?_alone hclass
      rw [hread, Option.some_or]
    · have hread : asciiSet? flags (c :: cs) = none := by
        rw [Option.eq_none_iff_forall_not_mem]
        rintro ⟨t, later⟩ hsome
        have happend := asciiSet?_append hsome u
        rw [List.cons_append, hclass] at happend
        cases happend
      rw [hread, Option.none_or, halone hset]
  · rename_i hopen
    rw [if_neg hopen]
    exact setRange?_alone h

/-- Only a range may look ahead, and then no set ends behind it. -/
theorem setStep?_alone {inner inner' : SetReader} {left left' : Option (SetOperation × CharSet)}
    (halone : ∀ {s : CharSet}, inner (cs ++ ')' :: u) = some (s, rest ++ ')' :: u) →
      inner' cs = some (s, rest))
    (h : setStep? inner flags left s c (cs ++ ')' :: u) = some (left', s', rest ++ ')' :: u)) :
    rest = [] ∨ BareHyphen flags rest ∨
      setStep? inner' flags left s c cs = some (left', s', rest) := by
  unfold setStep? at h ⊢
  rw [operation?_append] at h
  cases hoperation : operation? c cs with
  | some read =>
    obtain ⟨operation, later⟩ := read
    simp only [hoperation, Option.map_some, Option.some.injEq, Prod.mk.injEq] at h ⊢
    exact .inr (.inr ⟨h.1, h.2.1, List.append_cancel_right h.2.2⟩)
  | none =>
    simp only [hoperation, Option.map_none] at h ⊢
    obtain ⟨⟨t, later⟩, hmember, heq⟩ := Option.map_eq_some_iff.mp h
    simp only [Prod.mk.injEq] at heq
    obtain ⟨hleft, hs, rfl⟩ := heq
    refine (member?_alone halone hmember).imp id (Or.imp id fun hread => ?_)
    rw [hread, Option.map_some, hleft, hs]

/-- The fuel has to last for what is taken. -/
theorem set?_and_setItems?_alone (fuel : Nat) :
    (∀ {cs rest : List Char} {s : CharSet} {fuel' : Nat},
      cs.length + 1 ≤ fuel' + rest.length →
      set? flags fuel (cs ++ ')' :: u) = some (s, rest ++ ')' :: u) →
        set? flags fuel' cs = some (s, rest)) ∧
    (∀ {left : Option (SetOperation × CharSet)} {cs rest : List Char} {s s' : CharSet}
      {fuel' : Nat}, cs.length ≤ fuel' + rest.length →
      setItems? flags fuel left s (cs ++ ')' :: u) = some (s', rest ++ ')' :: u) →
        setItems? flags fuel' left s cs = some (s', rest)) := by
  induction fuel with
  | zero =>
    constructor
    · intro cs rest s fuel' _ h
      rw [set?] at h
      cases h
    · intro left cs rest s s' fuel' _ h
      rw [setItems?] at h
      cases h
  | succ fuel ih =>
    obtain ⟨ihSet, ihItems⟩ := ih
    constructor
    · intro cs rest s fuel' hfuel h
      rw [set?_succ] at h
      cases hstart : setStart flags (cs ++ ')' :: u) with
      | mk negated read =>
        obtain ⟨items, left⟩ := read
        rw [hstart] at h
        obtain ⟨⟨items', later⟩, hitems, hmap⟩ := Option.bind_eq_some_iff.mp h
        obtain ⟨t, ht, heq⟩ := Option.map_eq_some_iff.mp hmap
        cases heq
        have hleft : left <:+ cs ++ ')' :: u := by
          have hsuffix := (setStart_suffix flags (cs ++ ')' :: u)).trans (skip_suffix flags _)
          rw [hstart] at hsuffix
          exact hsuffix
        obtain ⟨y, rfl, hy, hrest⟩ := setItems?_split hitems hleft
        have hlength := hy.length_le
        obtain ⟨fuel', rfl⟩ : ∃ k, fuel' = k + 1 := ⟨fuel' - 1, by omega⟩
        rw [set?_succ, setStart_alone hstart]
        simp only
        rw [ihItems (by omega) hitems, Option.bind_some, ht, Option.map_some]
    · intro left cs rest s s' fuel' hfuel h
      have hclose := setItems?_suffix h
      obtain ⟨y, hy, hcs, -⟩ := skip_alone ((List.suffix_cons _ _).trans hclose)
      rw [hy] at hclose
      have htaken := hclose.length_le
      have hlength : y.length ≤ cs.length := hcs ▸ (skip_suffix flags cs).length_le
      simp only [List.length_cons, List.length_append] at htaken
      obtain ⟨fuel', rfl⟩ : ∃ k, fuel' = k + 1 := ⟨fuel' - 1, by omega⟩
      rw [setItems?_succ] at h ⊢
      rw [hy] at h
      rw [hcs]
      cases y with
      | nil =>
        rw [List.length_nil] at htaken
        omega
      | cons c y =>
        simp only [List.cons_append, List.length_cons] at h hlength htaken ⊢
        by_cases hbracket : c = ']'
        · rw [if_pos hbracket, Option.some.injEq, Prod.mk.injEq] at h ⊢
          exact ⟨h.1, List.append_cancel_right h.2⟩
        · rw [if_neg hbracket] at h ⊢
          obtain ⟨⟨left', t, later⟩, hstep, hitems⟩ := Option.bind_eq_some_iff.mp h
          have hlater : later <:+ y ++ ')' :: u := setStep?_suffix
            (fun h => ((List.suffix_cons _ _).trans (set?_suffix h)).trans (skip_suffix _ _)) hstep
          obtain ⟨z, rfl, hz, hrest⟩ := setItems?_split hitems hlater
          have hzlength := hz.length_le
          have hitems' := ihItems (by omega : z.length ≤ fuel' + rest.length) hitems
          have halone : ∀ {s : CharSet}, set? flags fuel (y ++ ')' :: u) = some (s, z ++ ')' :: u) →
              set? flags fuel' y = some (s, z) := ihSet (by omega)
          rcases setStep?_alone halone hstep with rfl | hbare | hread
          · simp at hrest
          · rw [setItems?_bareHyphen hbare] at hitems'
            cases hitems'
          · rw [hread, Option.bind_some]
            exact hitems'

theorem set?_alone {fuel fuel' : Nat} (hfuel : cs.length < fuel')
    (h : set? flags fuel (cs ++ ')' :: u) = some (s, rest ++ ')' :: u)) :
    set? flags fuel' cs = some (s, rest) :=
  (set?_and_setItems?_alone fuel).1 (by omega) h

end WarehouseJobs.Regex

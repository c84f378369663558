-- JSON values as texts: what is written on one line reads back as the same value. The steps that
-- a reader is allowed are counted against the length of the text.
import Mathlib.Tactic.SplitIfs
import WarehouseJobs.Json.Reader
import WarehouseJobs.Json.Writer
import WarehouseJobs.Proofs.Text.Digits

namespace WarehouseJobs.Json

open Text (hexValue?)

/-! ## Plain values -/

mutual

/-- Values that are read as they are written: their numbers are whole ones of 64 bits, and nothing
in them is unreadable. -/
def IsPlain : Json → Prop
  | .number (.whole i) => -(Nat.pow 2 63 : Int) ≤ i ∧ i ≤ Text.largest64
  | .number _ | .unreadable => False
  | .list items => ArePlain items
  | .record fields => HavePlain fields
  | _ => True

def ArePlain : List Json → Prop
  | [] => True
  | j :: js => IsPlain j ∧ ArePlain js

def HavePlain : List (String × Json) → Prop
  | [] => True
  | (_, j) :: fs => IsPlain j ∧ HavePlain fs

end

/-- What may stand behind a value inside a list or a record, or nothing at all. -/
def Stops : List Char → Prop
  | [] => True
  | c :: _ => c = ',' ∨ c = ']' ∨ c = '\x7d'

variable {c : Char} {cs said rest : List Char} {fuel : Nat}

theorem skipSpace_cons (h : isSpace c = false) (cs : List Char) : skipSpace (c :: cs) = c :: cs :=
  List.dropWhile_cons_of_neg (by simp [h])

/-! ## Texts -/

theorem hexValue?_hexDigit : ∀ n < 16, hexValue? (hexDigit n) = some n := by decide

/-- One character, escaped or not, is read in one step. -/
theorem readText_escapeChar (c : Char) (said : Spelled) (rest : List Char) :
    readText (fuel + 1) said (escapeChar c ++ rest) = readText fuel (said.push c) rest := by
  unfold escapeChar
  split_ifs with hquote hslash _ _ _ _ _ hcontrol
  -- The characters with an escape of their own.
  any_goals
    subst_vars
    rfl
  · have hhigh := hexValue?_hexDigit (c.toNat / 16) (by omega)
    have hlow := hexValue?_hexDigit (c.toNat % 16) (by omega)
    have hunit : readUnit ('0' :: '0' :: hexDigit (c.toNat / 16) :: hexDigit (c.toNat % 16) ::
        rest) = some (c.toNat, rest) := by
      have hzero : hexValue? '0' = some 0 := by decide
      simp only [readUnit, hzero, hhigh, hlow, Option.bind_eq_bind, Option.bind_some,
        Option.some.injEq, Prod.mk.injEq, and_true]
      omega
    have hchar : readEscapedUnit c.toNat rest = (some c, rest) := by
      unfold readEscapedUnit
      rw [if_neg (by omega), if_neg (by omega), Char.ofNat_toNat]
    rw [readText.eq_def]
    simp only [List.cons_append, List.nil_append, Char.reduceEq, if_false, if_true, hunit, hchar]
  · rw [List.singleton_append, readText.eq_def]
    simp only [if_neg hquote, if_neg hslash, if_neg hcontrol]

theorem readText_escaped (cs said rest : List Char) (hfuel : cs.length < fuel) :
    readText fuel (.chars said) (cs.flatMap escapeChar ++ '\"' :: rest) =
      some (.chars (cs.reverse ++ said), rest) := by
  induction cs generalizing fuel said with
  | nil =>
    obtain ⟨fuel, rfl⟩ := Nat.exists_eq_succ_of_ne_zero (Nat.ne_zero_of_lt hfuel)
    rfl
  | cons c cs ih =>
    obtain ⟨fuel, rfl⟩ := Nat.exists_eq_succ_of_ne_zero (Nat.ne_zero_of_lt hfuel)
    rw [List.length_cons] at hfuel
    rw [List.flatMap_cons, List.append_assoc, Nat.succ_eq_add_one, readText_escapeChar]
    refine (ih (c :: said) (by omega)).trans ?_
    rw [List.reverse_cons, List.append_assoc]
    rfl

theorem length_le_escaped (cs : List Char) : cs.length ≤ (cs.flatMap escapeChar).length := by
  induction cs with
  | nil => exact Nat.le_refl 0
  | cons c cs ih =>
    have hpos : 0 < (escapeChar c).length := by
      unfold escapeChar
      repeat' split
      all_goals simp
    rw [List.flatMap_cons, List.length_append, List.length_cons]
    omega

theorem toList_quote (s : String) :
    (quote s).toList = '\"' :: (s.toList.flatMap escapeChar ++ ['\"']) := by
  simp [quote]

/-- A text between quotes, with as many steps as a reader of values allows. -/
theorem readText_quoted (s : String) (rest : List Char) :
    readText ((s.toList.flatMap escapeChar ++ '\"' :: rest).length + 1) (.chars [])
      (s.toList.flatMap escapeChar ++ '\"' :: rest) = some (.chars s.toList.reverse, rest) := by
  have hle := length_le_escaped s.toList
  rw [readText_escaped _ _ _ (by rw [List.length_append]; omega), List.append_nil]

/-! ## Numbers -/

theorem takeDigits_digits (hcs : ∀ c ∈ cs, c.isDigit = true) (hrest : Stops rest)
    (value count : Nat) : takeDigits value count (cs ++ rest) =
      (Nat.ofDigitChars 10 cs value, count + cs.length, rest) := by
  induction cs generalizing value count with
  | nil =>
    cases rest with
    | nil => rfl
    | cons c rest =>
      have hc : Text.digitValue? c = none := by rcases hrest with rfl | rfl | rfl <;> rfl
      show takeDigits value count (c :: rest) = _
      rw [takeDigits, hc]
      rfl
  | cons c cs ih =>
    obtain ⟨hc, hcs⟩ := List.forall_mem_cons.mp hcs
    rw [List.cons_append, takeDigits, Text.digitValue?_of_isDigit hc]
    simp only
    rw [ih hcs, Nat.ofDigitChars_cons, Nat.mul_comm 10 value, List.length_cons]
    congr 2
    omega

/-- The number that digits stand for, if it is one of 64 bits. -/
theorem readUnsigned_digits (negative : Bool) {n : Nat} (hrest : Stops rest)
    (hfits : if negative then n ≠ 0 ∧ n ≤ Nat.pow 2 63 else n ≤ Text.largest64) :
    readUnsigned negative (Nat.toDigits 10 n ++ rest) =
      some (.number (.whole (if negative then -(n : Int) else n)), rest) := by
  have hread : takeDigits 0 0 (Nat.toDigits 10 n ++ rest) =
      (Nat.ofDigitChars 10 (Nat.toDigits 10 n) 0, 0 + (Nat.toDigits 10 n).length, rest) :=
    takeDigits_digits (fun c => Text.isDigit_of_mem_digits) hrest 0 0
  rw [Nat.ofDigitChars_ten_toDigits, Nat.zero_add] at hread
  have hpos : (Nat.toDigits 10 n).length ≠ 0 := Nat.ne_of_gt Nat.length_toDigits_pos
  have hzero : ¬ ((Nat.toDigits 10 n ++ rest).head? == some '0' &&
      decide ((Nat.toDigits 10 n).length > 1)) = true := by
    cases hdigits : Nat.toDigits 10 n with
    | nil => simp
    | cons d ds =>
      intro h
      simp only [List.cons_append, List.head?_cons, Bool.and_eq_true, beq_iff_eq,
        Option.some.injEq, decide_eq_true_eq] at h
      obtain ⟨rfl, hlong⟩ := h
      rw [Text.digits_eq_zero_cons hdigits] at hdigits
      cases hdigits
      exact absurd hlong (by simp)
  have hfinish : readExponent negative n 0 false rest =
      some (.number (.whole (if negative then -(n : Int) else n)), rest) := by
    have hend : readExponent.finish negative n 0 false rest =
        some (.number (.whole (if negative then -(n : Int) else n)), rest) := if_pos hfits
    cases rest with
    | nil => exact hend
    | cons c rest =>
      have hnone : ¬ (c = 'e' ∨ c = 'E') := by rcases hrest with rfl | rfl | rfl <;> decide
      exact (if_neg hnone).trans hend
  unfold readUnsigned
  simp only [hread]
  rw [if_neg (by simp only [not_or]; exact ⟨hpos, hzero⟩)]
  split
  · rcases hrest with h | h | h <;> cases h
  · exact hfinish

/-! ## One value -/

theorem digit_is_no_mark (h : c.isDigit = true) : isSpace c = false ∧ c ≠ '\x7b' ∧ c ≠ '[' ∧
    c ≠ ']' ∧ c ≠ '\"' ∧ c ≠ 't' ∧ c ≠ 'f' ∧ c ≠ 'n' ∧ c ≠ '-' := by
  refine ⟨?_, ?_, ?_, ?_, ?_, ?_, ?_, ?_, ?_⟩
  · rw [Bool.eq_false_iff]
    intro hspace
    simp only [isSpace, Bool.or_eq_true, beq_iff_eq] at hspace
    rcases hspace with ((rfl | rfl) | rfl) | rfl <;> cases h
  all_goals
    rintro rfl
    cases h

theorem toList_whole_ofNat (n : Nat) :
    (Number.whole (Int.ofNat n)).write.toList = Nat.toDigits 10 n := Nat.toList_repr

theorem toList_whole_negSucc (n : Nat) :
    (Number.whole (Int.negSucc n)).write.toList = '-' :: Nat.toDigits 10 (n + 1) := by
  show ("-" ++ (n + 1).repr).toList = _
  rw [String.toList_append, Nat.toList_repr]
  rfl

theorem readValue_whole {i : Int} (hlow : -(Nat.pow 2 63 : Int) ≤ i) (hhigh : i ≤ Text.largest64)
    (hrest : Stops rest) : readValue (fuel + 1) ((Number.whole i).write.toList ++ rest) =
      some (.number (.whole i), rest) := by
  cases i with
  | ofNat n =>
    have hfits : n ≤ Text.largest64 := Int.ofNat_le.mp hhigh
    have hread := readUnsigned_digits false hrest hfits
    rw [toList_whole_ofNat]
    cases hdigits : Nat.toDigits 10 n with
    | nil => exact absurd hdigits Nat.toDigits_ne_nil
    | cons d ds =>
      have hd : d.isDigit = true := Text.isDigit_of_mem_digits (n := n) (by simp [hdigits])
      obtain ⟨hspace, hbrace, hbracket, -, hquote, ht, hf, hn, hminus⟩ := digit_is_no_mark hd
      rw [hdigits] at hread
      rw [List.cons_append, readValue, skipSpace_cons hspace]
      simp only [if_neg hbrace, if_neg hbracket, if_neg hquote, if_neg ht, if_neg hf, if_neg hn,
        if_neg hminus]
      exact hread
  | negSucc n =>
    have hfits : n + 1 ≤ Nat.pow 2 63 := by omega
    have hread := readUnsigned_digits true hrest ⟨Nat.succ_ne_zero n, hfits⟩
    rw [toList_whole_negSucc, List.cons_append, readValue, skipSpace_cons rfl]
    simp only [Char.reduceEq, if_false, if_true]
    exact hread

theorem readValue_quote (s : String) :
    readValue (fuel + 1) ((quote s).toList ++ rest) = some (.text s, rest) := by
  rw [toList_quote, List.cons_append, List.append_assoc, List.singleton_append, readValue,
    skipSpace_cons rfl]
  simp only [Char.reduceEq, if_false, if_true, readText_quoted, List.reverse_reverse,
    String.ofList_toList]

/-! ## Lists and records -/

theorem whole_eq_cons (i : Int) : ∃ c cs, (Number.whole i).write.toList = c :: cs ∧
    isSpace c = false ∧ c ≠ ']' := by
  cases i with
  | ofNat n =>
    rw [toList_whole_ofNat]
    cases hdigits : Nat.toDigits 10 n with
    | nil => exact absurd hdigits Nat.toDigits_ne_nil
    | cons d ds =>
      have hd : d.isDigit = true := Text.isDigit_of_mem_digits (n := n) (by simp [hdigits])
      obtain ⟨hspace, -, -, hend, -⟩ := digit_is_no_mark hd
      exact ⟨d, ds, rfl, hspace, hend⟩
  | negSucc n => exact ⟨'-', _, toList_whole_negSucc n, rfl, by decide⟩

/-- A value begins with a character that is no space, and does not end a list. -/
theorem write_eq_cons (j : Json) (hj : j.IsPlain) : ∃ c cs, j.write.toList = c :: cs ∧
    isSpace c = false ∧ c ≠ ']' := by
  cases j with
  | null => exact ⟨'n', _, rfl, rfl, by decide⟩
  | bool b =>
    cases b with
    | true => exact ⟨'t', _, rfl, rfl, by decide⟩
    | false => exact ⟨'f', _, rfl, rfl, by decide⟩
  | number n =>
    cases n with
    | whole i => exact whole_eq_cons i
    | real negative digits exponent => exact hj.elim
    | double x => exact hj.elim
  | text s => exact ⟨'\"', _, toList_quote s, rfl, by decide⟩
  | list items =>
    exact ⟨'[', (writeItems items).toList ++ [']'], by simp [write], rfl, by decide⟩
  | record fields =>
    exact ⟨'\x7b', (writeFields fields).toList ++ ['\x7d'], by simp [write], rfl, by decide⟩
  | unreadable => exact hj.elim

theorem readValue_list {items : Json} (hc : isSpace c = false) (hend : c ≠ ']')
    (h : readItems fuel [] (c :: cs) = some (items, rest)) :
    readValue (fuel + 1) ('[' :: c :: cs) = some (items, rest) := by
  rw [readValue, skipSpace_cons rfl]
  simp only [Char.reduceEq, if_false, if_true, skipSpace_cons hc]
  split
  · rename_i heq
    exact absurd (List.cons.inj heq).1 hend
  · exact h

theorem readValue_record {fields : Json}
    (h : readFields fuel [] true ('\"' :: cs) = some (fields, rest)) :
    readValue (fuel + 1) ('\x7b' :: '\"' :: cs) = some (fields, rest) := by
  rw [readValue, skipSpace_cons rfl]
  simp only [if_true, skipSpace_cons (show isSpace '\"' = false from rfl)]
  exact h

variable {done : List Json} {taken : List (String × Json)} {j : Json} {name : String}

theorem readItems_last (h : readValue fuel cs = some (j, ']' :: rest)) :
    readItems (fuel + 1) done cs = some (.list (done.reverse ++ [j]), rest) := by
  rw [readItems, h]
  simp only [skipSpace_cons (show isSpace ']' = false from rfl), List.reverse_cons]

theorem readItems_more (h : readValue fuel cs = some (j, ',' :: rest)) :
    readItems (fuel + 1) done cs = readItems fuel (j :: done) rest := by
  rw [readItems, h]
  simp only [skipSpace_cons (show isSpace ',' = false from rfl)]

theorem readFields_last (h : readValue fuel cs = some (j, '\x7d' :: rest)) :
    readFields (fuel + 1) taken true ((quote name).toList ++ ':' :: cs) =
      some (.record (taken.reverse ++ [(name, j)]), rest) := by
  rw [toList_quote, List.cons_append, List.append_assoc, List.singleton_append, readFields,
    skipSpace_cons rfl]
  simp only [readText_quoted, skipSpace_cons (show isSpace ':' = false from rfl), h,
    List.reverse_reverse, String.ofList_toList,
    skipSpace_cons (show isSpace '\x7d' = false from rfl), if_true, List.reverse_cons]

theorem readFields_more (h : readValue fuel cs = some (j, ',' :: rest)) :
    readFields (fuel + 1) taken true ((quote name).toList ++ ':' :: cs) =
      readFields fuel ((name, j) :: taken) true rest := by
  rw [toList_quote, List.cons_append, List.append_assoc, List.singleton_append, readFields,
    skipSpace_cons rfl]
  simp only [readText_quoted, skipSpace_cons (show isSpace ':' = false from rfl), h,
    List.reverse_reverse, String.ofList_toList,
    skipSpace_cons (show isSpace ',' = false from rfl)]

/-! ## All values -/

theorem toList_writeItems (j : Json) (js : List Json) : (writeItems (j :: js)).toList =
    j.write.toList ++ if js.isEmpty then [] else ',' :: (writeItems js).toList := by
  cases js with
  | nil => simp [writeItems]
  | cons j' js => simp [writeItems]

theorem toList_writeFields (name : String) (j : Json) (fs : List (String × Json)) :
    (writeFields ((name, j) :: fs)).toList = (quote name).toList ++ ':' :: (j.write.toList ++
      if fs.isEmpty then [] else ',' :: (writeFields fs).toList) := by
  cases fs with
  | nil => simp [writeFields]
  | cons f fs =>
    obtain ⟨name', j'⟩ := f
    simp [writeFields]

/-- So many steps are enough for what was written in half as many characters, with whatever may
stand behind it. A list or a record takes a step for its mark, and each of its values one more than
the value needs. -/
structure ReadsWithin (fuel : Nat) : Prop where
  value : ∀ j rest, IsPlain j → Stops rest → 2 * j.write.toList.length ≤ fuel →
    readValue fuel (j.write.toList ++ rest) = some (j, rest)
  items : ∀ j js done rest, IsPlain j → ArePlain js →
    2 * (writeItems (j :: js)).toList.length + 1 ≤ fuel →
    readItems fuel done ((writeItems (j :: js)).toList ++ ']' :: rest) =
      some (.list (done.reverse ++ j :: js), rest)
  fields : ∀ name j fs taken rest, IsPlain j → HavePlain fs →
    2 * (writeFields ((name, j) :: fs)).toList.length + 1 ≤ fuel →
    readFields fuel taken true ((writeFields ((name, j) :: fs)).toList ++ '\x7d' :: rest) =
      some (.record (taken.reverse ++ (name, j) :: fs), rest)

theorem readsWithin_zero : ReadsWithin 0 where
  value j rest hj _ hfuel := by
    obtain ⟨c, cs, hcons, -⟩ := write_eq_cons j hj
    rw [hcons, List.length_cons] at hfuel
    omega
  items j js done rest _ _ hfuel := by omega
  fields name j fs taken rest _ _ hfuel := by omega

theorem ReadsWithin.list (h : ReadsWithin fuel) {j : Json} {js : List Json} (hj : IsPlain j)
    (hjs : ArePlain js) (hfuel : 2 * (Json.list (j :: js)).write.toList.length ≤ fuel + 1) :
    readValue (fuel + 1) ((Json.list (j :: js)).write.toList ++ rest) =
      some (.list (j :: js), rest) := by
  have hwrite : (Json.list (j :: js)).write.toList =
      '[' :: ((writeItems (j :: js)).toList ++ [']']) := by simp [write]
  rw [hwrite, List.length_cons, List.length_append, List.length_singleton] at hfuel
  have hread := h.items j js [] rest hj hjs (by omega)
  obtain ⟨c, cs, hcons, hspace, hend⟩ := write_eq_cons j hj
  rw [hwrite, List.cons_append, List.append_assoc, List.singleton_append]
  rw [toList_writeItems, hcons, List.cons_append, List.cons_append] at hread ⊢
  exact readValue_list hspace hend hread

theorem ReadsWithin.record (h : ReadsWithin fuel) {name : String} {j : Json}
    {fs : List (String × Json)} (hj : IsPlain j) (hfs : HavePlain fs)
    (hfuel : 2 * (Json.record ((name, j) :: fs)).write.toList.length ≤ fuel + 1) :
    readValue (fuel + 1) ((Json.record ((name, j) :: fs)).write.toList ++ rest) =
      some (.record ((name, j) :: fs), rest) := by
  have hwrite : (Json.record ((name, j) :: fs)).write.toList =
      '\x7b' :: ((writeFields ((name, j) :: fs)).toList ++ ['\x7d']) := by simp [write]
  rw [hwrite, List.length_cons, List.length_append, List.length_singleton] at hfuel
  have hread := h.fields name j fs [] rest hj hfs (by omega)
  rw [hwrite, List.cons_append, List.append_assoc, List.singleton_append]
  rw [toList_writeFields, toList_quote, List.cons_append, List.cons_append] at hread ⊢
  exact readValue_record hread

theorem ReadsWithin.succ (h : ReadsWithin fuel) : ReadsWithin (fuel + 1) where
  value j rest hj hrest hfuel := by
    cases j with
    | null => rfl
    | bool b => cases b <;> rfl
    | number n =>
      cases n with
      | whole i => exact readValue_whole hj.1 hj.2 hrest
      | real negative digits exponent => exact hj.elim
      | double x => exact hj.elim
    | text s => exact readValue_quote s
    | list items =>
      cases items with
      | nil => rfl
      | cons j js => exact h.list hj.1 hj.2 hfuel
    | record fields =>
      cases fields with
      | nil => rfl
      | cons f fs => exact h.record hj.1 hj.2 hfuel
    | unreadable => exact hj.elim
  items j js done rest hj hjs hfuel := by
    rw [toList_writeItems] at hfuel ⊢
    cases js with
    | nil =>
      simp only [List.isEmpty_nil, if_true, List.append_nil] at hfuel ⊢
      exact readItems_last (h.value j _ hj (.inr (.inl rfl)) (by omega))
    | cons j' js =>
      simp only [List.isEmpty_cons, Bool.false_eq_true, if_false, List.append_assoc,
        List.cons_append, List.length_append, List.length_cons] at hfuel ⊢
      rw [readItems_more (h.value j _ hj (.inl rfl) (by omega)),
        h.items j' js (j :: done) rest hjs.1 hjs.2 (by omega), List.reverse_cons,
        List.append_assoc, List.singleton_append]
  fields name j fs taken rest hj hfs hfuel := by
    rw [toList_writeFields] at hfuel ⊢
    cases fs with
    | nil =>
      simp only [List.isEmpty_nil, if_true, List.append_nil, List.append_assoc, List.cons_append,
        List.length_append, List.length_cons] at hfuel ⊢
      exact readFields_last (h.value j _ hj (.inr (.inr rfl)) (by omega))
    | cons f fs =>
      obtain ⟨name', j'⟩ := f
      simp only [List.isEmpty_cons, Bool.false_eq_true, if_false, List.append_assoc,
        List.cons_append, List.length_append, List.length_cons] at hfuel ⊢
      rw [readFields_more (h.value j _ hj (.inl rfl) (by omega)),
        h.fields name' j' fs ((name, j) :: taken) rest hfs.1 hfs.2 (by omega), List.reverse_cons,
        List.append_assoc, List.singleton_append]

theorem readsWithin (fuel : Nat) : ReadsWithin fuel := by
  induction fuel with
  | zero => exact readsWithin_zero
  | succ fuel ih => exact ih.succ

/-- A plain value that is written as a text reads back as it was. -/
theorem ofText?_write {j : Json} (hj : j.IsPlain) : ofText? j.write = some j := by
  have hread := (readsWithin (2 * j.write.toList.length + 2)).value j [] hj trivial (by omega)
  rw [List.append_nil] at hread
  unfold ofText?
  simp only [hread]
  rfl

/-- So no two plain values are written the same. -/
theorem write_injective {j j' : Json} (hj : j.IsPlain) (hj' : j'.IsPlain)
    (h : j.write = j'.write) : j = j' :=
  Option.some.inj ((ofText?_write hj).symm.trans (h ▸ ofText?_write hj'))

end WarehouseJobs.Json

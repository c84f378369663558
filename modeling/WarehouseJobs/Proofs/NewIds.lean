-- New ids. The rules look at an id twice: at its prefix, before the random part is drawn, and at
-- the whole of it. The random part is always as long as every other one, so it can be cut off an
-- id, whatever hyphens and digits the prefix ends with; and it tells the ids apart.
import Mathlib.Data.List.DropRight
import WarehouseJobs.Proofs.Names
import WarehouseJobs.Proofs.WholeIds

namespace WarehouseJobs

open Regex

/-! ## Random parts -/

namespace Uuid

/-- The text of a random part: its digits in groups of eight, four, four, four and twelve, with a
hyphen between two groups. -/
structure Hyphenated (u : Uuid) (cs : List Char) : Prop where
  length : cs.length = 36
  hyphens : ∀ i, cs[i]? = some '-' ↔ i ∈ [8, 13, 18, 23]
  digits : cs.filter (· ≠ '-') = u.digits.map digitChar

variable {u v : Uuid}

theorem digitChar_injective : Function.Injective digitChar := by
  unfold Function.Injective
  decide

theorem digitChar_ne_hyphen : ∀ d : Fin 16, digitChar d ≠ '-' := by decide

theorem hyphen_not_mem (u : Uuid) : '-' ∉ u.digits.map digitChar := by
  intro h
  obtain ⟨d, -, hd⟩ := List.mem_map.mp h
  exact digitChar_ne_hyphen d hd

theorem getElem?_hyphenated (u : Uuid) (i : Nat) :
    u.hyphenated[i]? = some '-' ↔ i ∈ [8, 13, 18, 23] := by
  have hlength : (u.digits.map digitChar).length = 32 := by rw [List.length_map, u.size]
  have hdigits := u.hyphen_not_mem
  unfold hyphenated
  generalize u.digits.map digitChar = cs at hlength hdigits
  have hnone : ∀ i, cs[i]? ≠ some '-' := fun i h => hdigits (List.mem_of_getElem? h)
  simp only [List.getElem?_append, List.getElem?_cons, List.getElem?_take, List.getElem?_drop,
    List.length_take, List.length_drop, List.length_append, List.length_cons, hlength]
  grind

theorem filter_hyphenated (u : Uuid) :
    u.hyphenated.filter (· ≠ '-') = u.digits.map digitChar := by
  have hdigits : ∀ c ∈ u.digits.map digitChar, decide (c ≠ '-') = true := by
    intro c hc
    rw [decide_eq_true_eq]
    rintro rfl
    exact u.hyphen_not_mem hc
  have hgroup : ∀ n, (u.digits.map digitChar).drop n =
      ((u.digits.map digitChar).drop n).take 4 ++ (u.digits.map digitChar).drop (n + 4) :=
    fun n => by rw [← List.drop_drop, List.take_append_drop]
  calc u.hyphenated.filter (· ≠ '-')
    _ = ((u.digits.map digitChar).take 8 ++ (u.digits.map digitChar).drop 8).filter (· ≠ '-') := by
        rw [hgroup 8, hgroup 12, hgroup 16]
        simp [hyphenated, List.filter_append]
    _ = u.digits.map digitChar := by
        rw [List.take_append_drop]
        exact List.filter_eq_self.mpr hdigits

theorem toList_shown (u : Uuid) : u.shown.toList = u.hyphenated := String.toList_ofList

theorem hyphenated_shown (u : Uuid) : u.Hyphenated u.shown.toList := by
  rw [toList_shown]
  exact ⟨u.hyphenated_length, u.getElem?_hyphenated, u.filter_hyphenated⟩

theorem Hyphenated.injective {cs : List Char} (hu : u.Hyphenated cs) (hv : v.Hyphenated cs) :
    u = v := by
  have hdigits : u.digits = v.digits :=
    List.map_injective_iff.mpr digitChar_injective (hu.digits.symm.trans hv.digits)
  cases u
  cases v
  cases hdigits
  rfl

end Uuid

/-! ## Prefixes and random parts -/

section

variable {idPrefix idPrefix' : String} {u v : Uuid}

theorem toList_newId (idPrefix : String) (u : Uuid) :
    (newId idPrefix u).toList = idPrefix.toList ++ '-' :: u.shown.toList := by
  simp [newId, String.toList_append]

/-- The random part with its hyphen is cut off. -/
theorem rdrop_newId (idPrefix : String) (u : Uuid) :
    (newId idPrefix u).toList.rdrop suffixLength = idPrefix.toList := by
  have hlength : ('-' :: u.shown.toList).length = suffixLength := by
    rw [List.length_cons, u.hyphenated_shown.length]
    rfl
  rw [toList_newId, ← hlength, List.rdrop_append_length]

/-- Whatever the prefixes are, equal ids have equal random parts. -/
theorem newId_injective (h : newId idPrefix u = newId idPrefix' v) :
    idPrefix = idPrefix' ∧ u = v := by
  have hlength : ('-' :: u.shown.toList).length = ('-' :: v.shown.toList).length := by
    rw [List.length_cons, List.length_cons, u.hyphenated_shown.length, v.hyphenated_shown.length]
  have htexts := congrArg String.toList h
  rw [toList_newId, toList_newId] at htexts
  obtain ⟨hlead, hrandom⟩ := List.append_inj' htexts hlength
  have hu := u.hyphenated_shown
  rw [(List.cons.inj hrandom).2] at hu
  exact ⟨String.toList_inj.mp hlead, hu.injective v.hyphenated_shown⟩

end

/-! ## Rules -/

variable {rules : IdRules} {project idPrefix : String} {u : Uuid} {r : JobReference}

theorem IdRules.generates_iff :
    (∃ r, rules.generate project idPrefix u = .ok r) ↔ rules.Admits project idPrefix u := by
  simp [generate_eq_ok_iff]

/-! ## The default rules -/

/-- A letter or a digit of ASCII, an underscore or a hyphen. -/
def IsIdChar (c : Char) : Prop :=
  'A' ≤ c ∧ c ≤ 'Z' ∨ 'a' ≤ c ∧ c ≤ 'z' ∨ '0' ≤ c ∧ c ≤ '9' ∨ c = '_' ∨ c = '-'

instance (c : Char) : Decidable (IsIdChar c) :=
  inferInstanceAs (Decidable
    ('A' ≤ c ∧ c ≤ 'Z' ∨ 'a' ≤ c ∧ c ≤ 'z' ∨ '0' ≤ c ∧ c ≤ '9' ∨ c = '_' ∨ c = '-'))

/-- So the characters of one text are looked at, and not all that there are. -/
theorem isIdChar_of_all {cs : List Char} (h : cs.all (decide <| IsIdChar ·) = true) :
    ∀ c ∈ cs, IsIdChar c := fun c hc => of_decide_eq_true (List.all_eq_true.mp h c hc)

theorem isIdChar_digitChar : ∀ d : Fin 16, IsIdChar (Uuid.digitChar d) := by decide

/-- What stands behind the prefix of an id is never out of order. -/
theorem newId_chars_iff : (∀ c ∈ (newId idPrefix u).toList, IsIdChar c) ↔
    ∀ c ∈ idPrefix.toList, IsIdChar c := by
  have hhyphen : IsIdChar '-' := .inr (.inr (.inr (.inr rfl)))
  have hrandom : ∀ c ∈ u.shown.toList, IsIdChar c := by
    intro c hc
    by_cases hsame : c = '-'
    · rwa [hsame]
    · have hdigit : c ∈ u.shown.toList.filter (· ≠ '-') := by simp [hc, hsame]
      rw [u.hyphenated_shown.digits] at hdigit
      obtain ⟨d, -, rfl⟩ := List.mem_map.mp hdigit
      exact isIdChar_digitChar d
  rw [toList_newId, List.forall_mem_append, List.forall_mem_cons]
  exact and_iff_left ⟨hhyphen, hrandom⟩

namespace Regex

/-- One or more characters of a set, from the start of a text to its end. -/
def Pattern.allOf (set : CharSet) (weight : Nat) : Pattern :=
  .sequence [.condition .textStart, .repeated 1 none (.char set weight), .condition .textEnd]

variable {text : Subject} {set : CharSet} {weight : Nat}

theorem steps_char_iff {n i j : Nat} : Steps (Leads text (.char set weight)) n i j ↔
    j = i + n ∧ ∀ k, i ≤ k → k < j → ∃ c, text[k]? = some c ∧ set c = true := by
  induction n generalizing i with
  | zero =>
    simp only [Steps]
    constructor
    · rintro rfl
      exact ⟨rfl, fun k hik hki => by omega⟩
    · rintro ⟨rfl, -⟩
      rfl
  | succ n ih =>
    simp only [Steps, ih]
    constructor
    · rintro ⟨_, hstep, rfl, hrest⟩
      rw [Leads] at hstep
      obtain ⟨hhere, rfl⟩ := hstep
      refine ⟨by omega, fun k hik hkj => ?_⟩
      rcases Nat.eq_or_lt_of_le hik with rfl | hlt
      · exact hhere
      · exact hrest k hlt hkj
    · rintro ⟨rfl, hall⟩
      have hstep : Leads text (.char set weight) i (i + 1) := by
        rw [Leads]
        exact ⟨hall i (Nat.le_refl i) (by omega), rfl⟩
      exact ⟨i + 1, hstep, by omega, fun k hik hkj => hall k (by omega) hkj⟩

theorem Pattern.covers_allOf_iff {s : String} :
    (Pattern.allOf set weight).Covers s ↔ s ≠ "" ∧ ∀ c ∈ s.toList, set c = true := by
  have hcovers : (Pattern.allOf set weight).Covers s ↔
      ∃ more, Steps (Leads s.toList.toArray (.char set weight)) (1 + more) 0 s.toList.length := by
    simp [allOf, Covers, Leads, LeadsInTurn, Condition.holds]
  have hempty : s = "" ↔ s.toList.length = 0 := by
    rw [List.length_eq_zero_iff, String.toList_eq_nil_iff]
  rw [hcovers, ne_eq, hempty]
  simp only [steps_char_iff]
  constructor
  · rintro ⟨more, hlength, hall⟩
    refine ⟨by omega, fun c hc => ?_⟩
    obtain ⟨k, hk, rfl⟩ := List.getElem_of_mem hc
    obtain ⟨c, hthere, hset⟩ := hall k (Nat.zero_le k) hk
    have hsame : s.toList[k] = c := by simpa [hk] using hthere
    rwa [hsame]
  · rintro ⟨hlength, hall⟩
    refine ⟨s.toList.length - 1, by omega, fun k _ hk => ?_⟩
    exact ⟨s.toList[k], by simp, hall _ (List.getElem_mem hk)⟩

/-- The set of characters that the default pattern is read as. -/
def idSet : CharSet :=
  either (either (either (either (either noChar (between 'A' 'Z')) (between 'a' 'z'))
    (between '0' '9')) (single '_')) (single '-')

theorem idSet_iff {c : Char} : idSet c = true ↔ IsIdChar c := by
  simp [idSet, either, between, single, noChar, IsIdChar, or_assoc]

/-- The text of the default pattern is read part by part: the start of a text, the set with its
repetition, and the end. -/
theorem ofText?_defaultIdPattern :
    Pattern.ofText? defaultIdPattern = some (.allOf idSet narrowWeight) := by
  have htext : defaultIdPattern.toList =
      ['^', '[', 'A', '-', 'Z', 'a', '-', 'z', '0', '-', '9', '_', '-', ']', '+', '$'] := by
    simp [defaultIdPattern]
  have hread : group? 17 {} {} defaultIdPattern.toList = some ({ parts :=
      [some (.condition .textEnd), some (.repeated 1 none (.char idSet narrowWeight)),
        some (.condition .textStart)] }, []) := by
    rw [htext]
    rfl
  have hfits : (Pattern.allOf idSet narrowWeight).depth ≤ Pattern.depthLimit ∧
      (Pattern.allOf idSet narrowWeight).weight ≤ Pattern.weightLimit := by decide
  have hlength : defaultIdPattern.toList.length + 1 = 17 := by rw [htext]; rfl
  unfold Pattern.ofText?
  simp only [hlength, hread]
  exact if_pos hfits

end Regex

namespace IdRules

theorem idChar_iff {c : Char} : defaultPattern.idChar c = true ↔ IsIdChar c := by
  simp only [defaultPattern.idChar, Text.isAsciiLetter, Text.isAsciiDigit, IsIdChar,
    Bool.or_eq_true, Bool.and_eq_true, decide_eq_true_eq, or_assoc]
  exact or_left_comm

theorem default_accepts_iff {s : String} :
    IdRules.default.accepts s = true ↔ s ≠ "" ∧ ∀ c ∈ s.toList, IsIdChar c := by
  have hpattern : IdRules.default.pattern = (Pattern.allOf defaultPattern.idChar 600).anchored :=
    rfl
  unfold accepts
  rw [hpattern, Pattern.isIn_anchored, Pattern.covers_allOf_iff]
  simp only [idChar_iff]

/-- The rules that the default text is read as accept what the default rules accept. -/
theorem accepts_of_defaultText {maxLength : UInt64}
    (h : ofText defaultIdPattern maxLength = .ok rules) (s : String) :
    rules.accepts s = IdRules.default.accepts s := by
  have hwhole := (holdWholeIds h).whole _ ofText?_defaultIdPattern s
  rw [Pattern.covers_allOf_iff] at hwhole
  simp only [idSet_iff] at hwhole
  rw [Bool.eq_iff_iff, hwhole, default_accepts_iff]

theorem exists_defaultText : ∃ rules, ofText defaultIdPattern defaultIdMaxLength = .ok rules ∧
    rules.source = IdRules.default.source ∧ rules.maxLength = IdRules.default.maxLength := by
  obtain ⟨pattern, hread, -⟩ := default_pattern_ignores_digits
  unfold ofText
  rw [hread]
  exact ⟨_, rfl, rfl, rfl⟩

/-- Rules that accept the same texts issue the same ids, and refuse them for the same reasons. -/
theorem generate_congr {rules' : IdRules} (hsource : rules.source = rules'.source)
    (hlength : rules.maxLength = rules'.maxLength)
    (haccepts : ∀ s, rules.accepts s = rules'.accepts s) (project idPrefix : String) (u : Uuid) :
    rules.generate project idPrefix u = rules'.generate project idPrefix u := by
  simp only [generate, checkPrefix, hsource, hlength, haccepts]

theorem default_admits_iff : IdRules.default.Admits project idPrefix u ↔
    Text.isBlank project = false ∧ idPrefix ≠ "" ∧ (∀ c ∈ idPrefix.toList, IsIdChar c) ∧
      idPrefix.length ≤ 987 := by
  have hlength : (newId idPrefix u).length ≤ IdRules.default.maxLength.toNat ↔
      idPrefix.length ≤ 987 := by
    have hmost : IdRules.default.maxLength.toNat = 987 + suffixLength := rfl
    rw [newId_length, hmost]
    exact Nat.add_le_add_iff_right
  have hwhole : newId idPrefix u ≠ "" := fun h => by
    have hnonempty := newId_ne_empty idPrefix u
    rw [h] at hnonempty
    cases hnonempty
  constructor
  · rintro ⟨hnamed, hnonempty, hlead, hshort, -⟩
    exact ⟨hnamed, hnonempty, (default_accepts_iff.mp hlead).2, hlength.mp hshort⟩
  · rintro ⟨hnamed, hnonempty, hchars, hshort⟩
    exact ⟨hnamed, hnonempty, default_accepts_iff.mpr ⟨hnonempty, hchars⟩, hlength.mpr hshort,
      default_accepts_iff.mpr ⟨hwhole, newId_chars_iff.mpr hchars⟩⟩

end IdRules

/-! ## New ids -/

/-- A new id is its prefix, a hyphen and the random part in its usual form, and follows the rules;
its reference has the project that was given, and no location. The prefix is what is left without
the last thirty-seven characters, and ids with different random parts are different, whatever
their prefixes and rules are. The default rules issue an id for a project that is not blank and
for a prefix of one to 987 letters, digits, underscores and hyphens, and for no other; and they
are the rules that the default pattern is read as. -/
theorem new_ids_are_legal_and_never_collide :
    (∀ (rules : IdRules) (project idPrefix : String) (u : Uuid) (r : JobReference),
      rules.generate project idPrefix u = .ok r →
        r.id.text = idPrefix ++ "-" ++ u.shown ∧ u.Hyphenated u.shown.toList ∧
        rules.accepts r.id.text = true ∧ r.id.length ≤ rules.maxLength.toNat ∧
        r.project.text = project ∧ r.location = none ∧
        r.id.text.toList.rdrop 37 = idPrefix.toList) ∧
    (∀ (rules rules' : IdRules) (project project' idPrefix idPrefix' : String) (u v : Uuid)
      (r r' : JobReference), rules.generate project idPrefix u = .ok r →
      rules'.generate project' idPrefix' v = .ok r' → u ≠ v → r.id ≠ r'.id) ∧
    (∀ (project idPrefix : String) (u : Uuid),
      (∃ r, IdRules.default.generate project idPrefix u = .ok r) ↔
        Text.isBlank project = false ∧ idPrefix ≠ "" ∧ (∀ c ∈ idPrefix.toList, IsIdChar c) ∧
          idPrefix.length ≤ 987) ∧
    ∃ rules, IdRules.ofText defaultIdPattern defaultIdMaxLength = .ok rules ∧
      ∀ project idPrefix u,
        rules.generate project idPrefix u = IdRules.default.generate project idPrefix u := by
  refine ⟨?_, ?_, ?_, ?_⟩
  · intro rules project idPrefix u r h
    obtain ⟨hadmits, rfl⟩ := IdRules.generate_eq_ok_iff.mp h
    exact ⟨rfl, u.hyphenated_shown, hadmits.whole, hadmits.short, rfl, rfl,
      rdrop_newId idPrefix u⟩
  · intro rules rules' project project' idPrefix idPrefix' u v r r' h h' hne hsame
    obtain ⟨-, rfl⟩ := IdRules.generate_eq_ok_iff.mp h
    obtain ⟨-, rfl⟩ := IdRules.generate_eq_ok_iff.mp h'
    exact hne (newId_injective (JobId.mk.inj hsame)).2
  · intro project idPrefix u
    rw [IdRules.generates_iff, IdRules.default_admits_iff]
  · obtain ⟨rules, hrules, hsource, hlength⟩ := IdRules.exists_defaultText
    exact ⟨rules, hrules, IdRules.generate_congr hsource hlength
      (IdRules.accepts_of_defaultText hrules)⟩

/-- Two ids whose prefixes begin alike differ by their random parts. -/
theorem nightly_ids_are_told_apart : ∃ r r',
    IdRules.default.generate "demo" "nightly" .zero = .ok r ∧
    IdRules.default.generate "demo" "nightly-0" (.ofRandom fun _ => 0) = .ok r' ∧
    r.id.text = "nightly-00000000-0000-0000-0000-000000000000" ∧ r.id ≠ r'.id := by
  obtain ⟨hlegal, hapart, hdefault, -⟩ := new_ids_are_legal_and_never_collide
  obtain ⟨r, hr⟩ := (hdefault "demo" "nightly" .zero).mpr
    ⟨by decide, by decide, isIdChar_of_all (by decide), by decide⟩
  obtain ⟨r', hr'⟩ := (hdefault "demo" "nightly-0" (.ofRandom fun _ => 0)).mpr
    ⟨by decide, by decide, isIdChar_of_all (by decide), by decide⟩
  refine ⟨r, r', hr, hr', ?_, hapart _ _ _ _ _ _ _ _ r r' hr hr' (by decide)⟩
  rw [(hlegal _ _ _ _ r hr).1]
  decide +kernel

end WarehouseJobs

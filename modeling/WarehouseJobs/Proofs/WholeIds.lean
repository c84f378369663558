-- Rules are meant for whole ids: the pattern is put into a group between the start and the end of
-- a text. It is put there as text, so a closing parenthesis of its own can close the group.
import WarehouseJobs.Proofs.Regex.Meaning
import WarehouseJobs.Proofs.Regex.Reader
import WarehouseJobs.Proofs.Settings.IssuedIds

namespace WarehouseJobs

open Regex

/-! ## The text around a pattern -/

namespace Regex

/-- A closing parenthesis that closes nothing: the text is read up to there, and no further. -/
def Unopened (source : String) : Prop :=
  ∃ r rest, group? (source.toList.length + 1) {} {} source.toList = some (r, ')' :: rest)

/-- A pattern between the start and the end of a text. -/
def Pattern.anchored (p : Pattern) : Pattern :=
  .sequence [.condition .textStart, .group p, .condition .textEnd]

theorem Pattern.isIn_anchored (p : Pattern) (s : String) :
    p.anchored.isIn s = true ↔ p.Covers s := by
  rw [anchored, isIn_anchored_iff, Covers, Leads, Covers]

theorem Pattern.depth_anchored (p : Pattern) : p.depth ≤ p.anchored.depth := by
  simp only [anchored, depth, depthOf]
  omega

theorem Pattern.weight_anchored (p : Pattern) : p.weight ≤ p.anchored.weight := by
  simp only [anchored, weight, weightOf]
  omega

/-- The text around a pattern is read as a group between two conditions, up to the parenthesis that
closes this group. -/
theorem group?_wrapped (fuel : Nat) (cs : List Char) :
    group? (fuel + 4) {} {} ('^' :: '(' :: '?' :: ':' :: (cs ++ [')', '$'])) =
      (group? (fuel + 2) {} {} (cs ++ [')', '$'])).bind fun g =>
        match g.2 with
        | [] => none
        | c :: rest =>
          if c = ')' then
            group? (fuel + 2) {}
              { parts := [some (.group g.1.pattern), some (.condition .textStart)]
                names := g.1.names } rest
          else none := by
  have hskip : ∀ cs, skip {} cs = cs := fun _ => rfl
  have hstart : step? (group? (fuel + 3)) {} {} '^' ('(' :: '?' :: ':' :: (cs ++ [')', '$'])) =
      some ({}, { parts := [some (.condition .textStart)] },
        '(' :: '?' :: ':' :: (cs ++ [')', '$'])) := rfl
  have hopening : opening? {} ('?' :: ':' :: (cs ++ [')', '$'])) =
      some (.group none {}, cs ++ [')', '$']) := rfl
  rw [group?_succ, hskip]
  simp only [if_neg (by decide : ¬ '^' = ')'), hstart, Option.bind_some]
  rw [group?_succ, hskip]
  simp only [if_neg (by decide : ¬ '(' = ')'), step?, if_neg (by decide : ¬ '(' = '|'), if_true,
    opened?, hopening, Option.bind_some]
  rw [if_neg (by simp)]
  have hnames : ({ names := (none : Option String).toList ++ [] } : Parsed) = {} := rfl
  rw [hnames]
  cases group? (fuel + 2) {} {} (cs ++ [')', '$']) with
  | none => rfl
  | some read =>
    obtain ⟨read, left⟩ := read
    cases left with
    | nil => rfl
    | cons c left =>
      by_cases hclose : c = ')'
      · subst hclose
        rfl
      · simp [hclose]

/-- In front of the end of the wrapping, a closing parenthesis is the last one, or stands before. -/
theorem closing_cases {cs rest : List Char} (h : ')' :: rest <:+ cs ++ [')', '$']) :
    rest = ['$'] ∨ ∃ before, rest = before ++ [')', '$'] := by
  rcases List.suffix_or_suffix_of_suffix h (List.suffix_append cs _) with
    hinside | ⟨before, hbefore⟩
  · rw [List.suffix_cons_iff, List.suffix_cons_iff] at hinside
    rcases hinside with heq | heq | hnil
    · exact .inl (List.cons.inj heq).2
    · exact absurd (List.cons.inj heq).1 (by decide)
    · exact absurd (List.suffix_nil.mp hnil) (List.cons_ne_nil _ _)
  · cases before with
    | nil => exact .inl (List.cons.inj hbefore).2.symm
    | cons c before => exact .inr ⟨before, (List.cons.inj hbefore).2.symm⟩

theorem Pattern.ofText?_of_unopened {source : String} (h : Unopened source) :
    Pattern.ofText? source = none := by
  obtain ⟨r, rest, hread⟩ := h
  simp only [ofText?, hread]

end Regex

/-- A pattern that is accepted in its wrapping is read to its end by itself, and the wrapping goes
around it; or it is read up to a parenthesis that closes nothing. -/
theorem wholePattern?_cases {source : String} {pattern : Pattern}
    (h : wholePattern? source = some pattern) :
    (∃ p, Pattern.ofText? source = some p ∧ pattern = p.anchored) ∨ Unopened source := by
  have htext : ("^(?:" ++ source ++ ")$").toList =
      '^' :: '(' :: '?' :: ':' :: (source.toList ++ [')', '$']) := by
    simp [String.toList_append]
  have hlength : ("^(?:" ++ source ++ ")$").toList.length + 1 = (source.toList.length + 3) + 4 := by
    rw [htext]
    simp only [List.length_cons, List.length_append, List.length_nil]
  unfold wholePattern? Pattern.ofText? at h
  simp only at h
  rw [hlength, htext, group?_wrapped] at h
  split at h
  · rename_i r hread
    obtain ⟨⟨inner, left⟩, hinner, hbehind⟩ := Option.bind_eq_some_iff.mp hread
    cases left with
    | nil => cases hbehind
    | cons c rest =>
      simp only at hbehind
      split at hbehind
      · rename_i hclose
        subst hclose
        have hsuffix := (group?_suffix hinner).trans (skip_suffix _ _)
        rcases closing_cases hsuffix with rfl | ⟨before, rfl⟩
        · left
          have halone : group? (source.toList.length + 1) {} {} source.toList = some (inner, []) :=
            group?_alone (Nat.lt_succ_self _) hinner
          have hr : r.pattern = inner.pattern.anchored := by
            cases hbehind
            rfl
          rw [hr] at h
          split at h
          · rename_i hlimits
            cases h
            refine ⟨inner.pattern, ?_, rfl⟩
            have hdepth := inner.pattern.depth_anchored
            have hweight := inner.pattern.weight_anchored
            unfold Pattern.ofText?
            simp only [halone]
            rw [if_pos ⟨by omega, by omega⟩]
          · cases h
        · right
          exact ⟨inner, before, group?_alone (Nat.lt_succ_self _) hinner⟩
      · cases hbehind
  · cases h

/-! ## Rules -/

/-- The pattern of these rules can be read by itself unless a parenthesis closes nothing in it, and
then the rules accept what it matches from the first to the last character. -/
structure HoldWholeIds (source : String) (rules : IdRules) : Prop where
  readable : (∃ p, Pattern.ofText? source = some p) ↔ ¬ Unopened source
  whole : ∀ p, Pattern.ofText? source = some p → ∀ s, rules.accepts s = true ↔ p.Covers s

theorem IdRules.holdWholeIds {source : String} {maxLength : UInt64} {rules : IdRules}
    (h : IdRules.ofText source maxLength = .ok rules) : HoldWholeIds source rules := by
  unfold ofText at h
  split at h
  · rename_i pattern hpattern
    cases h
    rcases wholePattern?_cases hpattern with ⟨p, hp, rfl⟩ | hunopened
    · refine ⟨⟨fun _ hunopened => ?_, fun _ => ⟨p, hp⟩⟩, fun q hq s => ?_⟩
      · rw [Pattern.ofText?_of_unopened hunopened] at hp
        cases hp
      · rw [hp] at hq
        cases hq
        exact p.isIn_anchored s
    · have hnone := Pattern.ofText?_of_unopened hunopened
      refine ⟨⟨?_, fun hread => absurd hunopened hread⟩, ?_⟩
      · rintro ⟨p, hp⟩
        rw [hnone] at hp
        cases hp
      · intro p hp
        rw [hnone] at hp
        cases hp
  · cases h

/-- Rules that are set up, and rules of settings that pass their check, hold for whole ids unless a
parenthesis closes nothing in their pattern. -/
theorem rules_hold_whole_ids (source : String) (maxLength : UInt64) (s : JobSettings) :
    (∀ rules, IdRules.ofText source maxLength = .ok rules → HoldWholeIds source rules) ∧
    (s.check = .ok () →
      ∃ rules, IdRules.ofSettings s = .ok rules ∧ HoldWholeIds s.idPattern rules) := by
  refine ⟨fun _ h => IdRules.holdWholeIds h, fun h => ?_⟩
  obtain ⟨pattern, hchecked⟩ := JobSettings.checked_of_check h
  exact ⟨_, hchecked.ofSettings, IdRules.holdWholeIds hchecked.ofSettings⟩

/-- A pattern that closes the group around it is accepted, and with it ids that only begin as it
says. By itself it is no pattern. -/
theorem unopened_pattern_is_accepted :
    (∃ rules, IdRules.ofText "a)|(?:b" 1024 = .ok rules ∧ rules.accepts "ax" = true) ∧
      Pattern.ofText? "a)|(?:b" = none := by
  constructor
  · have hany : (wholePattern? "a)|(?:b").any (fun pattern => pattern.isIn "ax") = true := by
      decide +kernel
    obtain ⟨pattern, hpattern, haccepts⟩ := (Option.any_eq_true _ _).mp hany
    refine ⟨⟨"a)|(?:b", pattern, 1024⟩, ?_, haccepts⟩
    simp only [IdRules.ofText, hpattern]
  · have hnone : (Pattern.ofText? "a)|(?:b").isNone = true := by decide +kernel
    exact Option.isNone_iff_eq_none.mp hnone

end WarehouseJobs

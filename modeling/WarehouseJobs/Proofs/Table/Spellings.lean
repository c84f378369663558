-- The two spellings of the full name of a table. What is read from either one can be shown and read
-- again. Both keep points and colons out of the dataset and colons out of the table; but behind a
-- colon, every point after the first one goes into the table.
import WarehouseJobs.Proofs.Names

namespace WarehouseJobs.TableReference

open Text (splitFirst splitLast splitAll)

variable {s s' : String} {t t' : TableReference}

/-! ## The spellings -/

/-- Neither separator stands in the text. -/
def Plain (text : String) : Prop := '.' ∉ text.toList ∧ ':' ∉ text.toList

instance (text : String) : Decidable (Plain text) := inferInstanceAs (Decidable (_ ∧ _))

/-- How the three names are written with points alone. -/
def dotted (t : TableReference) : String := t.project ++ "." ++ t.dataset ++ "." ++ t.table

/-- Behind a colon it can be told where the dataset ends, and the colon is the last one. -/
structure Separable (t : TableReference) : Prop where
  dataset : Plain t.dataset
  table : ':' ∉ t.table.toList

/-- A text that spells the three names. -/
inductive Spells : String → TableReference → Prop
  | withColon {t : TableReference} : t.Separable → Spells t.shown t
  | withPoints {t : TableReference} : Plain t.project → Plain t.dataset → Plain t.table →
      Spells t.dotted t

theorem Spells.separable (h : Spells s t) : t.Separable := by
  cases h with
  | withColon hparts => exact hparts
  | withPoints _ hdataset htable => exact ⟨hdataset, htable.2⟩

theorem toList_shown (t : TableReference) :
    t.shown.toList = t.project.toList ++ ':' :: (t.dataset.toList ++ '.' :: t.table.toList) := by
  simp [shown]

theorem toList_dotted (t : TableReference) :
    t.dotted.toList = t.project.toList ++ '.' :: (t.dataset.toList ++ '.' :: t.table.toList) := by
  simp [dotted]

theorem colon_mem_shown (t : TableReference) : ':' ∈ t.shown.toList := by simp [toList_shown]

/-- A text with a colon is no spelling with points alone. -/
theorem Spells.eq_shown (h : Spells s t) (hs : ':' ∈ s.toList) : s = t.shown := by
  cases h with
  | withColon _ => rfl
  | withPoints hproject hdataset htable =>
    simp [toList_dotted, hproject.2, hdataset.2, htable.2] at hs

theorem Spells.eq_dotted (h : Spells s t) (hs : ':' ∉ s.toList) :
    s = t.dotted ∧ Plain t.project ∧ Plain t.dataset ∧ Plain t.table := by
  cases h with
  | withColon _ => exact absurd (colon_mem_shown t) hs
  | withPoints hproject hdataset htable => exact ⟨rfl, hproject, hdataset, htable⟩

/-! ## Reading -/

theorem ofParts_eq_ok (h : t.Proper) : ofParts t.project t.dataset t.table = .ok t :=
  ofParts_eq_ok_iff.mpr ⟨rfl, h.project, h.dataset, h.table⟩

/-- The last colon is the one behind the project. -/
theorem splitLast_shown (h : t.Separable) : splitLast ':' t.shown.toList =
    some (t.project.toList, t.dataset.toList ++ '.' :: t.table.toList) := by
  rw [toList_shown]
  apply Text.splitLast_append
  simp [h.dataset.2, h.table]

theorem splitAll_dotted (hproject : Plain t.project) (hdataset : Plain t.dataset)
    (htable : Plain t.table) : splitAll '.' t.dotted.toList =
      [t.project.toList, t.dataset.toList, t.table.toList] := by
  rw [toList_dotted, Text.splitAll_append _ hproject.1, Text.splitAll_append _ hdataset.1,
    Text.splitAll_of_not_mem htable.1]

theorem ofText_of_shown (hproper : t.Proper) (h : t.Separable) : ofText t.shown = .ok t := by
  have hfirst : splitFirst '.' (t.dataset.toList ++ '.' :: t.table.toList) =
      some (t.dataset.toList, t.table.toList) := Text.splitFirst_append _ h.dataset.1
  simp only [ofText, splitLast_shown h, hfirst, String.ofList_toList]
  exact ofParts_eq_ok hproper

theorem ofText_of_dotted (hproper : t.Proper) (hproject : Plain t.project)
    (hdataset : Plain t.dataset) (htable : Plain t.table) : ofText t.dotted = .ok t := by
  have hnone : splitLast ':' t.dotted.toList = none := by
    rw [Text.splitLast_eq_none_iff, toList_dotted]
    simp [hproject.2, hdataset.2, htable.2]
  simp only [ofText, hnone, splitAll_dotted hproject hdataset htable, String.ofList_toList]
  exact ofParts_eq_ok hproper

theorem spells_of_ofText (h : ofText s = .ok t) : Spells s t := by
  unfold ofText at h
  cases hlast : splitLast ':' s.toList with
  | some cut =>
    obtain ⟨project, rest⟩ := cut
    obtain ⟨hs, hrest⟩ := Text.splitLast_eq_some hlast
    rw [hlast] at h
    cases hfirst : splitFirst '.' rest with
    | none => simp [hfirst] at h
    | some cut =>
      obtain ⟨dataset, table⟩ := cut
      obtain ⟨rfl, hdataset⟩ := Text.splitFirst_eq_some hfirst
      simp only [hfirst] at h
      obtain ⟨rfl, -⟩ := ofParts_eq_ok_iff.mp h
      simp only [List.mem_append, List.mem_cons, not_or] at hrest
      have hshown : s = shown ⟨.ofList project, .ofList dataset, .ofList table⟩ := by
        rw [← String.toList_inj, toList_shown, hs]
        simp
      rw [hshown]
      exact .withColon ⟨by simp [Plain, hdataset, hrest.1], by simp [hrest.2.2]⟩
  | none =>
    have hcolon := Text.splitLast_eq_none_iff.mp hlast
    simp only [hlast] at h
    split at h
    · rename_i project dataset table hall
      obtain ⟨rest, hs, hproject, hall⟩ := Text.splitAll_eq_cons hall
      obtain ⟨last, rfl, hdataset, hall⟩ := Text.splitAll_eq_cons hall
      obtain ⟨rfl, htable⟩ := Text.splitAll_eq_singleton hall
      obtain ⟨rfl, -⟩ := ofParts_eq_ok_iff.mp h
      simp only [hs, List.mem_append, List.mem_cons, not_or] at hcolon
      have hdotted : s = dotted ⟨.ofList project, .ofList dataset, .ofList last⟩ := by
        rw [← String.toList_inj, toList_dotted, hs]
        simp
      rw [hdotted]
      exact .withPoints (by simp [Plain, hproject, hcolon.1])
        (by simp [Plain, hdataset, hcolon.2.2.1]) (by simp [Plain, htable, hcolon.2.2.2.2])
    · cases h

/-- What is read are the spellings of three names of which none is empty. -/
theorem ofText_eq_ok_iff : ofText s = .ok t ↔ t.Proper ∧ Spells s t := by
  constructor
  · intro h
    exact ⟨ofText_proper h, spells_of_ofText h⟩
  · rintro ⟨hproper, hspells⟩
    cases hspells with
    | withColon h => exact ofText_of_shown hproper h
    | withPoints hproject hdataset htable => exact ofText_of_dotted hproper hproject hdataset htable

/-- What is shown can be read exactly if the separators can be told from the names. -/
theorem ofText_shown_iff (hproper : t.Proper) : ofText t.shown = .ok t ↔ t.Separable :=
  ⟨fun h => (spells_of_ofText h).separable, ofText_of_shown hproper⟩

/-- The three names can be told from how they are written with points alone, if none of them holds
a separator: no other three names are written so. -/
theorem dotted_injective (hproject : Plain t.project) (hdataset : Plain t.dataset)
    (htable : Plain t.table) (h : t'.dotted = t.dotted) : t' = t := by
  have hparts : splitAll '.' t.dotted.toList =
      [t.project.toList, t.dataset.toList, t.table.toList] := splitAll_dotted hproject hdataset htable
  -- There are just the two points between the names, so none is left for the names of `t'`.
  have hlength := Text.length_splitAll '.' t.dotted.toList
  rw [hparts, ← h, toList_dotted] at hlength
  simp only [List.length_cons, List.length_nil, List.count_append, List.count_cons_self] at hlength
  have hproject' : '.' ∉ t'.project.toList := List.count_eq_zero.mp (by omega)
  have hdataset' : '.' ∉ t'.dataset.toList := List.count_eq_zero.mp (by omega)
  have htable' : '.' ∉ t'.table.toList := List.count_eq_zero.mp (by omega)
  rw [← h, toList_dotted, Text.splitAll_append _ hproject', Text.splitAll_append _ hdataset',
    Text.splitAll_of_not_mem htable'] at hparts
  simp only [List.cons.injEq, and_true, String.toList_inj] at hparts
  obtain ⟨p', d', n'⟩ := t'
  obtain ⟨rfl, rfl, rfl⟩ := hparts
  rfl

/-- Where a text has a point behind its first part, a colon in its place is read as the same exactly
if the text itself has no colon. -/
theorem ofText_colon_iff {p d n : String} (h : ofText (p ++ "." ++ d ++ "." ++ n) = .ok t) :
    ofText (p ++ ":" ++ d ++ "." ++ n) = .ok t ↔ ':' ∉ (p ++ "." ++ d ++ "." ++ n).toList := by
  obtain ⟨hproper, hspells⟩ := ofText_eq_ok_iff.mp h
  constructor
  · intro hread hmem
    -- Both texts would be how the result is shown, but they differ behind `p`.
    have hcolon : ':' ∈ (p ++ ":" ++ d ++ "." ++ n).toList := by simp
    have hsame : p ++ "." ++ d ++ "." ++ n = p ++ ":" ++ d ++ "." ++ n :=
      (hspells.eq_shown hmem).trans ((spells_of_ofText hread).eq_shown hcolon).symm
    simp [← String.toList_inj] at hsame
  · intro hnone
    obtain ⟨hdotted, hproject, hdataset, htable⟩ := hspells.eq_dotted hnone
    have hparts : (⟨p, d, n⟩ : TableReference) = t :=
      dotted_injective hproject hdataset htable hdotted
    have hshown : p ++ ":" ++ d ++ "." ++ n = t.shown := by rw [← hparts, shown]
    rw [hshown]
    exact ofText_of_shown hproper ⟨hdataset, htable.2⟩

/-! ## One part more -/

theorem shown_append (t : TableReference) (more : String) :
    t.shown ++ "." ++ more = shown { t with table := t.table ++ "." ++ more } := by
  simp only [shown, String.append_assoc]

/-- Behind a colon, one part more goes into the table. -/
theorem ofText_append_of_colon (h : ofText s = .ok t) (hs : ':' ∈ s.toList) {more : String}
    (hmore : ':' ∉ more.toList) :
    ofText (s ++ "." ++ more) = .ok { t with table := t.table ++ "." ++ more } := by
  obtain ⟨hproper, hspells⟩ := ofText_eq_ok_iff.mp h
  rw [hspells.eq_shown hs, shown_append]
  apply ofText_of_shown
  · exact ⟨hproper.project, hproper.dataset, by simp⟩
  · exact ⟨hspells.separable.dataset, by simp [hspells.separable.table, hmore]⟩

/-- With points alone, one part more is too many. -/
theorem ofText_append_of_points (h : ofText s = .ok t) (hs : ':' ∉ s.toList) {more : String}
    (hmore : ':' ∉ more.toList) :
    ofText (s ++ "." ++ more) = .error (.notThreeParts (s ++ "." ++ more)) := by
  obtain ⟨hdotted, hproject, hdataset, htable⟩ := (spells_of_ofText h).eq_dotted hs
  have hnone : splitLast ':' (s ++ "." ++ more).toList = none := by
    rw [Text.splitLast_eq_none_iff]
    simp [hs, hmore]
  have hlength : 3 < (splitAll '.' (s ++ "." ++ more).toList).length := by
    rw [Text.length_splitAll, hdotted]
    simp only [String.toList_append, toList_dotted, List.count_append, List.count_cons_self]
    simp only [String.reduceToList, List.count_singleton_self]
    omega
  unfold ofText
  simp only [hnone]
  split
  · rename_i hparts
    rw [hparts] at hlength
    simp at hlength
  · rfl

/-! ## Both spellings -/

/-- Whatever text is read as a table, how the table is shown is read as the same table, so two tables
that are shown alike are one. With points alone a text is read as with a colon behind the project:
of the texts with a point there that are read, this holds for those without a colon, and for no
other. And three names that may name a table are read again from how they are shown exactly if there
is no separator in the dataset and no colon in the table. -/
theorem shown_tables_are_read_again :
    (∀ s t, ofText s = .ok t → ofText t.shown = .ok t) ∧
    (∀ s s' t t', ofText s = .ok t → ofText s' = .ok t' → t.shown = t'.shown → t = t') ∧
    (∀ p d n t, ofText (p ++ "." ++ d ++ "." ++ n) = .ok t →
      (ofText (p ++ ":" ++ d ++ "." ++ n) = .ok t ↔
        ':' ∉ (p ++ "." ++ d ++ "." ++ n).toList)) ∧
    ∀ p d n t, ofParts p d n = .ok t →
      (ofText t.shown = .ok t ↔ ('.' ∉ d.toList ∧ ':' ∉ d.toList) ∧ ':' ∉ n.toList) := by
  have hagain : ∀ s t, ofText s = .ok t → ofText t.shown = .ok t := by
    intro s t h
    obtain ⟨hproper, hspells⟩ := ofText_eq_ok_iff.mp h
    exact ofText_of_shown hproper hspells.separable
  refine ⟨hagain, ?_, ?_, ?_⟩
  · intro s s' t t' h h' hsame
    have hread := hagain s t h
    rw [hsame, hagain s' t' h'] at hread
    exact (Except.ok.inj hread).symm
  · intro p d n t h
    exact ofText_colon_iff h
  · intro p d n t h
    obtain ⟨rfl, hp, hd, hn⟩ := ofParts_eq_ok_iff.mp h
    rw [ofText_shown_iff ⟨hp, hd, hn⟩]
    constructor
    · intro hseparable
      exact ⟨hseparable.dataset, hseparable.table⟩
    · rintro ⟨hdataset, htable⟩
      exact ⟨hdataset, htable⟩

/-- A project with a domain in front is shown with both of its colons. -/
example : ofText "example.com:web:sales.orders" = .ok ⟨"example.com:web", "sales", "orders"⟩ ∧
    ofText "web.sales.orders" = ofText "web:sales.orders" := by decide +kernel

/-- There is no separator in the dataset of a table that was read, and no colon in its name. Read
from points alone, there is none in the three names at all; but what stands behind a colon may have
any number of points, and all but the first one go into the table. So one part more is refused with
points alone, and taken into the table behind a colon. -/
theorem points_go_into_table_behind_colon {s : String} {t : TableReference}
    (h : ofText s = .ok t) :
    (Plain t.dataset ∧ ':' ∉ t.table.toList) ∧
    (':' ∉ s.toList → Plain t.project ∧ Plain t.table) ∧
    (∀ before behind, s = before ++ ":" ++ behind → ':' ∉ behind.toList →
      behind.toList.count '.' = t.table.toList.count '.' + 1) ∧
    ∀ more : String, ':' ∉ more.toList → ofText (s ++ "." ++ more) =
      if ':' ∈ s.toList then .ok { t with table := t.table ++ "." ++ more }
      else .error (.notThreeParts (s ++ "." ++ more)) := by
  have hspells := spells_of_ofText h
  refine ⟨⟨hspells.separable.dataset, hspells.separable.table⟩, ?_, ?_, ?_⟩
  · intro hs
    obtain ⟨-, hproject, -, htable⟩ := hspells.eq_dotted hs
    exact ⟨hproject, htable⟩
  · intro before behind hsplit hbehind
    have hshown : before ++ ":" ++ behind = t.shown := by
      rw [← hsplit]
      apply hspells.eq_shown
      simp [hsplit]
    have hcut := congrArg (splitLast ':') (String.toList_inj.mpr hshown)
    have hbefore : (before ++ ":" ++ behind).toList = before.toList ++ ':' :: behind.toList := by
      simp
    rw [splitLast_shown hspells.separable, hbefore, Text.splitLast_append _ hbehind] at hcut
    obtain ⟨-, hrest⟩ := Prod.mk.inj (Option.some.inj hcut)
    rw [hrest, List.count_append, List.count_eq_zero.mpr hspells.separable.dataset.1,
      List.count_cons_self, Nat.zero_add]
  · intro more hmore
    split
    · rename_i hs
      exact ofText_append_of_colon h hs hmore
    · rename_i hs
      exact ofText_append_of_points h hs hmore

/-- One part more than the name of a table has. -/
theorem part_more_goes_into_orders :
    ofText "proj1:sales.orders" = .ok ⟨"proj1", "sales", "orders"⟩ ∧
      ofText ("proj1:sales.orders" ++ "." ++ "extra") =
        .ok ⟨"proj1", "sales", "orders" ++ "." ++ "extra"⟩ := by
  have hread : ofText "proj1:sales.orders" = .ok ⟨"proj1", "sales", "orders"⟩ := by
    decide +kernel
  have hcolon : ':' ∈ "proj1:sales.orders".toList := by decide +kernel
  have hmore := (points_go_into_table_behind_colon hread).2.2.2 "extra" (by decide +kernel)
  rw [if_pos hcolon] at hmore
  exact ⟨hread, hmore⟩

/-- A name of four parts is read as a table with a point in its name, but not with points alone. -/
theorem fourth_part_is_read_into_table :
    ofText "proj1:sales.orders.extra" = .ok ⟨"proj1", "sales", "orders.extra"⟩ ∧
      ofText "proj1.sales.orders.extra" = .error (.notThreeParts "proj1.sales.orders.extra") ∧
      ¬ ∀ s t, ofText s = .ok t → Plain t.dataset ∧ Plain t.table := by
  have hread : ofText "proj1:sales.orders.extra" = .ok ⟨"proj1", "sales", "orders.extra"⟩ := by
    decide +kernel
  refine ⟨hread, by decide +kernel, ?_⟩
  intro hclaim
  have hplain := (hclaim _ _ hread).2
  revert hplain
  decide +kernel

end WarehouseJobs.TableReference

-- Ids under settings that passed their check. The check tries one sample of an id, so all that
-- an id can still fail at is what the sample does not show: that the prefix is empty, or that
-- the pattern tells the digits of the random part apart.
import WarehouseJobs.Export.Run
import WarehouseJobs.Proofs.Regex.Likeness
import WarehouseJobs.Proofs.Submission.Courses
import WarehouseJobs.Settings.Checks

namespace WarehouseJobs

open Program

/-! ## Digits of random parts -/

namespace Uuid

/-- All digits of random parts count as alike. -/
def digitsAlike : Regex.Likeness where
  chars := (List.finRange 16).map digitChar
  lineFeed := by decide
  carriageReturn := by decide

theorem digitChar_mem (d : Fin 16) : digitChar d ∈ digitsAlike.chars :=
  List.mem_map_of_mem (List.mem_finRange d)

theorem alike_refl (cs : List Char) : List.Forall₂ digitsAlike.Like cs cs :=
  List.forall₂_same.mpr fun c _ => digitsAlike.like_refl c

theorem digits_alike {ds es : List (Fin 16)} (h : ds.length = es.length) :
    List.Forall₂ digitsAlike.Like (ds.map digitChar) (es.map digitChar) := by
  induction ds generalizing es with
  | nil =>
    rw [List.eq_nil_of_length_eq_zero h.symm]
    exact .nil
  | cons d ds ih =>
    cases es with
    | nil => cases h
    | cons e es =>
      exact .cons (.inr ⟨digitChar_mem d, digitChar_mem e⟩) (ih (Nat.succ.inj h))

theorem alike_append {as bs cs ds : List Char} (h : List.Forall₂ digitsAlike.Like as bs)
    (h' : List.Forall₂ digitsAlike.Like cs ds) :
    List.Forall₂ digitsAlike.Like (as ++ cs) (bs ++ ds) := List.rel_append h h'

/-- Any two random parts are alike. -/
theorem hyphenated_alike (u v : Uuid) :
    List.Forall₂ digitsAlike.Like u.hyphenated v.hyphenated := by
  have hdigits := digits_alike (u.size.trans v.size.symm)
  have hdrop := fun n => List.forall₂_drop n hdigits
  have hhyphen := digitsAlike.like_refl '-'
  unfold hyphenated
  refine alike_append ?_ (.cons hhyphen (hdrop 20))
  refine alike_append ?_ (.cons hhyphen (List.forall₂_take 4 (hdrop 16)))
  refine alike_append ?_ (.cons hhyphen (List.forall₂_take 4 (hdrop 12)))
  refine alike_append (List.forall₂_take 8 hdigits) ?_
  exact .cons hhyphen (List.forall₂_take 4 (hdrop 8))

/-- The random part of zeros only. -/
def zero : Uuid where
  digits := List.replicate 32 ⟨0, Nat.succ_pos 15⟩
  size := List.length_replicate

end Uuid

/-! ## Ids with random parts -/

theorem newId_length (idPrefix : String) (u : Uuid) :
    (newId idPrefix u).length = idPrefix.length + suffixLength := by
  have hshown : u.shown.length = 36 := by
    unfold Uuid.shown
    rw [String.length_ofList, u.hyphenated_length]
  have hhyphen : "-".length = 1 := by decide
  unfold newId suffixLength
  rw [String.length_append, String.length_append, hshown, hhyphen]

theorem newId_ne_empty (idPrefix : String) (u : Uuid) : (newId idPrefix u).isEmpty = false := by
  cases hempty : (newId idPrefix u).isEmpty with
  | false => rfl
  | true =>
    have hlength := newId_length idPrefix u
    rw [String.isEmpty_iff.mp hempty] at hlength
    unfold suffixLength at hlength
    simp at hlength

/-- The sample that the check tries is the id with the random part of zeros. -/
theorem sample_eq (idPrefix : String) : idPrefix ++ sampleSuffix = newId idPrefix .zero := by
  have hsuffix : sampleSuffix = "-" ++ Uuid.zero.shown := by decide +kernel
  rw [hsuffix, newId, String.append_assoc]

theorem newId_alike (idPrefix : String) (u v : Uuid) :
    List.Forall₂ Uuid.digitsAlike.Like (newId idPrefix u).toList (newId idPrefix v).toList := by
  unfold newId Uuid.shown
  simp only [String.toList_append, String.toList_ofList]
  exact Uuid.alike_append (Uuid.alike_refl _) (Uuid.hyphenated_alike u v)

/-! ## Settings that passed -/

/-- Settings that pass as a whole have job settings that pass. -/
theorem Settings.jobs_check {s : Settings} (h : s.check = .ok ()) : s.jobs.check = .ok () :=
  (check_eq_ok_iff.mp h).2.2.1

/-- What the check of job settings has seen to, where `pattern` is the pattern of ids. -/
structure JobSettings.Checked (s : JobSettings) (pattern : Regex.Pattern) : Prop where
  read : wholePattern? s.idPattern = some pattern
  prefixFits : pattern.isIn s.exportPrefix = true
  sampleFits : pattern.isIn (s.exportPrefix ++ sampleSuffix) = true
  room : s.exportPrefix.length + suffixLength ≤ s.idMaxLength.toNat

theorem JobSettings.checked_of_check {s : JobSettings} (h : s.check = .ok ()) :
    ∃ pattern, s.Checked pattern := by
  unfold check at h
  cases hread : wholePattern? s.idPattern with
  | none => rw [hread] at h; cases h
  | some pattern =>
    rw [hread] at h
    simp only at h
    split at h
    · cases h
    · split at h
      · cases h
      · split at h
        · cases h
        · split at h
          · cases h
          · rename_i hlead hsample hroom
            exact ⟨pattern, hread, by simpa using hlead, by simpa using hsample,
              Nat.le_of_not_lt hroom⟩

variable {s : JobSettings} {pattern : Regex.Pattern}

/-- The rules that ids have under these settings. -/
def JobSettings.rules (s : JobSettings) (pattern : Regex.Pattern) : IdRules :=
  ⟨s.idPattern, pattern, s.idMaxLength⟩

theorem JobSettings.Checked.ofSettings (h : s.Checked pattern) :
    IdRules.ofSettings s = .ok (s.rules pattern) := by
  unfold IdRules.ofSettings IdRules.ofText
  rw [h.read]
  rfl

/-- What is left to fail at: an empty prefix, and an id that does not follow the pattern. -/
theorem JobSettings.Checked.generate (h : s.Checked pattern) {project : String}
    (hproject : Text.isBlank project = false) (u : Uuid) :
    (s.rules pattern).generate project s.exportPrefix u =
      if s.exportPrefix.isEmpty then .error (.argument .emptyIdPrefix)
      else if pattern.isIn (newId s.exportPrefix u) then
        .ok { project := ⟨project⟩, id := ⟨newId s.exportPrefix u⟩ }
      else .error (.argument (.idMismatch (newId s.exportPrefix u) s.idPattern)) := by
  have hroom : ¬ s.idMaxLength.toNat < (newId s.exportPrefix u).length := by
    rw [newId_length]
    exact Nat.not_lt.mpr h.room
  simp only [IdRules.generate, IdRules.checkPrefix, ProjectId.ofText, hproject, IdRules.accepts,
    rules, h.prefixFits]
  by_cases hempty : s.exportPrefix.isEmpty = true
  · simp [hempty]
  · by_cases hfits : pattern.isIn (newId s.exportPrefix u) = true <;> simp [hempty, hroom, hfits]

/-- If the pattern does not tell digits apart, it takes every id, as it took the sample. -/
theorem JobSettings.Checked.newId_fits (h : s.Checked pattern)
    (hblind : pattern.ignores Uuid.digitsAlike = true) (u : Uuid) :
    pattern.isIn (newId s.exportPrefix u) = true := by
  rw [Regex.isIn_eq hblind (newId_alike s.exportPrefix u .zero), ← sample_eq]
  exact h.sampleFits

/-- The default pattern does not tell digits apart, and takes no empty prefix. -/
theorem default_pattern_ignores_digits : ∃ pattern, wholePattern? defaultIdPattern = some pattern ∧
    pattern.ignores Uuid.digitsAlike = true ∧ pattern.isIn "" = false := by
  have hall : (wholePattern? defaultIdPattern).any (fun pattern =>
      pattern.ignores Uuid.digitsAlike && !pattern.isIn "") = true := by decide +kernel
  obtain ⟨pattern, hread, hboth⟩ := (Option.any_eq_true _ _).mp hall
  rw [Bool.and_eq_true, Bool.not_eq_true'] at hboth
  exact ⟨pattern, hread, hboth⟩

/-! ## Exports -/

/-- What is left open by the check: whether the prefix has a character, and whether the
pattern takes the id with this random part. -/
def Exporter.Issues (e : Exporter) (u : Uuid) : Prop :=
  e.idPrefix.isEmpty = false ∧ e.rules.accepts (newId e.idPrefix u) = true

/-- An exporter whose ids follow job settings that passed. -/
structure Exporter.Follows (e : Exporter) (s : JobSettings) (pattern : Regex.Pattern) : Prop where
  checked : s.Checked pattern
  rules : e.rules = s.rules pattern
  idPrefix : e.idPrefix = s.exportPrefix

section

variable {e : Exporter} {project : ProjectId} {u : Uuid}

theorem Exporter.Follows.issues_iff (h : e.Follows s pattern) :
    e.Issues u ↔
      s.exportPrefix.isEmpty = false ∧ pattern.isIn (newId s.exportPrefix u) = true := by
  unfold Issues IdRules.accepts
  rw [h.rules, h.idPrefix]
  exact Iff.rfl

theorem Exporter.Follows.generates (h : e.Follows s pattern)
    (hproject : Text.isBlank project.text = false) (hissues : e.Issues u) :
    e.rules.generate project.text e.idPrefix u =
      .ok { project, id := ⟨newId e.idPrefix u⟩ } := by
  obtain ⟨hlead, hid⟩ := h.issues_iff.mp hissues
  rw [h.rules, h.idPrefix, h.checked.generate hproject, if_neg (by simp [hlead]), if_pos hid]

theorem Exporter.Follows.refuses (h : e.Follows s pattern)
    (hproject : Text.isBlank project.text = false) (hissues : ¬ e.Issues u) :
    ∃ fault, e.rules.generate project.text e.idPrefix u = .error (.argument fault) := by
  rw [h.rules, h.idPrefix, h.checked.generate hproject]
  by_cases hlead : s.exportPrefix.isEmpty = true
  · exact ⟨_, if_pos hlead⟩
  · rw [if_neg hlead]
    refine ⟨_, if_neg fun hid => hissues (h.issues_iff.mpr ⟨?_, hid⟩)⟩
    rwa [Bool.not_eq_true] at hlead

end

section

variable (e : Exporter) (rounds : Nat) (project : ProjectId) (source : TableReference)
  {destinations : List Destination} (wait : Bool) (onTick : Nat → Work Unit) {u : Uuid}

/-- An export that gets its id asks for a job under it next. -/
theorem Exporter.run_creates (hd : destinations ≠ []) {reference : JobReference}
    (hgen : e.rules.generate project.text e.idPrefix u = .ok reference)
    (hid : reference.id.text.isEmpty = false) (started : Nanos) :
    (e.run rounds project source destinations wait onTick).AsksAfter
      [⟨.locally .draw, u⟩, ⟨.locally .now, started⟩]
      (.create project (e.description reference source destinations)) := by
  have hjob : (e.description reference source destinations).reference.id = reference.id := by
    unfold description
    cases e.location <;> rfl
  unfold run
  rw [if_neg (by simpa using hd)]
  refine Work.asksAfter_draw ?_
  rw [hgen]
  refine Work.asksAfter_now (AsksAfter.bind ?_)
  unfold Submission.submit
  rw [Submission.submitClassified_eq (by rwa [hjob])]
  exact asksAfter_ask

/-- An export that gets no id ends with the fault. -/
theorem Exporter.run_refused (hd : destinations ≠ []) {fault : Fault}
    (hgen : e.rules.generate project.text e.idPrefix u = .error fault) :
    (e.run rounds project source destinations wait onTick).Ends [⟨.locally .draw, u⟩]
      (.error fault) := by
  unfold run
  rw [if_neg (by simpa using hd)]
  rw [Work.ends_draw_iff]
  refine ⟨u, [], rfl, ?_⟩
  rw [hgen]
  exact ends_done_iff.mpr ⟨rfl, rfl⟩

end

/-- Settings that pass make an exporter that follows them. -/
theorem Exporter.follows_of_check {s : Settings} (h : s.jobs.check = .ok ()) :
    ∃ e pattern, Exporter.ofSettings s = .ok e ∧ e.Follows s.jobs pattern := by
  obtain ⟨pattern, hchecked⟩ := JobSettings.checked_of_check h
  unfold ofSettings
  rw [hchecked.ofSettings]
  exact ⟨_, pattern, rfl, hchecked, rfl, rfl⟩

/-- Settings that pass their check always make an exporter, and each of its exports gets its id
and asks for the job if two things hold that the check leaves open: the prefix has a
character, and the pattern takes the id with the random part drawn. If not, the export fails
before it asks the service for anything. Both hold for every random part if the pattern does
not tell digits apart and the prefix is not empty, as with the default pattern. -/
theorem checked_settings_issue_ids_iff (s : Settings) :
    (s.check = .ok () → s.jobs.check = .ok ()) ∧
    (s.jobs.check = .ok () → ∃ e, Exporter.ofSettings s = .ok e ∧
      (∀ (project : ProjectId) (u : Uuid), Text.isBlank project.text = false →
        ((∃ reference, e.rules.generate project.text e.idPrefix u = .ok reference) ↔
          e.Issues u) ∧
        ∀ (rounds : Nat) (source : TableReference) (destinations : List Destination)
          (wait : Bool) (onTick : Nat → Work Unit), destinations ≠ [] →
          (e.Issues u → ∀ started : Nanos,
            (e.run rounds project source destinations wait onTick).AsksAfter
              [⟨.locally .draw, u⟩, ⟨.locally .now, started⟩]
              (.create project (e.description { project, id := ⟨newId e.idPrefix u⟩ } source
                destinations))) ∧
          (¬ e.Issues u → ∃ fault,
            (e.run rounds project source destinations wait onTick).Ends
              [⟨.locally .draw, u⟩] (.error (.argument fault)))) ∧
      (e.rules.pattern.ignores Uuid.digitsAlike = true → e.idPrefix ≠ "" → ∀ u, e.Issues u) ∧
      (s.jobs.idPattern = defaultIdPattern → ∀ u, e.Issues u)) := by
  refine ⟨Settings.jobs_check, fun hcheck => ?_⟩
  obtain ⟨e, pattern, he, hfollows⟩ := Exporter.follows_of_check hcheck
  have hblind : pattern.ignores Uuid.digitsAlike = true → e.idPrefix ≠ "" → ∀ u, e.Issues u := by
    intro hignores hlead u
    refine hfollows.issues_iff.mpr ⟨?_, hfollows.checked.newId_fits hignores u⟩
    rw [← hfollows.idPrefix]
    exact eq_false_of_ne_true fun hempty => hlead (String.isEmpty_iff.mp hempty)
  refine ⟨e, he, fun project u hproject => ⟨⟨?_, ?_⟩, ?_⟩, ?_, ?_⟩
  · rintro ⟨reference, hreference⟩
    refine Classical.byContradiction fun hissues => ?_
    obtain ⟨fault, hfault⟩ := hfollows.refuses hproject hissues
    rw [hreference] at hfault
    cases hfault
  · intro hissues
    exact ⟨_, hfollows.generates hproject hissues⟩
  · intro rounds source destinations wait onTick hd
    refine ⟨fun hissues => ?_, fun hissues => ?_⟩
    · exact e.run_creates rounds project source wait onTick hd
        (hfollows.generates hproject hissues) (newId_ne_empty _ _)
    · obtain ⟨fault, hfault⟩ := hfollows.refuses hproject hissues
      exact ⟨fault, e.run_refused rounds project source wait onTick hd hfault⟩
  · rw [hfollows.rules]
    exact hblind
  · intro hdefault
    obtain ⟨pattern', hread, hignores, hempty⟩ := default_pattern_ignores_digits
    have hsame : pattern' = pattern := by
      have hread' := hfollows.checked.read
      rw [hdefault, hread] at hread'
      exact Option.some.inj hread'
    subst hsame
    refine hblind hignores fun hlead => ?_
    have hfits := hfollows.checked.prefixFits
    rw [← hfollows.idPrefix, hlead, hempty] at hfits
    cases hfits

/-- Job settings with a pattern that takes the zeros of the sample and no other digit. -/
def zerosOnly : JobSettings := { idPattern := "[0a-]+", exportPrefix := "a" }

theorem Settings.check_with_jobs {s : Settings} {jobs : JobSettings} (h : s.check = .ok ())
    (hjobs : jobs.check = .ok ()) : { s with jobs }.check = .ok () := by
  obtain ⟨happlication, hservice, -, hrest⟩ := check_eq_ok_iff.mp h
  exact check_eq_ok_iff.mpr ⟨happlication, hservice, hjobs, hrest⟩

/-- Settings with this pattern pass, but ids with other digits than zeros are refused. -/
theorem zeros_only_pass_and_refuse_ids :
    zerosOnly.check = .ok () ∧
    (∀ s : Settings, s.check = .ok () → { s with jobs := zerosOnly }.check = .ok ()) ∧
    ∃ rules, IdRules.ofSettings zerosOnly = .ok rules ∧
      rules.generate "demo" zerosOnly.exportPrefix (.ofRandom fun _ => 0) =
        .error (.argument (.idMismatch "a-00000000-0000-4000-8000-000000000000" "[0a-]+")) := by
  have hpass : zerosOnly.check = .ok () := by
    have hok : zerosOnly.check.isOk = true := by decide +kernel
    cases hcheck : zerosOnly.check with
    | ok => rfl
    | error fault =>
      rw [hcheck] at hok
      cases hok
  obtain ⟨pattern, hchecked⟩ := JobSettings.checked_of_check hpass
  have hany : (wholePattern? zerosOnly.idPattern).any (fun pattern =>
      !pattern.isIn (newId zerosOnly.exportPrefix (.ofRandom fun _ => 0))) = true := by
    decide +kernel
  rw [hchecked.read, Option.any_some, Bool.not_eq_true'] at hany
  have hshown : newId zerosOnly.exportPrefix (.ofRandom fun _ => 0) =
      "a-00000000-0000-4000-8000-000000000000" := by decide +kernel
  refine ⟨hpass, fun s h => Settings.check_with_jobs h hpass, _, hchecked.ofSettings, ?_⟩
  rw [hchecked.generate (by decide), if_neg (by decide), if_neg (by simp [hany]), hshown]
  rfl

end WarehouseJobs

-- How many busy looks in a row a wait puts up with. The count and its limit are of the same size,
-- and the count is raised before it is compared. So the limit holds as long as there is a number
-- above it; at the largest limit the count starts anew from zero, and the wait never gives up.
import WarehouseJobs.Proofs.Waiting.FirstDecisive
import WarehouseJobs.Settings.Checks

namespace WarehouseJobs.Waiting

variable {limit errors : UInt32} {reference : JobReference}
  {looks : Nat → Except RemoteFault JobHandle} {n k : Nat}

/-! ## A limit with a number above it -/

/-- A wait that has come to a look has counted right, and nothing has decided it. -/
theorem counted_right (hlimit : limit.toNat + 1 < UInt32.size)
    (h : counted? limit reference looks k = some errors) :
    Counted limit looks k errors ∧ ∀ j < k, ¬ Decisive limit.toNat reference looks j := by
  induction k generalizing errors with
  | zero =>
    obtain rfl := Option.some.inj h
    exact ⟨counted_zero, fun j hj => absurd hj (Nat.not_lt_zero j)⟩
  | succ k ih =>
    obtain ⟨before, hbefore, hjudge⟩ := counted?_succ_iff.mp h
    obtain ⟨hcounted, hopen⟩ := ih hbefore
    have hlast : ¬ Decisive limit.toNat reference looks k := by
      rintro ⟨result, hdecides⟩
      rw [judge_of_decides hlimit hcounted hdecides] at hjudge
      cases hjudge
    obtain ⟨after, hjudge', hcounted'⟩ := judge_of_undecided hlimit hcounted hlast
    rw [hjudge] at hjudge'
    cases hjudge'
    refine ⟨hcounted', fun j hj => ?_⟩
    rcases Nat.lt_succ_iff_lt_or_eq.mp hj with hlt | rfl
    · exact hopen j hlt
    · exact hlast

/-- From the look after a break on, the busy looks in a row are all the busy looks. -/
theorem busyBefore_of_busy (hbreak : busyBefore looks n = 0)
    (hbusy : ∀ i < k, Busy (looks (n + i))) : busyBefore looks (n + k) = k := by
  induction k with
  | zero => exact hbreak
  | succ k ih =>
    rw [← Nat.add_assoc, busyBefore, if_pos (hbusy k (by omega)),
      ih fun i hi => hbusy i (by omega)]

/-- A busy look decides nothing unless it is one too many. -/
theorem not_decisive_of_few (hbusy : Busy (looks k)) (hfew : busyBefore looks k < limit.toNat) :
    ¬ Decisive limit.toNat reference looks k := by
  have hcount : busyBefore looks (k + 1) = busyBefore looks k + 1 := by
    rw [busyBefore, if_pos hbusy]
  obtain ⟨cause, hlook, hc⟩ := hbusy
  rintro ⟨result, hdecides⟩
  cases hdecides with
  | ended h => rw [hlook] at h; cases h
  | foreign h => rw [hlook] at h; cases h
  | failed h hne =>
    rw [hlook] at h
    cases h
    exact hne hc
  | wornOut _ hle hall =>
    have := lt_busyBefore_iff.mpr ⟨hle, hall⟩
    omega

/-! ## The largest limit -/

/-- No busy look is one too many, and the one after the largest count makes it zero. -/
theorem judge_of_busy (hlimit : limit.toNat + 1 = UInt32.size) (errors : UInt32)
    (hbusy : Busy (looks k)) :
    judge limit errors (looked .polling reference (looks k)) = .again (errors + 1) := by
  obtain ⟨cause, hlook, hc⟩ := hbusy
  have hstay : ¬ limit < errors + 1 := by
    rw [UInt32.lt_iff_toNat_lt]
    have := (errors + 1).toNat_lt_size
    omega
  simp [hlook, looked, judge, transientCause?, RemoteFault.during, hc, hstay]

theorem counted_of_busy (hlimit : limit.toNat + 1 = UInt32.size)
    (hcounted : counted? limit reference looks n = some errors)
    (hbusy : ∀ i < k, Busy (looks (n + i))) :
    counted? limit reference looks (n + k) = some (errors + UInt32.ofNat k) := by
  induction k with
  | zero => simpa using hcounted
  | succ k ih =>
    have hbefore := ih fun i hi => hbusy i (by omega)
    have hjudge : judge limit (errors + UInt32.ofNat k) (looked .polling reference
        (looks (n + k))) = .again (errors + UInt32.ofNat k + 1) :=
      judge_of_busy hlimit _ (hbusy k (Nat.lt_succ_self k))
    rw [UInt32.add_assoc] at hjudge
    rw [UInt32.ofNat_add]
    exact counted?_succ_iff.mpr ⟨_, hbefore, hjudge⟩

/-- A wait that has come to a look has come to all the looks before. -/
theorem counted_ne_none_of_add (j : Nat)
    (h : counted? limit reference looks (k + j) ≠ none) :
    counted? limit reference looks k ≠ none := by
  induction j with
  | zero => exact h
  | succ j ih =>
    obtain ⟨after, hafter⟩ := Option.ne_none_iff_exists'.mp h
    obtain ⟨before, hbefore, -⟩ := counted?_succ_iff.mp hafter
    exact ih (Option.ne_none_iff_exists'.mpr ⟨before, hbefore⟩)

/-- A wait whose looks are all busy from some look on never ends. -/
theorem run_of_busy {c : Calm} {polling : PollingSettings} {handle : JobHandle}
    (hlimit : polling.maxTransientErrors.toNat + 1 = UInt32.size) (project : ProjectId)
    (hcounted : counted? polling.maxTransientErrors handle.reference c.looks n = some errors)
    (hbusy : ∀ i, Busy (c.looks (n + i))) (rounds : Nat) :
    (c.run polling project handle rounds).1 = none := by
  refine (run_unending project fun k => counted_ne_none_of_add n ?_).1 rounds
  rw [Nat.add_comm, counted_of_busy hlimit hcounted fun i _ => hbusy i]
  exact Option.some_ne_none _

/-! ## The budget -/

/-- What a budget of transient errors is for: there is always room for one more in the count,
and the wait gives up at the first busy look in a row that it no longer puts up with. -/
structure KeepsBudget (polling : PollingSettings) (project : ProjectId) (handle : JobHandle)
    (c : Calm) : Prop where
  fits : ∀ k errors,
    counted? polling.maxTransientErrors handle.reference c.looks k = some errors →
    Busy (c.looks k) → errors.toNat + 1 < UInt32.size
  givesUp : ∀ n cause,
    counted? polling.maxTransientErrors handle.reference c.looks n ≠ none →
    busyBefore c.looks n = 0 →
    (∀ i ≤ polling.maxTransientErrors.toNat, Busy (c.looks (n + i))) →
    c.looks (n + polling.maxTransientErrors.toNat) = .error cause →
    ∃ enough, ∀ rounds ≥ enough, c.run polling project handle rounds =
      (some (.error (.remote ⟨.fatal, .polling, cause⟩)),
        .after (n + polling.maxTransientErrors.toNat))

theorem keepsBudget_of_lt {polling : PollingSettings}
    (hlimit : polling.maxTransientErrors.toNat + 1 < UInt32.size) (project : ProjectId)
    (handle : JobHandle) (c : Calm) : KeepsBudget polling project handle c where
  fits k errors hcounted _ := by
    have hwithin := (counted_right hlimit hcounted).1.within
    omega
  givesUp n cause hreached hbreak hbusy hcause := by
    obtain ⟨errors, hcounted⟩ := Option.ne_none_iff_exists'.mp hreached
    have hopen : ∀ j < n + polling.maxTransientErrors.toNat,
        ¬ Decisive polling.maxTransientErrors.toNat handle.reference c.looks j := by
      intro j hj
      by_cases hbefore : j < n
      · exact (counted_right hlimit hcounted).2 j hbefore
      · obtain ⟨i, rfl⟩ := Nat.exists_eq_add_of_le (Nat.le_of_not_lt hbefore)
        refine not_decisive_of_few (hbusy i (by omega)) ?_
        rw [busyBefore_of_busy hbreak fun i' hi' => hbusy i' (by omega)]
        omega
    obtain ⟨last, hlast, hright⟩ := exists_counted hlimit hopen
    have hdecides : Decides polling.maxTransientErrors.toNat handle.reference c.looks
        (n + polling.maxTransientErrors.toNat) (.error (.remote ⟨.fatal, .polling, cause⟩)) := by
      refine .wornOut hcause (Nat.le_add_left _ _) fun i hfirst hlast => ?_
      obtain ⟨j, rfl⟩ := Nat.exists_eq_add_of_le (show n ≤ i by omega)
      exact hbusy j (by omega)
    exact run_of_decided project hlast (judge_of_decides hlimit hright hdecides)

/-- The budget is kept in all calm surroundings exactly if its limit is not the largest number
there is. At that number the count goes on from its largest value with zero, and a wait that
meets nothing but busy looks never gives up. The check of the settings lets every limit pass. -/
theorem budget_is_kept_iff_limit_is_not_largest (polling : PollingSettings) :
    ((∀ project handle c, KeepsBudget polling project handle c) ↔
      polling.maxTransientErrors.toNat + 1 < UInt32.size) ∧
    (polling.maxTransientErrors.toNat + 1 = UInt32.size →
      ∀ project handle (c : Calm) n errors,
        counted? polling.maxTransientErrors handle.reference c.looks n = some errors →
        (∀ i, Busy (c.looks (n + i))) →
        (∀ i, counted? polling.maxTransientErrors handle.reference c.looks (n + i) =
          some (errors + UInt32.ofNat i)) ∧
        ∀ rounds, (c.run polling project handle rounds).1 = none) ∧
    ∀ limit, { polling with maxTransientErrors := limit }.check = polling.check := by
  refine ⟨⟨fun hkeeps => ?_, fun hlimit project handle c => keepsBudget_of_lt hlimit project
    handle c⟩, fun hlimit project handle c n errors hcounted hbusy => ⟨fun i => ?_, ?_⟩,
    fun limit => rfl⟩
  · refine Decidable.byContradiction fun hnot => ?_
    have hlimit : polling.maxTransientErrors.toNat + 1 = UInt32.size := by
      have := polling.maxTransientErrors.toNat_lt_size
      omega
    have hbusy : ∀ k, Busy (alwaysBusy.looks k) := fun k => ⟨_, rfl, by decide⟩
    have hcounted : counted? polling.maxTransientErrors doneHandle.reference alwaysBusy.looks
        (0 + polling.maxTransientErrors.toNat) =
        some (0 + UInt32.ofNat polling.maxTransientErrors.toNat) :=
      counted_of_busy hlimit rfl fun i _ => hbusy (0 + i)
    have hfits := (hkeeps nightly.reference.project doneHandle alwaysBusy).fits _ _ hcounted
      (hbusy _)
    rw [UInt32.zero_add, UInt32.ofNat_toNat] at hfits
    exact hnot hfits
  · exact counted_of_busy hlimit hcounted fun i _ => hbusy i
  · exact run_of_busy hlimit project hcounted hbusy

/-- Settings that pass the check, and with which a wait never gives up on a service that stays
busy: after as many busy looks as there are counts, the count is zero again. -/
theorem largest_limit_never_reached :
    let polling : PollingSettings := { maxTransientErrors := 4294967295 }
    polling.check = .ok () ∧
    counted? polling.maxTransientErrors doneHandle.reference alwaysBusy.looks 4294967296 =
      some 0 ∧
    ∀ rounds, (alwaysBusy.run polling nightly.reference.project doneHandle rounds).1 = none := by
  intro polling
  have hlimit : polling.maxTransientErrors.toNat + 1 = UInt32.size := by decide
  have hbusy : ∀ k, Busy (alwaysBusy.looks k) := fun k => ⟨_, rfl, by decide⟩
  have hcounted : counted? polling.maxTransientErrors doneHandle.reference alwaysBusy.looks
      (0 + 4294967296) = some (0 + UInt32.ofNat 4294967296) :=
    counted_of_busy hlimit rfl fun i _ => hbusy (0 + i)
  refine ⟨passes_of_isOk (by decide +kernel), ?_, run_of_busy hlimit _ rfl fun i => hbusy (0 + i)⟩
  simpa using hcounted

end WarehouseJobs.Waiting

-- What a pattern means, told from one place of a text to another. The places where a pattern ends
-- are worked out in sets, with tables of the places seen and no more rounds than there are places.
-- This comes to the same: a pattern never leads back, so on a longer way some step leads nowhere.
import WarehouseJobs.Regex.Matching

namespace WarehouseJobs.Regex

/-! ## From place to place -/

/-- `n` steps in a row. -/
def Steps (r : Nat → Nat → Prop) : Nat → Nat → Nat → Prop
  | 0, i, j => i = j
  | n + 1, i, j => ∃ k, r i k ∧ Steps r n k j

mutual

/-- Whether a pattern matches the part of a text from one place to another. A repeated pattern
matches `least` times and some more, with `most` in all. -/
def Leads (text : Subject) : Pattern → Nat → Nat → Prop
  | .empty, i, j => i = j
  | .char set _, i, j => (∃ c, text[i]? = some c ∧ set c = true) ∧ i + 1 = j
  | .condition c, i, j => c.holds text i = true ∧ i = j
  | .group inner, i, j => Leads text inner i j
  | .sequence parts, i, j => LeadsInTurn text parts i j
  | .choice branches, i, j => LeadsByAny text branches i j
  | .repeated least most inner, i, j =>
    ∃ more, (∀ m ∈ most, more ≤ m - least) ∧ Steps (Leads text inner) (least + more) i j

def LeadsInTurn (text : Subject) : List Pattern → Nat → Nat → Prop
  | [], i, j => i = j
  | p :: rest, i, j => ∃ k, Leads text p i k ∧ LeadsInTurn text rest k j

def LeadsByAny (text : Subject) : List Pattern → Nat → Nat → Prop
  | [], _, _ => False
  | p :: rest, i, j => Leads text p i j ∨ LeadsByAny text rest i j

end

/-- A pattern matches the whole of a text, from its first to its last character. -/
def Pattern.Covers (p : Pattern) (s : String) : Prop :=
  Leads s.toList.toArray p 0 s.toList.length

variable {text : Subject} {r : Nat → Nat → Prop} {i j k n m : Nat}

/-! ## Steps -/

/-- Steps that never lead back, nor out of the text. -/
def Forward (text : Subject) (r : Nat → Nat → Prop) : Prop :=
  ∀ i j, i ≤ text.size → r i j → i ≤ j ∧ j ≤ text.size

theorem Steps.forward (hr : Forward text r) (hi : i ≤ text.size) (h : Steps r n i j) :
    i ≤ j ∧ j ≤ text.size := by
  induction n generalizing i with
  | zero => exact ⟨Nat.le_of_eq h, h ▸ hi⟩
  | succ n ih =>
    obtain ⟨k, hk, hrest⟩ := h
    obtain ⟨hik, hsize⟩ := hr i k hi hk
    obtain ⟨hkj, hj⟩ := ih hsize hrest
    exact ⟨Nat.le_trans hik hkj, hj⟩

theorem Steps.add_iff : Steps r (n + m) i j ↔ ∃ k, Steps r n i k ∧ Steps r m k j := by
  induction n generalizing i with
  | zero => simp [Steps]
  | succ n ih =>
    rw [Nat.succ_add]
    simp only [Steps, ih]
    constructor
    · rintro ⟨k, hk, l, hl, hrest⟩
      exact ⟨l, ⟨k, hk, hl⟩, hrest⟩
    · rintro ⟨l, ⟨k, hk, hl⟩, hrest⟩
      exact ⟨k, hk, l, hl, hrest⟩

/-- With more steps than there are places on the way, one leads nowhere: it can be left out, or made
twice. -/
theorem Steps.idle (hr : Forward text r) (hi : i ≤ text.size) (h : Steps r n i j)
    (hn : j < i + n) : Steps r (n - 1) i j ∧ Steps r (n + 1) i j := by
  induction n generalizing i with
  | zero =>
    have hij : i = j := h
    omega
  | succ n ih =>
    obtain ⟨k, hk, hrest⟩ := h
    obtain ⟨hik, hsize⟩ := hr i k hi hk
    by_cases hsame : k = i
    · subst hsame
      exact ⟨hrest, k, hk, k, hk, hrest⟩
    · obtain ⟨hless, hmore⟩ := ih hsize hrest (by omega)
      refine ⟨?_, k, hk, hmore⟩
      cases n with
      | zero =>
        have hkj : k = j := hrest
        omega
      | succ n => exact ⟨k, hk, hless⟩

/-- A way with more steps than places can be gone in any number of steps that is enough. -/
theorem Steps.resize (hr : Forward text r) (hi : i ≤ text.size) (h : Steps r n i j)
    (hn : j < i + n) (hm : j ≤ i + m) : Steps r m i j := by
  rcases Nat.le_total n m with hle | hle
  · obtain ⟨d, rfl⟩ := Nat.exists_eq_add_of_le hle
    clear hle hm
    induction d with
    | zero => exact h
    | succ d ih => exact (ih.idle hr hi (by omega)).2
  · obtain ⟨d, rfl⟩ := Nat.exists_eq_add_of_le hle
    clear hle
    induction d with
    | zero => exact h
    | succ d ih =>
      have hless : Steps r (m + d) i j := (h.idle hr hi hn).1
      by_cases hd : j < i + (m + d)
      · exact ih hless hd
      · have hzero : d = 0 := by omega
        subst hzero
        exact hless

/-! ## Places in tables -/

theorem mem_placesWhere {p : Nat → Bool} :
    j ∈ placesWhere text p ↔ j ≤ text.size ∧ p j = true := by
  rw [placesWhere, List.mem_filter, List.mem_range, Nat.lt_succ_iff]

theorem getD_marked (ps : List Nat) (table : Places) :
    (ps.foldl (fun t i => t.setIfInBounds i true) table).getD j false = true ↔
      table.getD j false = true ∨ j ∈ ps ∧ j < table.size := by
  induction ps generalizing table with
  | nil => simp
  | cons i ps ih =>
    rw [List.foldl_cons, ih, Array.size_setIfInBounds, List.mem_cons]
    have hset : (table.setIfInBounds i true).getD j false = true ↔
        table.getD j false = true ∨ j = i ∧ j < table.size := by
      by_cases hj : j < table.size
      · by_cases hi : i = j
        · simp [Array.getD, hj, hi]
        · simp [Array.getD, hj, hi, Ne.symm hi]
      · simp [Array.getD, hj]
    rw [hset]
    constructor
    · rintro ((h | ⟨h, hj⟩) | ⟨h, hj⟩)
      · exact .inl h
      · exact .inr ⟨.inl h, hj⟩
      · exact .inr ⟨.inr h, hj⟩
    · rintro (h | ⟨h | h, hj⟩)
      · exact .inl (.inl h)
      · exact .inl (.inr ⟨h, hj⟩)
      · exact .inr ⟨h, hj⟩

/-- A place is found in the table of a list if it is a place of the text. -/
theorem getD_table (ps : List Nat) :
    (ps.foldl (fun t i => t.setIfInBounds i true)
        (Array.replicate (text.size + 1) false)).getD j false = true ↔ j ∈ ps ∧ j ≤ text.size := by
  rw [getD_marked, Array.size_replicate]
  have hnone : ¬ (Array.replicate (text.size + 1) false).getD j false = true := by
    by_cases hj : j < text.size + 1 <;> simp [Array.getD, hj]
  rw [or_iff_right hnone, Nat.lt_succ_iff]

theorem mem_distinct (ps : List Nat) : j ∈ distinct text ps ↔ j ∈ ps ∧ j ≤ text.size := by
  unfold distinct
  rw [mem_placesWhere, getD_table]
  constructor
  · exact fun h => h.2
  · exact fun h => ⟨h.2, h⟩

/-! ## Repetition -/

/-- All of these are places of the text. -/
def Within (text : Subject) (ps : List Nat) : Prop := ∀ i ∈ ps, i ≤ text.size

/-- A step on sets of places does what `r` says of each place. -/
structure Stepping (text : Subject) (step : List Nat → List Nat) (r : Nat → Nat → Prop) : Prop where
  forward : Forward text r
  mem : ∀ ps, Within text ps → ∀ j, j ∈ step ps ↔ ∃ i ∈ ps, r i j

namespace Stepping

variable {step : List Nat → List Nat} {ps seen fresh : List Nat}

theorem within (h : Stepping text step r) (hps : Within text ps) : Within text (step ps) := by
  intro j hj
  obtain ⟨i, hi, hij⟩ := (h.mem ps hps j).mp hj
  exact (h.forward i j (hps i hi) hij).2

theorem mem_iterate (h : Stepping text step r) (n : Nat) (hps : Within text ps) :
    j ∈ iterate step n ps ↔ ∃ i ∈ ps, Steps r n i j := by
  induction n generalizing ps with
  | zero => simp [iterate, Steps]
  | succ n ih =>
    rw [iterate]
    cases hempty : ps.isEmpty with
    | true => simp [List.isEmpty_iff.mp hempty]
    | false =>
      rw [if_neg (by simp), ih (h.within hps)]
      constructor
      · rintro ⟨k, hk, hrest⟩
        obtain ⟨i, hi, hik⟩ := (h.mem ps hps k).mp hk
        exact ⟨i, hi, k, hik, hrest⟩
      · rintro ⟨i, hi, k, hik, hrest⟩
        exact ⟨k, (h.mem ps hps k).mpr ⟨i, hi, hik⟩, hrest⟩

/-- From the places seen, only the fresh ones lead to new places. -/
def Searched (r : Nat → Nat → Prop) (seen fresh : List Nat) : Prop :=
  ∀ k ∈ seen, ∀ j, r k j → j ∈ seen ∨ k ∈ fresh

theorem mem_of_steps_of_closed (hclosed : ∀ k ∈ seen, ∀ j, r k j → j ∈ seen) (hi : i ∈ seen)
    (h : Steps r n i j) : j ∈ seen := by
  induction n generalizing i with
  | zero => exact h ▸ hi
  | succ n ih =>
    obtain ⟨k, hk, hrest⟩ := h
    exact ih (hclosed i hi k hk) hrest

/-- The places one step behind the fresh ones that are not seen yet. -/
def newPlaces (text : Subject) (step : List Nat → List Nat) (seen fresh : List Nat) : List Nat :=
  (step fresh).filter fun i =>
    !(seen.foldl (fun t i => t.setIfInBounds i true)
      (Array.replicate (text.size + 1) false)).getD i false

theorem mem_newPlaces (h : Stepping text step r) (hseen : Within text seen)
    (hfresh : ∀ i ∈ fresh, i ∈ seen) :
    k ∈ newPlaces text step seen fresh ↔ (∃ i ∈ fresh, r i k) ∧ k ∉ seen := by
  rw [newPlaces, List.mem_filter, h.mem fresh (fun i hi => hseen i (hfresh i hi)),
    Bool.not_eq_true', ← Bool.not_eq_true, getD_table, not_and]
  constructor
  · rintro ⟨⟨i, hi, hik⟩, hk⟩
    exact ⟨⟨i, hi, hik⟩, fun hkseen => hk hkseen (hseen k hkseen)⟩
  · rintro ⟨hfrom, hk⟩
    exact ⟨hfrom, fun hkseen => absurd hkseen hk⟩

theorem mem_reach (h : Stepping text step r) (rounds : Nat) (hseen : Within text seen)
    (hfresh : ∀ i ∈ fresh, i ∈ seen) (hsearched : Searched r seen fresh) :
    j ∈ reach text step rounds seen fresh ↔ ∃ i ∈ seen, ∃ n ≤ rounds, Steps r n i j := by
  induction rounds generalizing seen fresh with
  | zero => simp [reach, Steps]
  | succ rounds ih =>
    obtain ⟨new, hnew⟩ : ∃ new, new = newPlaces text step seen fresh := ⟨_, rfl⟩
    have hmem : ∀ k, k ∈ new ↔ (∃ i ∈ fresh, r i k) ∧ k ∉ seen :=
      fun k => hnew ▸ h.mem_newPlaces hseen hfresh
    -- Every place one step behind a place seen is seen or new.
    have hnext : ∀ k ∈ seen, ∀ j, r k j → j ∈ seen ∨ j ∈ new := by
      intro k hk j hkj
      by_cases hj : j ∈ seen
      · exact .inl hj
      · have hkfresh := (hsearched k hk j hkj).resolve_left hj
        exact .inr ((hmem j).mpr ⟨⟨k, hkfresh, hkj⟩, hj⟩)
    rw [reach, ← newPlaces, ← hnew]
    cases hempty : new.isEmpty with
    | true =>
      rw [if_pos rfl]
      have hclosed : ∀ k ∈ seen, ∀ j, r k j → j ∈ seen := by
        intro k hk j hkj
        refine (hnext k hk j hkj).resolve_right ?_
        rw [List.isEmpty_iff.mp hempty]
        exact List.not_mem_nil
      constructor
      · exact fun hj => ⟨j, hj, 0, Nat.zero_le _, rfl⟩
      · rintro ⟨i, hi, n, -, hsteps⟩
        exact mem_of_steps_of_closed hclosed hi hsteps
    | false =>
      have hnewWithin : Within text new := by
        intro k hk
        obtain ⟨⟨i, hi, hik⟩, -⟩ := (hmem k).mp hk
        exact (h.forward i k (hseen i (hfresh i hi)) hik).2
      have hall : ∀ k, k ∈ distinct text (seen ++ new) ↔ k ∈ seen ∨ k ∈ new := by
        intro k
        rw [mem_distinct, List.mem_append, and_iff_left_iff_imp]
        rintro (hk | hk)
        · exact hseen k hk
        · exact hnewWithin k hk
      rw [if_neg (by simp), ih]
      · constructor
        · rintro ⟨i, hi, n, hn, hsteps⟩
          rcases (hall i).mp hi with hi | hi
          · exact ⟨i, hi, n, Nat.le_succ_of_le hn, hsteps⟩
          · obtain ⟨⟨k, hk, hki⟩, -⟩ := (hmem i).mp hi
            exact ⟨k, hfresh k hk, n + 1, Nat.succ_le_succ hn, i, hki, hsteps⟩
        · rintro ⟨i, hi, n, hn, hsteps⟩
          cases n with
          | zero => exact ⟨i, (hall i).mpr (.inl hi), 0, Nat.zero_le _, hsteps⟩
          | succ n =>
            obtain ⟨k, hik, hrest⟩ := hsteps
            exact ⟨k, (hall k).mpr (hnext i hi k hik), n, Nat.le_of_succ_le_succ hn, hrest⟩
      · intro k hk
        rcases (hall k).mp hk with hk | hk
        · exact hseen k hk
        · exact hnewWithin k hk
      · exact fun k hk => (hall k).mpr (.inr hk)
      · intro k hk j hkj
        rcases (hall k).mp hk with hk | hk
        · exact .inl ((hall j).mpr (hnext k hk j hkj))
        · exact .inr hk

/-- No more rounds are needed than there are places, and one: neither to begin with, nor after. -/
theorem mem_repeated (h : Stepping text step r) (hps : Within text ps) (least rounds bound : Nat)
    (hrounds : rounds = min bound (text.size + 1)) :
    j ∈ reach text step rounds (iterate step (min least (text.size + 1)) ps)
        (iterate step (min least (text.size + 1)) ps) ↔
      ∃ i ∈ ps, ∃ more ≤ bound, Steps r (least + more) i j := by
  subst hrounds
  have hstart := fun k => h.mem_iterate (j := k) (min least (text.size + 1)) hps
  have hwithin : Within text (iterate step (min least (text.size + 1)) ps) := by
    intro k hk
    obtain ⟨i, hi, hsteps⟩ := (hstart k).mp hk
    exact (hsteps.forward h.forward (hps i hi)).2
  rw [h.mem_reach _ hwithin (fun _ hi => hi) fun k hk _ _ => .inr hk]
  constructor
  · rintro ⟨k, hk, more, hmore, hrest⟩
    obtain ⟨i, hi, hfirst⟩ := (hstart k).mp hk
    have hsteps := Steps.add_iff.mpr ⟨k, hfirst, hrest⟩
    have hj := (hsteps.forward h.forward (hps i hi)).2
    by_cases hleast : least ≤ text.size + 1
    · rw [Nat.min_eq_left hleast] at hsteps
      exact ⟨i, hi, more, by omega, hsteps⟩
    · refine ⟨i, hi, 0, Nat.zero_le _, hsteps.resize h.forward (hps i hi) ?_ ?_⟩ <;> omega
  · rintro ⟨i, hi, more, hmore, hsteps⟩
    have hj := (hsteps.forward h.forward (hps i hi)).2
    have hfew : Steps r (min least (text.size + 1) + min more (text.size + 1)) i j := by
      by_cases hall : least ≤ text.size + 1 ∧ more ≤ text.size + 1
      · rw [Nat.min_eq_left hall.1, Nat.min_eq_left hall.2]
        exact hsteps
      · refine hsteps.resize h.forward (hps i hi) ?_ ?_ <;> omega
    obtain ⟨k, hfirst, hrest⟩ := Steps.add_iff.mp hfew
    exact ⟨k, (hstart k).mpr ⟨i, hi, hfirst⟩, _, by omega, hrest⟩

end Stepping

/-! ## Patterns -/

mutual

/-- No pattern leads back. -/
theorem forward_leads (text : Subject) (p : Pattern) : Forward text (Leads text p) := by
  intro i j hi h
  cases p with
  | empty =>
    rw [Leads] at h
    omega
  | char set weight =>
    rw [Leads] at h
    obtain ⟨⟨c, hc, -⟩, hj⟩ := h
    have hlt : i < text.size := (Array.getElem?_eq_some_iff.mp hc).1
    omega
  | condition c =>
    rw [Leads] at h
    obtain ⟨-, hj⟩ := h
    omega
  | group inner =>
    rw [Leads] at h
    exact forward_leads text inner i j hi h
  | sequence parts =>
    rw [Leads] at h
    exact forward_leadsInTurn text parts i j hi h
  | choice branches =>
    rw [Leads] at h
    exact forward_leadsByAny text branches i j hi h
  | repeated least most inner =>
    rw [Leads] at h
    obtain ⟨more, -, hsteps⟩ := h
    exact hsteps.forward (forward_leads text inner) hi

theorem forward_leadsInTurn (text : Subject) (parts : List Pattern) :
    Forward text (LeadsInTurn text parts) := by
  intro i j hi h
  cases parts with
  | nil =>
    rw [LeadsInTurn] at h
    omega
  | cons p rest =>
    rw [LeadsInTurn] at h
    obtain ⟨k, hp, hrest⟩ := h
    obtain ⟨hik, hk⟩ := forward_leads text p i k hi hp
    obtain ⟨hkj, hj⟩ := forward_leadsInTurn text rest k j hk hrest
    exact ⟨Nat.le_trans hik hkj, hj⟩

theorem forward_leadsByAny (text : Subject) (branches : List Pattern) :
    Forward text (LeadsByAny text branches) := by
  intro i j hi h
  cases branches with
  | nil =>
    rw [LeadsByAny] at h
    cases h
  | cons p rest =>
    rw [LeadsByAny] at h
    rcases h with h | h
    · exact forward_leads text p i j hi h
    · exact forward_leadsByAny text rest i j hi h

end

mutual

/-- The places where a pattern ends are those that it leads to. -/
theorem stepping_ends (text : Subject) (p : Pattern) :
    Stepping text (ends text p) (Leads text p) := by
  refine ⟨forward_leads text p, fun ps hps j => ?_⟩
  cases p with
  | empty => simp [ends, Leads]
  | char set weight =>
    simp only [ends, Leads, List.mem_map, List.mem_filter, Option.any_eq_true, after?]
    constructor
    · rintro ⟨i, ⟨hi, hset⟩, hj⟩
      exact ⟨i, hi, hset, hj⟩
    · rintro ⟨i, hi, hset, hj⟩
      exact ⟨i, ⟨hi, hset⟩, hj⟩
  | condition c =>
    simp only [ends, Leads, List.mem_filter]
    constructor
    · rintro ⟨hj, hc⟩
      exact ⟨j, hj, hc, rfl⟩
    · rintro ⟨i, hi, hc, rfl⟩
      exact ⟨hi, hc⟩
  | group inner =>
    simp only [ends, Leads]
    exact (stepping_ends text inner).mem ps hps j
  | sequence parts =>
    simp only [ends, Leads]
    exact (stepping_endsInTurn text parts).mem ps hps j
  | choice branches =>
    have hany := stepping_endsOfAny text branches
    simp only [ends, Leads]
    rw [mem_distinct, hany.mem ps hps, and_iff_left_iff_imp]
    rintro ⟨i, hi, hleads⟩
    exact (hany.forward i j (hps i hi) hleads).2
  | repeated least most inner =>
    have hinner := stepping_ends text inner
    cases most with
    | none =>
      simp only [ends, Leads, Option.not_mem_none, false_implies, implies_true, true_and]
      constructor
      · intro hj
        obtain ⟨i, hi, more, -, hsteps⟩ :=
          (hinner.mem_repeated hps least _ (text.size + 1) (Nat.min_self _).symm).mp hj
        exact ⟨i, hi, more, hsteps⟩
      · rintro ⟨i, hi, more, hsteps⟩
        exact (hinner.mem_repeated hps least _ (max more (text.size + 1)) (by omega)).mpr
          ⟨i, hi, more, Nat.le_max_left _ _, hsteps⟩
    | some most =>
      simp only [ends, Leads, Option.mem_def, Option.some.injEq, forall_eq']
      exact hinner.mem_repeated hps least _ (most - least) rfl

theorem stepping_endsInTurn (text : Subject) (parts : List Pattern) :
    Stepping text (endsInTurn text parts) (LeadsInTurn text parts) := by
  refine ⟨forward_leadsInTurn text parts, fun ps hps j => ?_⟩
  cases parts with
  | nil => simp [endsInTurn, LeadsInTurn]
  | cons p rest =>
    have hp := stepping_ends text p
    simp only [endsInTurn, LeadsInTurn]
    rw [(stepping_endsInTurn text rest).mem _ (hp.within hps)]
    constructor
    · rintro ⟨k, hk, hrest⟩
      obtain ⟨i, hi, hik⟩ := (hp.mem ps hps k).mp hk
      exact ⟨i, hi, k, hik, hrest⟩
    · rintro ⟨i, hi, k, hik, hrest⟩
      exact ⟨k, (hp.mem ps hps k).mpr ⟨i, hi, hik⟩, hrest⟩

theorem stepping_endsOfAny (text : Subject) (branches : List Pattern) :
    Stepping text (endsOfAny text branches) (LeadsByAny text branches) := by
  refine ⟨forward_leadsByAny text branches, fun ps hps j => ?_⟩
  cases branches with
  | nil => simp [endsOfAny, LeadsByAny]
  | cons p rest =>
    simp only [endsOfAny, LeadsByAny, List.mem_append]
    rw [(stepping_ends text p).mem ps hps, (stepping_endsOfAny text rest).mem ps hps]
    constructor
    · rintro (⟨i, hi, h⟩ | ⟨i, hi, h⟩)
      · exact ⟨i, hi, .inl h⟩
      · exact ⟨i, hi, .inr h⟩
    · rintro ⟨i, hi, h | h⟩
      · exact .inl ⟨i, hi, h⟩
      · exact .inr ⟨i, hi, h⟩

end

theorem Pattern.isIn_iff (p : Pattern) (s : String) :
    p.isIn s = true ↔ ∃ i ≤ s.toList.length, ∃ j, Leads s.toList.toArray p i j := by
  have hsize : s.toList.toArray.size = s.toList.length := List.size_toArray
  have hplaces : Within s.toList.toArray (List.range (s.toList.toArray.size + 1)) :=
    fun i hi => Nat.lt_succ_iff.mp (List.mem_range.mp hi)
  have hmem := (stepping_ends s.toList.toArray p).mem _ hplaces
  unfold isIn
  rw [Bool.not_eq_true', ← Bool.not_eq_true, List.isEmpty_iff, List.eq_nil_iff_forall_not_mem,
    Classical.not_forall]
  constructor
  · rintro ⟨j, hj⟩
    obtain ⟨i, hi, hleads⟩ := (hmem j).mp (Classical.not_not.mp hj)
    exact ⟨i, hsize ▸ hplaces i hi, j, hleads⟩
  · rintro ⟨i, hi, j, hleads⟩
    refine ⟨j, Classical.not_not.mpr ((hmem j).mpr ⟨i, ?_, hleads⟩)⟩
    rw [List.mem_range, hsize]
    exact Nat.lt_succ_iff.mpr hi

/-- Between the start and the end of a text, a pattern is held to the whole of it. -/
theorem Pattern.isIn_anchored_iff (p : Pattern) (s : String) :
    (Pattern.sequence [.condition .textStart, p, .condition .textEnd]).isIn s = true ↔
      p.Covers s := by
  rw [isIn_iff]
  simp only [Leads, LeadsInTurn, Condition.holds, decide_eq_true_eq, List.size_toArray, Covers]
  constructor
  · rintro ⟨i, -, j, k, ⟨hstart, hik⟩, l, hp, m, ⟨hend, hlm⟩, hmj⟩
    rw [← hik, hstart, hend] at hp
    exact hp
  · intro hp
    exact ⟨0, Nat.zero_le _, _, 0, ⟨rfl, rfl⟩, _, hp, _, ⟨rfl, rfl⟩, rfl⟩

end WarehouseJobs.Regex

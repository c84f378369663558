-- How far the environment reaches into the settings. A variable is looked at in two places: where
-- a settings text refers to it, and where an override is named so. Thirteen of the keys have an
-- override; each one sets its own key, and nothing else.
import Mathlib.Data.List.Induction
import WarehouseJobs.Proofs.Settings.Keys
import WarehouseJobs.Settings.Load

namespace WarehouseJobs

/-- The environment in which a variable is not set. -/
def Environment.without (env : Environment) (gone : String) : Environment :=
  env.filter fun pair => pair.1 ≠ gone

variable {env env' : Environment} {name gone text filled : String}

theorem Environment.get?_without_same : (env.without gone).get? gone = none := by
  unfold get? without
  rw [List.lookup_eq_none_iff]
  intro pair hpair
  have hother : pair.1 ≠ gone := by simpa using (List.mem_filter.mp hpair).2
  exact bne_iff_ne.mpr hother.symm

theorem Environment.get?_without_other (h : name ≠ gone) :
    (env.without gone).get? name = env.get? name := by
  unfold get? without
  induction env with
  | nil => rfl
  | cons pair rest ih =>
    obtain ⟨key, value⟩ := pair
    by_cases hgone : key = gone
    · rw [List.filter_cons_of_neg (by simpa using hgone), ih, List.lookup_cons]
      have hother : (name == key) = false := by simp [hgone, h]
      rw [hother]
    · rw [List.filter_cons_of_pos (by simpa using hgone), List.lookup_cons, List.lookup_cons, ih]

/-! ## References in a text -/

namespace Substitution

variable {line : List Char}

theorem putIn_congr {ref : List Char}
    (h : env.get? (String.ofList ref) = env'.get? (String.ofList ref)) :
    putIn env line ref = putIn env' line ref := by
  unfold putIn
  rw [h]

theorem fill_congr (h : isComment line = false → ∀ ref ∈ namesIn line,
    env.get? (String.ofList ref) = env'.get? (String.ofList ref)) :
    fill env line = fill env' line := by
  unfold fill
  split
  · rfl
  · rename_i hcomment
    rw [Bool.not_eq_true] at hcomment
    exact List.foldl_ext _ _ _ fun _ ref href => putIn_congr (h hcomment ref href)

theorem missingIn_congr (h : isComment line = false → ∀ ref ∈ namesIn line,
    env.get? (String.ofList ref) = env'.get? (String.ofList ref)) :
    missingIn env line = missingIn env' line := by
  unfold missingIn
  split
  · rfl
  · rename_i hcomment
    rw [Bool.not_eq_true] at hcomment
    refine List.filter_congr fun name hname => ?_
    obtain ⟨ref, href, rfl⟩ := List.mem_map.mp hname
    rw [h hcomment ref href]

theorem mem_names {ref : List Char} (hline : line ∈ Text.lines text.toList)
    (hcomment : isComment line = false) (href : ref ∈ namesIn line) :
    String.ofList ref ∈ names text := by
  refine List.mem_flatMap.mpr ⟨line, hline, ?_⟩
  rw [if_neg (by simp [hcomment])]
  exact List.mem_map_of_mem href

/-- Only the variables that a text refers to count for it. -/
theorem apply_congr (h : ∀ name ∈ names text, env.get? name = env'.get? name) :
    apply env text = apply env' text := by
  have hline : ∀ line ∈ Text.lines text.toList, isComment line = false →
      ∀ ref ∈ namesIn line, env.get? (String.ofList ref) = env'.get? (String.ofList ref) :=
    fun line hline hcomment ref href => h _ (mem_names hline hcomment href)
  have hmissing : (Text.lines text.toList).flatMap (missingIn env) =
      (Text.lines text.toList).flatMap (missingIn env') :=
    List.flatMap_congr fun line hmem => missingIn_congr (hline line hmem)
  have hfill : ((Text.lines text.toList).flatMap fun line => fill env line ++ ['\n']) =
      (Text.lines text.toList).flatMap fun line => fill env' line ++ ['\n'] :=
    List.flatMap_congr fun line hmem => by rw [fill_congr (hline line hmem)]
  simp only [apply, hmissing, hfill]

theorem once_concat (names : List String) (name : String) :
    once (names ++ [name]) = if name ∈ once names then once names else once names ++ [name] := by
  simp [once]

@[simp] theorem mem_once {names : List String} {name : String} :
    name ∈ once names ↔ name ∈ names := by
  induction names using List.reverseRecOn with
  | nil => simp [once]
  | append_singleton names last ih =>
    rw [once_concat, List.mem_append, List.mem_singleton, ← ih]
    split
    · rename_i hlast
      constructor
      · exact Or.inl
      · rintro (h | rfl)
        · exact h
        · exact hlast
    · rw [List.mem_append, List.mem_singleton]

theorem once_eq_nil {names : List String} (h : once names = []) : names = [] := by
  rw [List.eq_nil_iff_forall_not_mem] at h ⊢
  exact fun name hname => h name (mem_once.mpr hname)

/-- If a text could be filled, every variable it refers to is set. -/
theorem isSome_of_apply (h : apply env text = .ok filled) (hname : name ∈ names text) :
    (env.get? name).isSome = true := by
  simp only [apply] at h
  split at h
  · rename_i hmissing
    have hnone := once_eq_nil (List.isEmpty_iff.mp hmissing)
    obtain ⟨line, hline, hmem⟩ := List.mem_flatMap.mp hname
    have hfull := List.flatMap_eq_nil_iff.mp hnone line hline
    unfold missingIn at hfull
    split at hmem
    · cases hmem
    · rename_i hcomment
      rw [if_neg hcomment, List.filter_eq_nil_iff] at hfull
      have hset := hfull name hmem
      cases hget : env.get? name with
      | some value => rfl
      | none => exact absurd (by rw [hget]; rfl) hset
  · cases h

/-- A variable without which a text can be filled makes no difference to the text. -/
theorem apply_of_without (h : apply (env.without gone) text = .ok filled) :
    apply env text = .ok filled := by
  rw [← h]
  refine (apply_congr fun name hname => Environment.get?_without_other ?_).symm
  rintro rfl
  have hset := isSome_of_apply h hname
  rw [Environment.get?_without_same] at hset
  cases hset

end Substitution

/-! ## The overrides, key by key -/

namespace Key

/-- The value that is read from a text, if there is one. -/
def readAs {α : Type} (k : Key) (read : String → Option α) (given : String) :
    Except ConfigurationFault α :=
  match read given with
  | some v => .ok v
  | none => .error (.badOverride given k.envName)

def readFormat (given : String) : Except ConfigurationFault ExportFormat :=
  match ExportFormat.ofText? given with
  | some format => .ok format
  | none => .error (.unknownFormat given)

/-- How the value of a key is read from its variable. Eight keys are not read so. -/
def reader? : (k : Key) → Option (String → Except ConfigurationFault k.Value)
  | .logLevel | .baseUrl | .exportPrefix | .localPath => some .ok
  | .accessToken => some fun given => .ok (some ⟨given⟩)
  | .location | .defaultProject => some fun given => .ok (some given)
  | .timeoutSeconds => some (readAs .timeoutSeconds Text.uint64?)
  | .destinationFormat => some readFormat
  | .initialIntervalMs => some (readAs .initialIntervalMs Text.uint64?)
  | .maxIntervalMs => some (readAs .maxIntervalMs Text.uint64?)
  | .maxTransientErrors => some (readAs .maxTransientErrors Text.uint32?)
  | .localEnabled => some (readAs .localEnabled Overrides.bool?)
  | .maxRetries | .initialDelayMs | .maxDelayMs | .retryMultiplier | .idPattern | .idMaxLength
  | .pollingMultiplier | .localRotation => none

def override? (k : Key) : Option Overrides.Override :=
  k.reader?.map fun read => ⟨k.envName, fun s given => (read given).map (k.put s)⟩

/-- The keys with an override, in the order in which they are looked at. -/
def overridden : List Key :=
  [.logLevel, .baseUrl, .accessToken, .location, .defaultProject, .timeoutSeconds, .exportPrefix,
    .destinationFormat, .initialIntervalMs, .maxIntervalMs, .maxTransientErrors, .localEnabled,
    .localPath]

theorem mem_overridden_iff (k : Key) : k ∈ overridden ↔ k.reader?.isSome = true := by
  cases k <;> decide

end Key

namespace Overrides

theorem Override.ext {a b : Override} (hname : a.name = b.name)
    (happly : ∀ s given, a.apply s given = b.apply s given) : a = b := by
  obtain ⟨name, apply⟩ := a
  obtain ⟨name', apply'⟩ := b
  cases hname
  congr
  funext s given
  exact happly s given

theorem apply_typed (k : Key) (read : String → Option k.Value) (s : Settings) (given : String) :
    (typed k.envName read k.put).apply s given = (k.readAs read given).map (k.put s) := by
  simp only [typed, Key.readAs]
  cases read given <;> rfl

theorem apply_format (s : Settings) (given : String) :
    (match ExportFormat.ofText? given with
      | some format => Except.ok (Key.destinationFormat.put s format)
      | none => Except.error (.unknownFormat given)) =
        (Key.readFormat given).map (Key.destinationFormat.put s) := by
  unfold Key.readFormat
  cases ExportFormat.ofText? given <;> rfl

/-- Each override belongs to a key. -/
theorem all_eq : all = Key.overridden.filterMap Key.override? := by
  show _ = [_, _, _, _, _, _, _, _, _, _, _, _, _]
  unfold all
  repeat' refine congrArg₂ List.cons (Override.ext ?_ fun s given => ?_) ?_
  all_goals try rfl
  · exact apply_typed .timeoutSeconds Text.uint64? s given
  · exact apply_format s given
  · exact apply_typed .initialIntervalMs Text.uint64? s given
  · exact apply_typed .maxIntervalMs Text.uint64? s given
  · exact apply_typed .maxTransientErrors Text.uint32? s given
  · exact apply_typed .localEnabled bool? s given

/-! ## What one override does, and what all of them do -/

/-- What becomes of settings when one variable is looked at. -/
def Override.step (o : Override) (env : Environment) (s : Settings) :
    Except ConfigurationFault Settings :=
  match env.get? o.name with
  | none => .ok s
  | some given => o.apply s given

variable {o : Override} {rest : List Override} {s mid s' : Settings} {k : Key} {keys : List Key}

theorem applyAll_cons_iff : applyAll env (o :: rest) s = .ok s' ↔
    ∃ mid, o.step env s = .ok mid ∧ applyAll env rest mid = .ok s' := by
  rw [applyAll]
  unfold Override.step
  cases env.get? o.name with
  | none => simp
  | some given => cases happly : o.apply s given <;> simp [happly]

theorem applyAll_congr {os : List Override}
    (h : ∀ o ∈ os, env.get? o.name = env'.get? o.name) (s : Settings) :
    applyAll env os s = applyAll env' os s := by
  induction os generalizing s with
  | nil => rfl
  | cons o rest ih =>
    obtain ⟨hhere, hrest⟩ := List.forall_mem_cons.mp h
    unfold applyAll
    rw [hhere]
    cases env'.get? o.name with
    | none => exact ih hrest s
    | some given =>
      cases happly : o.apply s given with
      | error fault => simp only [happly]
      | ok mid => simpa only [happly] using ih hrest mid

/-- What holds of the value of a key after its variable was looked at. -/
structure Settled (env : Environment) (k : Key) (old new : k.Value) : Prop where
  of_set : ∀ read, k.reader? = some read → ∀ given, env.get? k.envName = some given →
    read given = .ok new
  of_unset : env.get? k.envName = none → new = old

theorem step_settles (ho : k.override? = some o) (h : o.step env s = .ok mid) :
    Settled env k (k.get s) (k.get mid) ∧ ∀ l ≠ k, l.get mid = l.get s := by
  obtain ⟨read, hread, rfl⟩ := Option.map_eq_some_iff.mp ho
  unfold Override.step at h
  simp only at h
  cases hget : env.get? k.envName with
  | none =>
    rw [hget] at h
    cases h
    refine ⟨⟨fun _ _ given hset => ?_, fun _ => rfl⟩, fun _ _ => rfl⟩
    rw [hget] at hset
    cases hset
  | some given =>
    simp only [hget] at h
    cases hvalue : read given with
    | error fault =>
      rw [hvalue] at h
      cases h
    | ok v =>
      rw [hvalue] at h
      cases h
      refine ⟨⟨fun read' hread' given' hset => ?_, fun hnone => ?_⟩, fun l hl => ?_⟩
      · rw [hread] at hread'
        cases hread'
        rw [hget] at hset
        cases hset
        rw [Key.get_put_same, hvalue]
      · rw [hget] at hnone
        cases hnone
      · exact Key.get_put_other hl s v

/-- A key whose variable is not looked at keeps its value. -/
theorem applyAll_keeps (h : applyAll env (keys.filterMap Key.override?) s = .ok s')
    (hk : k ∉ keys) : k.get s' = k.get s := by
  induction keys generalizing s with
  | nil =>
    cases h
    rfl
  | cons key rest ih =>
    obtain ⟨hkey, hrest⟩ := not_or.mp (List.mem_cons.not.mp hk)
    cases ho : key.override? with
    | none =>
      rw [List.filterMap_cons_none ho] at h
      exact ih h hrest
    | some o =>
      rw [List.filterMap_cons_some ho] at h
      obtain ⟨mid, hstep, hgoes⟩ := applyAll_cons_iff.mp h
      rw [ih hgoes hrest, (step_settles ho hstep).2 k hkey]

/-- A key whose variable is looked at once has what the variable says. -/
theorem applyAll_settles (hnodup : keys.Nodup)
    (h : applyAll env (keys.filterMap Key.override?) s = .ok s') (hk : k ∈ keys)
    (hread : k.reader?.isSome = true) : Settled env k (k.get s) (k.get s') := by
  induction keys generalizing s with
  | nil => cases hk
  | cons key rest ih =>
    obtain ⟨hnot, hnodup⟩ := List.nodup_cons.mp hnodup
    cases ho : key.override? with
    | none =>
      rw [List.filterMap_cons_none ho] at h
      rcases List.mem_cons.mp hk with rfl | hk
      · rw [Option.map_eq_none_iff.mp ho] at hread
        cases hread
      · exact ih hnodup h hk
    | some o =>
      rw [List.filterMap_cons_some ho] at h
      obtain ⟨mid, hstep, hgoes⟩ := applyAll_cons_iff.mp h
      obtain ⟨hsettled, hothers⟩ := step_settles ho hstep
      rcases List.mem_cons.mp hk with rfl | hk
      · rwa [applyAll_keeps hgoes hnot]
      · rw [← hothers k fun hsame => hnot (hsame ▸ hk)]
        exact ih hnodup hgoes hk

theorem Settled.of_all {k : Key} (h : applyAll env all s = .ok s')
    (hread : k.reader?.isSome = true) : Settled env k (k.get s) (k.get s') := by
  rw [all_eq] at h
  exact applyAll_settles (by decide) h ((Key.mem_overridden_iff k).mpr hread) hread

theorem all_keeps {k : Key} (h : applyAll env all s = .ok s') (hread : k.reader? = none) :
    k.get s' = k.get s := by
  rw [all_eq] at h
  refine applyAll_keeps h fun hk => ?_
  rw [Key.mem_overridden_iff, hread] at hk
  cases hk

/-- The variable of a key without an override is not looked at. -/
theorem all_congr_without {k : Key} (hread : k.reader? = none) (s : Settings) :
    applyAll (env.without k.envName) all s = applyAll env all s := by
  refine applyAll_congr (fun o ho => Environment.get?_without_other fun hname => ?_) s
  rw [all_eq] at ho
  obtain ⟨l, -, hl⟩ := List.mem_filterMap.mp ho
  obtain ⟨read, hreader, rfl⟩ := Option.map_eq_some_iff.mp hl
  cases Key.envName_injective hname
  rw [hread] at hreader
  cases hreader

end Overrides

/-! ## Loads -/

namespace Settings

variable {s s' : Settings} {k : Key}

theorem parts_of_load (h : load env text = .ok s) : ∃ filled given,
    Substitution.apply env text = .ok filled ∧ ofToml? filled = some given ∧
      Overrides.applyAll env Overrides.all given = .ok s := by
  unfold load at h
  split at h
  · cases h
  rename_i filled hfilled
  split at h
  · cases h
  rename_i given hgiven
  split at h
  · cases h
  rename_i final hfinal
  split at h
  · cases h
  · cases h
    exact ⟨filled, given, hfilled, hgiven, hfinal⟩

/-- A variable without which a text can be loaded makes no difference to what the text says. -/
theorem parts_of_loads (h : load env text = .ok s)
    (hwithout : load (env.without gone) text = .ok s') : ∃ given,
      Overrides.applyAll env Overrides.all given = .ok s ∧
        Overrides.applyAll (env.without gone) Overrides.all given = .ok s' := by
  obtain ⟨filled, given, hfilled, hgiven, hfinal⟩ := parts_of_load h
  obtain ⟨filled', given', hfilled', hgiven', hfinal'⟩ := parts_of_load hwithout
  rw [Substitution.apply_of_without hfilled'] at hfilled
  cases hfilled
  rw [hgiven'] at hgiven
  cases hgiven
  exact ⟨given, hfinal, hfinal'⟩

/-- An override sets its own key. -/
theorem load_sets {read : String → Except ConfigurationFault k.Value} {given : String}
    (hread : k.reader? = some read) (hset : env.get? k.envName = some given)
    (h : load env text = .ok s) : read given = .ok (k.get s) := by
  obtain ⟨-, base, -, -, hfinal⟩ := parts_of_load h
  exact (Overrides.Settled.of_all hfinal (by rw [hread]; rfl)).of_set read hread given hset

/-- All other keys are as they are without it. -/
theorem load_keeps {l : Key} (hl : l ≠ k) (h : load env text = .ok s)
    (hwithout : load (env.without k.envName) text = .ok s') : l.get s = l.get s' := by
  obtain ⟨given, hwith, hwithout⟩ := parts_of_loads h hwithout
  cases hread : l.reader? with
  | none => rw [Overrides.all_keeps hwith hread, Overrides.all_keeps hwithout hread]
  | some read =>
    have hsome : l.reader?.isSome = true := by rw [hread]; rfl
    have hsame : (env.without k.envName).get? l.envName = env.get? l.envName :=
      Environment.get?_without_other fun hname => hl (Key.envName_injective hname)
    have hsettled := Overrides.Settled.of_all hwith hsome
    have hsettled' := Overrides.Settled.of_all hwithout hsome
    cases hget : env.get? l.envName with
    | none => rw [hsettled.of_unset hget, hsettled'.of_unset (hsame.trans hget)]
    | some given =>
      have hvalue := hsettled.of_set read hread given hget
      rw [hsettled'.of_set read hread given (hsame.trans hget)] at hvalue
      exact (Except.ok.inj hvalue).symm

/-- The variable of a key without an override makes no difference. -/
theorem load_ignores (hread : k.reader? = none)
    (h : load (env.without k.envName) text = .ok s) : load env text = .ok s := by
  obtain ⟨filled, -, hfilled, -, -⟩ := parts_of_load h
  unfold load at h ⊢
  rw [hfilled] at h
  rw [Substitution.apply_of_without hfilled]
  simpa only [Overrides.all_congr_without hread] using h

/-- Whatever the text and the rest of the environment say: a variable that is named after one of
thirteen keys sets this key, to the value that is read from it or not at all, and no other key.
The variables of the other eight keys reach nothing: settings that can be loaded without such a
variable are the same with it. -/
theorem environment_reaches_overridden_keys_only (env : Environment) (text : String) (k : Key) :
    (∀ read, k.reader? = some read → ∀ given, env.get? k.envName = some given → ∀ s,
      load env text = .ok s → read given = .ok (k.get s) ∧
        ∀ s', load (env.without k.envName) text = .ok s' → ∀ l ≠ k, l.get s = l.get s') ∧
    (k.reader? = none → ∀ s, load (env.without k.envName) text = .ok s →
      load env text = .ok s) ∧
    (k.reader? = none ↔ k ∈ [Key.maxRetries, .initialDelayMs, .maxDelayMs, .retryMultiplier,
      .idPattern, .idMaxLength, .pollingMultiplier, .localRotation]) := by
  refine ⟨fun read hread given hset s h => ⟨load_sets hread hset h, fun s' hwithout l hl => ?_⟩,
    fun hread s h => load_ignores hread h, ?_⟩
  · exact load_keeps hl h hwithout
  · cases k <;> simp [Key.reader?]

/-- A text of settings with ids that start with one letter. -/
def shortIds : String :=
  "[service]\n[jobs]\nid_pattern = 'a|a-.\x7b36\x7d'\nexport_prefix = 'a'\n"

/-- An environment that asks for a new log file every hour. -/
def hourlyLogs : Environment := [(Key.localRotation.envName, "hourly")]

/-- The rotation of log files is daily, as by default, though the environment asks for another
one. -/
theorem rotation_is_out_of_reach : hourlyLogs.get? Key.localRotation.envName = some "hourly" ∧
    ∃ s, load hourlyLogs shortIds = .ok s ∧ Key.localRotation.get s = "daily" := by
  have hdaily : (load hourlyLogs shortIds).toOption.map Key.localRotation.get = some "daily" := by
    decide +kernel
  obtain ⟨s, hs, hrotation⟩ := Option.map_eq_some_iff.mp hdaily
  refine ⟨by decide +kernel, s, ?_, hrotation⟩
  cases hload : load hourlyLogs shortIds with
  | ok s' =>
    rw [hload] at hs
    cases hs
    rfl
  | error fault =>
    rw [hload] at hs
    cases hs

end Settings
end WarehouseJobs

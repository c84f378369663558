-- Which variables a settings text is short of. The names are collected line by line, and each one
-- is kept where it first stands. Here every reference has its place in the text, and the places
-- come in order; so the first place of a name is known without going through the text again.
import Mathlib.Data.List.Nodup
import WarehouseJobs.Proofs.Settings.Placeholders
import WarehouseJobs.Proofs.Settings.Reach

namespace WarehouseJobs

/-! ## Values that are no texts -/

/-- What can be read of variables whose values are any bytes. A value that is no Unicode text cannot
be read, and it still hides the later ones of its name. -/
def Environment.ofBytes : List (String × ByteArray) → Environment
  | [] => []
  | (name, bytes) :: rest =>
    match String.fromUTF8? bytes with
    | some value => (name, value) :: ofBytes rest
    | none => (ofBytes rest).without name

theorem Environment.get?_ofBytes (given : List (String × ByteArray)) (name : String) :
    (ofBytes given).get? name = (given.lookup name).bind String.fromUTF8? := by
  induction given with
  | nil => rfl
  | cons first rest ih =>
    obtain ⟨key, bytes⟩ := first
    rw [List.lookup_cons, ofBytes]
    by_cases hname : name = key
    · subst hname
      rw [beq_self_eq_true]
      simp only [Option.bind_some]
      split
      · rename_i value hvalue
        rw [hvalue, get?, List.lookup_cons, beq_self_eq_true]
      · rename_i hnone
        rw [hnone, get?_without_same]
    · have hother : (name == key) = false := beq_false_of_ne hname
      rw [hother, ← ih]
      split
      · rw [get?, List.lookup_cons, hother]
        rfl
      · exact get?_without_other hname

namespace Substitution

/-! ## Each name once -/

theorem nodup_once (names : List String) : (once names).Nodup := by
  induction names using List.reverseRecOn with
  | nil => simp [once]
  | append_singleton names last ih =>
    rw [once_concat]
    split
    · exact ih
    · rename_i hlast
      rw [← List.concat_eq_append]
      exact ih.concat hlast

/-! ## Places -/

/-- A place in a text: a line, and how many characters stand in front of it there. -/
structure Place where
  line : Nat
  column : Nat

def Place.Before (p q : Place) : Prop :=
  p.line < q.line ∨ p.line = q.line ∧ p.column < q.column

theorem Place.Before.asymm {p q : Place} (h : p.Before q) : ¬ q.Before p := by
  unfold Before at *
  omega

/-- At this place, on a line that is no comment, there is a placeholder for the variable. -/
def RefersAt (lines : List (List Char)) (name : String) (p : Place) : Prop :=
  IsName name.toList ∧ ∃ line, lines[p.line]? = some line ∧ isComment line = false ∧
    placeholder name.toList <+: line.drop p.column

/-- There is a reference to one variable in front of all references to the other. -/
def RefersFirst (lines : List (List Char)) (a b : String) : Prop :=
  ∃ p, RefersAt lines a p ∧ ∀ q, RefersAt lines b q → p.Before q

/-- There is a reference to a variable that is not set. -/
def Missing (env : Environment) (lines : List (List Char)) (name : String) : Prop :=
  (∃ p, RefersAt lines name p) ∧ env.get? name = none

/-- A list of exactly the missing variables, each one once, in the order in which the text first
refers to them. -/
structure Reports (env : Environment) (lines : List (List Char)) (missing : List String) :
    Prop where
  nodup : missing.Nodup
  mem_iff : ∀ name, name ∈ missing ↔ Missing env lines name
  inOrder : missing.Pairwise (RefersFirst lines)

variable {env : Environment} {lines : List (List Char)} {line : List Char} {name text : String}

/-- There is no second list like it. -/
theorem Reports.eq {missing missing' : List String} (h : Reports env lines missing)
    (h' : Reports env lines missing') : missing = missing' := by
  have hperm : missing.Perm missing' :=
    (List.perm_ext_iff_of_nodup h.nodup h'.nodup).mpr fun name =>
      (h.mem_iff name).trans (h'.mem_iff name).symm
  refine List.Perm.eq_of_pairwise ?_ h.inOrder h'.inOrder hperm
  rintro a b - - ⟨p, hp, hbefore⟩ ⟨q, hq, hbehind⟩
  exact absurd (hbefore q hq) (hbehind p hp).asymm

/-! ## All references of a text -/

/-- The references on one line, each with its column. -/
def referencesIn (line : List Char) : List (Nat × String) :=
  if isComment line then []
  else (List.range line.length).filterMap fun column =>
    (referenceAt? (line.drop column)).map fun name => (column, String.ofList name)

/-- The references of a text, from its beginning to its end. -/
def references (lines : List (List Char)) : List (Place × String) :=
  lines.zipIdx.flatMap fun indexed =>
    (referencesIn indexed.1).map fun found => (⟨indexed.2, found.1⟩, found.2)

theorem namesIn_eq_filterMap (line : List Char) :
    namesIn line = (List.range line.length).filterMap fun column =>
      referenceAt? (line.drop column) := by
  induction line with
  | nil => rfl
  | cons c rest ih =>
    rw [namesIn_cons, ih, List.length_cons, List.range_succ_eq_map, List.filterMap_cons,
      List.filterMap_map]
    simp only [List.drop_zero]
    cases referenceAt? (c :: rest) <;> rfl

theorem map_snd_referencesIn (line : List Char) : (referencesIn line).map Prod.snd =
    if isComment line then [] else (namesIn line).map String.ofList := by
  unfold referencesIn
  split
  · rfl
  · rw [namesIn_eq_filterMap, List.map_filterMap, List.map_filterMap]
    simp only [Option.map_map, Function.comp_def]

/-- Without their places, the references are the names that are looked up. -/
theorem map_snd_references (text : String) :
    (references (Text.lines text.toList)).map Prod.snd = names text := by
  unfold references names
  rw [List.map_flatMap]
  simp only [List.map_map, Function.comp_def]
  conv_rhs => rw [← List.zipIdx_map_fst 0 (Text.lines text.toList), List.flatMap_map]
  exact List.flatMap_congr fun indexed _ => map_snd_referencesIn indexed.1

theorem referenceAt?_eq_some_iff_prefix : referenceAt? line = some name.toList ↔
    IsName name.toList ∧ placeholder name.toList <+: line := by
  rw [referenceAt?_eq_some_iff]
  exact and_congr_right fun _ => exists_congr fun _ => eq_comm

theorem mem_referencesIn_iff {column : Nat} : (column, name) ∈ referencesIn line ↔
    isComment line = false ∧ referenceAt? (line.drop column) = some name.toList := by
  unfold referencesIn
  cases hcomment : isComment line with
  | true => simp
  | false =>
    have hname : ∀ found, String.ofList found = name ↔ found = name.toList := fun found => by
      rw [← String.ofList_inj, String.ofList_toList]
    simp only [Bool.false_eq_true, if_false, true_and, List.mem_filterMap, List.mem_range,
      Option.map_eq_some_iff, Prod.mk.injEq, hname]
    constructor
    · rintro ⟨_, -, _, hat, rfl, rfl⟩
      exact hat
    · intro hat
      -- Behind the end of the line there is nothing left to begin a placeholder.
      have hcolumn : column < line.length := by
        by_contra hbeyond
        rw [List.drop_of_length_le (Nat.not_lt.mp hbeyond)] at hat
        cases hat
      exact ⟨column, hcolumn, name.toList, hat, rfl, rfl⟩

theorem mem_references_iff {p : Place} : (p, name) ∈ references lines ↔ RefersAt lines name p := by
  unfold references RefersAt
  rw [List.mem_flatMap]
  constructor
  · rintro ⟨⟨line, index⟩, hline, hfound⟩
    obtain ⟨⟨column, other⟩, hmem, hsame⟩ := List.mem_map.mp hfound
    cases hsame
    obtain ⟨hcomment, hat⟩ := mem_referencesIn_iff.mp hmem
    obtain ⟨hname, hprefix⟩ := referenceAt?_eq_some_iff_prefix.mp hat
    exact ⟨hname, line, List.mem_zipIdx_iff_getElem?.mp hline, hcomment, hprefix⟩
  · rintro ⟨hname, line, hline, hcomment, hprefix⟩
    have hat := referenceAt?_eq_some_iff_prefix.mpr ⟨hname, hprefix⟩
    exact ⟨(line, p.line), List.mem_zipIdx_iff_getElem?.mpr hline,
      List.mem_map.mpr ⟨(p.column, name), mem_referencesIn_iff.mpr ⟨hcomment, hat⟩, rfl⟩⟩

theorem pairwise_referencesIn (line : List Char) :
    (referencesIn line).Pairwise fun a b => a.1 < b.1 := by
  unfold referencesIn
  split
  · exact List.Pairwise.nil
  · refine List.Pairwise.filterMap _ ?_ List.pairwise_lt_range
    intro column column' hlt found hfound found' hfound'
    obtain ⟨_, -, rfl⟩ := Option.map_eq_some_iff.mp hfound
    obtain ⟨_, -, rfl⟩ := Option.map_eq_some_iff.mp hfound'
    exact hlt

theorem pairwise_references (lines : List (List Char)) :
    (references lines).Pairwise fun a b => a.1.Before b.1 := by
  unfold references
  rw [List.pairwise_flatMap]
  constructor
  · intro indexed _
    rw [List.pairwise_map]
    exact (pairwise_referencesIn indexed.1).imp fun hlt => Or.inr ⟨rfl, hlt⟩
  · have hindices : (lines.zipIdx.map Prod.snd).Pairwise (· < ·) := by
      rw [List.zipIdx_map_snd]
      exact List.pairwise_lt_range'
    refine (List.pairwise_map.mp hindices).imp fun hlt => ?_
    intro found hfound found' hfound'
    obtain ⟨_, -, rfl⟩ := List.mem_map.mp hfound
    obtain ⟨_, -, rfl⟩ := List.mem_map.mp hfound'
    exact Or.inl hlt

/-- Where places come in order, so do the names at them, each at its first place. -/
theorem pairwise_once {found : List (Place × String)}
    (h : found.Pairwise fun a b => a.1.Before b.1) : (once (found.map Prod.snd)).Pairwise fun a b =>
      ∃ p, (p, a) ∈ found ∧ ∀ q, (q, b) ∈ found → p.Before q := by
  induction found using List.reverseRecOn with
  | nil => exact List.Pairwise.nil
  | append_singleton found last ih =>
    obtain ⟨place, name⟩ := last
    obtain ⟨hfound, -, hlast⟩ := List.pairwise_append.mp h
    have hbefore : ∀ {p a}, (p, a) ∈ found → p.Before place := fun hmem =>
      hlast _ hmem _ List.mem_cons_self
    rw [List.map_append, List.map_singleton, once_concat]
    have hkept : (once (found.map Prod.snd)).Pairwise fun a b =>
        ∃ p, (p, a) ∈ found ++ [(place, name)] ∧
          ∀ q, (q, b) ∈ found ++ [(place, name)] → p.Before q := by
      refine (ih hfound).imp ?_
      rintro a b ⟨p, hp, hfirst⟩
      refine ⟨p, List.mem_append_left _ hp, fun q hq => ?_⟩
      rcases List.mem_append.mp hq with hq | hq
      · exact hfirst q hq
      · cases List.mem_singleton.mp hq
        exact hbefore hp
    split
    · exact hkept
    · rename_i hnew
      rw [mem_once] at hnew
      refine List.pairwise_append.mpr ⟨hkept, List.pairwise_singleton _ _, ?_⟩
      intro a ha b hb
      cases List.mem_singleton.mp hb
      obtain ⟨⟨p, _⟩, hp, rfl⟩ := List.mem_map.mp (mem_once.mp ha)
      refine ⟨p, List.mem_append_left _ hp, fun q hq => ?_⟩
      rcases List.mem_append.mp hq with hq | hq
      · exact absurd (List.mem_map_of_mem hq) hnew
      · cases List.mem_singleton.mp hq
        exact hbefore hp

/-! ## What is reported -/

/-- The references whose variables are not set. -/
def unsetReferences (env : Environment) (lines : List (List Char)) : List (Place × String) :=
  (references lines).filter fun found => (env.get? found.2).isNone

theorem mem_unsetReferences_iff {p : Place} : (p, name) ∈ unsetReferences env lines ↔
    RefersAt lines name p ∧ env.get? name = none := by
  rw [unsetReferences, List.mem_filter, mem_references_iff, Option.isNone_iff_eq_none]

theorem flatMap_missingIn (env : Environment) (text : String) :
    (Text.lines text.toList).flatMap (missingIn env) =
      (unsetReferences env (Text.lines text.toList)).map Prod.snd := by
  have hnames : (unsetReferences env (Text.lines text.toList)).map Prod.snd =
      (names text).filter fun name => (env.get? name).isNone := by
    rw [← map_snd_references, List.filter_map]
    rfl
  rw [hnames, names, List.filter_flatMap]
  refine List.flatMap_congr fun line _ => ?_
  unfold missingIn
  split <;> rfl

theorem apply_eq_error_iff {fault : ConfigurationFault} : apply env text = .error fault ↔
    once ((unsetReferences env (Text.lines text.toList)).map Prod.snd) ≠ [] ∧
      fault = .variablesMissing
        (once ((unsetReferences env (Text.lines text.toList)).map Prod.snd)) := by
  simp only [apply, flatMap_missingIn, List.isEmpty_iff]
  split
  · rename_i hempty
    simp [hempty]
  · rename_i hsome
    simp [hsome, eq_comm]

/-- The names that are collected make such a list. -/
theorem reports_once (env : Environment) (lines : List (List Char)) :
    Reports env lines (once ((unsetReferences env lines).map Prod.snd)) := by
  have hmem : ∀ name, name ∈ once ((unsetReferences env lines).map Prod.snd) ↔
      Missing env lines name := by
    intro name
    rw [mem_once, List.mem_map, Missing]
    constructor
    · rintro ⟨⟨p, _⟩, hp, rfl⟩
      obtain ⟨hrefers, hunset⟩ := mem_unsetReferences_iff.mp hp
      exact ⟨⟨p, hrefers⟩, hunset⟩
    · rintro ⟨⟨p, hrefers⟩, hunset⟩
      exact ⟨(p, name), mem_unsetReferences_iff.mpr ⟨hrefers, hunset⟩, rfl⟩
  refine ⟨nodup_once _, hmem, ?_⟩
  have hordered := pairwise_once ((pairwise_references lines).filter fun found =>
    (env.get? found.2).isNone)
  refine hordered.imp_of_mem ?_
  rintro a b - hb ⟨p, hp, hfirst⟩
  have hunset := ((hmem b).mp hb).2
  exact ⟨p, (mem_unsetReferences_iff.mp hp).1, fun q hq =>
    hfirst q (mem_unsetReferences_iff.mpr ⟨hq, hunset⟩)⟩

theorem apply_eq_missing_iff {missing : List String} :
    apply env text = .error (.variablesMissing missing) ↔
      missing ≠ [] ∧ Reports env (Text.lines text.toList) missing := by
  rw [apply_eq_error_iff, ConfigurationFault.variablesMissing.injEq]
  constructor
  · rintro ⟨hne, rfl⟩
    exact ⟨hne, reports_once env _⟩
  · rintro ⟨hne, hreports⟩
    obtain rfl := hreports.eq (reports_once env _)
    exact ⟨hne, rfl⟩

end Substitution

/-! ## Overrides and loads -/

/-- A value that cannot be read is refused with itself, and with the variable it was read from or
as a format. -/
theorem Key.fault_of_reader {k : Key} {read : String → Except ConfigurationFault k.Value}
    {given : String} {fault : ConfigurationFault} (hread : k.reader? = some read)
    (h : read given = .error fault) :
    fault = .badOverride given k.envName ∨ fault = .unknownFormat given := by
  have htyped : ∀ {α : Type} {l : Key} {parse : String → Option α},
      l.readAs parse given = .error fault → fault = .badOverride given l.envName := by
    intro α l parse h
    unfold Key.readAs at h
    split at h <;> cases h
    rfl
  have hformat : Key.readFormat given = .error fault → fault = .unknownFormat given := by
    intro h
    unfold Key.readFormat at h
    split at h <;> cases h
    rfl
  cases k <;> cases hread <;> first | exact Or.inl (htyped h) | exact Or.inr (hformat h) | cases h

namespace Overrides

/-- What an override refuses is a value, and never that there is none. -/
theorem apply_ne_missing {o : Override} (ho : o ∈ all) (s : Settings) (given : String)
    (missing : List String) : o.apply s given ≠ .error (.variablesMissing missing) := by
  rw [all_eq] at ho
  obtain ⟨k, -, hk⟩ := List.mem_filterMap.mp ho
  obtain ⟨read, hread, rfl⟩ := Option.map_eq_some_iff.mp hk
  simp only
  cases hresult : read given with
  | ok v => exact fun h => nomatch h
  | error fault =>
    intro h
    cases Except.error.inj h
    rcases Key.fault_of_reader hread hresult with hfault | hfault <;> cases hfault

theorem applyAll_ne_missing {env : Environment} {os : List Override} (hall : ∀ o ∈ os, o ∈ all)
    (s : Settings) (missing : List String) :
    applyAll env os s ≠ .error (.variablesMissing missing) := by
  induction os generalizing s with
  | nil => exact fun h => nomatch h
  | cons o rest ih =>
    obtain ⟨ho, hrest⟩ := List.forall_mem_cons.mp hall
    rw [applyAll]
    split
    · exact ih hrest s
    · rename_i given _
      split
      · exact ih hrest _
      · rename_i fault hfault
        rw [← hfault]
        exact apply_ne_missing ho s given missing

end Overrides

/-- Behind the placeholders, no variable is missing any more. -/
theorem Settings.load_eq_missing_iff {env : Environment} {text : String} {missing : List String} :
    load env text = .error (.variablesMissing missing) ↔
      Substitution.apply env text = .error (.variablesMissing missing) := by
  unfold load
  cases happly : Substitution.apply env text with
  | error fault => simp
  | ok filled =>
    simp only [reduceCtorEq, iff_false]
    split
    · simp
    · rename_i given _
      split
      · rename_i fault hfault
        rw [← hfault]
        exact Overrides.applyAll_ne_missing (fun _ ho => ho) given missing
      · split <;> simp

namespace Substitution

/-- A text cannot be filled exactly if it has, on a line that is no comment, a placeholder for a
variable that is not set, and loading settings from it then says the same. What is reported is then
the one list of all such variables, each one once, in the order in which the text first refers to
them. The values of the other variables do not count, whatever they look like, and a value that is
no Unicode text is as good as none. -/
theorem missing_variables_are_reported_exactly (env : Environment) (text : String) :
    (∀ missing, apply env text = .error (.variablesMissing missing) ↔
      missing ≠ [] ∧ Reports env (Text.lines text.toList) missing) ∧
    ((∃ missing, apply env text = .error (.variablesMissing missing)) ↔
      ∃ name, Missing env (Text.lines text.toList) name) ∧
    (∀ missing, Settings.load env text = .error (.variablesMissing missing) ↔
      apply env text = .error (.variablesMissing missing)) ∧
    (∀ env', (∀ name, env'.get? name = none ↔ env.get? name = none) → ∀ missing,
      apply env' text = .error (.variablesMissing missing) ↔
        apply env text = .error (.variablesMissing missing)) ∧
    ∀ given name, (Environment.ofBytes given).get? name = none ↔
      ∀ bytes, given.lookup name = some bytes → String.fromUTF8? bytes = none := by
  refine ⟨fun missing => apply_eq_missing_iff, ?_, fun missing => Settings.load_eq_missing_iff,
    fun env' hsame missing => ?_, fun given name => ?_⟩
  · constructor
    · rintro ⟨missing, h⟩
      obtain ⟨hne, hreports⟩ := apply_eq_missing_iff.mp h
      obtain ⟨name, hname⟩ := List.exists_mem_of_ne_nil missing hne
      exact ⟨name, (hreports.mem_iff name).mp hname⟩
    · rintro ⟨name, hname⟩
      have hreports := reports_once env (Text.lines text.toList)
      have hne := List.ne_nil_of_mem ((hreports.mem_iff name).mpr hname)
      exact ⟨_, apply_eq_missing_iff.mpr ⟨hne, hreports⟩⟩
  · have hmissing : ∀ name, Missing env' (Text.lines text.toList) name ↔
        Missing env (Text.lines text.toList) name :=
      fun name => and_congr_right fun _ => hsame name
    rw [apply_eq_missing_iff, apply_eq_missing_iff]
    refine and_congr_right fun _ => ⟨fun h => ?_, fun h => ?_⟩
    · exact ⟨h.nodup, fun name => (h.mem_iff name).trans (hmissing name), h.inOrder⟩
    · exact ⟨h.nodup, fun name => (h.mem_iff name).trans (hmissing name).symm, h.inOrder⟩
  · rw [Environment.get?_ofBytes, Option.bind_eq_none_iff]

/-- Comments, names that are none and values with placeholders in them do not count, and a name
that comes again does not count twice. -/
example : apply [("SET", "$\x7bINNER\x7d")]
    ("# $\x7bNOTED\x7d\na = '$\x7bLAST\x7d $\x7blower\x7d'\n" ++
      "b = '$\x7bSET\x7d $\x7bFIRST\x7d $\x7bLAST\x7d $\x7b$\x7bFIRST\x7d\x7d'\n") =
    .error (.variablesMissing ["LAST", "FIRST"]) := by decide +kernel

end Substitution
end WarehouseJobs

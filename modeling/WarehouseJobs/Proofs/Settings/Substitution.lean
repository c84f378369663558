-- What a settings text becomes. The placeholders are looked for in the text as it was written, but
-- the values go into a running copy of its lines, one variable after the other. So a value is
-- looked through for the names that come behind its own on the line. All values are put in at once
-- for certain only where a line has no second placeholder, or where no value has a dollar sign.
import Mathlib.Algebra.Order.BigOperators.Group.List
import Mathlib.Algebra.Order.Group.Nat
import WarehouseJobs.Proofs.Settings.Placeholders
import WarehouseJobs.Proofs.Settings.Reach

namespace WarehouseJobs
namespace Substitution

/-! ## All values at once -/

def value (env : Environment) (name : List Char) : List Char :=
  ((env.get? (String.ofList name)).getD "").toList

/-- A piece of a line with its value put in. -/
def Piece.filled (env : Environment) : Piece → List Char
  | .text c => [c]
  | .reference name => value env name

/-- A line with each of its placeholders replaced by its value, and nothing else changed. -/
def fillAtOnce (env : Environment) (line : List Char) : List Char :=
  if isComment line then line else (cut line).flatMap (Piece.filled env)

def applyAtOnce (env : Environment) (text : String) : String :=
  String.ofList ((Text.lines text.toList).flatMap fun line => fillAtOnce env line ++ ['\n'])

/-- Every variable that a text refers to is set. -/
def AllSet (env : Environment) (text : String) : Prop :=
  ∀ name ∈ names text, (env.get? name).isSome = true

/-- No more than one placeholder is looked up on any line. -/
def OnePerLine (text : String) : Prop :=
  ∀ line ∈ Text.lines text.toList, isComment line = true ∨ (namesIn line).length ≤ 1

/-- Neither a line besides its placeholders nor a value that goes into it has a dollar sign. -/
def NoDollars (env : Environment) (line : List Char) : Prop :=
  .text '$' ∉ cut line ∧ ∀ name ∈ namesIn line, '$' ∉ value env name

variable {env : Environment} {text : String} {name line rest : List Char} {c : Char}

theorem fill_of_comment (h : isComment line = true) : fill env line = line := by simp [fill, h]

theorem fillAtOnce_of_comment (h : isComment line = true) : fillAtOnce env line = line := by
  simp [fillAtOnce, h]

theorem fill_of_plain (h : isComment line = false) :
    fill env line = (namesIn line).foldl (putIn env) line := by simp [fill, h]

theorem fillAtOnce_of_plain (h : isComment line = false) :
    fillAtOnce env line = (cut line).flatMap (Piece.filled env) := by simp [fillAtOnce, h]

theorem missingIn_eq_nil (hline : line ∈ Text.lines text.toList) (h : AllSet env text) :
    missingIn env line = [] := by
  unfold missingIn
  split
  · rfl
  · rename_i hcomment
    rw [List.filter_eq_nil_iff]
    intro name hname
    obtain ⟨ref, href, rfl⟩ := List.mem_map.mp hname
    have hset := h _ (mem_names hline (by simpa using hcomment) href)
    rw [Option.isNone_iff_eq_none]
    exact Option.ne_none_iff_isSome.mpr hset

/-- A text can be filled once its variables are set. -/
theorem apply_eq (h : AllSet env text) : apply env text =
    .ok (String.ofList ((Text.lines text.toList).flatMap fun line => fill env line ++ ['\n'])) := by
  have hmissing : (Text.lines text.toList).flatMap (missingIn env) = [] :=
    List.flatMap_eq_nil_iff.mpr fun line hline => missingIn_eq_nil hline h
  simp [apply, hmissing, once]

theorem apply_eq_applyAtOnce (h : AllSet env text)
    (hfill : ∀ line ∈ Text.lines text.toList, fill env line = fillAtOnce env line) :
    apply env text = .ok (applyAtOnce env text) := by
  have hlines : ((Text.lines text.toList).flatMap fun line => fill env line ++ ['\n']) =
      (Text.lines text.toList).flatMap fun line => fillAtOnce env line ++ ['\n'] :=
    List.flatMap_congr fun line hline => by rw [hfill line hline]
  rw [apply_eq h, hlines, applyAtOnce]

/-- The value of a variable that is set goes in. -/
theorem putIn_eq (hset : (env.get? (String.ofList name)).isSome = true) (line : List Char) :
    putIn env line name = Text.replaceAll (placeholder name) (value env name) line := by
  obtain ⟨given, hgiven⟩ := Option.isSome_iff_exists.mp hset
  simp [putIn, value, hgiven]

/-! ## Lines that are filled at once -/

/-- Every variable that a line refers to is set. -/
def SetIn (env : Environment) (line : List Char) : Prop :=
  ∀ name ∈ namesIn line, (env.get? (String.ofList name)).isSome = true

theorem AllSet.setIn (h : AllSet env text) (hline : line ∈ Text.lines text.toList)
    (hcomment : isComment line = false) : SetIn env line :=
  fun _ hname => h _ (mem_names hline hcomment hname)

/-- A line with no second placeholder is filled at once. -/
theorem foldl_putIn_of_single (hset : SetIn env line) (h : (namesIn line).length ≤ 1) :
    (namesIn line).foldl (putIn env) line = (cut line).flatMap (Piece.filled env) := by
  cases hnames : namesIn line with
  | nil =>
    have hpieces : ∀ piece ∈ cut line, piece.source = piece.filled env := by
      intro piece hpiece
      cases piece with
      | text c => rfl
      | reference other =>
        rw [← mem_namesIn_iff, hnames] at hpiece
        cases hpiece
    rw [List.foldl_nil, ← List.flatMap_congr hpieces, flatMap_source_cut]
  | cons name later =>
    rw [hnames, List.length_cons] at h
    have hlater : later = [] := List.length_eq_zero_iff.mp (by omega)
    subst hlater
    have hmem : name ∈ namesIn line := by simp [hnames]
    have hpieces : ∀ piece ∈ cut line, piece.put name (value env name) = piece.filled env := by
      intro piece hpiece
      cases piece with
      | text c => rfl
      | reference other =>
        rw [← mem_namesIn_iff, hnames, List.mem_singleton] at hpiece
        simp [Piece.put, Piece.filled, hpiece]
    rw [List.foldl_cons, List.foldl_nil, putIn_eq (hset name hmem),
      replaceAll_eq (isName_of_mem hmem), List.flatMap_congr hpieces]

/-- A piece of a line while some of the variables have got their values. -/
def Piece.filledSoFar (env : Environment) (done : List (List Char)) : Piece → List Char
  | .text c => [c]
  | .reference name => if name ∈ done then value env name else placeholder name

/-- The next value goes to the placeholders of its variable, behind all values without a dollar
sign. -/
theorem replaceAll_filledSoFar {done : List (List Char)} {pieces : List Piece} (hname : IsName name)
    (hdollar : .text '$' ∉ pieces) (hnames : ∀ other, .reference other ∈ pieces → IsName other)
    (hvalues : ∀ other, .reference other ∈ pieces → '$' ∉ value env other) :
    Text.replaceAll (placeholder name) (value env name)
        (pieces.flatMap (Piece.filledSoFar env done)) =
      pieces.flatMap (Piece.filledSoFar env (name :: done)) := by
  induction pieces with
  | nil => exact Text.replaceAll_nil
  | cons piece pieces ih =>
    rw [List.mem_cons, not_or] at hdollar
    have hrest := ih hdollar.2 (fun other h => hnames other (List.mem_cons_of_mem piece h))
      (fun other h => hvalues other (List.mem_cons_of_mem piece h))
    rw [List.flatMap_cons, List.flatMap_cons, ← hrest]
    cases piece with
    | text c =>
      have hc : '$' ∉ [c] := by
        rw [List.mem_singleton]
        rintro rfl
        exact hdollar.1 rfl
      exact Text.replaceAll_append hc _
    | reference other =>
      have hother : '$' ∉ value env other := hvalues other List.mem_cons_self
      rw [Piece.filledSoFar, Piece.filledSoFar]
      by_cases hdone : other ∈ done
      · rw [if_pos hdone, if_pos (List.mem_cons_of_mem name hdone)]
        exact Text.replaceAll_append hother _
      · rw [if_neg hdone]
        by_cases hsame : other = name
        · subst hsame
          rw [if_pos List.mem_cons_self]
          exact Text.replaceAll_needle (placeholder_ne_nil other) _
        · rw [if_neg (by simp [hsame, hdone])]
          exact replaceAll_placeholder hname (hnames other List.mem_cons_self) hsame _ _

/-- Values without a dollar sign make no placeholder, so the line is filled at once. -/
theorem foldl_putIn_of_noDollars (hset : SetIn env line) (h : NoDollars env line) :
    (namesIn line).foldl (putIn env) line = (cut line).flatMap (Piece.filled env) := by
  obtain ⟨hdollar, hvalues⟩ := h
  -- `done` grows by the names that the fold has gone through.
  have hsteps : ∀ (todo done : List (List Char)), (∀ name ∈ todo, name ∈ namesIn line) →
      todo.foldl (putIn env) ((cut line).flatMap (Piece.filledSoFar env done)) =
        (cut line).flatMap (Piece.filledSoFar env (todo.reverse ++ done)) := by
    intro todo
    induction todo with
    | nil => exact fun _ _ => rfl
    | cons name todo ih =>
      intro done htodo
      have hname : name ∈ namesIn line := htodo name List.mem_cons_self
      rw [List.foldl_cons, putIn_eq (hset name hname),
        replaceAll_filledSoFar (isName_of_mem hname) hdollar
          (fun other hother => isName_of_mem (mem_namesIn_iff.mpr hother))
          (fun other hother => hvalues other (mem_namesIn_iff.mpr hother)),
        ih (name :: done) fun other hother => htodo other (List.mem_cons_of_mem name hother)]
      simp
  have hstart : (cut line).flatMap (Piece.filledSoFar env []) = line := by
    have hpieces : ∀ piece ∈ cut line, Piece.filledSoFar env [] piece = piece.source := by
      rintro (c | other) - <;> simp [Piece.filledSoFar, Piece.source]
    rw [List.flatMap_congr hpieces, flatMap_source_cut]
  have hend : ∀ piece ∈ cut line,
      Piece.filledSoFar env ((namesIn line).reverse ++ []) piece = piece.filled env := by
    intro piece hpiece
    cases piece with
    | text c => rfl
    | reference other =>
      have hmem : other ∈ namesIn line := mem_namesIn_iff.mpr hpiece
      simp [Piece.filledSoFar, Piece.filled, hmem]
  have hall := hsteps (namesIn line) [] fun _ hname => hname
  rw [hstart, List.flatMap_congr hend] at hall
  exact hall

/-! ## Lines that are not -/

/-- The value that tells the two ways apart: each variable refers to `echo`, and the variable `echo`
itself puts a space in front. So a space more is found for each time that `echo` has been put in. -/
def echoed (echo name : List Char) : List Char :=
  if name = echo then ' ' :: placeholder echo else placeholder echo

/-- The environment in which each variable of a text has that value. -/
def echoing (text : String) (echo : List Char) : Environment :=
  (names text).map fun name => (name, String.ofList (echoed echo name.toList))

theorem get?_echoing {echo : List Char} (h : String.ofList name ∈ names text) :
    (echoing text echo).get? (String.ofList name) = some (String.ofList (echoed echo name)) := by
  unfold echoing Environment.get?
  generalize names text = all at h
  induction all with
  | nil => cases h
  | cons first rest ih =>
    rw [List.map_cons, List.lookup_cons]
    by_cases hfirst : String.ofList name = first
    · subst hfirst
      simp
    · have hother : (String.ofList name == first) = false := by simp [hfirst]
      rw [hother]
      exact ih ((List.mem_cons.mp h).resolve_left hfirst)

theorem allSet_echoing (echo : List Char) : AllSet (echoing text echo) text := by
  intro name hname
  rw [← String.ofList_toList (s := name)] at hname ⊢
  rw [get?_echoing hname]
  rfl

/-- Joining texts keeps their names, and may make new ones. -/
theorem namesIn_append_sublist (before rest : List Char) :
    (namesIn before ++ namesIn rest).Sublist (namesIn (before ++ rest)) := by
  induction before with
  | nil => exact List.Sublist.refl _
  | cons c before ih =>
    rw [List.cons_append, namesIn_cons, namesIn_cons, List.append_assoc]
    refine List.Sublist.append ?_ ih
    cases hat : referenceAt? (c :: before) with
    | none => exact List.nil_sublist _
    | some name =>
      obtain ⟨hname, behind, hbehind⟩ := referenceAt?_eq_some_iff.mp hat
      have hstill : referenceAt? (c :: (before ++ rest)) = some name := by
        refine referenceAt?_eq_some_iff.mpr ⟨hname, behind ++ rest, ?_⟩
        rw [← List.cons_append, hbehind, List.append_assoc]
      rw [hstill]

section Counting

variable {echo : List Char}

theorem IsName.no_space (h : IsName name) : ' ' ∉ name := h.not_mem (by decide)

@[simp] theorem count_space_placeholder (h : IsName name) : (placeholder name).count ' ' = 0 := by
  simp [placeholder, List.count_eq_zero_of_not_mem h.no_space]

theorem count_space_echoed (hecho : IsName echo) :
    (echoed echo name).count ' ' = if name = echo then 1 else 0 := by
  unfold echoed
  split <;> simp [hecho]

theorem count_names_echoed (hecho : IsName echo) : (namesIn (echoed echo name)).count echo = 1 := by
  have hnames : namesIn (placeholder echo) = [echo] := by
    simpa [namesIn] using namesIn_placeholder hecho []
  unfold echoed
  split
  · rw [namesIn_cons_of_ne (by decide), hnames, List.count_singleton_self]
  · rw [hnames, List.count_singleton_self]

/-- All at once, each `echo` of a line makes one space. -/
theorem count_space_filled (hecho : IsName echo)
    (hvalue : ∀ name ∈ namesIn line, value env name = echoed echo name) :
    ((cut line).flatMap (Piece.filled env)).count ' ' =
      line.count ' ' + (namesIn line).count echo := by
  induction line using line_induction with
  | nil => simp [cut, cutFrom, namesIn]
  | reference name rest hname ih =>
    rw [namesIn_placeholder hname] at hvalue ⊢
    have hrest := ih fun other hother => hvalue other (List.mem_cons_of_mem name hother)
    rw [cut_placeholder hname, List.flatMap_cons, List.count_append, hrest, Piece.filled,
      hvalue name List.mem_cons_self, count_space_echoed hecho, List.count_append,
      count_space_placeholder hname, List.count_cons]
    simp only [beq_iff_eq]
    omega
  | char c rest hat ih =>
    rw [namesIn_cons, hat] at hvalue ⊢
    have hrest := ih hvalue
    rw [cut_cons hat, List.flatMap_cons, List.count_append, hrest, Piece.filled]
    simp only [Option.toList_none, List.nil_append, List.count_cons, List.count_nil]
    omega

/-- Put in by itself, a name makes a space for each of its placeholders if it is `echo`. -/
theorem count_space_put (hecho : IsName echo) (name line : List Char) :
    ((cut line).flatMap (Piece.put name (echoed echo name))).count ' ' =
      line.count ' ' + if name = echo then (namesIn line).count echo else 0 := by
  induction line using line_induction with
  | nil => simp [cut, cutFrom, namesIn]
  | reference other rest hother ih =>
    rw [cut_placeholder hother, List.flatMap_cons, List.count_append, ih, Piece.put,
      namesIn_placeholder hother, List.count_append, count_space_placeholder hother,
      List.count_cons]
    by_cases hname : other = name
    · subst hname
      rw [if_pos rfl, count_space_echoed hecho]
      simp only [beq_iff_eq]
      split <;> omega
    · rw [if_neg hname, count_space_placeholder hother]
      by_cases hsame : name = echo
      · subst hsame
        simp [hname]
      · simp [hsame]
  | char c rest hat ih =>
    rw [cut_cons hat, List.flatMap_cons, List.count_append, ih, Piece.put, namesIn_cons, hat]
    simp only [Option.toList_none, List.nil_append, List.count_cons, List.count_nil]
    omega

/-- Put in by itself, a name leaves all placeholders of `echo`, and makes one out of each of its
own. -/
theorem count_names_put (hecho : IsName echo) (name line : List Char) :
    (namesIn line).count echo + (if name = echo then 0 else (namesIn line).count name) ≤
      (namesIn ((cut line).flatMap (Piece.put name (echoed echo name)))).count echo := by
  induction line using line_induction with
  | nil => simp [cut, cutFrom, namesIn]
  | reference other rest hother ih =>
    rw [cut_placeholder hother, List.flatMap_cons, namesIn_placeholder hother]
    have hjoin := (namesIn_append_sublist (Piece.put name (echoed echo name) (.reference other))
      ((cut rest).flatMap (Piece.put name (echoed echo name)))).count_le echo
    rw [List.count_append] at hjoin
    have hfirst : (namesIn (Piece.put name (echoed echo name) (.reference other))).count echo =
        if other = name then 1 else if other = echo then 1 else 0 := by
      unfold Piece.put
      by_cases hname : other = name
      · simp [hname, count_names_echoed hecho]
      · have hnames : namesIn (placeholder other) = [other] := by
          simpa [namesIn] using namesIn_placeholder hother []
        simp [hname, hnames, List.count_cons]
    rw [hfirst] at hjoin
    simp only [List.count_cons, beq_iff_eq]
    split at hjoin <;> split at ih <;> simp_all <;> omega
  | char c rest hat ih =>
    rw [cut_cons hat, List.flatMap_cons, namesIn_cons, hat]
    have hjoin := (namesIn_append_sublist [c]
      ((cut rest).flatMap (Piece.put name (echoed echo name)))).count_le echo
    rw [List.count_append] at hjoin
    exact le_trans ih (le_trans (Nat.le_add_left _ _) hjoin)

/-- Each of these names has its echoing value. -/
def Echoes (env : Environment) (echo : List Char) (todo : List (List Char)) : Prop :=
  ∀ name ∈ todo, IsName name ∧
    env.get? (String.ofList name) = some (String.ofList (echoed echo name))

theorem echoes_namesIn (hline : line ∈ Text.lines text.toList) (hcomment : isComment line = false) :
    Echoes (echoing text echo) echo (namesIn line) :=
  fun _ hname => ⟨isName_of_mem hname, get?_echoing (mem_names hline hcomment hname)⟩

theorem Echoes.putIn_eq {todo : List (List Char)} (h : Echoes env echo todo) (hname : name ∈ todo)
    (line : List Char) :
    putIn env line name = (cut line).flatMap (Piece.put name (echoed echo name)) := by
  obtain ⟨hisName, hget⟩ := h name hname
  rw [← replaceAll_eq hisName]
  simp [putIn, hget]

/-- However a line has come about, its placeholders of `echo` make a space each once `echo` has its
turn. -/
theorem count_space_foldl (hecho : IsName echo) {todo : List (List Char)}
    (h : Echoes env echo todo) (line : List Char) :
    line.count ' ' + (if echo ∈ todo then (namesIn line).count echo else 0) ≤
      (todo.foldl (putIn env) line).count ' ' := by
  induction todo generalizing line with
  | nil => simp
  | cons name todo ih =>
    have hspaces := count_space_put hecho name line
    have hnames := count_names_put hecho name line
    rw [← h.putIn_eq List.mem_cons_self] at hspaces hnames
    have hrest := ih (fun other hother => h other (List.mem_cons_of_mem name hother))
      (putIn env line name)
    rw [List.foldl_cons]
    refine le_trans ?_ hrest
    rw [hspaces]
    by_cases hsame : name = echo
    · rw [if_pos hsame, if_pos (by simp [hsame])]
      omega
    · have hmem : echo ∈ name :: todo ↔ echo ∈ todo := by simp [Ne.symm hsame]
      simp only [hmem, if_neg hsame]
      split <;> omega

/-- In the echoing environment of its text, a line filled at once has a space more for each `echo`
in it. -/
theorem count_space_fillAtOnce (hecho : IsName echo) (hline : line ∈ Text.lines text.toList)
    (hcomment : isComment line = false) :
    (fillAtOnce (echoing text echo) line).count ' ' =
      line.count ' ' + (namesIn line).count echo := by
  rw [fillAtOnce_of_plain hcomment]
  refine count_space_filled hecho fun name hname => ?_
  simp [value, (echoes_namesIn hline hcomment name hname).2]

/-- One after the other makes no fewer spaces than all at once. -/
theorem count_space_fillAtOnce_le (hecho : IsName echo) (hline : line ∈ Text.lines text.toList) :
    (fillAtOnce (echoing text echo) line).count ' ' ≤
      (fill (echoing text echo) line).count ' ' := by
  cases hcomment : isComment line with
  | true => rw [fill_of_comment hcomment, fillAtOnce_of_comment hcomment]
  | false =>
    have hfold := count_space_foldl hecho (echoes_namesIn hline hcomment) line
    rw [count_space_fillAtOnce hecho hline hcomment, fill_of_plain hcomment]
    split at hfold
    · exact hfold
    · rename_i hnone
      rw [List.count_eq_zero_of_not_mem hnone]
      exact hfold

/-- If `echo` comes behind another placeholder, it makes more. -/
theorem count_space_fillAtOnce_lt (hecho : IsName echo) (hline : line ∈ Text.lines text.toList)
    (hcomment : isComment line = false) {later : List (List Char)}
    (hnames : namesIn line = name :: later) (hlater : echo ∈ later) :
    (fillAtOnce (echoing text echo) line).count ' ' <
      (fill (echoing text echo) line).count ' ' := by
  have hechoes : Echoes (echoing text echo) echo (namesIn line) := echoes_namesIn hline hcomment
  rw [count_space_fillAtOnce hecho hline hcomment, fill_of_plain hcomment]
  have hspaces := count_space_put hecho name line
  have hcount := count_names_put hecho name line
  rw [hnames] at hechoes
  rw [← hechoes.putIn_eq List.mem_cons_self] at hspaces hcount
  have hfold := count_space_foldl hecho
    (fun other hother => hechoes other (List.mem_cons_of_mem name hother))
    (putIn (echoing text echo) line name)
  rw [if_pos hlater, hspaces] at hfold
  rw [hnames] at hcount hfold ⊢
  rw [List.foldl_cons]
  refine lt_of_lt_of_le ?_ hfold
  have hone : 0 < later.count echo := List.count_pos_iff.mpr hlater
  have hfirst : 0 < (name :: later).count name := List.count_pos_iff.mpr List.mem_cons_self
  rw [List.count_cons] at hcount ⊢
  by_cases hsame : name = echo
  · simp only [hsame] at hcount ⊢
    simp only [beq_self_eq_true, if_true] at hcount ⊢
    omega
  · simp only [hsame, if_false] at hcount ⊢
    omega

end Counting

/-- With two placeholders on a line, some environment tells the two ways apart. -/
theorem onePerLine_of_apply
    (h : ∀ env, AllSet env text → apply env text = .ok (applyAtOnce env text)) :
    OnePerLine text := by
  intro line hline
  by_contra hbad
  rw [not_or, Bool.not_eq_true, not_le] at hbad
  obtain ⟨hcomment, hlength⟩ := hbad
  obtain ⟨first, echo, later, hnames⟩ : ∃ first echo later,
      namesIn line = first :: echo :: later := by
    match hnames : namesIn line, hlength with
    | first :: echo :: later, _ => exact ⟨first, echo, later, rfl⟩
  have hmem : echo ∈ namesIn line := by simp [hnames]
  have hecho : IsName echo := isName_of_mem hmem
  have hboth := h (echoing text echo) (allSet_echoing echo)
  rw [apply_eq (allSet_echoing echo), applyAtOnce] at hboth
  have hsame := congrArg (List.count ' ') (String.ofList_inj.mp (Except.ok.inj hboth))
  rw [List.count_flatMap, List.count_flatMap] at hsame
  refine absurd hsame (ne_of_gt (List.sum_lt_sum _ _ ?_ ⟨line, hline, ?_⟩))
  · intro other hother
    simpa using count_space_fillAtOnce_le hecho hother
  · simpa using count_space_fillAtOnce_lt hecho hline hcomment hnames List.mem_cons_self

/-! ## What a text becomes -/

/-- A text can be filled exactly if all its variables are set, and its comment lines stay as they
are. Whatever the values are, the text comes out with all of them put in at once exactly if it has
at most one placeholder on each line. On other lines this still holds while there is no dollar sign
that a value could make a placeholder of. -/
theorem text_is_filled_at_once_iff (text : String) :
    (∀ env, AllSet env text ↔ ∃ filled, apply env text = .ok filled) ∧
    (∀ env, AllSet env text → apply env text = .ok (String.ofList
      ((Text.lines text.toList).flatMap fun line => fill env line ++ ['\n']))) ∧
    (∀ env line, isComment line = true → fill env line = line) ∧
    ((∀ env, AllSet env text → apply env text = .ok (applyAtOnce env text)) ↔ OnePerLine text) ∧
    (∀ env, AllSet env text →
      (∀ line ∈ Text.lines text.toList, isComment line = true ∨ (namesIn line).length ≤ 1 ∨
        NoDollars env line) →
      apply env text = .ok (applyAtOnce env text)) := by
  have hmixed : ∀ env, AllSet env text →
      (∀ line ∈ Text.lines text.toList, isComment line = true ∨ (namesIn line).length ≤ 1 ∨
        NoDollars env line) →
      apply env text = .ok (applyAtOnce env text) := by
    intro env hset hlines
    refine apply_eq_applyAtOnce hset fun line hline => ?_
    cases hcomment : isComment line with
    | true => rw [fill_of_comment hcomment, fillAtOnce_of_comment hcomment]
    | false =>
      have hsetIn := hset.setIn hline hcomment
      rw [fill_of_plain hcomment, fillAtOnce_of_plain hcomment]
      rcases hlines line hline with h | h | h
      · simp [hcomment] at h
      · exact foldl_putIn_of_single hsetIn h
      · exact foldl_putIn_of_noDollars hsetIn h
  refine ⟨fun env => ⟨fun h => ⟨_, apply_eq h⟩, ?_⟩, fun env h => apply_eq h,
    fun env line h => fill_of_comment h, ⟨onePerLine_of_apply, fun hone env hset => ?_⟩, hmixed⟩
  · rintro ⟨filled, hfilled⟩ name hname
    exact isSome_of_apply hfilled hname
  · exact hmixed env hset fun line hline => (hone line hline).imp id Or.inl

/-- A value that names a variable of the same line is looked through. -/
theorem value_is_substituted_again :
    ¬ ∀ env text, AllSet env text → apply env text = .ok (applyAtOnce env text) := by
  intro h
  have hboth := h [("FIRST", "$\x7bSECOND\x7d"), ("SECOND", "EU")]
    "location = \"$\x7bFIRST\x7d $\x7bSECOND\x7d\"" (by unfold AllSet; decide +kernel)
  revert hboth
  decide +kernel

end Substitution
end WarehouseJobs

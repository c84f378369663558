-- Addresses of the web whose text ends in segments that stand for themselves. What stands in
-- front of the segments makes the start of the path, whatever they are; then they follow, encoded.
import Mathlib.Data.List.TakeDrop
import Mathlib.Data.List.TakeWhile
import WarehouseJobs.Proofs.Url.Encoding
import WarehouseJobs.Url.Address

namespace WarehouseJobs.Url

/-! ## Segments -/

/-- What has a meaning of its own in an address, or is dropped from it. -/
def marks : List Char := ['/', '\\', '?', '#', '%', '\t', '\n', '\r']

/-- A text that stands for itself as a segment of a path. -/
structure IsSegment (cs : List Char) : Prop where
  plain : ∀ c ∈ cs, c ∉ marks
  ends : ∀ c, cs.getLast? = some c → 0x20 < c.toNat
  notHere : cs ≠ ['.']
  notAbove : cs ≠ ['.', '.']

instance (cs : List Char) : Decidable (IsSegment cs) :=
  decidable_of_iff (cs.all (fun c => !marks.contains c) = true ∧
      cs.getLast?.all (fun c => decide (0x20 < c.toNat)) = true ∧ cs ≠ ['.'] ∧ cs ≠ ['.', '.'])
    ⟨fun ⟨hplain, hends, hhere, habove⟩ =>
        ⟨by simpa using hplain, by simpa [Option.all_eq_true] using hends, hhere, habove⟩,
      fun h => ⟨by simpa using h.plain, by simpa [Option.all_eq_true] using h.ends, h.notHere,
        h.notAbove⟩⟩

/-- Segments, with a slash in front of each. -/
def slashed (segments : List (List Char)) : List Char :=
  segments.flatMap fun segment => '/' :: segment

variable {segments others : List (List Char)} {segment before : List Char}

theorem slashed_cons : slashed (segment :: segments) = '/' :: (segment ++ slashed segments) := rfl

theorem slashed_append : slashed (others ++ segments) = slashed others ++ slashed segments :=
  List.flatMap_append

theorem mem_slashed {c : Char} (h : c ∈ slashed segments) : c = '/' ∨ ∃ s ∈ segments, c ∈ s := by
  obtain ⟨s, hs, hc⟩ := List.mem_flatMap.mp h
  rcases List.mem_cons.mp hc with rfl | hc
  · exact .inl rfl
  · exact .inr ⟨s, hs, hc⟩

theorem takeWhile_slashed (h : '/' ∉ segment) :
    (segment ++ slashed segments).takeWhile (· ≠ '/') = segment := by
  rw [List.takeWhile_append_of_pos fun c hc => by
    simp only [ne_eq, decide_eq_true_eq]
    rintro rfl
    exact h hc]
  cases segments with
  | nil => simp [slashed]
  | cons s rest => simp [slashed_cons]

/-- Segments without slashes can be told from what they make together. -/
theorem slashed_injective (hs : ∀ s ∈ segments, '/' ∉ s) (ho : ∀ s ∈ others, '/' ∉ s)
    (h : slashed segments = slashed others) : segments = others := by
  induction segments generalizing others with
  | nil =>
    cases others with
    | nil => rfl
    | cons other rest => cases h
  | cons segment rest ih =>
    cases others with
    | nil => cases h
    | cons other others =>
      obtain ⟨hsegment, hrest⟩ := List.forall_mem_cons.mp hs
      obtain ⟨hother, hothers⟩ := List.forall_mem_cons.mp ho
      rw [slashed_cons, slashed_cons, List.cons.injEq] at h
      have hfirst := congrArg (List.takeWhile (· ≠ '/')) h.2
      rw [takeWhile_slashed hsegment, takeWhile_slashed hother] at hfirst
      subst hfirst
      rw [ih hrest hothers (List.append_cancel_left h.2)]

theorem IsSegment.ne_percent {c : Char} (h : IsSegment segment) (hc : c ∈ segment) : c ≠ '%' := by
  rintro rfl
  exact h.plain _ hc (by decide)

theorem IsSegment.no_slash_encoded (h : IsSegment segment) : '/' ∉ encode keptInPath segment := by
  intro hmem
  rcases mem_encode hmem with hc | hc | hc
  · exact h.plain _ hc (by decide)
  · cases hc
  · cases hc

theorem decoded_segments (h : ∀ s ∈ segments, IsSegment s) :
    (segments.map (encode keptInPath)).map decode? = segments.map some := by
  rw [List.map_map]
  exact List.map_congr_left fun s hs => decode?_encode fun c hc _ => (h s hs).ne_percent hc

/-- Encoded segments can be told apart. -/
theorem encoded_injective (hs : ∀ s ∈ segments, IsSegment s) (ho : ∀ s ∈ others, IsSegment s)
    (h : slashed (segments.map (encode keptInPath)) = slashed (others.map (encode keptInPath))) :
    segments = others := by
  have hno : ∀ segments : List (List Char), (∀ s ∈ segments, IsSegment s) →
      ∀ s ∈ segments.map (encode keptInPath), '/' ∉ s := by
    intro segments hall s hmem
    obtain ⟨segment, hsegment, rfl⟩ := List.mem_map.mp hmem
    exact (hall segment hsegment).no_slash_encoded
  have hread := congrArg (List.map decode?) (slashed_injective (hno _ hs) (hno _ ho) h)
  rw [decoded_segments hs, decoded_segments ho] at hread
  exact List.map_injective_iff.mpr (fun _ _ => Option.some.inj) hread

/-! ## What is read of them -/

theorem segmentsOf_ne_nil (kind : SchemeKind) (cs : List Char) : segmentsOf kind cs ≠ [] := by
  cases cs with
  | nil => simp [segmentsOf]
  | cons c cs =>
    unfold segmentsOf
    split
    · simp
    · split <;> simp

theorem segmentsOf_slash (cs : List Char) :
    segmentsOf .web (before ++ '/' :: cs) = segmentsOf .web before ++ segmentsOf .web cs := by
  induction before with
  | nil => rfl
  | cons c rest ih =>
    rw [List.cons_append, segmentsOf, segmentsOf, ih]
    split
    · rfl
    · cases hrest : segmentsOf .web rest with
      | nil => exact absurd hrest (segmentsOf_ne_nil _ _)
      | cons s more => rfl

theorem segmentsOf_plain (h : ∀ c ∈ segment, isSlash .web c = false) :
    segmentsOf .web segment = [segment] := by
  induction segment with
  | nil => rfl
  | cons c rest ih =>
    obtain ⟨hc, hrest⟩ := List.forall_mem_cons.mp h
    rw [segmentsOf, if_neg (by simp [hc]), ih hrest]

theorem IsSegment.no_slash {c : Char} (h : IsSegment segment) (hc : c ∈ segment) :
    isSlash .web c = false := by
  unfold isSlash
  rw [Bool.or_eq_false_iff, Bool.and_eq_false_iff]
  refine ⟨decide_eq_false ?_, .inl (decide_eq_false ?_)⟩
  · rintro rfl
    exact h.plain _ hc (by decide)
  · rintro rfl
    exact h.plain _ hc (by decide)

theorem segmentsOf_slashed (h : ∀ s ∈ segments, IsSegment s) (before : List Char) :
    segmentsOf .web (before ++ slashed segments) = segmentsOf .web before ++ segments := by
  induction segments generalizing before with
  | nil =>
    rw [show slashed [] = [] from rfl, List.append_nil, List.append_nil]
  | cons segment rest ih =>
    obtain ⟨hsegment, hrest⟩ := List.forall_mem_cons.mp h
    rw [slashed_cons, segmentsOf_slash, ih hrest, segmentsOf_plain fun c => hsegment.no_slash]
    rfl

/-- Only letters come of letters in lower case. -/
theorem eq_of_toLower {c d : Char} (h : c.toLower = d) (hd : ¬ ('a' ≤ d ∧ d ≤ 'z')) : c = d := by
  unfold Char.toLower at h
  split at h
  · rename_i hupper
    refine absurd ?_ hd
    subst h
    obtain ⟨hlow, hhigh⟩ := hupper
    rw [ge_iff_le, UInt32.le_iff_toNat_le] at hlow
    rw [UInt32.le_iff_toNat_le] at hhigh
    have hA : ('A'.val).toNat = 65 := rfl
    have hZ : ('Z'.val).toNat = 90 := rfl
    have hsum : (c.val + ('a'.val - 'A'.val)).toNat = c.val.toNat + 32 := by
      rw [UInt32.toNat_add, show ('a'.val - 'A'.val).toNat = 32 from rfl]
      omega
    have ha : ('a'.val).toNat = 97 := rfl
    have hz : ('z'.val).toNat = 122 := rfl
    refine ⟨Char.le_def.mpr (UInt32.le_iff_toNat_le.mpr ?_),
      Char.le_def.mpr (UInt32.le_iff_toNat_le.mpr ?_)⟩
    · show _ ≤ (c.val + ('a'.val - 'A'.val)).toNat
      omega
    · show (c.val + ('a'.val - 'A'.val)).toNat ≤ _
      omega
  · exact h

theorem dots_of_toLower {dots : List Char} (h : segment.map Char.toLower = dots)
    (hdots : ∀ d ∈ dots, ¬ ('a' ≤ d ∧ d ≤ 'z')) : segment = dots := by
  induction segment generalizing dots with
  | nil => exact h
  | cons c rest ih =>
    subst h
    obtain ⟨hc, hrest⟩ := List.forall_mem_cons.mp hdots
    rw [List.map_cons, ← ih rfl hrest, ← eq_of_toLower rfl hc]

/-- A segment without a percent sign is no spelling of a dot segment but the plain one. -/
theorem IsSegment.not_spelled (h : IsSegment segment) {spellings : List String} (dots : String)
    (hdots : ∀ d ∈ dots.toList, ¬ ('a' ≤ d ∧ d ≤ 'z')) (hne : segment ≠ dots.toList)
    (hspelled : ∀ s ∈ spellings, s ≠ dots → ∃ before after, s.toList = before ++ '%' :: after) :
    spellings.contains (String.ofList (segment.map Char.toLower)) = false := by
  rw [List.contains_eq_mem, decide_eq_false_iff_not]
  intro hmem
  by_cases hsame : String.ofList (segment.map Char.toLower) = dots
  · refine hne (dots_of_toLower ?_ hdots)
    rw [← hsame, String.toList_ofList]
  · obtain ⟨before, after, hsplit⟩ := hspelled _ hmem hsame
    rw [String.toList_ofList] at hsplit
    have hpercent : '%' ∈ segment.map Char.toLower := by rw [hsplit]; simp
    obtain ⟨c, hc, hlower⟩ := List.mem_map.mp hpercent
    exact h.ne_percent hc (eq_of_toLower hlower (by decide))

theorem IsSegment.isHere_eq (h : IsSegment segment) : isHere segment = false := by
  refine h.not_spelled "." (List.forall_mem_singleton.mpr (by decide)) h.notHere ?_
  intro s hs hother
  rcases List.mem_cons.mp hs with rfl | hs
  · exact absurd rfl hother
  · rw [List.mem_singleton.mp hs]
    exact ⟨[], ['2', 'e'], rfl⟩

theorem IsSegment.isAbove_eq (h : IsSegment segment) : isAbove segment = false := by
  refine h.not_spelled ".." (List.forall_mem_cons.mpr ⟨by decide,
    List.forall_mem_singleton.mpr (by decide)⟩) h.notAbove ?_
  intro s hs hother
  rcases List.mem_cons.mp hs with rfl | hs
  · exact absurd rfl hother
  rcases List.mem_cons.mp hs with rfl | hs
  · exact ⟨[], ['2', 'e', '%', '2', 'e'], rfl⟩
  rcases List.mem_cons.mp hs with rfl | hs
  · exact ⟨[], ['2', 'e', '.'], rfl⟩
  · rw [List.mem_singleton.mp hs]
    exact ⟨['.'], ['2', 'e'], rfl⟩

theorem follow_segments (done : List (List Char)) (h : ∀ s ∈ segments, IsSegment s)
    (hne : segments ≠ []) : follow done segments = done ++ segments.map (encode keptInPath) := by
  induction segments generalizing done with
  | nil => exact absurd rfl hne
  | cons segment rest ih =>
    obtain ⟨hsegment, hrest⟩ := List.forall_mem_cons.mp h
    cases rest with
    | nil => simp [follow, hsegment.isHere_eq, hsegment.isAbove_eq]
    | cons s more =>
      rw [follow, if_neg (by simp [hsegment.isAbove_eq]), if_neg (by simp [hsegment.isHere_eq]),
        ih _ hrest (by simp)]
      · simp
      · simp

/-- Segments at the end of a path are added to what the segments before them lead to. -/
theorem follow_append (done before : List (List Char)) : ∃ start, ∀ segments : List (List Char),
    (∀ s ∈ segments, IsSegment s) → segments ≠ [] →
      follow done (before ++ segments) = start ++ segments.map (encode keptInPath) := by
  induction before generalizing done with
  | nil => exact ⟨done, fun segments h hne => follow_segments done h hne⟩
  | cons segment rest ih =>
    have hstep : ∀ segments : List (List Char), segments ≠ [] →
        follow done (segment :: rest ++ segments) =
          follow (if isAbove segment then leaveLast done else if isHere segment then done
            else done ++ [encode keptInPath segment]) (rest ++ segments) := by
      intro segments hne
      rw [List.cons_append, follow]
      · split
        · rfl
        · split <;> rfl
      · simpa using fun _ => hne
    obtain ⟨start, hstart⟩ := ih _
    exact ⟨start, fun segments h hne => (hstep segments hne).trans (hstart segments h hne)⟩

/-- What stands in front of the segments in the text of a path: nothing, or a slash first. -/
def LeadsPath (lead : List Char) : Prop := ∀ c, lead.head? = some c → isSlash .web c = true

theorem webPath_slashed (hlead : LeadsPath before) : ∃ start, ∀ segments : List (List Char),
    (∀ s ∈ segments, IsSegment s) → segments ≠ [] →
      webPath (before ++ slashed segments) =
        start ++ slashed (segments.map (encode keptInPath)) := by
  cases before with
  | nil =>
    refine ⟨[], fun segments h hne => ?_⟩
    cases segments with
    | nil => exact absurd rfl hne
    | cons segment rest =>
      have hinner : segmentsOf .web (segment ++ slashed rest) = segment :: rest := by
        obtain ⟨hsegment, hrest⟩ := List.forall_mem_cons.mp h
        rw [segmentsOf_slashed hrest, segmentsOf_plain fun c => hsegment.no_slash]
        rfl
      show slashed (follow [] (segmentsOf .web (segment ++ slashed rest))) = _
      rw [hinner, follow_segments [] h hne]
      rfl
  | cons c before =>
    obtain ⟨start, hstart⟩ := follow_append [] (segmentsOf .web before)
    refine ⟨slashed start, fun segments h hne => ?_⟩
    have hinner : webPath (c :: before ++ slashed segments) =
        slashed (follow [] (segmentsOf .web (before ++ slashed segments))) := by
      unfold webPath
      rw [List.cons_append]
      simp only [hlead c rfl, if_true]
      rfl
    rw [hinner, segmentsOf_slashed h, hstart segments h hne, slashed_append]

/-! ## Whole addresses -/

theorem IsSegment.no_endsPath {c : Char} (h : IsSegment segment) (hc : c ∈ segment) :
    endsPath c = false := by
  unfold endsPath
  rw [Bool.or_eq_false_iff]
  refine ⟨decide_eq_false ?_, decide_eq_false ?_⟩
  · rintro rfl
    exact h.plain _ hc (by decide)
  · rintro rfl
    exact h.plain _ hc (by decide)

theorem endsPath_slashed (h : ∀ s ∈ segments, IsSegment s) :
    ∀ c ∈ slashed segments, endsPath c = false := by
  intro c hc
  rcases mem_slashed hc with rfl | ⟨s, hs, hc⟩
  · rfl
  · exact (h s hs).no_endsPath hc

theorem dropWhile_slashed {p : Char → Bool} (hp : p '/' = false) (hne : segments ≠ []) :
    (before ++ slashed segments).dropWhile p = before.dropWhile p ++ slashed segments := by
  obtain ⟨segment, rest, rfl⟩ := List.exists_cons_of_ne_nil hne
  rw [List.dropWhile_append]
  split
  · rename_i hempty
    rw [List.isEmpty_iff.mp hempty, slashed_cons, List.dropWhile_cons_of_neg (by simp [hp])]
    rfl
  · rfl

theorem queryOf_eq_none {cs : List Char} (h : ∀ c ∈ cs, endsPath c = false) :
    queryOf cs = none := by
  unfold queryOf
  rw [List.dropWhile_eq_nil_iff.mpr fun c hc => by simp [h c hc]]

theorem readAuthority_slashed (scheme : List Char) (hbefore : ∀ c ∈ before, endsPath c = false) :
    ∃ start, ∀ (segments : List (List Char)) (a : Address), (∀ s ∈ segments, IsSegment s) →
      segments ≠ [] → readAuthority .web scheme (before ++ slashed segments) = .ok a →
        a.path = start ++ slashed (segments.map (encode keptInPath)) ∧ a.query = none := by
  have hleads : LeadsPath (before.dropWhile fun c => !endsAuthority .web c) := by
    intro c hc
    have hends := List.head?_dropWhile_not (fun c => !endsAuthority .web c) before
    rw [hc] at hends
    have hplain := hbefore c ((List.dropWhile_suffix _).mem (List.mem_of_head? hc))
    unfold endsPath at hplain
    rw [Bool.or_eq_false_iff] at hplain
    simpa [endsAuthority, hplain.1, hplain.2] using hends
  obtain ⟨start, hstart⟩ := webPath_slashed hleads
  refine ⟨start, fun segments a h hne hread => ?_⟩
  have hrest : ∀ c ∈ before.dropWhile (fun c => !endsAuthority .web c) ++ slashed segments,
      endsPath c = false := by
    intro c hc
    rcases List.mem_append.mp hc with hc | hc
    · exact hbefore c ((List.dropWhile_suffix _).mem hc)
    · exact endsPath_slashed h c hc
  unfold readAuthority at hread
  simp only [List.span_eq_takeWhile_dropWhile,
    dropWhile_slashed (p := fun c => !endsAuthority .web c) rfl hne] at hread
  split at hread
  · cases hread
  · cases hread
    refine ⟨?_, queryOf_eq_none hrest⟩
    rw [List.takeWhile_eq_self_iff.mpr fun c hc => by simp [hrest c hc]]
    exact hstart segments h hne

/-! ## Text in front of segments -/

/-- Blanks at the end of an address are dropped, but no segment ends with one. -/
theorem slashed_ends (h : ∀ s ∈ segments, IsSegment s) (hne : segments ≠ []) :
    ∃ init c, slashed segments = init ++ [c] ∧ 0x20 < c.toNat := by
  obtain ⟨others, last, rfl⟩ := (List.eq_nil_or_concat' segments).resolve_left hne
  have hlast := h last (by simp)
  rw [slashed_append]
  rcases List.eq_nil_or_concat' last with rfl | ⟨init, c, rfl⟩
  · exact ⟨slashed others, '/', rfl, by decide⟩
  · refine ⟨slashed others ++ '/' :: init, c, ?_, hlast.ends c List.getLast?_concat⟩
    rw [show slashed [init ++ [c]] = '/' :: (init ++ [c]) ++ [] from rfl]
    simp

/-- Segments stay as they are when blanks and line breaks are dropped. -/
theorem cleaned_slashed (base : List Char) : ∃ front : List Char, (∀ c ∈ front, c ∈ base) ∧
    ∀ segments : List (List Char), (∀ s ∈ segments, IsSegment s) → segments ≠ [] →
      cleaned (String.ofList (base ++ slashed segments)) = front ++ slashed segments := by
  refine ⟨(base.dropWhile fun c => c.toNat ≤ 0x20).filter fun c => c ≠ '\t' ∧ c ≠ '\n' ∧ c ≠ '\r',
    fun c hc => (List.dropWhile_suffix _).mem (List.mem_filter.mp hc).1, fun segments h hne => ?_⟩
  obtain ⟨init, c, hends, hc⟩ := slashed_ends h hne
  have hwhole : Text.dropEndWhile (fun c => c.toNat ≤ 0x20)
      ((base.dropWhile fun c => c.toNat ≤ 0x20) ++ slashed segments) =
        (base.dropWhile fun c => c.toNat ≤ 0x20) ++ slashed segments := by
    unfold Text.dropEndWhile
    rw [hends, ← List.append_assoc, List.reverse_append, List.reverse_singleton,
      List.singleton_append, List.dropWhile_cons_of_neg (by simpa using hc), List.reverse_cons,
      List.reverse_reverse]
  have hkept : (slashed segments).filter (fun c => c ≠ '\t' ∧ c ≠ '\n' ∧ c ≠ '\r') =
      slashed segments := by
    refine List.filter_eq_self.mpr fun c hc => ?_
    rcases mem_slashed hc with rfl | ⟨s, hs, hc⟩
    · decide
    · have hplain := (h s hs).plain c hc
      simp only [marks, List.mem_cons, not_or] at hplain
      simp [hplain]
  simp only [cleaned]
  rw [String.toList_ofList, dropWhile_slashed rfl hne, hwhole, List.filter_append, hkept]

/-- A colon behind the front would leave a slash in the scheme. -/
theorem colon_mem_front {front given behind : List Char} (hne : segments ≠ [])
    (hall : front ++ slashed segments = given ++ ':' :: behind)
    (hgiven : given.all isSchemeChar = true) : ':' ∈ front := by
  obtain ⟨segment, others, rfl⟩ := List.exists_cons_of_ne_nil hne
  rw [slashed_cons, List.append_eq_append_iff] at hall
  rcases hall with ⟨between, rfl, hslash⟩ | ⟨between, rfl, hcolon⟩
  · cases between with
    | nil => cases hslash
    | cons c between =>
      obtain ⟨rfl, -⟩ := List.cons.inj hslash
      have hc := List.all_eq_true.mp hgiven '/' (by simp)
      cases hc
  · cases between with
    | nil => cases hcolon
    | cons c between =>
      obtain ⟨rfl, -⟩ := List.cons.inj hcolon
      simp

/-- The scheme is told by what stands in front of the segments. -/
theorem scheme?_slashed {front scheme rest : List Char} (hne : segments ≠ [])
    (h : scheme? (front ++ slashed segments) = some (scheme, rest)) :
    ∃ behind, scheme? front = some (scheme, behind) ∧ rest = behind ++ slashed segments := by
  unfold scheme? at h
  split at h
  swap
  · cases h
  rename_i c given behind hhead hsplit
  split at h
  swap
  · cases h
  rename_i hscheme
  cases h
  have hcolon := colon_mem_front hne (Text.splitFirst_eq_some hsplit).1
    (Bool.and_eq_true_iff.mp hscheme).2
  cases hfront : Text.splitFirst ':' front with
  | none => exact absurd hcolon (Text.splitFirst_eq_none_iff.mp hfront)
  | some parts =>
    obtain ⟨before, after⟩ := parts
    obtain ⟨rfl, hbefore⟩ := Text.splitFirst_eq_some hfront
    rw [List.append_assoc, List.cons_append, Text.splitFirst_append _ hbefore] at hsplit
    cases hsplit
    have hhead' : (given ++ ':' :: after).head? = some c := by
      rw [← hhead]
      cases given <;> rfl
    refine ⟨after, ?_, rfl⟩
    unfold scheme?
    rw [hhead', hfront]
    exact if_pos hscheme

theorem readAuthority_scheme {kind : SchemeKind} {scheme cs : List Char} {a : Address}
    (h : readAuthority kind scheme cs = .ok a) : a.scheme = String.ofList scheme := by
  unfold readAuthority at h
  simp only at h
  split at h
  · cases h
  · cases h
    rfl

theorem readFile_scheme {scheme cs : List Char} {a : Address}
    (h : readFile scheme cs = .ok a) : a.scheme = String.ofList scheme := by
  unfold readFile at h
  split at h
  · split at h
    · simp only at h
      split at h
      · cases h
      · cases h
        rfl
    · cases h
      rfl
  · cases h
    rfl

theorem readOther_scheme {scheme cs : List Char} {a : Address}
    (h : readOther scheme cs = .ok a) : a.scheme = String.ofList scheme := by
  unfold readOther at h
  split at h
  · exact readAuthority_scheme h
  · cases h
    rfl

/-- An address of the web is read as one. -/
theorem ofText_web {text : String} {a : Address} (h : Address.ofText text = .ok a)
    (hweb : a.scheme = "http" ∨ a.scheme = "https") : ∃ scheme rest,
      scheme? (cleaned text) = some (scheme, rest) ∧
        readAuthority .web scheme (rest.dropWhile (isSlash .web)) = .ok a := by
  unfold Address.ofText at h
  split at h
  · cases h
  rename_i scheme rest hscheme
  refine ⟨scheme, rest, hscheme, ?_⟩
  have hkind : a.scheme = String.ofList scheme → SchemeKind.of scheme = .web := by
    intro hsame
    unfold SchemeKind.of
    rcases hweb with hweb | hweb <;> rw [← hsame, hweb] <;> rfl
  split at h
  · exact h
  · rename_i hfile
    rw [hkind (readFile_scheme h)] at hfile
    cases hfile
  · rename_i hother
    rw [hkind (readOther_scheme h)] at hother
    cases hother

theorem mem_of_scheme? {cs scheme behind : List Char} (h : scheme? cs = some (scheme, behind))
    {c : Char} (hc : c ∈ behind) : c ∈ cs := by
  unfold scheme? at h
  split at h
  swap
  · cases h
  rename_i hsplit
  split at h
  swap
  · cases h
  cases h
  rw [(Text.splitFirst_eq_some hsplit).1]
  exact List.mem_append_right _ (List.mem_cons_of_mem _ hc)

/-- A first segment that is not empty stays when the slashes in front of the host are dropped. -/
theorem dropSlashes_slashed {first behind : List Char} (hfirst : IsSegment first)
    (hne : first ≠ []) : (behind ++ slashed (first :: segments)).dropWhile (isSlash .web) =
      (behind ++ slashed [first]).dropWhile (isSlash .web) ++ slashed segments := by
  have hkeeps : (behind ++ slashed [first]).dropWhile (isSlash .web) ≠ [] := by
    obtain ⟨c, rest, rfl⟩ := List.exists_cons_of_ne_nil hne
    intro hnil
    have hslash := List.dropWhile_eq_nil_iff.mp hnil c (by simp [slashed])
    rw [hfirst.no_slash List.mem_cons_self] at hslash
    cases hslash
  have hsplit : slashed (first :: segments) = slashed [first] ++ slashed segments := by
    rw [← slashed_append]
    rfl
  rw [hsplit, ← List.append_assoc, List.dropWhile_append, if_neg (by simpa using hkeeps)]

/-- The path of an address whose text ends in segments: what stands in front of the segments
behind the first one makes the start of the path, whatever they are. -/
theorem path_of_slashed {base first : List Char} (hbase : ∀ c ∈ base, endsPath c = false)
    (hfirst : IsSegment first) (hne : first ≠ []) :
    ∃ start, ∀ (segments : List (List Char)) (a : Address), (∀ s ∈ segments, IsSegment s) →
      segments ≠ [] → Address.ofText (String.ofList (base ++ slashed (first :: segments))) = .ok a →
        a.scheme = "http" ∨ a.scheme = "https" →
          a.path = start ++ slashed (segments.map (encode keptInPath)) ∧ a.query = none := by
  obtain ⟨front, hfront, hcleaned⟩ := cleaned_slashed base
  have hreads : ∀ (segments : List (List Char)) (a : Address), (∀ s ∈ segments, IsSegment s) →
      Address.ofText (String.ofList (base ++ slashed (first :: segments))) = .ok a →
        a.scheme = "http" ∨ a.scheme = "https" → ∃ scheme behind,
          scheme? front = some (scheme, behind) ∧ readAuthority .web scheme
            ((behind ++ slashed [first]).dropWhile (isSlash .web) ++ slashed segments) = .ok a := by
    intro segments a h htext hweb
    obtain ⟨scheme, rest, hscheme, hauthority⟩ := ofText_web htext hweb
    rw [hcleaned _ (List.forall_mem_cons.mpr ⟨hfirst, h⟩) (by simp)] at hscheme
    obtain ⟨behind, hfound, rfl⟩ := scheme?_slashed (by simp) hscheme
    rw [dropSlashes_slashed hfirst hne] at hauthority
    exact ⟨scheme, behind, hfound, hauthority⟩
  cases hread : scheme? front with
  | none =>
    refine ⟨[], fun segments a h _ htext hweb => ?_⟩
    obtain ⟨scheme, behind, hfound, -⟩ := hreads segments a h htext hweb
    rw [hread] at hfound
    cases hfound
  | some parts =>
    obtain ⟨scheme, behind⟩ := parts
    have hlead : ∀ c ∈ (behind ++ slashed [first]).dropWhile (isSlash .web),
        endsPath c = false := by
      intro c hc
      rcases List.mem_append.mp ((List.dropWhile_suffix _).mem hc) with hc | hc
      · exact hbase c (hfront c (mem_of_scheme? hread hc))
      · exact endsPath_slashed (List.forall_mem_singleton.mpr hfirst) c hc
    obtain ⟨start, hstart⟩ := readAuthority_slashed scheme hlead
    refine ⟨start, fun segments a h hsegments htext hweb => ?_⟩
    obtain ⟨scheme', behind', hfound, hauthority⟩ := hreads segments a h htext hweb
    rw [hread] at hfound
    cases hfound
    exact hstart segments a h hsegments hauthority

end WarehouseJobs.Url

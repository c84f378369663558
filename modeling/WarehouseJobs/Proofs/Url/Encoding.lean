-- Percent encoding loses nothing, as long as no percent sign is left as it is: the bytes behind
-- what is written are the bytes of the text.
import Mathlib.Data.List.Basic
import WarehouseJobs.Url.Percent

namespace WarehouseJobs.Url

open Text (hexValue?)

variable {kept : Char → Bool} {c : Char} {cs ds : List Char}

/-! ## Bytes -/

theorem hexValue?_upperHex : ∀ n < 16, hexValue? (upperHex n) = some n := by decide

theorem decodeBytes_percentByte (b : UInt8) (rest : List Char) :
    decodeBytes (percentByte b ++ rest) = b :: decodeBytes rest := by
  have hb : b.toNat < 256 := b.toNat_lt
  have hhigh := hexValue?_upperHex (b.toNat / 16) (by omega)
  have hlow := hexValue?_upperHex (b.toNat % 16) (by omega)
  show decodeBytes ('%' :: upperHex (b.toNat / 16) :: upperHex (b.toNat % 16) :: rest) = _
  rw [decodeBytes, hhigh, hlow]
  simp only
  rw [show b.toNat / 16 * 16 + b.toNat % 16 = b.toNat by omega, UInt8.ofNat_toNat]

theorem decodeBytes_percentBytes (bytes : List UInt8) (rest : List Char) :
    decodeBytes (bytes.flatMap percentByte ++ rest) = bytes ++ decodeBytes rest := by
  induction bytes with
  | nil => rfl
  | cons b bytes ih =>
    rw [List.flatMap_cons, List.append_assoc, decodeBytes_percentByte, ih, List.cons_append]

theorem decodeBytes_cons (h : c ≠ '%') (rest : List Char) :
    decodeBytes (c :: rest) = String.utf8EncodeChar c ++ decodeBytes rest := by
  rw [decodeBytes]
  exact fun _ _ _ hc => absurd hc h

theorem decodeBytes_encodeChar (h : kept c = true → c ≠ '%') (rest : List Char) :
    decodeBytes (encodeChar kept c ++ rest) = String.utf8EncodeChar c ++ decodeBytes rest := by
  unfold encodeChar
  split
  · rename_i hkept
    exact decodeBytes_cons (h hkept) rest
  · exact decodeBytes_percentBytes _ rest

theorem decodeBytes_encode (h : ∀ c ∈ cs, kept c = true → c ≠ '%') :
    decodeBytes (encode kept cs) = cs.flatMap String.utf8EncodeChar := by
  induction cs with
  | nil => rfl
  | cons c cs ih =>
    obtain ⟨hc, hcs⟩ := List.forall_mem_cons.mp h
    unfold encode at ih ⊢
    rw [List.flatMap_cons, decodeBytes_encodeChar hc, ih hcs, List.flatMap_cons]

/-! ## Texts -/

/-- What was encoded can be read again. -/
theorem decode?_encode (h : ∀ c ∈ cs, kept c = true → c ≠ '%') :
    decode? (encode kept cs) = some cs := by
  unfold decode?
  rw [decodeBytes_encode h]
  have hread : String.fromUTF8? (cs.flatMap String.utf8EncodeChar).toByteArray =
      some (String.ofList cs) := dif_pos (String.ofList cs).isValidUTF8
  rw [hread, Option.map_some, String.toList_ofList]

theorem encode_injective (hcs : ∀ c ∈ cs, kept c = true → c ≠ '%')
    (hds : ∀ c ∈ ds, kept c = true → c ≠ '%') (h : encode kept cs = encode kept ds) : cs = ds := by
  have hread := decode?_encode hcs
  rw [h, decode?_encode hds] at hread
  exact (Option.some.inj hread).symm

theorem mem_percentByte {b : UInt8} {c : Char} (h : c ∈ percentByte b) :
    c = '%' ∨ isAlphanumeric c = true := by
  have hhex : ∀ n < 16, isAlphanumeric (upperHex n) = true := by decide
  have hb : b.toNat < 256 := b.toNat_lt
  rcases List.mem_cons.mp h with rfl | h
  · exact .inl rfl
  rcases List.mem_cons.mp h with rfl | h
  · exact .inr (hhex _ (by omega))
  · rw [List.mem_singleton.mp h]
    exact .inr (hhex _ (by omega))

/-- Nothing but percent signs, letters and digits is new in what is encoded. -/
theorem mem_encode (h : c ∈ encode kept cs) :
    c ∈ cs ∨ c = '%' ∨ isAlphanumeric c = true := by
  obtain ⟨d, hd, hmem⟩ := List.mem_flatMap.mp h
  unfold encodeChar at hmem
  split at hmem
  · rw [List.mem_singleton.mp hmem]
    exact .inl hd
  · obtain ⟨b, -, hc⟩ := List.mem_flatMap.mp hmem
    exact .inr (mem_percentByte hc)

/-! ## Form fields -/

def plusToSpace (c : Char) : Char := if c = '+' then ' ' else c

def keptInFormOrSpace (c : Char) : Bool := c = ' ' || keptInForm c

theorem map_plusToSpace_percentBytes (bytes : List UInt8) :
    (bytes.flatMap percentByte).map plusToSpace = bytes.flatMap percentByte := by
  refine (List.map_congr_left fun c hc => ?_).trans (List.map_id _)
  obtain ⟨b, -, hmem⟩ := List.mem_flatMap.mp hc
  refine if_neg ?_
  rintro rfl
  rcases mem_percentByte hmem with h | h
  · cases h
  · cases h

/-- A form field is encoded as any other part, but that plus signs stand for spaces. -/
theorem map_plusToSpace_encodeForm (cs : List Char) :
    (encodeForm cs).map plusToSpace = encode keptInFormOrSpace cs := by
  unfold encodeForm encode
  rw [List.map_flatMap]
  refine List.flatMap_congr fun c _ => ?_
  by_cases hspace : c = ' '
  · subst hspace
    rfl
  · rw [if_neg hspace]
    have hkept : keptInFormOrSpace c = keptInForm c := by
      unfold keptInFormOrSpace
      rw [decide_eq_false hspace, Bool.false_or]
    unfold encodeChar
    rw [hkept]
    split
    · rename_i hform
      have hplus : c ≠ '+' := by
        rintro rfl
        cases hform
      exact congrArg (fun d => [d]) (if_neg hplus)
    · exact map_plusToSpace_percentBytes _

theorem encodeForm_injective (h : encodeForm cs = encodeForm ds) : cs = ds := by
  have hmap := congrArg (List.map plusToSpace) h
  rw [map_plusToSpace_encodeForm, map_plusToSpace_encodeForm] at hmap
  have hpercent : ∀ c, keptInFormOrSpace c = true → c ≠ '%' := by
    rintro _ hkept rfl
    cases hkept
  exact encode_injective (fun c _ => hpercent c) (fun c _ => hpercent c) hmap

end WarehouseJobs.Url

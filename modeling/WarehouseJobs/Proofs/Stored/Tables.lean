-- The JSON forms of tables lose nothing, however deep their columns are nested, as long as a reader
-- enters as many levels; and what is kept of a schema reads back the same where it comes over the
-- wire.
import WarehouseJobs.Proofs.Stored.Jobs
import WarehouseJobs.Wire.Tables

namespace WarehouseJobs

open Json (IsPlain ArePlain HavePlain fields? optional? orElse? list? ofOption)

/-! ## Columns -/

theorem Json.depth_ofOption_text (o : Option String) : (ofOption Json.text o).depth = 0 := by
  cases o <;> rfl

namespace TableField

variable {name type : String} {mode : Option String} {fields : List TableField} {levels : Nat}
  {inside? : List Json → Option (List TableField)}

theorem listToJson_eq_map (fs : List TableField) : listToJson fs = fs.map toJson := by
  induction fs with
  | nil => rfl
  | cons f fs ih => rw [listToJson, ih, List.map_cons]

/-- A column enters its record, and the list of the columns inside it. -/
theorem depth_toJson : (mk name type mode fields).toJson.depth =
    if fields.isEmpty then 1 else Json.depthItems (listToJson fields) + 2 := by
  cases fields with
  | nil => simp [toJson, Json.depth, Json.depthFields, Json.depth_ofOption_text]
  | cons f fs => simp [toJson, Json.depth, Json.depthFields, Json.depth_ofOption_text]

theorem le_depthItems {f : TableField} (hf : f ∈ fields) :
    f.toJson.depth ≤ Json.depthItems (listToJson fields) := by
  induction fields with
  | nil => cases hf
  | cons g fs ih =>
    rw [listToJson, Json.depthItems]
    rcases List.mem_cons.mp hf with rfl | hf
    · exact Nat.le_max_left _ _
    · exact Nat.le_trans (ih hf) (Nat.le_max_right _ _)

theorem ofColumn?_toJson (h : fields = [] ∨ inside? (listToJson fields) = some fields) :
    ofColumn? inside? (mk name type mode fields).toJson = some (mk name type mode fields) := by
  cases fields with
  | nil =>
    have hfields : fields? [("name", .refused), ("type", .refused), ("mode", .default),
        ("fields", .default)] (mk name type mode []).toJson =
        some [some (.text name), some (.text type), some (ofOption .text mode), none] := rfl
    unfold ofColumn?
    simp only [hfields, Option.bind_eq_bind, Option.bind_some, Wire.text?_text, orElse?,
      Json.optional?_text]
  | cons f fs =>
    have hfields : fields? [("name", .refused), ("type", .refused), ("mode", .default),
        ("fields", .default)] (mk name type mode (f :: fs)).toJson =
        some [some (.text name), some (.text type), some (ofOption .text mode),
          some (.list (listToJson (f :: fs)))] := rfl
    have hinside := h.resolve_left (List.cons_ne_nil f fs)
    unfold ofColumn?
    simp only [hfields, Option.bind_eq_bind, Option.bind_some, hinside, Wire.text?_text, orElse?,
      Json.optional?_text]

/-- A column reads back as it was, where a reader enters as many levels as the column has. -/
theorem ofJson?_toJson {f : TableField} (hf : f.toJson.depth ≤ levels) :
    ofJson? levels f.toJson = some f := by
  induction levels using Nat.strongRecOn generalizing f with
  | ind levels ih =>
    obtain ⟨name, type, mode, fields⟩ := f
    rw [depth_toJson] at hf
    match levels, fields with
    | 0, [] => simp at hf
    | 0, f :: fs => simp at hf
    | 1, [] => exact ofColumn?_toJson (.inl rfl)
    | 1, f :: fs => simp at hf
    | levels + 2, [] => exact ofColumn?_toJson (.inl rfl)
    | levels + 2, f :: fs =>
      simp only [List.isEmpty_cons, Bool.false_eq_true, if_false] at hf
      refine ofColumn?_toJson (.inr ?_)
      rw [listToJson_eq_map]
      refine Wire.list?_map_of_mem fun g hg => ih levels (by omega) ?_
      have := le_depthItems hg
      omega

mutual

theorem isPlain_toJson : ∀ f : TableField, f.toJson.IsPlain
  | mk name type mode fields => by
    have hmode : (ofOption Json.text mode).IsPlain := Json.isPlain_ofOption fun _ _ => trivial
    have hfields := arePlain_listToJson fields
    cases fields with
    | nil => simp [toJson, IsPlain, HavePlain, hmode]
    | cons f fs => simp [toJson, IsPlain, HavePlain, hmode, hfields]

theorem arePlain_listToJson : ∀ fs : List TableField, ArePlain (listToJson fs)
  | [] => trivial
  | f :: fs => ⟨isPlain_toJson f, arePlain_listToJson fs⟩

end

end TableField

/-! ## Tables -/

theorem TableSchema.ofJson?_toJson {levels : Nat} {s : TableSchema}
    (hs : s.toJson.depth ≤ levels) : ofJson? levels s.toJson = some s := by
  have hfields : fields? [("fields", .default)] s.toJson =
      some [some (.list (TableField.listToJson s.fields))] := rfl
  have hdepth : s.toJson.depth = Json.depthItems (TableField.listToJson s.fields) + 2 := by
    simp [toJson, Json.depth, Json.depthFields]
  have hcolumns : list? (TableField.ofJson? (levels - 2))
      (.list (TableField.listToJson s.fields)) = some s.fields := by
    rw [TableField.listToJson_eq_map]
    refine Wire.list?_map_of_mem fun f hf => TableField.ofJson?_toJson ?_
    have := TableField.le_depthItems hf
    omega
  unfold ofJson?
  simp only [hfields, Option.bind_eq_bind, Option.bind_some, orElse?, hcolumns]

theorem TableSchema.isPlain_toJson (s : TableSchema) : s.toJson.IsPlain := by
  simp [toJson, IsPlain, HavePlain, TableField.arePlain_listToJson]

theorem optional?_schema {levels : Nat} {o : Option TableSchema}
    (ho : (ofOption TableSchema.toJson o).depth ≤ levels) :
    optional? (TableSchema.ofJson? levels) (ofOption TableSchema.toJson o) = some o := by
  refine Json.optional?_ofOption (fun s hs => ?_) fun _ => nofun
  cases hs
  exact TableSchema.ofJson?_toJson ho

theorem Json.toNat_le_largest64 (n : UInt64) : n.toNat ≤ Text.largest64 :=
  Nat.le_pred_of_lt n.toNat_lt

theorem Json.uint64?_ofUInt64 (n : UInt64) : Json.uint64? (Json.ofUInt64 n) = some n := by
  have hfits : (0 : Int) ≤ n.toNat ∧ (n.toNat : Int) ≤ Text.largest64 :=
    ⟨Int.natCast_nonneg _, Int.ofNat_le.mpr (Json.toNat_le_largest64 n)⟩
  unfold Json.uint64? Json.natUpTo? Json.ofUInt64 Json.ofNat
  simp only [if_pos hfits, Int.toNat_natCast, Option.map_some, UInt64.ofNat_toNat]

theorem Json.isPlain_ofUInt64 (n : UInt64) : (Json.ofUInt64 n).IsPlain := by
  have hlarge : (n.toNat : Int) ≤ Text.largest64 := Int.ofNat_le.mpr (Json.toNat_le_largest64 n)
  simp only [Json.ofUInt64, Json.ofNat, IsPlain]
  omega

theorem optional?_rows (o : Option UInt64) :
    optional? Json.uint64? (ofOption Json.ofUInt64 o) = some o :=
  Json.optional?_ofOption (fun n _ => Json.uint64?_ofUInt64 n) fun _ => nofun

theorem Table.ofJson?_toJson {t : Table} (ht : t.toJson.depth ≤ nestingLimit) :
    ofJson? t.toJson = some t := by
  have hfields : fields? [("reference", .refused), ("schema", .default), ("num_rows", .default)]
      t.toJson = some [some t.reference.toJson, some (ofOption TableSchema.toJson t.schema),
        some (ofOption Json.ofUInt64 t.rows)] := rfl
  have hschema : (ofOption TableSchema.toJson t.schema).depth ≤ nestingLimit - 1 := by
    simp only [toJson, Json.depth, Json.depthFields] at ht
    omega
  unfold ofJson?
  simp only [hfields, Option.bind_eq_bind, Option.bind_some, TableReference.ofJson?_toJson,
    orElse?, optional?_schema hschema, optional?_rows]

theorem Table.isPlain_toJson (t : Table) : t.toJson.IsPlain := by
  have hschema : (ofOption TableSchema.toJson t.schema).IsPlain :=
    Json.isPlain_ofOption fun s _ => s.isPlain_toJson
  have hrows : (ofOption Json.ofUInt64 t.rows).IsPlain :=
    Json.isPlain_ofOption fun n _ => Json.isPlain_ofUInt64 n
  simp [toJson, IsPlain, HavePlain, t.reference.isPlain_toJson, hschema, hrows]

end WarehouseJobs

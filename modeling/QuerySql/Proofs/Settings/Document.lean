import QuerySql.Proofs.Settings.Overlay

namespace QuerySql

open Settings (given part Readable)

namespace Features

structure WellTyped (file : Fields Json) : Prop where
  caseSensitive : Readable Json.bool? file ["case_sensitive", "caseSensitive"]

def ofFields (file : Fields Json) : Features where
  caseSensitive := ((given file ["case_sensitive", "caseSensitive"]).bind Json.bool?).getD false

end Features

namespace Dialect

structure WellTyped (file : Fields Json) : Prop where
  parameterized : Readable Json.bool? file ["parameterized"]
  caseSensitive : Readable Json.bool? file ["case_sensitive", "caseSensitive"]
  quote : Readable Json.char? file ["escape_character", "escapeCharacter"]
  qualifiers : Readable Json.object? file ["schema_name", "schemaName"]
  schemas : ∀ field ∈ part file ["schema_name", "schemaName"], (Json.string? field.2).isSome
  features : Readable Json.object? file ["wl_next", "wlNext"]
  ownFeatures : Features.WellTyped (part file ["wl_next", "wlNext"])
  casting : Readable Json.bool? file ["casting"]
  returnsRows : Readable Json.bool? file ["can_return_values", "canReturnValues"]
  quotesInsertColumns : Readable Json.bool? file ["escape_inserts", "escapeInserts"]

def schemaText (json : Json) : String :=
  json.string?.getD ""

def ofFields (file : Fields Json) : Dialect where
  parameterized := ((given file ["parameterized"]).bind Json.bool?).getD true
  caseSensitive := ((given file ["case_sensitive", "caseSensitive"]).bind Json.bool?).getD true
  quote := ((given file ["escape_character", "escapeCharacter"]).bind Json.char?).getD '"'
  qualifiers := Fields.sorted ((part file ["schema_name", "schemaName"]).map fun field =>
    (field.1, schemaText field.2))
  features := .ofFields (part file ["wl_next", "wlNext"])
  casting := ((given file ["casting"]).bind Json.bool?).getD true
  returnsRows := ((given file ["can_return_values", "canReturnValues"]).bind Json.bool?).getD true
  quotesInsertColumns :=
    ((given file ["escape_inserts", "escapeInserts"]).bind Json.bool?).getD true

end Dialect

namespace Settings

structure WellTyped (file : Fields Json) : Prop where
  debug : Readable Json.bool? file ["debug"]
  logLevel : Readable Json.string? file ["log_level", "logLevel"]
  dialect : Readable Json.object? file ["dialect"]
  ownDialect : Dialect.WellTyped (part file ["dialect"])

def ofFields (file : Fields Json) : Settings where
  debug := ((given file ["debug"]).bind Json.bool?).getD true
  logLevel := ((given file ["log_level", "logLevel"]).bind Json.string?).getD "info"
  dialect := .ofFields (part file ["dialect"])

theorem isDistinct_part {file : Fields Json} (distinct : (Json.object file).isDistinct = true)
    (spelled : List String) : (Json.object (part file spelled)).isDistinct = true := by
  rw [part]
  cases found : given file spelled with
  | none => rfl
  | some json =>
      obtain ⟨spelling, -, inFile⟩ := List.exists_of_findSome?_eq_some found
      have isPart := Json.isDistinct_fields distinct _ (Fields.mem_of_get? inFile)
      exact (Json.isDistinct_object json.fields).mpr
        ⟨Json.nodup_names_fields isPart, Json.isDistinct_fields isPart⟩

end Settings

namespace Features

open Settings

theorem readFeatures?_overlaid {file : Fields Json} (nodup : file.names.Nodup)
    (typed : WellTyped file) :
    Dialect.readFeatures? (.object (overlaid [("case_sensitive", .bool false)] file)) =
      some (ofFields file) := by
  have defaults : Defaults Dialect.featureNames [("case_sensitive", .bool false)] :=
    ⟨by decide, by decide, by decide⟩
  obtain ⟨kept, record, found⟩ := defaults.exists_record file
  have caseSensitive : Json.fieldOr kept "case_sensitive" false Json.bool? =
      some (ofFields file).caseSensitive :=
    fieldOr_scalar defaults.nodup nodup (by decide) (fun _ => rfl) rfl typed.caseSensitive
      (found "case_sensitive" (by decide))
  rw [Dialect.readFeatures?, record]
  simp only [Option.bind_eq_bind, Option.bind_some, caseSensitive]
  rfl

end Features

namespace Dialect

open Settings

theorem mapM_readQualifier? {tables : Fields Json}
    (typed : ∀ field ∈ tables, (Json.string? field.2).isSome) :
    tables.mapM readQualifier? = some (tables.map fun field => (field.1, schemaText field.2)) := by
  induction tables with
  | nil => rfl
  | cons field rest ih =>
      obtain ⟨first, others⟩ := List.forall_mem_cons.mp typed
      obtain ⟨schema, reads⟩ := Option.isSome_iff_exists.mp first
      rw [List.mapM_cons, ih others, readQualifier?, reads, List.map_cons, schemaText, reads]
      rfl

theorem ofJson?_overlaid {file : Fields Json}
    (distinct : (Json.object file).isDistinct = true) (typed : WellTyped file) :
    ofJson? (.object (overlaid (toJson {}).fields file)) = some (ofFields file) := by
  have nodup : file.names.Nodup := Json.nodup_names_fields distinct
  have nodupPart (spelled : List String) : (part file spelled).names.Nodup :=
    Json.nodup_names_fields (isDistinct_part distinct spelled)
  have defaults : Defaults fieldNames (toJson {}).fields := ⟨by decide, by decide, by decide⟩
  obtain ⟨kept, record, found⟩ := defaults.exists_record file
  have flag (name : String) {spelled : List String} (spells : Spells name spelled)
      (own : fieldNames.resolve? name = some name)
      (inBase : (((toJson {}).fields).get? name).bind Json.bool? = some true)
      (readable : Readable Json.bool? file spelled) :
      Json.fieldOr kept name true Json.bool? =
        some (((given file spelled).bind Json.bool?).getD true) :=
    fieldOr_scalar defaults.nodup nodup spells (fun _ => rfl) inBase readable (found name own)
  have quote : Json.fieldOr kept "escape_character" '"' Json.char? =
      some (ofFields file).quote :=
    fieldOr_scalar defaults.nodup nodup (by decide) (fun _ => rfl) rfl typed.quote
      (found "escape_character" (by decide))
  have qualifiers : Json.fieldOr kept "schema_name" [] readQualifiers? =
      some (ofFields file).qualifiers := by
    rw [Json.fieldOr, found "schema_name" (by decide),
      get?_overlaid_map defaults.nodup nodup (by decide) (by decide) rfl typed.qualifiers
        (nodupPart _)]
    dsimp only
    rw [readQualifiers?, mapM_readQualifier? typed.schemas, Option.map_some]
    rfl
  have features : Json.fieldOr kept "wl_next" {} readFeatures? =
      some (ofFields file).features := by
    rw [Json.fieldOr, found "wl_next" (by decide),
      get?_overlaid_object defaults.nodup nodup (by decide) (.inr rfl) rfl typed.features]
    exact Features.readFeatures?_overlaid (nodupPart _) typed.ownFeatures
  rw [ofJson?, record]
  simp only [Option.bind_eq_bind, Option.bind_some, quote, qualifiers, features,
    flag "parameterized" (by decide) (by decide) rfl typed.parameterized,
    flag "case_sensitive" (by decide) (by decide) rfl typed.caseSensitive,
    flag "casting" (by decide) (by decide) rfl typed.casting,
    flag "can_return_values" (by decide) (by decide) rfl typed.returnsRows,
    flag "escape_inserts" (by decide) (by decide) rfl typed.quotesInsertColumns]
  rfl

end Dialect

namespace Settings

theorem ofDocument?_object {file : Fields Json}
    (distinct : (Json.object file).isDistinct = true) (typed : WellTyped file) :
    ofDocument? (.object file) = some (ofFields file) := by
  have nodup : file.names.Nodup := Json.nodup_names_fields distinct
  have defaults : Defaults fieldNames (toJson {}).fields := ⟨by decide, by decide, by decide⟩
  obtain ⟨kept, record, found⟩ := defaults.exists_record file
  have debug : Json.fieldOr kept "debug" true Json.bool? = some (ofFields file).debug :=
    fieldOr_scalar defaults.nodup nodup (by decide) (fun _ => rfl) rfl typed.debug
      (found "debug" (by decide))
  have logLevel : Json.fieldOr kept "log_level" "info" Json.string? =
      some (ofFields file).logLevel :=
    fieldOr_scalar defaults.nodup nodup (by decide) (fun _ => rfl) rfl typed.logLevel
      (found "log_level" (by decide))
  have dialect : Json.fieldOr kept "dialect" {} Dialect.ofJson? =
      some (ofFields file).dialect := by
    rw [Json.fieldOr, found "dialect" (by decide),
      get?_overlaid_object defaults.nodup nodup (by decide) (.inl rfl) rfl typed.dialect]
    exact Dialect.ofJson?_overlaid (isDistinct_part distinct _) typed.ownDialect
  have merged : Json.merge (toJson {}) (canonical (.object file)) =
      .object (overlaid (toJson {}).fields file) := rfl
  rw [ofDocument?, merged, ofJson?, record]
  simp only [Option.bind_eq_bind, Option.bind_some, debug, logLevel, dialect]
  rfl

end Settings

end QuerySql

import QuerySql.Proofs.Json.RoundTrip
import QuerySql.Proofs.Settings.Document

namespace QuerySql

namespace Json

theorem bool?_ordered (json : Json) : json.ordered.bool? = json.bool? := by
  cases json <;> rfl

theorem string?_ordered (json : Json) : json.ordered.string? = json.string? := by
  cases json <;> rfl

theorem char?_ordered (json : Json) : json.ordered.char? = json.char? := by
  cases json <;> rfl

theorem isSome_object?_ordered (json : Json) :
    json.ordered.object?.isSome = json.object?.isSome := by
  cases json <;> rfl

end Json

namespace Settings

/-- Objects without repeated names that are the same but for the order of fields at every level. -/
structure Reordered (file other : Fields Json) : Prop where
  distinct : (Json.object file).isDistinct = true
  distinctOther : (Json.object other).isDistinct = true
  same : (Json.object file).ordered = (Json.object other).ordered

namespace Reordered

variable {α : Type} {file other : Fields Json} {read : Json → Option α} {spelled : List String}

theorem get? (reordered : Reordered file other) (name : String) :
    (file.get? name).map Json.ordered = (other.get? name).map Json.ordered :=
  Json.get?_fields_of_ordered_eq reordered.same reordered.distinct reordered.distinctOther name

theorem perm (reordered : Reordered file other) :
    (file.map fun field => (field.1, field.2.ordered)).Perm
      (other.map fun field => (field.1, field.2.ordered)) :=
  (Json.ordered_object_eq_iff (Json.nodup_names_fields reordered.distinct)
    (Json.nodup_names_fields reordered.distinctOther)).mp reordered.same

theorem mem_names_iff (reordered : Reordered file other) (name : String) :
    name ∈ file.names ↔ name ∈ other.names := by
  rw [← Fields.names_map Json.ordered file, ← Fields.names_map Json.ordered other]
  exact (reordered.perm.map Prod.fst).mem_iff

theorem given (reordered : Reordered file other) (spelled : List String) :
    (given file spelled).map Json.ordered = (given other spelled).map Json.ordered := by
  induction spelled with
  | nil => rfl
  | cons spelling rest ih =>
      have same := reordered.get? spelling
      rw [Settings.given, Settings.given] at ih ⊢
      rw [List.findSome?_cons, List.findSome?_cons]
      cases inFile : file.get? spelling with
      | none =>
          rw [inFile] at same
          rw [Option.map_eq_none_iff.mp same.symm]
          exact ih
      | some json =>
          rw [inFile] at same
          obtain ⟨otherJson, inOther, isSame⟩ := Option.map_eq_some_iff.mp same.symm
          rw [inOther]
          exact congrArg some isSame.symm

theorem bind_given (reordered : Reordered file other)
    (insensitive : ∀ json : Json, read json.ordered = read json) (spelled : List String) :
    (Settings.given file spelled).bind read = (Settings.given other spelled).bind read := by
  have through (json? : Option Json) : json?.bind read = (json?.map Json.ordered).bind read := by
    rw [Option.bind_map]
    exact Option.bind_congr fun json _ => (insensitive json).symm
  rw [through, through (Settings.given other spelled), reordered.given]

theorem part (reordered : Reordered file other) (spelled : List String) :
    Reordered (part file spelled) (part other spelled) where
  distinct := isDistinct_part reordered.distinct spelled
  distinctOther := isDistinct_part reordered.distinctOther spelled
  same := by
    have ordered (json? : Option Json) :
        (Json.object ((json?.map Json.fields).getD [])).ordered =
          .object (((json?.map Json.ordered).map Json.fields).getD []) := by
      cases json? with
      | none => rfl
      | some json => cases json <;> rfl
    rw [Settings.part, Settings.part, ordered, ordered, reordered.given]

theorem readable (reordered : Reordered file other)
    (insensitive : ∀ json : Json, (read json.ordered).isSome = (read json).isSome)
    (readable : Readable read file spelled) : Readable read other spelled where
  once first isFirst second isSecond inFirst inSecond :=
    readable.once first isFirst second isSecond ((reordered.mem_names_iff first).mpr inFirst)
      ((reordered.mem_names_iff second).mpr inSecond)
  typed json isGiven := by
    have same := reordered.given spelled
    rw [isGiven] at same
    obtain ⟨otherJson, inFile, isSame⟩ := Option.map_eq_some_iff.mp same
    rw [← insensitive, ← isSame, insensitive]
    exact readable.typed otherJson inFile

theorem flag (reordered : Reordered file other) (isFlag : Readable Json.bool? file spelled) :
    Readable Json.bool? other spelled :=
  reordered.readable (fun json => congrArg Option.isSome json.bool?_ordered) isFlag

theorem object (reordered : Reordered file other) (isObject : Readable Json.object? file spelled) :
    Readable Json.object? other spelled :=
  reordered.readable Json.isSome_object?_ordered isObject

end Reordered

end Settings

open Settings (Reordered given part)

variable {file other : Fields Json}

namespace Features

theorem WellTyped.reordered (typed : WellTyped file) (reordered : Reordered file other) :
    WellTyped other where
  caseSensitive := reordered.flag typed.caseSensitive

theorem ofFields_reordered (reordered : Reordered file other) : ofFields other = ofFields file := by
  rw [ofFields, ofFields, reordered.bind_given Json.bool?_ordered]

end Features

namespace Dialect

theorem WellTyped.reordered (typed : WellTyped file) (reordered : Reordered file other) :
    WellTyped other where
  parameterized := reordered.flag typed.parameterized
  caseSensitive := reordered.flag typed.caseSensitive
  quote := reordered.readable (fun json => congrArg Option.isSome json.char?_ordered) typed.quote
  qualifiers := reordered.object typed.qualifiers
  schemas field member := by
    have inOther := List.mem_map_of_mem (f := fun field => (field.1, field.2.ordered)) member
    obtain ⟨same, inFile, isSame⟩ := List.mem_map.mp ((reordered.part _).perm.mem_iff.mpr inOther)
    rw [← Json.string?_ordered, ← (Prod.mk.inj isSame).2, Json.string?_ordered]
    exact typed.schemas same inFile
  features := reordered.object typed.features
  ownFeatures := typed.ownFeatures.reordered (reordered.part _)
  casting := reordered.flag typed.casting
  returnsRows := reordered.flag typed.returnsRows
  quotesInsertColumns := reordered.flag typed.quotesInsertColumns

theorem sorted_schemas (tables : Fields Json) :
    Fields.sorted (tables.map fun field => (field.1, schemaText field.2)) =
      (Json.object tables).ordered.fields.map fun field => (field.1, schemaText field.2) := by
  rw [Json.fields_ordered, Fields.sorted_map, List.map_map]
  refine List.map_congr_left fun field _ => ?_
  rw [Function.comp_apply, schemaText, schemaText, Json.string?_ordered]

theorem ofFields_reordered (reordered : Reordered file other) : ofFields other = ofFields file := by
  rw [ofFields, ofFields, sorted_schemas, sorted_schemas, (reordered.part _).same,
    Features.ofFields_reordered (reordered.part _)]
  simp only [reordered.bind_given Json.bool?_ordered, reordered.bind_given Json.char?_ordered]

end Dialect

namespace Settings

theorem WellTyped.reordered (typed : WellTyped file) (reordered : Reordered file other) :
    WellTyped other where
  debug := reordered.flag typed.debug
  logLevel := reordered.readable (fun json => congrArg Option.isSome json.string?_ordered)
    typed.logLevel
  dialect := reordered.object typed.dialect
  ownDialect := typed.ownDialect.reordered (reordered.part _)

theorem ofFields_reordered (reordered : Reordered file other) : ofFields other = ofFields file := by
  rw [ofFields, ofFields, reordered.bind_given Json.bool?_ordered,
    reordered.bind_given Json.string?_ordered, Dialect.ofFields_reordered (reordered.part _)]

def singleChar? (text : String) : Option Char :=
  match text.toList with
  | [char] => some char
  | _ => none

theorem flagOr_getD (environment : Environment) (variableName : String) (fromFile : Option Bool)
    (default : Bool) :
    flagOr environment variableName (fromFile.getD default) =
      (((environment variableName).map isOn).or fromFile).getD default := by
  rw [flagOr]
  cases environment variableName <;> rfl

theorem charOr_getD (environment : Environment) (variableName : String) (fromFile : Option Char)
    (default : Char) :
    charOr environment variableName (fromFile.getD default) =
      (((environment variableName).bind singleChar?).or fromFile).getD default := by
  rw [charOr]
  cases environment variableName with
  | none => rfl
  | some text =>
      rw [Option.map_some, Option.bind_some, singleChar?]
      rcases text.toList with - | ⟨char, - | ⟨second, rest⟩⟩ <;> rfl

end Settings

/-- Each option is that of its environment variable, or else that of the file, or else the
default. -/
structure Dialect.Decided (environment : Settings.Environment) (file : Fields Json)
    (dialect : Dialect) : Prop where
  parameterized : dialect.parameterized =
    (((environment "SEQUEL_PARAMETERIZED").map Settings.isOn).or
      ((given file ["parameterized"]).bind Json.bool?)).getD true
  caseSensitive : dialect.caseSensitive =
    (((environment "SEQUEL_CASE_SENSITIVE").map Settings.isOn).or
      ((given file ["case_sensitive", "caseSensitive"]).bind Json.bool?)).getD true
  quote : dialect.quote =
    (((environment "SEQUEL_ESCAPE_CHARACTER").bind Settings.singleChar?).or
      ((given file ["escape_character", "escapeCharacter"]).bind Json.char?)).getD '"'
  qualifiers : (dialect.qualifiers.map fun (table, schema) => (table, Json.string schema)).Perm
    (part file ["schema_name", "schemaName"])
  featureCaseSensitive : dialect.features.caseSensitive =
    ((given (part file ["wl_next", "wlNext"]) ["case_sensitive", "caseSensitive"]).bind
      Json.bool?).getD false
  casting : dialect.casting =
    (((environment "SEQUEL_CASTING").map Settings.isOn).or
      ((given file ["casting"]).bind Json.bool?)).getD true
  returnsRows : dialect.returnsRows =
    ((given file ["can_return_values", "canReturnValues"]).bind Json.bool?).getD true
  quotesInsertColumns : dialect.quotesInsertColumns =
    ((given file ["escape_inserts", "escapeInserts"]).bind Json.bool?).getD true

theorem Dialect.qualifiers_ofFields
    (distinct : (Json.object file).isDistinct = true) (typed : WellTyped file) :
    ((ofFields file).qualifiers.map fun (table, schema) => (table, Json.string schema)).Perm
      (part file ["schema_name", "schemaName"]) := by
  have nodup := Json.nodup_names_fields
    (Settings.isDistinct_part distinct ["schema_name", "schemaName"])
  have restored : (part file ["schema_name", "schemaName"]).map
      ((fun field => (field.1, Json.string field.2)) ∘ fun field => (field.1, schemaText field.2)) =
        part file ["schema_name", "schemaName"] := by
    refine (List.map_congr_left ?_).trans (List.map_id _)
    rintro ⟨table, json⟩ member
    have isString := typed.schemas (table, json) member
    cases json with
    | string schema => rfl
    | null | bool | number | array | object => cases isString
  rw [ofFields, ← Fields.sorted_map Json.string, List.map_map, restored]
  exact Fields.perm_sorted nodup

namespace Settings

/-- Each setting is that of its environment variable, or else that of the file, or else the
default. -/
structure Decided (environment : Environment) (file : Fields Json) (settings : Settings) :
    Prop where
  debug : settings.debug =
    (((environment "SEQUEL_DEBUG").map isOn).or
      ((given file ["debug"]).bind Json.bool?)).getD true
  logLevel : settings.logLevel =
    ((environment "SEQUEL_LOG_LEVEL").or
      ((given file ["log_level", "logLevel"]).bind Json.string?)).getD "info"
  dialect : Dialect.Decided environment (part file ["dialect"]) settings.dialect

theorem decided_withEnvironment (environment : Environment)
    (distinct : (Json.object file).isDistinct = true) (typed : WellTyped file) :
    Decided environment file ((ofFields file).withEnvironment environment) where
  debug := flagOr_getD ..
  logLevel := Option.getD_or.symm
  dialect := {
    parameterized := flagOr_getD ..
    caseSensitive := flagOr_getD ..
    quote := charOr_getD ..
    qualifiers := Dialect.qualifiers_ofFields (isDistinct_part distinct _) typed.ownDialect
    featureCaseSensitive := rfl
    casting := flagOr_getD ..
    returnsRows := rfl
    quotesInsertColumns := rfl }

theorem ofText_of_parse? {text : String} (parsed : Json.parse? text = some (.object file))
    (typed : WellTyped file) : ofText .json text = .ok (ofFields file) := by
  have document : readDocument? .json text = some (.object file) := parsed
  rw [ofText, document]
  dsimp only
  rw [ofDocument?_object (Json.isDistinct_of_parse? parsed) typed]

/-- Settings are decided by precedence, whatever the order of fields in the file. -/
theorem decided_ofText {text : String} {file : Fields Json}
    (parsed : Json.parse? text = some (.object file)) (typed : WellTyped file)
    (environment : Environment) :
    ∃ settings, (ofText .json text).map (withEnvironment · environment) = .ok settings ∧
      Decided environment file settings ∧
      ∀ otherText json, Json.parse? otherText = some json →
        json.ordered = (Json.object file).ordered →
          (ofText .json otherText).map (withEnvironment · environment) = .ok settings := by
  have distinct := Json.isDistinct_of_parse? parsed
  refine ⟨(ofFields file).withEnvironment environment, ?_,
    decided_withEnvironment environment distinct typed, ?_⟩
  · rw [ofText_of_parse? parsed typed]
    rfl
  · intro otherText json otherParsed same
    obtain ⟨other, rfl⟩ := Json.exists_object_of_ordered_eq same
    have reordered : Reordered file other :=
      ⟨distinct, Json.isDistinct_of_parse? otherParsed, same.symm⟩
    rw [ofText_of_parse? otherParsed (typed.reordered reordered), ofFields_reordered reordered]
    rfl

def mixedDialect : Fields Json :=
  [("caseSensitive", .bool false), ("casting", .bool true), ("escape_character", .string "`"),
    ("wl_next", .object [("caseSensitive", .bool true)]),
    ("schemaName", .object [("wlNext", .string "audit"), ("caseSensitive", .string "sales")])]

def mixedFile : Fields Json :=
  [("logLevel", .string "warn"), ("dialect", .object mixedDialect)]

def shuffledFile : Fields Json :=
  [("dialect", .object mixedDialect.reverse), ("logLevel", .string "warn")]

def mixedEnvironment : Environment
  | "SEQUEL_DEBUG" => some "off"
  | "SEQUEL_CASTING" => some "No"
  | "SEQUEL_CASE_SENSITIVE" => some "YES"
  | "SEQUEL_ESCAPE_CHARACTER" => some "``"
  | _ => none

theorem wellTyped_mixedFile : WellTyped mixedFile where
  debug := by decide
  logLevel := by decide
  dialect := by decide
  ownDialect := {
    parameterized := by decide
    caseSensitive := by decide
    quote := by decide
    qualifiers := by decide
    schemas := by decide
    features := by decide
    ownFeatures := ⟨by decide⟩
    casting := by decide
    returnsRows := by decide
    quotesInsertColumns := by decide }

theorem plain_mixedDialect : ∀ field ∈ mixedDialect, Json.Plain 125 field.2 := by
  have features : Json.Plain 125 (.object [("caseSensitive", .bool true)]) :=
    .object (by decide) (by simp [Json.Plain.bool])
  have qualifiers : Json.Plain 125
      (.object [("wlNext", .string "audit"), ("caseSensitive", .string "sales")]) :=
    .object (by decide) (by simp [Json.Plain.string])
  simp [mixedDialect, features, qualifiers, Json.Plain.bool, Json.Plain.string]

theorem plain_mixedFile : Json.Plain Json.Parser.maxDepth (.object mixedFile) := by
  have dialect : Json.Plain 126 (.object mixedDialect) := .object (by decide) plain_mixedDialect
  have fields : ∀ field ∈ mixedFile, Json.Plain 126 field.2 :=
    List.forall_mem_cons.mpr
      ⟨.string _, List.forall_mem_cons.mpr ⟨dialect, List.forall_mem_nil _⟩⟩
  exact .object (by decide) fields

theorem plain_shuffledFile : Json.Plain Json.Parser.maxDepth (.object shuffledFile) := by
  have dialect : Json.Plain 126 (.object mixedDialect.reverse) :=
    .object (by decide) fun field member => plain_mixedDialect field (List.mem_reverse.mp member)
  have fields : ∀ field ∈ shuffledFile, Json.Plain 126 field.2 :=
    List.forall_mem_cons.mpr
      ⟨dialect, List.forall_mem_cons.mpr ⟨.string _, List.forall_mem_nil _⟩⟩
  exact .object (by decide) fields

theorem ordered_shuffledFile :
    (Json.object shuffledFile).ordered = (Json.object mixedFile).ordered := by
  have dialect : (Json.object mixedDialect.reverse).ordered = (Json.object mixedDialect).ordered :=
    (Json.ordered_object_eq_iff (by decide) (by decide)).mpr
      ((List.reverse_perm mixedDialect).map _)
  refine (Json.ordered_object_eq_iff (by decide) (by decide)).mpr ?_
  rw [shuffledFile, mixedFile, List.map_cons, List.map_cons, List.map_cons, List.map_cons, dialect]
  exact .swap ..

theorem decided_ofText_mixed : ∃ settings,
    (ofText .json (Json.object mixedFile).render).map (withEnvironment · mixedEnvironment) =
        .ok settings ∧
      (ofText .json (Json.object shuffledFile).render).map (withEnvironment · mixedEnvironment) =
        .ok settings ∧
      settings.debug = false ∧ settings.logLevel = "warn" ∧
      settings.dialect.parameterized = true ∧ settings.dialect.caseSensitive = true ∧
      settings.dialect.quote = '`' ∧ settings.dialect.casting = false ∧
      settings.dialect.features.caseSensitive = true ∧
      (settings.dialect.qualifiers.map fun (table, schema) => (table, Json.string schema)).Perm
        [("wlNext", .string "audit"), ("caseSensitive", .string "sales")] := by
  obtain ⟨settings, loaded, decided, anyOrder⟩ := decided_ofText
    (Json.parse?_render plain_mixedFile) wellTyped_mixedFile mixedEnvironment
  exact ⟨settings, loaded,
    anyOrder _ _ (Json.parse?_render plain_shuffledFile) ordered_shuffledFile,
    decided.debug.trans (by decide), decided.logLevel.trans (by decide),
    decided.dialect.parameterized.trans (by decide),
    decided.dialect.caseSensitive.trans (by decide), decided.dialect.quote.trans (by decide),
    decided.dialect.casting.trans (by decide),
    decided.dialect.featureCaseSensitive.trans (by decide), decided.dialect.qualifiers⟩

end Settings

end QuerySql

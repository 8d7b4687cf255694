import QuerySql.Proofs.Json.Depth
import QuerySql.Proofs.Settings.Overlay

/-!
Two ways to the options of a dialect.  Options are read by themselves, or as a part of settings,
where their names are brought into canonical form and they are laid over the defaults; both ways
accept the same documents and read the same options.  Only the reader of text, which does not go
deeper than its limit, may refuse settings whose options could be read by themselves.
-/

namespace QuerySql

namespace Json.FieldNames

open Settings (given SpelledOnce)

variable {names : FieldNames} {fields kept : Fields Json}

/-- Every spelling stands for the name that it is listed under. -/
structure Unambiguous (names : FieldNames) : Prop where
  nodup : (names.map Prod.fst).Nodup
  resolves : ∀ name ∈ names, ∀ spelling ∈ name.1 :: name.2,
    names.resolve? spelling = some name.1

theorem Unambiguous.resolve?_eq_some_iff (unambiguous : names.Unambiguous)
    {name : String × List String} (member : name ∈ names) {spelling : String} :
    names.resolve? spelling = some name.1 ↔ spelling ∈ name.1 :: name.2 := by
  refine ⟨fun resolved => ?_, unambiguous.resolves name member spelling⟩
  obtain ⟨entry, found, same⟩ := Option.map_eq_some_iff.mp resolved
  obtain rfl := List.inj_on_of_nodup_map unambiguous.nodup
    (List.mem_of_find?_eq_some found) member same
  have isEntry := List.find?_some found
  rw [Bool.or_eq_true, beq_iff_eq, List.contains_iff_mem] at isEntry
  exact List.mem_cons.mpr (isEntry.imp_left Eq.symm)

/-- No field of the record is given under two spellings. -/
def EachOnce (names : FieldNames) (fields : Fields Json) : Prop :=
  ∀ name ∈ names, SpelledOnce fields (name.1 :: name.2)

instance : Decidable (names.EachOnce fields) :=
  inferInstanceAs (Decidable (∀ name ∈ names, ∀ first ∈ name.1 :: name.2,
    ∀ second ∈ name.1 :: name.2, first ∈ fields.names → second ∈ fields.names → first = second))

theorem exists_rename? (unambiguous : names.Unambiguous) (nodup : fields.names.Nodup)
    (once : names.EachOnce fields) : ∃ kept, names.rename? fields = some kept := by
  induction fields with
  | nil => exact ⟨[], rfl⟩
  | cons field rest ih =>
      obtain ⟨spelling, value⟩ := field
      obtain ⟨fresh, nodupRest⟩ := List.nodup_cons.mp nodup
      obtain ⟨kept, renames⟩ := ih nodupRest fun name member first isFirst second isSecond inFirst
          inSecond => once name member first isFirst second isSecond
            (List.mem_cons_of_mem _ inFirst) (List.mem_cons_of_mem _ inSecond)
      rw [rename?, renames, Option.bind_some]
      cases resolved : names.resolve? spelling with
      | none => exact ⟨kept, rfl⟩
      | some known =>
          obtain ⟨name, found, rfl⟩ := Option.map_eq_some_iff.mp resolved
          have member := List.mem_of_find?_eq_some found
          have absent : name.1 ∉ kept.names := fun again => by
            obtain ⟨⟨_, json⟩, isKept, rfl⟩ := List.mem_map.mp again
            obtain ⟨other, inRest, isOther⟩ := (mem_rename?_iff renames).mp isKept
            have inNames : other ∈ Fields.names rest := List.mem_map_of_mem inRest
            have same := once name member spelling
              ((unambiguous.resolve?_eq_some_iff member).mp resolved) other
              ((unambiguous.resolve?_eq_some_iff member).mp isOther) List.mem_cons_self
              (List.mem_cons_of_mem _ inNames)
            exact fresh (same ▸ inNames)
          refine ⟨(name.1, value) :: kept, if_neg ?_⟩
          rw [List.contains_iff_mem]
          exact absent

theorem get?_rename? (unambiguous : names.Unambiguous) (nodup : fields.names.Nodup)
    (once : names.EachOnce fields) (renames : names.rename? fields = some kept)
    {name : String × List String} (member : name ∈ names) :
    kept.get? name.1 = given fields (name.1 :: name.2) := by
  apply Option.ext
  intro json
  rw [Fields.get?_eq_some_iff (nodup_rename? renames), mem_rename?_iff renames,
    Settings.given_eq_some_iff nodup (once name member)]
  simp only [unambiguous.resolve?_eq_some_iff member, and_comm]

end Json.FieldNames

namespace Settings

variable {base file kept direct : Fields Json} {name : String × List String}

structure ReadTwice (base file kept direct : Fields Json) (name : String × List String) : Prop where
  laid : kept.get? name.1 =
    ((given file (name.1 :: name.2)).map fun json =>
      Json.layOver (base.get? name.1) (canonicalValue name.1 json)).or (base.get? name.1)
  alone : direct.get? name.1 = given file (name.1 :: name.2)

theorem Defaults.exists_readTwice {names : Json.FieldNames} (defaults : Defaults names base)
    (unambiguous : names.Unambiguous) (canonical : ∀ name ∈ names, Spells name.1 (name.1 :: name.2))
    (nodup : file.names.Nodup) (once : names.EachOnce file) :
    ∃ kept direct, Json.record? names (.object (overlaid base file)) = some kept ∧
      Json.record? names (.object file) = some direct ∧
      ∀ name ∈ names, ReadTwice base file kept direct name := by
  obtain ⟨kept, record, found⟩ := defaults.exists_record file
  obtain ⟨direct, renames⟩ := Json.FieldNames.exists_rename? unambiguous nodup once
  refine ⟨kept, direct, record, renames, fun name member => ⟨?_, ?_⟩⟩
  · rw [found name.1 (unambiguous.resolves name member name.1 List.mem_cons_self),
      get?_overlaid defaults.nodup nodup (canonical name member) (once name member)]
  · exact Json.FieldNames.get?_rename? unambiguous nodup once renames member

theorem ReadTwice.fieldOr_eq {α : Type} {read : Json → Option α} {fallback : α}
    (twice : ReadTwice base file kept direct name)
    (inBase : (base.get? name.1).bind read = some fallback)
    (same : ∀ json, given file (name.1 :: name.2) = some json →
      read (Json.layOver (base.get? name.1) (canonicalValue name.1 json)) = read json) :
    Json.fieldOr kept name.1 fallback read = Json.fieldOr direct name.1 fallback read := by
  rw [Json.fieldOr, Json.fieldOr, twice.laid, twice.alone]
  cases isGiven : given file (name.1 :: name.2) with
  | some json => exact same json isGiven
  | none => exact fieldOr_of_bind fallback inBase

theorem exists_layOver_object (under : Option Json) (name : String) (fields : Fields Json) :
    ∃ fields', Json.layOver under (canonicalValue name (.object fields)) = .object fields' := by
  obtain ⟨inner, canonical⟩ : ∃ inner, canonicalValue name (.object fields) = .object inner := by
    rw [canonicalValue]
    split <;> exact ⟨_, rfl⟩
  rw [canonical]
  cases under with
  | none => exact ⟨inner, rfl⟩
  | some base => cases base <;> exact ⟨_, rfl⟩

theorem read_layOver_scalar {α : Type} {read : Json → Option α}
    (scalar : ∀ fields, read (.object fields) = none) (under : Option Json) (name : String)
    (json : Json) : read (Json.layOver under (canonicalValue name json)) = read json := by
  cases json with
  | object fields =>
      obtain ⟨fields', isObject⟩ := exists_layOver_object under name fields
      rw [isObject, scalar, scalar]
  | null | bool | number | string | array =>
      rw [canonicalValue_of_not_object rfl, layOver_of_not_object rfl]

theorem layOver_empty {json : Json} (distinct : json.isDistinct = true) {name : String}
    (notRenamed : ¬(name = "dialect" ∨ name = "wl_next")) :
    Json.layOver (some (.object [])) (canonicalValue name json) = json := by
  cases json with
  | object fields =>
      have nodup : (Fields.names ([] : Fields Json) ++ Fields.names fields).Nodup :=
        Json.nodup_names_fields distinct
      rw [canonicalValue, if_neg notRenamed]
      exact congrArg Json.object (Json.mergeFields_of_nodup nodup)
  | null | bool | number | string | array =>
      rw [canonicalValue_of_not_object rfl, layOver_of_not_object rfl]

end Settings

namespace Dialect

open Settings

/-- No option, and no feature among the options, is given under two spellings. -/
def SpelledOnce : Json → Prop
  | .object options => fieldNames.EachOnce options ∧
      featureNames.EachOnce (part options ["wl_next", "wlNext"])
  | _ => True

variable {file : Fields Json}

theorem readFeatures?_laidOver (nodup : file.names.Nodup) (once : featureNames.EachOnce file) :
    readFeatures? (.object (overlaid [("case_sensitive", .bool false)] file)) =
      readFeatures? (.object file) := by
  have defaults : Defaults featureNames [("case_sensitive", .bool false)] :=
    ⟨by decide, by decide, by decide⟩
  obtain ⟨kept, direct, record, recordAlone, twice⟩ :=
    defaults.exists_readTwice ⟨by decide, by decide⟩ (by decide) nodup once
  have caseSensitive :
      Json.fieldOr kept "case_sensitive" false Json.bool? =
        Json.fieldOr direct "case_sensitive" false Json.bool? :=
    (twice ("case_sensitive", ["caseSensitive"]) (by decide)).fieldOr_eq rfl
      fun json _ => read_layOver_scalar (fun _ => rfl) _ _ json
  rw [readFeatures?, readFeatures?, record, recordAlone]
  simp only [Option.bind_eq_bind, Option.bind_some, caseSensitive]

theorem readFeatures?_layOver {json : Json} (distinct : json.isDistinct = true)
    (once : featureNames.EachOnce json.fields) :
    readFeatures? (Json.layOver (some (.object [("case_sensitive", .bool false)]))
      (canonicalValue "wl_next" json)) = readFeatures? json := by
  cases json with
  | object features =>
      rw [canonicalValue, if_pos (.inr rfl)]
      exact readFeatures?_laidOver (Json.nodup_names_fields distinct) once
  | null | bool | number | string | array =>
      rw [canonicalValue_of_not_object rfl, layOver_of_not_object rfl]

theorem ofJson?_laidOver (distinct : (Json.object file).isDistinct = true)
    (once : SpelledOnce (.object file)) :
    ofJson? (.object (overlaid (toJson {}).fields file)) = ofJson? (.object file) := by
  have nodup : file.names.Nodup := Json.nodup_names_fields distinct
  have defaults : Defaults fieldNames (toJson {}).fields := ⟨by decide, by decide, by decide⟩
  obtain ⟨kept, direct, record, recordAlone, twice⟩ :=
    defaults.exists_readTwice ⟨by decide, by decide⟩ (by decide) nodup once.1
  have flag (name : String × List String) (member : name ∈ fieldNames)
      (inBase : ((toJson {}).fields.get? name.1).bind Json.bool? = some true) :
      Json.fieldOr kept name.1 true Json.bool? = Json.fieldOr direct name.1 true Json.bool? :=
    (twice name member).fieldOr_eq inBase
      fun json _ => read_layOver_scalar (fun _ => rfl) _ _ json
  have quote : Json.fieldOr kept "escape_character" '"' Json.char? =
      Json.fieldOr direct "escape_character" '"' Json.char? :=
    (twice ("escape_character", ["escapeCharacter"]) (by decide)).fieldOr_eq rfl
      fun json _ => read_layOver_scalar (fun _ => rfl) _ _ json
  have isDistinct {spelled : List String} {json : Json} (isGiven : given file spelled = some json) :
      json.isDistinct = true := by
    obtain ⟨spelling, -, inFile⟩ := List.exists_of_findSome?_eq_some isGiven
    exact Json.isDistinct_fields distinct _ (Fields.mem_of_get? inFile)
  have qualifiers : Json.fieldOr kept "schema_name" [] readQualifiers? =
      Json.fieldOr direct "schema_name" [] readQualifiers? :=
    (twice ("schema_name", ["schemaName"]) (by decide)).fieldOr_eq rfl
      fun json isGiven => congrArg readQualifiers? (layOver_empty (isDistinct isGiven) (by decide))
  have features : Json.fieldOr kept "wl_next" {} readFeatures? =
      Json.fieldOr direct "wl_next" {} readFeatures? := by
    refine (twice ("wl_next", ["wlNext"]) (by decide)).fieldOr_eq rfl fun json isGiven =>
      readFeatures?_layOver (isDistinct isGiven) ?_
    have isPart := once.2
    rw [part, isGiven] at isPart
    exact isPart
  rw [ofJson?, ofJson?, record, recordAlone]
  simp only [Option.bind_eq_bind, Option.bind_some, quote, qualifiers, features,
    flag ("parameterized", []) (by decide) rfl,
    flag ("case_sensitive", ["caseSensitive"]) (by decide) rfl,
    flag ("casting", []) (by decide) rfl,
    flag ("can_return_values", ["canReturnValues"]) (by decide) rfl,
    flag ("escape_inserts", ["escapeInserts"]) (by decide) rfl]

/-- Options are read alike whether or not they are laid over the defaults first. -/
theorem ofJson?_merge {json : Json} (distinct : json.isDistinct = true) (once : SpelledOnce json) :
    ofJson? (Json.merge (toJson {}) (canonicalValue "dialect" json)) = ofJson? json := by
  cases json with
  | object file =>
      rw [canonicalValue, if_pos (.inl rfl)]
      exact ofJson?_laidOver distinct once
  | null | bool | number | string | array => rfl

end Dialect

namespace Settings

theorem ofDocument?_dialect {json : Json} (distinct : json.isDistinct = true)
    (once : Dialect.SpelledOnce json) :
    ofDocument? (.object [("dialect", json)]) =
      (Dialect.ofJson? json).map fun dialect => { dialect } := by
  have merged : Json.merge (toJson {}) (canonical (.object [("dialect", json)])) =
      .object [("debug", .bool true), ("log_level", .string "info"),
        ("dialect", Json.merge (Dialect.toJson {}) (canonicalValue "dialect" json))] := rfl
  have read (dialect : Json) :
      ofJson? (.object [("debug", .bool true), ("log_level", .string "info"),
        ("dialect", dialect)]) =
        (Dialect.ofJson? dialect).map fun dialect => { dialect } := by
    rw [Option.map_eq_bind]
    rfl
  rw [ofDocument?, merged, read, Dialect.ofJson?_merge distinct once]

/-- Options are accepted by themselves if and only if settings with nothing else are, whatever text
stands for the settings, and then both ways read the same options.  No text stands for settings that
nest deeper than the reader goes. -/
theorem ofText_dialect {json : Json} (once : Dialect.SpelledOnce json) :
    (∀ text, Json.parse? text = some (.object [("dialect", json)]) →
      ofText .json text =
        match Dialect.ofJson? json with
        | some dialect => .ok { dialect }
        | none => .error (.settings (.notSettings .json))) ∧
    (Json.Parser.maxDepth ≤ json.depth →
      ∀ text, Json.parse? text ≠ some (.object [("dialect", json)])) := by
  refine ⟨fun text reads => ?_, fun deep text reads => ?_⟩
  · have distinct := Json.isDistinct_fields (Json.isDistinct_of_parse? reads) ("dialect", json)
      (List.mem_singleton_self _)
    have document : readDocument? .json text = some (.object [("dialect", json)]) := reads
    rw [ofText, document]
    dsimp only
    rw [ofDocument?_dialect distinct once]
    cases Dialect.ofJson? json <;> rfl
  · have depth := Json.depth_le_of_parse? reads
    have outer : (Json.object [("dialect", json)]).depth = max json.depth 0 + 1 := rfl
    omega

def sparseOptions : Json :=
  .object [("wlNext", .array [.bool true]), ("limits", .array []),
    ("schemaName", .object [("wl_next", .string "audit")]), ("caseSensitive", .bool false)]

def nestedList : Nat → Json
  | 0 => .array []
  | levels + 1 => .array [nestedList levels]

def deepOptions : Json :=
  .object [("limits", nestedList 125)]

theorem plain_sparseOptions : Json.Plain 126 sparseOptions := by
  have features : Json.Plain 125 (.array [.bool true]) := .array (by simp [Json.Plain.bool])
  have limits : Json.Plain 125 (.array []) := .array (List.forall_mem_nil _)
  have qualifiers : Json.Plain 125 (.object [("wl_next", .string "audit")]) :=
    .object (by decide) (by simp [Json.Plain.string])
  exact .object (by decide) (by simp [features, limits, qualifiers, Json.Plain.bool])

theorem plain_nestedList (levels : Nat) : Json.Plain (levels + 1) (nestedList levels) := by
  induction levels with
  | zero => exact .array (List.forall_mem_nil _)
  | succ levels ih => exact .array (List.forall_mem_singleton.mpr ih)

theorem depth_nestedList (levels : Nat) : (nestedList levels).depth = levels + 1 := by
  induction levels with
  | zero => rfl
  | succ levels ih => rw [nestedList, Json.depth, Json.depthIn, Json.depthIn, ih, Nat.max_zero]

theorem plain_deepOptions : Json.Plain 127 deepOptions :=
  .object (by decide) (List.forall_mem_singleton.mpr (plain_nestedList 125))

theorem depth_deepOptions : deepOptions.depth = 127 := by
  rw [deepOptions, Json.depth, Json.depthUnder, depth_nestedList]
  rfl

theorem ofText_dialect_sparse :
    Dialect.SpelledOnce sparseOptions ∧
      Json.parse? (Json.object [("dialect", sparseOptions)]).render =
        some (.object [("dialect", sparseOptions)]) ∧
      ofText .json (Json.object [("dialect", sparseOptions)]).render =
        .ok { dialect := {
          caseSensitive := false
          qualifiers := [("wl_next", "audit")]
          features := { caseSensitive := true } } } ∧
      Dialect.SpelledOnce deepOptions ∧ Json.Parser.maxDepth ≤ deepOptions.depth ∧
      ∀ text, Json.parse? text ≠ some (.object [("dialect", deepOptions)]) := by
  have once : Dialect.SpelledOnce sparseOptions := ⟨by decide, by decide⟩
  have plain : Json.Plain Json.Parser.maxDepth (.object [("dialect", sparseOptions)]) :=
    .object (by decide) (List.forall_mem_singleton.mpr plain_sparseOptions)
  have reads := Json.parse?_render plain
  have onceDeep : Dialect.SpelledOnce deepOptions := ⟨by decide, by decide⟩
  have deep : Json.Parser.maxDepth ≤ deepOptions.depth := depth_deepOptions.ge
  exact ⟨once, reads, (ofText_dialect once).1 _ reads, onceDeep, deep,
    (ofText_dialect onceDeep).2 deep⟩

/-- The options are read by themselves, as text or as a document, but not as settings. -/
theorem ofText_dialect_deep :
    Dialect.SpelledOnce deepOptions ∧ Json.parse? deepOptions.render = some deepOptions ∧
      Dialect.ofJson? deepOptions = some {} ∧
      ofText .json (Json.object [("dialect", deepOptions)]).render =
        .error (.settings (.notParsed .json)) := by
  have plain : Json.Plain 128 (.object [("dialect", deepOptions)]) :=
    .object (by decide) (List.forall_mem_singleton.mpr plain_deepOptions)
  have tooDeep : Json.Parser.maxDepth < (Json.object [("dialect", deepOptions)]).depth := by
    rw [Json.depth, Json.depthUnder, depth_deepOptions]
    decide
  have notRead : readDocument? .json (Json.object [("dialect", deepOptions)]).render = none :=
    Json.parse?_render_eq_none plain tooDeep
  refine ⟨⟨by decide, by decide⟩, Json.parse?_render plain_deepOptions, rfl, ?_⟩
  rw [ofText, notRead]

end Settings

end QuerySql

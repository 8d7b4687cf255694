import QuerySql.Proofs.Json.RoundTrip
import QuerySql.Schema.Basic

namespace QuerySql

open Fields (Among)

namespace Json

theorem FieldNames.rename?_own {names : FieldNames} {fields : Fields Json}
    (own : ∀ name ∈ fields.names, names.resolve? name = some name) (nodup : fields.names.Nodup) :
    names.rename? fields = some fields := by
  have ownNames : ∀ name ∈ fields.names, ∀ known, names.resolve? name = some known → known = name :=
    fun name member known resolved => Option.some.inj (resolved.symm.trans (own name member))
  rw [rename?_eq_filter nodup ownNames, List.filter_eq_self.mpr]
  intro field member
  rw [own field.1 (List.mem_map_of_mem member), Option.isSome_some]

theorem record?_own {names : FieldNames} {fields : Fields Json}
    (among : Among (names.map Prod.fst) fields)
    (own : ∀ name ∈ names.map Prod.fst, names.resolve? name = some name)
    (nodup : (names.map Prod.fst).Nodup) : record? names (.object fields) = some fields :=
  FieldNames.rename?_own (fun name member => own name (among.sublist.subset member))
    (among.sublist.nodup nodup)

theorem isDistinct_of_record? {names : FieldNames} {json : Json} {fields : Fields Json}
    (distinct : json.isDistinct = true) (reads : record? names json = some fields) :
    ∀ field ∈ fields, field.2.isDistinct = true := by
  cases json
  case object given =>
    rintro ⟨name, value⟩ member
    obtain ⟨spelling, isGiven, -⟩ := (FieldNames.mem_rename?_iff reads).mp member
    exact isDistinct_fields distinct (spelling, value) isGiven
  case array items =>
    rw [record?] at reads
    split at reads
    · cases reads
      exact fun field member => isDistinct_items distinct field.2 (List.of_mem_zip member).2
    · cases reads
  all_goals cases reads

end Json

namespace AttributeType

/-- Reading the canonical name of a type gives the type. -/
def Canonical (type : AttributeType) : Prop :=
  ofName type.name = type

theorem eq_of_ofName_eq_other {name kept : String} (same : ofName name = .other kept) :
    kept = name := by
  unfold ofName at same
  generalize Text.lower name = word at same
  dsimp only at same
  iterate 10
    rcases ite_eq_iff.mp same with ⟨-, named⟩ | ⟨-, same⟩
    · cases named
  exact (AttributeType.other.inj same).symm

theorem canonical_ofName (name : String) : (ofName name).Canonical := by
  generalize same : ofName name = type
  cases type
  case other kept =>
    obtain rfl := eq_of_ofName_eq_other same
    exact same
  all_goals rfl

end AttributeType

namespace Attribute

def Legible (attr : Attribute) : Prop :=
  ∀ type ∈ attr.type, type.Canonical

theorem legible_of_ofJson? {json : Json} {attr : Attribute} (reads : ofJson? json = some attr) :
    attr.Legible := by
  have canonical : ∀ {name : Option String} {type : AttributeType},
      type ∈ name.map AttributeType.ofName → type.Canonical := by
    intro name type member
    obtain ⟨name, -, rfl⟩ := Option.map_eq_some_iff.mp member
    exact AttributeType.canonical_ofName name
  unfold ofJson? at reads
  split at reads
  · cases reads
    intro type member
    cases member
    exact AttributeType.canonical_ofName _
  · simp only [Option.bind_eq_bind, Option.bind_eq_some_iff] at reads
    obtain ⟨_, -, _, -, _, -, _, -, _, -, _, -, _, -, _, -, _, -, _, -, reads⟩ := reads
    cases reads
    exact fun type member => canonical member

@[simp] theorem get?_optionalField (name other : String) (value : Option String) :
    Fields.get? (optionalField name value) other =
      if name = other then value.map .string else none := by
  cases value with
  | none =>
      rw [Option.map_none, ite_self]
      rfl
  | some text =>
      rw [optionalField, Fields.get?_cons]
      rfl

theorem among_optionalField (name : String) (value : Option String) :
    Among [name] (optionalField name value) := by
  cases value with
  | none => exact .nil
  | some text => exact .single rfl

theorem among_toJson (attr : Attribute) : Among (fieldNames.map Prod.fst) attr.toJson.fields := by
  have flags : Among ["primaryKey", "foreignKey"]
      [("primaryKey", .bool attr.primaryKey), ("foreignKey", .bool attr.foreignKey)] :=
    ⟨.refl _, by simp [Json.isDistinct]⟩
  exact (((((((among_optionalField "type" _).append (among_optionalField "columnName" _)).append
    flags).append (among_optionalField "references" _)).append (among_optionalField "on" _)).append
      (among_optionalField "collection" _)).append (among_optionalField "model" _)).append
        (among_optionalField "via" _)

theorem fields_toJson (attr : Attribute) :
    attr.toJson.fields =
      optionalField "type" (attr.type.map AttributeType.name)
        ++ optionalField "columnName" attr.columnName
        ++ [("primaryKey", .bool attr.primaryKey), ("foreignKey", .bool attr.foreignKey)]
        ++ optionalField "references" attr.references
        ++ optionalField "on" attr.on
        ++ optionalField "collection" attr.collection
        ++ optionalField "model" attr.model
        ++ optionalField "via" attr.via := rfl

theorem get?_fields_toJson (attr : Attribute) :
    attr.toJson.fields.get? "type" = (attr.type.map AttributeType.name).map .string ∧
      attr.toJson.fields.get? "columnName" = attr.columnName.map .string ∧
      attr.toJson.fields.get? "primaryKey" = some (.bool attr.primaryKey) ∧
      attr.toJson.fields.get? "foreignKey" = some (.bool attr.foreignKey) ∧
      attr.toJson.fields.get? "references" = attr.references.map .string ∧
      attr.toJson.fields.get? "on" = attr.on.map .string ∧
      attr.toJson.fields.get? "collection" = attr.collection.map .string ∧
      attr.toJson.fields.get? "model" = attr.model.map .string ∧
      attr.toJson.fields.get? "via" = attr.via.map .string := by
  simp only [fields_toJson, Fields.get?_append, Fields.get?_cons, Fields.get?_nil,
    get?_optionalField, reduceIte, String.reduceEq, Option.none_or, Option.or_none, and_self]

theorem ofJson?_toJson {attr : Attribute} (legible : attr.Legible) :
    ofJson? attr.toJson = some attr := by
  have record : Json.record? fieldNames attr.toJson = some attr.toJson.fields :=
    Json.record?_own attr.among_toJson (by decide) (by decide)
  have text : ∀ (name : String) (value : Option String),
      attr.toJson.fields.get? name = value.map .string →
        Json.fieldOr attr.toJson.fields name none (Json.nullable? Json.string?) = some value := by
    intro name value found
    rw [Json.fieldOr, found]
    cases value <;> rfl
  have flag : ∀ (name : String) (value : Bool),
      attr.toJson.fields.get? name = some (.bool value) →
        Json.fieldOr attr.toJson.fields name false Json.bool? = some value := by
    intro name value found
    rw [Json.fieldOr, found]
    rfl
  have found := get?_fields_toJson attr
  have type : (attr.type.map AttributeType.name).map AttributeType.ofName = attr.type := by
    obtain ⟨type, _, _, _, _, _, _, _, _⟩ := attr
    cases type with
    | none => rfl
    | some type => exact congrArg some (legible type rfl)
  change (Json.record? fieldNames attr.toJson).bind _ = _
  rw [record, Option.bind_some]
  simp only [text "type" (attr.type.map AttributeType.name) (by simp only [found]),
    text "columnName" attr.columnName (by simp only [found]),
    flag "primaryKey" attr.primaryKey (by simp only [found]),
    flag "foreignKey" attr.foreignKey (by simp only [found]),
    text "references" attr.references (by simp only [found]),
    text "on" attr.on (by simp only [found]),
    text "collection" attr.collection (by simp only [found]),
    text "model" attr.model (by simp only [found]),
    text "via" attr.via (by simp only [found]), Option.bind_eq_bind, Option.bind_some, type]
  rfl

theorem plain_optionalField (depth : Nat) (name : String) (value : Option String) :
    ∀ field ∈ optionalField name value, Json.Plain depth field.2 := by
  cases value with
  | none => exact List.forall_mem_nil _
  | some text => exact List.forall_mem_singleton.mpr (.string text)

theorem plain_toJson (attr : Attribute) (depth : Nat) : Json.Plain (depth + 1) attr.toJson := by
  have nodup : attr.toJson.fields.names.Nodup := attr.among_toJson.sublist.nodup (by decide)
  have text := plain_optionalField depth
  have flags : ∀ field ∈ ([("primaryKey", .bool attr.primaryKey),
      ("foreignKey", .bool attr.foreignKey)] : Fields Json), Json.Plain depth field.2 :=
    List.forall_mem_cons.mpr ⟨.bool _, List.forall_mem_singleton.mpr (.bool _)⟩
  refine .object nodup ?_
  simp only [List.forall_mem_append]
  exact ⟨⟨⟨⟨⟨⟨⟨text _ _, text _ _⟩, flags⟩, text _ _⟩, text _ _⟩, text _ _⟩, text _ _⟩, text _ _⟩

end Attribute

namespace Table

structure Legible (table : Table) : Prop where
  names : (table.attributes.map Prod.fst).Nodup
  attributes : ∀ entry ∈ table.attributes, entry.2.Legible

theorem legible_of_readAttributes? {json : Json} {attributes : List (String × Attribute)}
    (reads : readAttributes? json = some attributes) :
    attributes.map Prod.fst = json.fields.names ∧ ∀ entry ∈ attributes, entry.2.Legible := by
  cases json
  case object fields =>
    rw [readAttributes?] at reads
    induction fields generalizing attributes with
    | nil =>
        cases reads
        exact ⟨rfl, List.forall_mem_nil _⟩
    | cons field rest ih =>
        rw [List.mapM_cons] at reads
        obtain ⟨entry, readsEntry, reads⟩ := Option.bind_eq_some_iff.mp reads
        obtain ⟨others, readsOthers, same⟩ := Option.bind_eq_some_iff.mp reads
        obtain ⟨attr, readsAttr, rfl⟩ := Option.map_eq_some_iff.mp readsEntry
        cases same
        obtain ⟨names, legible⟩ := ih readsOthers
        refine ⟨congrArg (field.1 :: ·) names, List.forall_mem_cons.mpr ⟨?_, legible⟩⟩
        exact Attribute.legible_of_ofJson? readsAttr
  all_goals cases reads

theorem legible_of_ofJson? {json : Json} {table : Table} (distinct : json.isDistinct = true)
    (reads : ofJson? json = some table) : table.Legible := by
  obtain ⟨fields, record, reads⟩ := Option.bind_eq_some_iff.mp reads
  obtain ⟨name, -, reads⟩ := Option.bind_eq_some_iff.mp reads
  obtain ⟨attributes, readsAttributes, same⟩ := Option.bind_eq_some_iff.mp reads
  cases same
  rw [Json.fieldOr] at readsAttributes
  split at readsAttributes
  · cases readsAttributes
    exact ⟨List.nodup_nil, List.forall_mem_nil _⟩
  · rename_i inner found
    obtain ⟨names, legible⟩ := legible_of_readAttributes? readsAttributes
    have part := Json.isDistinct_of_record? distinct record _ (Fields.mem_of_get? found)
    exact ⟨names ▸ Json.nodup_names_fields part, legible⟩

theorem readAttributes?_map {attributes : List (String × Attribute)}
    (legible : ∀ entry ∈ attributes, entry.2.Legible) :
    readAttributes? (.object (attributes.map fun (name, attr) => (name, attr.toJson))) =
      some attributes := by
  induction attributes with
  | nil => rfl
  | cons entry rest ih =>
      obtain ⟨first, others⟩ := List.forall_mem_cons.mp legible
      have readsRest := ih others
      rw [readAttributes?] at readsRest ⊢
      rw [List.map_cons, List.mapM_cons, Attribute.ofJson?_toJson first, readsRest]
      rfl

theorem ofJson?_toJson {table : Table} (legible : table.Legible) :
    ofJson? table.toJson = some table := by
  change (readAttributes? (.object (table.attributes.map _))).bind _ = _
  rw [readAttributes?_map legible.attributes]
  rfl

theorem plain_toJson {table : Table} (legible : table.Legible) (depth : Nat) :
    Json.Plain (depth + 3) table.toJson := by
  have inner : Json.Plain (depth + 2)
      (.object (table.attributes.map fun (name, attr) => (name, attr.toJson))) := by
    refine .object ?_ (List.forall_mem_map.mpr fun entry _ => entry.2.plain_toJson depth)
    rw [Fields.names, List.map_map]
    exact legible.names
  have nodup : ["tableName", "attributes"].Nodup := by decide
  refine .object nodup ?_
  exact List.forall_mem_cons.mpr ⟨.string table.name, List.forall_mem_singleton.mpr inner⟩

end Table

namespace Schema

/-- Identities are given once, and no table is without a name unless its identity is empty. -/
structure Legible (schema : Schema) : Prop where
  identities : (schema.tables.map Prod.fst).Nodup
  names : ∀ entry ∈ schema.tables, named entry.1 entry.2 = entry.2
  tables : ∀ entry ∈ schema.tables, entry.2.Legible

theorem Legible.empty : Legible {} :=
  ⟨List.nodup_nil, List.forall_mem_nil _, List.forall_mem_nil _⟩

theorem named_named (identity : String) (table : Table) :
    named identity (named identity table) = named identity table := by
  simp only [named]
  split
  · split <;> rfl
  · rfl

theorem Legible.insert {schema : Schema} {identity : String} {table : Table}
    (legible : schema.Legible) (legibleTable : table.Legible) :
    (schema.insert identity table).Legible where
  identities := Fields.nodup_put legible.identities
  names := by
    intro entry member
    rcases Fields.mem_put member with rfl | old
    · exact named_named identity table
    · exact legible.names entry old
  tables := by
    intro entry member
    rcases Fields.mem_put member with rfl | old
    · change (named identity table).Legible
      unfold named
      split
      · exact ⟨legibleTable.names, legibleTable.attributes⟩
      · exact legibleTable
    · exact legible.tables entry old

theorem legible_of_insertFields? {schema last : Schema} {fields : Fields Json}
    (legible : schema.Legible) (distinct : ∀ field ∈ fields, field.2.isDistinct = true)
    (reads : schema.insertFields? fields = some last) : last.Legible := by
  induction fields generalizing schema with
  | nil =>
      cases reads
      exact legible
  | cons field rest ih =>
      obtain ⟨first, others⟩ := List.forall_mem_cons.mp distinct
      obtain ⟨table, readsTable, readsRest⟩ := Option.bind_eq_some_iff.mp reads
      exact ih (legible.insert (Table.legible_of_ofJson? first readsTable)) others readsRest

theorem insertFields?_map {tables : List (String × Table)} {schema : Schema}
    (fresh : (schema.tables.map Prod.fst ++ tables.map Prod.fst).Nodup)
    (names : ∀ entry ∈ tables, named entry.1 entry.2 = entry.2)
    (legible : ∀ entry ∈ tables, entry.2.Legible) :
    schema.insertFields? (tables.map fun (identity, table) => (identity, table.toJson)) =
      some ⟨schema.tables ++ tables⟩ := by
  induction tables generalizing schema with
  | nil =>
      rw [List.append_nil]
      rfl
  | cons entry rest ih =>
      obtain ⟨ownName, otherNames⟩ := List.forall_mem_cons.mp names
      obtain ⟨first, others⟩ := List.forall_mem_cons.mp legible
      have notYet : entry.1 ∉ Fields.names schema.tables := fun member =>
        (List.nodup_append.mp fresh).2.2 _ member _ (List.mem_cons_self ..) rfl
      have inserted : schema.insert entry.1 entry.2 = ⟨schema.tables ++ [entry]⟩ := by
        rw [Schema.insert, ownName, Fields.put_of_notMem notYet]
      rw [List.map_cons, insertFields?, Table.ofJson?_toJson first, Option.bind_some, inserted,
        ih _ otherNames others, List.append_assoc]
      · rfl
      · simpa using fresh

theorem ofJson?_toJson {schema : Schema} (legible : schema.Legible) :
    ofJson? schema.toJson = some schema :=
  insertFields?_map legible.identities legible.names legible.tables

theorem plain_toJson {schema : Schema} (legible : schema.Legible) (depth : Nat) :
    Json.Plain (depth + 4) schema.toJson := by
  refine .object ?_ (List.forall_mem_map.mpr fun entry member =>
    Table.plain_toJson (legible.tables entry member) depth)
  rw [Fields.names, List.map_map]
  exact legible.identities

theorem legible_of_ofText {text : String} {schema : Schema} (reads : ofText text = .ok schema) :
    schema.Legible := by
  rw [ofText] at reads
  split at reads
  · rename_i found
    obtain ⟨json, parses, readsJson⟩ := Option.bind_eq_some_iff.mp found
    cases reads
    have distinct := Json.isDistinct_of_parse? parses
    cases json
    case object fields =>
      exact legible_of_insertFields? .empty (Json.isDistinct_fields distinct) readsJson
    all_goals cases readsJson
  · cases reads

/-- Every schema that a text gives is written to a text that gives it again. -/
theorem ofText_render_toJson {text : String} {schema : Schema} (reads : ofText text = .ok schema) :
    ofText schema.toJson.render = .ok schema := by
  have legible := legible_of_ofText reads
  rw [ofText, Json.parse?_render (plain_toJson legible 123), Option.bind_some,
    ofJson?_toJson legible]

def variedText : String :=
  "\x7b\"pet\":\x7b\"definition\":\x7b\"note\":\"MEDIUMTEXT\","
    ++ " \"spot\":\x7b\"type\":\"Point\"\x7d\x7d,\"tableName\":\"\"\x7d\x7d"

def variedSchema : Schema where
  tables := [
    ("pet", {
      name := "pet"
      attributes := [
        ("note", { type := some .text }),
        ("spot", { type := some (.other "Point") })] })]

theorem ofText_render_toJson_varied :
    ofText variedText = .ok variedSchema ∧ ofText variedSchema.toJson.render = .ok variedSchema :=
  have found : (Json.parse? variedText).bind ofJson? = some variedSchema := by decide +kernel
  have reads : ofText variedText = .ok variedSchema := by rw [ofText, found]
  ⟨reads, ofText_render_toJson reads⟩

end Schema

end QuerySql

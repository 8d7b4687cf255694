import QuerySql.Proofs.Json.Distinct

namespace QuerySql

namespace Json

theorem isDistinct_ofFloat (value : Float) : (ofFloat value).isDistinct = true := by
  rw [ofFloat]
  cases Number.ofFloat? value <;> rfl

end Json

namespace Value

mutual

def documents : Value → List Json
  | .document json => [json]
  | .list items => documentsIn items
  | _ => []
termination_by structural value => value

def documentsIn : List Value → List Json
  | [] => []
  | item :: rest => item.documents ++ documentsIn rest
termination_by structural items => items

end

mutual

theorem isDistinct_toJson {value : Value}
    (distinct : ∀ document ∈ value.documents, document.isDistinct = true) :
    value.toJson.isDistinct = true := by
  cases value with
  | document json => exact distinct json (List.mem_singleton_self json)
  | list items => exact (Json.isDistinct_array _).mpr (isDistinct_toJsonItems distinct)
  | float value => exact Json.isDistinct_ofFloat value
  | null | bool | int | uint | string | bytes | date | timestamp | instant | time | uuid => rfl
termination_by structural value

theorem isDistinct_toJsonItems {items : List Value}
    (distinct : ∀ document ∈ documentsIn items, document.isDistinct = true) :
    ∀ json ∈ toJsonItems items, json.isDistinct = true := by
  cases items with
  | nil => exact List.forall_mem_nil _
  | cons item rest =>
      obtain ⟨first, others⟩ := List.forall_mem_append.mp distinct
      exact List.forall_mem_cons.mpr ⟨isDistinct_toJson first, isDistinct_toJsonItems others⟩
termination_by structural items

end

end Value

namespace Filter

mutual

def documents : Filter → List Json
  | .value scalar => scalar.documents
  | .list items => documentsIn items
  | .object entries => documentsUnder entries
termination_by structural filter => filter

def documentsIn : List Filter → List Json
  | [] => []
  | item :: rest => item.documents ++ documentsIn rest
termination_by structural items => items

def documentsUnder : List (String × Filter) → List Json
  | [] => []
  | (_, filter) :: rest => filter.documents ++ documentsUnder rest
termination_by structural entries => entries

end

mutual

theorem isDistinct_toJson {filter : Filter}
    (distinct : ∀ document ∈ filter.documents, document.isDistinct = true) :
    filter.toJson.isDistinct = true := by
  cases filter with
  | value scalar => exact Value.isDistinct_toJson distinct
  | list items => exact (Json.isDistinct_array _).mpr (isDistinct_toJsonItems distinct)
  | object entries =>
      refine (Json.isDistinct_object _).mpr ⟨Fields.nodup_collect _, fun field member => ?_⟩
      exact isDistinct_toJsonEntries distinct field (Fields.mem_of_mem_collect member)
termination_by structural filter

theorem isDistinct_toJsonItems {items : List Filter}
    (distinct : ∀ document ∈ documentsIn items, document.isDistinct = true) :
    ∀ json ∈ toJsonItems items, json.isDistinct = true := by
  cases items with
  | nil => exact List.forall_mem_nil _
  | cons item rest =>
      obtain ⟨first, others⟩ := List.forall_mem_append.mp distinct
      exact List.forall_mem_cons.mpr ⟨isDistinct_toJson first, isDistinct_toJsonItems others⟩
termination_by structural items

theorem isDistinct_toJsonEntries {entries : List (String × Filter)}
    (distinct : ∀ document ∈ documentsUnder entries, document.isDistinct = true) :
    ∀ field ∈ toJsonEntries entries, field.2.isDistinct = true := by
  cases entries with
  | nil => exact List.forall_mem_nil _
  | cons entry rest =>
      obtain ⟨key, filter⟩ := entry
      obtain ⟨first, others⟩ := List.forall_mem_append.mp distinct
      exact List.forall_mem_cons.mpr ⟨isDistinct_toJson first, isDistinct_toJsonEntries others⟩
termination_by structural entries

end

/-- A filter keeps the document that it was made from, and whatever a filter holds, its document is
kept by the filter that is made from it. -/
theorem keeps_documents :
    (∀ json : Json, json.isDistinct = true → (ofJson json).toJson = json) ∧
      ∀ filter : Filter, (∀ document ∈ filter.documents, document.isDistinct = true) →
        (ofJson filter.toJson).toJson = filter.toJson :=
  ⟨fun _ distinct => toJson_ofJson distinct,
    fun _ distinct => toJson_ofJson (isDistinct_toJson distinct)⟩

def numberDocument : Json :=
  .object [
    ("or", .array [.object [("a", .number (.unsigned 0x8000000000000000 (by decide)))],
      .object [("b", .object [("<", .number (.float 1.5 (by decide)))]), ("a", .null)]]),
    ("a", .array [.number (.signed (-5)), .array [], .string "1.5"])]

def typedFilter : Filter :=
  .object [
    ("day", .value (.date ⟨2024, 2, 29, by decide, by decide⟩)),
    ("any", .list [.value (.list [.uint 7, .document (.object [("k", .null)]), .list []]),
      .value (.bytes [0x00, 0xFF])]),
    ("day", .value (.float (0.0 / 0.0)))]

theorem keeps_documents_typed :
    numberDocument.isDistinct = true ∧ (ofJson numberDocument).toJson = numberDocument ∧
      (∀ document ∈ typedFilter.documents, document.isDistinct = true) ∧
      typedFilter.toJson = .object [
        ("day", .null),
        ("any", .array [.array [.number (.signed 7), .object [("k", .null)], .array []],
          .string "\\x00ff"])] ∧
      (ofJson typedFilter.toJson).toJson = typedFilter.toJson := by
  have distinct : numberDocument.isDistinct = true := by decide
  have typed : ∀ document ∈ typedFilter.documents, document.isDistinct = true := by decide
  exact ⟨distinct, keeps_documents.1 numberDocument distinct, typed, rfl,
    keeps_documents.2 typedFilter typed⟩

end Filter

end QuerySql

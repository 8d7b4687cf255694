import QuerySql.Proofs.Json.Order

namespace QuerySql.Json

theorem ordered_object_eq_of_get? {fields other : Fields Json} (nodup : fields.names.Nodup)
    (nodupOther : other.names.Nodup)
    (same : ∀ name, (fields.get? name).map ordered = (other.get? name).map ordered) :
    (object fields).ordered = (object other).ordered := by
  rw [ordered_object_eq_iff nodup nodupOther]
  rw [← Fields.names_map ordered] at nodup nodupOther
  refine (List.perm_ext_iff_of_nodup (List.Nodup.of_map _ nodup)
    (List.Nodup.of_map _ nodupOther)).mpr fun field => ?_
  rw [← Fields.get?_eq_some_iff nodup, ← Fields.get?_eq_some_iff nodupOther, Fields.get?_map,
    Fields.get?_map, same]

theorem merge_of_not_object {upper : Json} (scalar : ∀ fields, upper ≠ .object fields)
    (base : Json) : merge base upper = upper := by
  cases upper with
  | object fields => exact absurd rfl (scalar fields)
  | null | bool | number | string | array => rfl

theorem merge_object (base : Json) {upper : Fields Json} (nodup : upper.names.Nodup) :
    merge base (.object upper) = .object (mergeFields base.fields upper) := by
  cases base with
  | object fields => rfl
  | null | bool | number | string | array =>
      have joined : mergeFields [] upper = upper := mergeFields_of_nodup nodup
      exact congrArg object joined.symm

theorem layOver_eq_merge (under : Option Json) (upper : Json) :
    layOver under upper = merge (under.getD .null) upper := by
  cases under with
  | some base => rfl
  | none => cases upper <;> rfl

def valueAt (json : Json) (name : String) : Json :=
  (json.fields.get? name).getD .null

theorem isDistinct_of_get? {json value : Json} (distinct : json.isDistinct = true) {name : String}
    (found : json.fields.get? name = some value) : value.isDistinct = true :=
  isDistinct_fields distinct (name, value) (Fields.mem_of_get? found)

theorem isDistinct_valueAt {json : Json} (distinct : json.isDistinct = true) (name : String) :
    (json.valueAt name).isDistinct = true := by
  rw [valueAt]
  cases found : json.fields.get? name with
  | none => rfl
  | some value => exact isDistinct_of_get? distinct found

theorem ordered_valueAt_congr {json other : Json} (same : json.ordered = other.ordered)
    (distinct : json.isDistinct = true) (distinctOther : other.isDistinct = true) (name : String) :
    (json.valueAt name).ordered = (other.valueAt name).ordered := by
  have found := get?_fields_of_ordered_eq same distinct distinctOther name
  have atNull : ∀ under : Option Json,
      (under.getD .null).ordered = (under.map ordered).getD .null := by
    intro under
    cases under <;> rfl
  rw [valueAt, valueAt, atNull, atNull, found]

theorem exists_merge_object {base : Json} {upper : Fields Json} (distinct : base.isDistinct = true)
    (distinctUpper : (object upper).isDistinct = true) :
    ∃ merged : Fields Json, merge base (.object upper) = .object merged ∧ merged.names.Nodup ∧
      ∀ name, merged.get? name =
        ((upper.get? name).map (merge (base.valueAt name))).or (base.fields.get? name) := by
  have nodupBase := nodup_names_fields distinct
  have nodup : upper.names.Nodup := nodup_names_fields distinctUpper
  refine ⟨mergeFields base.fields upper, merge_object base nodup,
    nodup_mergeFields nodupBase upper, fun name => ?_⟩
  rw [get?_mergeFields nodupBase nodup]
  exact congrArg (fun laid => ((upper.get? name).map laid).or (base.fields.get? name))
    (funext fun value => layOver_eq_merge _ value)

theorem isDistinct_merge {base upper : Json} (distinct : base.isDistinct = true)
    (distinctUpper : upper.isDistinct = true) : (merge base upper).isDistinct = true := by
  induction upper using Json.induction generalizing base with
  | step upper _ values =>
      by_cases isObject : ∃ fields, upper = .object fields
      · obtain ⟨fields, rfl⟩ := isObject
        obtain ⟨merged, isMerged, nodup, found⟩ := exists_merge_object distinct distinctUpper
        rw [isMerged, isDistinct_object]
        refine ⟨nodup, fun field member => ?_⟩
        have isField := (Fields.get?_eq_some_iff nodup).mpr member
        rw [found] at isField
        cases isUpper : Fields.get? fields field.1 with
        | none =>
            rw [isUpper] at isField
            exact isDistinct_of_get? distinct isField
        | some value =>
            rw [isUpper, Option.map_some, Option.some_or, Option.some_inj] at isField
            rw [← isField]
            exact values (field.1, value) (Fields.mem_of_get? isUpper)
              (isDistinct_valueAt distinct field.1) (isDistinct_of_get? distinctUpper isUpper)
      · rw [merge_of_not_object (not_exists.mp isObject)]
        exact distinctUpper

/-- In which order fields stand, at any depth of either document, does not matter. -/
theorem ordered_merge_congr {base base' upper upper' : Json} (distinct : base.isDistinct = true)
    (distinct' : base'.isDistinct = true) (distinctUpper : upper.isDistinct = true)
    (distinctUpper' : upper'.isDistinct = true) (same : base.ordered = base'.ordered)
    (sameUpper : upper.ordered = upper'.ordered) :
    (merge base upper).ordered = (merge base' upper').ordered := by
  induction upper using Json.induction generalizing base base' upper' with
  | step upper _ values =>
      by_cases isObject : ∃ fields, upper = .object fields
      · obtain ⟨fields, rfl⟩ := isObject
        obtain ⟨fields', rfl⟩ := exists_object_of_ordered_eq sameUpper.symm
        obtain ⟨merged, isMerged, nodup, found⟩ := exists_merge_object distinct distinctUpper
        obtain ⟨merged', isMerged', nodup', found'⟩ :=
          exists_merge_object distinct' distinctUpper'
        rw [isMerged, isMerged']
        refine ordered_object_eq_of_get? nodup nodup' fun name => ?_
        have above :
            (Fields.get? fields name).map ordered = (Fields.get? fields' name).map ordered :=
          get?_fields_of_ordered_eq sameUpper distinctUpper distinctUpper' name
        rw [found, found']
        cases isUpper : Fields.get? fields name with
        | none =>
            rw [isUpper, Option.map_none, eq_comm, Option.map_eq_none_iff] at above
            rw [above]
            exact get?_fields_of_ordered_eq same distinct distinct' name
        | some value =>
            rw [isUpper, Option.map_some, eq_comm, Option.map_eq_some_iff] at above
            obtain ⟨value', isUpper', sameValue⟩ := above
            rw [isUpper']
            have laid := values (name, value) (Fields.mem_of_get? isUpper)
              (isDistinct_valueAt distinct name) (isDistinct_valueAt distinct' name)
              (isDistinct_of_get? distinctUpper isUpper)
              (isDistinct_of_get? distinctUpper' isUpper')
              (ordered_valueAt_congr same distinct distinct' name) sameValue.symm
            exact congrArg some laid
      · have scalar' : ∀ fields, upper' ≠ .object fields := by
          rintro fields rfl
          exact isObject (exists_object_of_ordered_eq sameUpper)
        rw [merge_of_not_object (not_exists.mp isObject), merge_of_not_object scalar', sameUpper]

theorem ordered_merge_merge {base upper : Json} (distinct : base.isDistinct = true)
    (distinctUpper : upper.isDistinct = true) :
    (merge (merge base upper) upper).ordered = (merge base upper).ordered := by
  induction upper using Json.induction generalizing base with
  | step upper _ values =>
      by_cases isObject : ∃ fields, upper = .object fields
      · obtain ⟨fields, rfl⟩ := isObject
        obtain ⟨merged, isMerged, nodup, found⟩ := exists_merge_object distinct distinctUpper
        have distinctMerged := isDistinct_merge distinct distinctUpper
        rw [isMerged] at distinctMerged ⊢
        obtain ⟨again, isAgain, nodupAgain, foundAgain⟩ :=
          exists_merge_object distinctMerged distinctUpper
        rw [isAgain]
        refine ordered_object_eq_of_get? nodupAgain nodup fun name => ?_
        have once := found name
        rw [foundAgain]
        cases isUpper : Fields.get? fields name with
        | none => rfl
        | some value =>
            rw [isUpper, Option.map_some, Option.some_or] at once
            -- What was laid over the document is what the second round finds under the name.
            have laid : valueAt (.object merged) name = merge (base.valueAt name) value :=
              congrArg (·.getD .null) once
            have same := values (name, value) (Fields.mem_of_get? isUpper)
              (isDistinct_valueAt distinct name) (isDistinct_of_get? distinctUpper isUpper)
            rw [laid, once]
            exact congrArg some same
      · have scalar := not_exists.mp isObject
        rw [merge_of_not_object scalar, merge_of_not_object scalar]

/-- The fields of an object that another one has been laid over. -/
structure Overridden (base upper merged : Fields Json) : Prop where
  nodup : merged.names.Nodup
  mem_names_iff : ∀ name, name ∈ merged.names ↔ name ∈ base.names ∨ name ∈ upper.names
  ofBase : ∀ name value, base.get? name = some value → name ∉ upper.names →
    merged.get? name = some value
  ofUpper : ∀ name value, name ∉ base.names → upper.get? name = some value →
    merged.get? name = some value
  ofBoth : ∀ name value upperValue, base.get? name = some value →
    upper.get? name = some upperValue → merged.get? name = some (merge value upperValue)

theorem overridden_mergeFields {base upper : Fields Json} (nodup : base.names.Nodup)
    (nodupUpper : upper.names.Nodup) : Overridden base upper (mergeFields base upper) := by
  have found := get?_mergeFields nodup nodupUpper
  refine ⟨nodup_mergeFields nodup upper, mem_names_mergeFields nodup upper, ?_, ?_, ?_⟩
  · intro name value isBase notUpper
    rw [found, Fields.get?_eq_none notUpper, isBase]
    rfl
  · intro name value notBase isUpper
    rw [found, Fields.get?_eq_none notBase, isUpper]
    rfl
  · intro name value upperValue isBase isUpper
    rw [found, isBase, isUpper]
    rfl

/-- What a document becomes that another one is laid over.  Objects are merged name by name, and
anything else gives way. -/
def Overrides (merged : Json) : Json → Json → Prop
  | .object base, .object upper => ∃ fields, merged = .object fields ∧ Overridden base upper fields
  | _, upper => merged = upper

theorem overrides {base upper : Json} (distinct : base.isDistinct = true)
    (distinctUpper : upper.isDistinct = true) : Overrides (merge base upper) base upper := by
  cases upper with
  | null | bool | number | string | array => cases base <;> rfl
  | object upperFields =>
      cases base with
      | null | bool | number | string | array => rfl
      | object lowerFields =>
          have merged := overridden_mergeFields (nodup_names_fields distinct)
            (nodup_names_fields distinctUpper)
          exact ⟨mergeFields lowerFields upperFields, rfl, merged⟩

/-- A document that is laid over another overrides it name by name, at every depth.  The order of
fields in either of them does not matter, an empty object changes no object, and to lay the same
document over the result again changes nothing but the order of fields. -/
theorem overrides_merge {base upper : Json} (distinct : base.isDistinct = true)
    (distinctUpper : upper.isDistinct = true) :
    Overrides (merge base upper) base upper ∧
    (merge base upper).isDistinct = true ∧
    (∀ base' upper' : Json, base'.isDistinct = true → upper'.isDistinct = true →
      base.ordered = base'.ordered → upper.ordered = upper'.ordered →
        (merge base upper).ordered = (merge base' upper').ordered) ∧
    (∀ fields, base = .object fields → merge base (.object []) = base) ∧
    (merge (merge base upper) upper).ordered = (merge base upper).ordered := by
  refine ⟨overrides distinct distinctUpper, isDistinct_merge distinct distinctUpper, ?_, ?_,
    ordered_merge_merge distinct distinctUpper⟩
  · intro base' upper' distinct' distinctUpper' same sameUpper
    exact ordered_merge_congr distinct distinct' distinctUpper distinctUpper' same sameUpper
  · rintro fields rfl
    rfl

def nestedBase : Json :=
  .object [("level", .string "info"), ("outer", .object [("a", .bool true), ("b", .bool false)]),
    ("list", .array [.null])]

def nestedUpper : Json :=
  .object [("outer", .object [("c", .bool true), ("b", .string "on")]), ("extra", .object []),
    ("list", .object [("x", .null)])]

def shuffledBase : Json :=
  .object [("list", .array [.null]), ("level", .string "info"),
    ("outer", .object [("b", .bool false), ("a", .bool true)])]

def shuffledUpper : Json :=
  .object [("list", .object [("x", .null)]), ("extra", .object []),
    ("outer", .object [("b", .string "on"), ("c", .bool true)])]

theorem overrides_merge_nested :
    merge nestedBase nestedUpper =
      .object [("level", .string "info"), ("extra", .object []),
        ("outer", .object [("a", .bool true), ("c", .bool true), ("b", .string "on")]),
        ("list", .object [("x", .null)])] ∧
    Overrides (merge nestedBase nestedUpper) nestedBase nestedUpper ∧
    (merge nestedBase nestedUpper).ordered = (merge shuffledBase shuffledUpper).ordered ∧
    merge nestedBase (.object []) = nestedBase ∧
    (merge (merge nestedBase nestedUpper) nestedUpper).ordered =
      (merge nestedBase nestedUpper).ordered := by
  obtain ⟨overridden, -, anyOrder, unchanged, again⟩ :=
    @overrides_merge nestedBase nestedUpper (by decide) (by decide)
  exact ⟨rfl, overridden,
    anyOrder shuffledBase shuffledUpper (by decide) (by decide) (by rfl) (by rfl),
    unchanged _ rfl, again⟩

end QuerySql.Json

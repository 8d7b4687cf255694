import QuerySql.Json.Merge
import QuerySql.Proofs.Json.Distinct

namespace QuerySql

namespace Fields

variable {α : Type}

theorem get?_foldl {insert : Fields α → String → α → Fields α}
    (inserts : ∀ fields name other value, (insert fields name value).get? other =
      if other = name then some value else fields.get? other)
    (map fields : Fields α) (name : String) :
    (fields.foldl (fun map field => insert map field.1 field.2) map).get? name =
      (get? fields.reverse name).or (map.get? name) := by
  induction fields generalizing map with
  | nil => rfl
  | cons field rest ih =>
      rw [List.foldl_cons, ih, inserts, List.reverse_cons, get?_append, get?_cons, get?_nil,
        Option.or_assoc]
      by_cases isName : name = field.1
      · rw [if_pos isName, if_pos isName.symm, Option.some_or]
      · rw [if_neg isName, if_neg (Ne.symm isName), Option.none_or]

theorem get?_collect (fields : Fields α) (name : String) :
    fields.collect.get? name = get? fields.reverse name := by
  rw [collect, get?_foldl get?_put, get?_nil, Option.or_none]

theorem notMem_of_get?_eq_none {fields : Fields α} {name : String}
    (missing : fields.get? name = none) : name ∉ fields.names := by
  intro member
  obtain ⟨field, isField, rfl⟩ := List.mem_map.mp member
  exact bne_iff_ne.mp (List.lookup_eq_none_iff.mp missing field isField) rfl

theorem get?_of_unique {fields : Fields α} {name : String} {value : α}
    (member : (name, value) ∈ fields)
    (unique : ∀ other, (name, other) ∈ fields → other = value) :
    fields.get? name = some value := by
  cases found : fields.get? name with
  | none => exact absurd (List.mem_map_of_mem member) (notMem_of_get?_eq_none found)
  | some other => rw [unique other (mem_of_get? found)]

theorem unique_of_nodup {fields : Fields α} (nodup : fields.names.Nodup) {name : String}
    {value other : α} (member : (name, value) ∈ fields) (another : (name, other) ∈ fields) :
    other = value := by
  have same := List.inj_on_of_nodup_map nodup another member rfl
  exact (Prod.mk.inj same).2

theorem get?_eq_some_iff {fields : Fields α} (nodup : fields.names.Nodup) {name : String}
    {value : α} : fields.get? name = some value ↔ (name, value) ∈ fields :=
  ⟨mem_of_get?, fun member => get?_of_unique member fun _ => unique_of_nodup nodup member⟩

theorem perm_getLast?_dropLast (list : List α) :
    (list.getLast?.toList ++ list.dropLast).Perm list := by
  rcases List.eq_nil_or_concat list with rfl | ⟨front, last, rfl⟩
  · exact .refl _
  · rw [List.concat_eq_append, List.getLast?_concat, List.dropLast_concat]
    exact List.perm_append_comm

theorem mem_names_of_perm {fields other : Fields α} (perm : fields.Perm other) (name : String) :
    name ∈ fields.names ↔ name ∈ other.names :=
  (perm.map Prod.fst).mem_iff

theorem get?_of_perm {fields other : Fields α} (nodup : fields.names.Nodup)
    (perm : fields.Perm other) (name : String) : fields.get? name = other.get? name := by
  have nodupOther : other.names.Nodup := (perm.map Prod.fst).nodup_iff.mp nodup
  apply Option.ext
  intro value
  rw [get?_eq_some_iff nodup, get?_eq_some_iff nodupOther, perm.mem_iff]

theorem swapRemove_of_notMem {fields : Fields α} {name : String} (fresh : name ∉ fields.names) :
    fields.swapRemove name = fields := by
  induction fields with
  | nil => rfl
  | cons field rest ih =>
      rw [names, List.map_cons, List.mem_cons, not_or] at fresh
      rw [swapRemove, if_neg (Ne.symm fresh.1), ih fresh.2]

theorem replace_of_notMem {fields : Fields α} {name : String} (fresh : name ∉ fields.names)
    (value : α) : fields.replace name value = fields ++ [(name, value)] := by
  rw [replace, swapRemove_of_notMem fresh, put_of_notMem fresh]

/-- A field that is replaced comes to stand elsewhere, but it is put like any other. -/
theorem perm_replace {fields : Fields α} (nodup : fields.names.Nodup) (name : String)
    (value : α) : (fields.replace name value).Perm (fields.put name value) := by
  induction fields with
  | nil => exact .refl _
  | cons field rest ih =>
      obtain ⟨other, old⟩ := field
      obtain ⟨fresh, nodupRest⟩ := List.nodup_cons.mp nodup
      rw [replace, swapRemove, put]
      by_cases same : other = name
      · subst same
        rw [if_pos rfl, if_pos rfl]
        have moved := perm_getLast?_dropLast rest
        have absent := mt (mem_names_of_perm moved other).mp fresh
        rw [put_of_notMem absent]
        exact (moved.append_right _).trans List.perm_append_comm
      · rw [if_neg same, if_neg same, put, if_neg same]
        exact (ih nodupRest).cons (other, old)

theorem get?_replace {fields : Fields α} (nodup : fields.names.Nodup) (name other : String)
    (value : α) : (fields.replace name value).get? other =
      if other = name then some value else fields.get? other := by
  have perm := perm_replace nodup name value
  rw [← get?_of_perm (nodup_put nodup) perm.symm, get?_put]

theorem nodup_replace {fields : Fields α} (nodup : fields.names.Nodup) (name : String)
    (value : α) : (fields.replace name value).names.Nodup :=
  ((perm_replace nodup name value).map Prod.fst).nodup_iff.mpr (nodup_put nodup)

theorem mem_names_replace {fields : Fields α} (nodup : fields.names.Nodup) (name : String)
    (value : α) (other : String) :
    other ∈ (fields.replace name value).names ↔ other ∈ fields.names ∨ other = name := by
  rw [mem_names_of_perm (perm_replace nodup name value), names_put]
  split
  · rename_i known
    exact ⟨.inl, fun either => either.elim id fun same => same ▸ known⟩
  · rw [List.mem_append, List.mem_singleton]

end Fields

namespace Json

/-- What a document becomes where another is laid over it, if there is one under it. -/
def layOver (under : Option Json) (upper : Json) : Json :=
  match under with
  | some base => merge base upper
  | none => upper

theorem mergeFields_cons (base : Fields Json) (name : String) (upper : Json) (rest : Fields Json) :
    mergeFields base ((name, upper) :: rest) =
      mergeFields (base.replace name (layOver (base.get? name) upper)) rest := by
  rw [mergeFields]
  cases base.get? name <;> rfl

theorem get?_mergeFields {base upper : Fields Json} (nodupBase : base.names.Nodup)
    (nodup : upper.names.Nodup) (name : String) :
    (mergeFields base upper).get? name =
      ((upper.get? name).map (layOver (base.get? name))).or (base.get? name) := by
  induction upper generalizing base with
  | nil => rw [mergeFields, Fields.get?_nil, Option.map_none, Option.none_or]
  | cons field rest ih =>
      obtain ⟨other, value⟩ := field
      obtain ⟨fresh, nodupRest⟩ := List.nodup_cons.mp nodup
      rw [mergeFields_cons, ih (Fields.nodup_replace nodupBase _ _) nodupRest,
        Fields.get?_replace nodupBase, Fields.get?_cons]
      by_cases same : name = other
      · subst same
        rw [Fields.get?_eq_none fresh, if_pos rfl, if_pos rfl]
        rfl
      · rw [if_neg same, if_neg (Ne.symm same)]

theorem nodup_mergeFields {base : Fields Json} (nodup : base.names.Nodup) (upper : Fields Json) :
    (mergeFields base upper).names.Nodup := by
  induction upper generalizing base with
  | nil => exact nodup
  | cons field rest ih =>
      rw [mergeFields_cons]
      exact ih (Fields.nodup_replace nodup _ _)

theorem mem_names_mergeFields {base : Fields Json} (nodup : base.names.Nodup)
    (upper : Fields Json) (name : String) :
    name ∈ (mergeFields base upper).names ↔ name ∈ base.names ∨ name ∈ upper.names := by
  induction upper generalizing base with
  | nil => simp [mergeFields, Fields.names]
  | cons field rest ih =>
      rw [mergeFields_cons, ih (Fields.nodup_replace nodup _ _), Fields.mem_names_replace nodup,
        or_assoc, Fields.names, Fields.names, Fields.names, List.map_cons, List.mem_cons]

theorem mergeFields_of_nodup {base upper : Fields Json}
    (nodup : (base.names ++ upper.names).Nodup) : mergeFields base upper = base ++ upper := by
  induction upper generalizing base with
  | nil => rw [mergeFields, List.append_nil]
  | cons field rest ih =>
      obtain ⟨name, value⟩ := field
      have fresh : name ∉ base.names := fun member =>
        (List.nodup_append.mp nodup).2.2 name member name (List.mem_cons_self ..) rfl
      rw [mergeFields_cons, Fields.get?_eq_none fresh, layOver, Fields.replace_of_notMem fresh, ih,
        List.append_assoc, List.singleton_append]
      rw [Fields.names_append, List.append_assoc]
      exact nodup

end Json

end QuerySql

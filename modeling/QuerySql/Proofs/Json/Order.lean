import Mathlib.Data.String.Basic
import QuerySql.Proofs.Json.Merge

/-!
The order of fields.  Documents that differ in it alone are one document when their fields are
brought into the order of their names, and they have the same values under the same names.
-/

namespace QuerySql

namespace Fields

variable {α β : Type}

theorem get?_putSorted (fields : Fields α) (name other : String) (value : α) :
    (fields.putSorted name value).get? other =
      if other = name then some value else fields.get? other := by
  induction fields with
  | nil => simp [putSorted, eq_comm]
  | cons field rest ih =>
      obtain ⟨key, old⟩ := field
      rw [putSorted]
      split
      · rename_i isKey
        subst isKey
        simp only [get?_cons, eq_comm (a := other)]
        split <;> rfl
      · rename_i notKey
        split
        · rw [get?_cons]
          simp only [eq_comm]
        · rw [get?_cons, ih, get?_cons]
          by_cases isName : other = name
          · rw [if_pos isName, if_pos isName, if_neg (isName ▸ notKey)]
          · rw [if_neg isName, if_neg isName]

theorem get?_reverse {fields : Fields α} (nodup : fields.names.Nodup) (name : String) :
    get? fields.reverse name = fields.get? name :=
  (get?_of_perm nodup (List.reverse_perm fields).symm name).symm

theorem get?_sorted {fields : Fields α} (nodup : fields.names.Nodup) (name : String) :
    fields.sorted.get? name = fields.get? name := by
  rw [sorted, get?_foldl get?_putSorted, get?_nil, Option.or_none, get?_reverse nodup]

theorem get?_map (change : α → β) (fields : Fields α) (name : String) :
    get? (fields.map fun field => (field.1, change field.2)) name =
      (fields.get? name).map change :=
  get?_mapEntries (fun _ => change) fields name

theorem putSorted_map (change : α → β) (fields : Fields α) (name : String) (value : α) :
    putSorted (fields.map fun field => (field.1, change field.2)) name (change value) =
      (fields.putSorted name value).map fun field => (field.1, change field.2) := by
  induction fields with
  | nil => rfl
  | cons field rest ih =>
      rw [List.map_cons, putSorted, putSorted, ih]
      split
      · rfl
      · split <;> rfl

theorem sorted_map (change : α → β) (fields : Fields α) :
    sorted (fields.map fun field => (field.1, change field.2)) =
      fields.sorted.map fun field => (field.1, change field.2) := by
  have step : ∀ map : Fields α, (fields.map fun field => (field.1, change field.2)).foldl
      (fun map field => putSorted map field.1 field.2)
        (map.map fun field => (field.1, change field.2)) =
      (fields.foldl (fun map field => map.putSorted field.1 field.2) map).map
        fun field => (field.1, change field.2) := by
    induction fields with
    | nil => exact fun _ => rfl
    | cons field rest ih =>
        intro map
        rw [List.map_cons, List.foldl_cons, List.foldl_cons, putSorted_map, ih]
  exact step []

theorem perm_putSorted {fields : Fields α} {name : String} (fresh : name ∉ fields.names)
    (value : α) : (fields.putSorted name value).Perm ((name, value) :: fields) := by
  induction fields with
  | nil => exact .refl _
  | cons field rest ih =>
      obtain ⟨other, old⟩ := field
      rw [names, List.map_cons, List.mem_cons, not_or] at fresh
      rw [putSorted, if_neg (Ne.symm fresh.1)]
      split
      · exact .refl _
      · exact ((ih fresh.2).cons (other, old)).trans (.swap ..)

theorem perm_foldl_putSorted {map fields : Fields α}
    (nodup : (map.names ++ fields.names).Nodup) :
    (fields.foldl (fun map field => map.putSorted field.1 field.2) map).Perm (map ++ fields) := by
  induction fields generalizing map with
  | nil => rw [List.append_nil]; exact .refl _
  | cons field rest ih =>
      obtain ⟨name, value⟩ := field
      have fresh : name ∉ map.names := fun member =>
        (List.nodup_append.mp nodup).2.2 name member name (List.mem_cons_self ..) rfl
      have moved : ((name, value) :: (map ++ rest)).Perm (map ++ (name, value) :: rest) :=
        List.perm_middle.symm
      have put := perm_putSorted fresh value
      refine ((ih ?_).trans (put.append_right rest)).trans moved
      have names : ((name :: map.names) ++ names rest).Nodup := by
        have swapped : (map.names ++ name :: names rest).Perm (name :: (map.names ++ names rest)) :=
          List.perm_middle
        exact swapped.nodup_iff.mp nodup
      exact ((put.map Prod.fst).append_right (Fields.names rest)).nodup_iff.mpr names

theorem perm_sorted {fields : Fields α} (nodup : fields.names.Nodup) :
    fields.sorted.Perm fields :=
  perm_foldl_putSorted nodup

theorem putSorted_of_lt {name other : String} (before : name < other) (value old : α)
    (rest : Fields α) :
    putSorted ((other, old) :: rest) name value = (name, value) :: (other, old) :: rest := by
  rw [putSorted, if_neg before.ne', if_pos before]

theorem putSorted_of_gt {name other : String} (after : other < name) (value old : α)
    (rest : Fields α) :
    putSorted ((other, old) :: rest) name value = (other, old) :: putSorted rest name value := by
  rw [putSorted, if_neg after.ne, if_neg after.not_gt]

theorem putSorted_self (name : String) (value old : α) (rest : Fields α) :
    putSorted ((name, old) :: rest) name value = (name, value) :: rest := by
  rw [putSorted, if_pos rfl]

theorem putSorted_comm_of_lt {first second : String} (ascending : first < second)
    (fields : Fields α) (value other : α) :
    (fields.putSorted first value).putSorted second other =
      (fields.putSorted second other).putSorted first value := by
  induction fields with
  | nil =>
      rw [putSorted, putSorted, putSorted_of_gt ascending, putSorted_of_lt ascending, putSorted]
  | cons field rest ih =>
      obtain ⟨name, old⟩ := field
      rcases lt_trichotomy first name with before | rfl | after
      · rw [putSorted_of_lt before, putSorted_of_gt ascending]
        rcases lt_trichotomy second name with before' | rfl | after'
        · rw [putSorted_of_lt before', putSorted_of_lt ascending]
        · rw [putSorted_self, putSorted_of_lt ascending]
        · rw [putSorted_of_gt after', putSorted_of_lt before]
      · rw [putSorted_self, putSorted_of_gt ascending, putSorted_of_gt ascending, putSorted_self]
      · have after' := after.trans ascending
        rw [putSorted_of_gt after, putSorted_of_gt after', putSorted_of_gt after',
          putSorted_of_gt after, ih]

theorem putSorted_comm {first second : String} (apart : first ≠ second) (fields : Fields α)
    (value other : α) :
    (fields.putSorted first value).putSorted second other =
      (fields.putSorted second other).putSorted first value := by
  rcases lt_or_gt_of_ne apart with ascending | descending
  · exact putSorted_comm_of_lt ascending fields value other
  · exact (putSorted_comm_of_lt descending fields other value).symm

theorem sorted_eq_of_perm {fields other : Fields α} (nodup : fields.names.Nodup)
    (perm : fields.Perm other) : fields.sorted = other.sorted := by
  refine perm.foldl_eq' ?_ []
  rintro ⟨first, value⟩ isFirst ⟨second, other⟩ isSecond map
  by_cases same : first = second
  · subst same
    rw [unique_of_nodup nodup isFirst isSecond]
  · exact putSorted_comm same map value other

theorem names_map (change : α → β) (fields : Fields α) :
    names (fields.map fun field => (field.1, change field.2)) = fields.names :=
  List.map_map

end Fields

namespace Json

mutual

def ordered : Json → Json
  | .array items => .array (orderedItems items)
  | .object fields => .object (Fields.sorted (orderedFields fields))
  | json => json
termination_by structural json => json

def orderedItems : List Json → List Json
  | [] => []
  | item :: rest => item.ordered :: orderedItems rest
termination_by structural items => items

def orderedFields : List (String × Json) → List (String × Json)
  | [] => []
  | (name, value) :: rest => (name, value.ordered) :: orderedFields rest
termination_by structural fields => fields

end

theorem orderedFields_eq_map (fields : Fields Json) :
    orderedFields fields = fields.map fun field => (field.1, field.2.ordered) := by
  induction fields with
  | nil => rfl
  | cons field rest ih => rw [orderedFields, ih, List.map_cons]

theorem fields_ordered (json : Json) :
    json.ordered.fields = json.fields.sorted.map fun field => (field.1, field.2.ordered) := by
  cases json with
  | object fields =>
      change Fields.sorted (orderedFields fields) = _
      rw [orderedFields_eq_map, Fields.sorted_map]
      rfl
  | null | bool | number | string | array => rfl

theorem exists_object_of_ordered_eq {json : Json} {fields : Fields Json}
    (same : json.ordered = (object fields).ordered) : ∃ other, json = object other := by
  cases json with
  | object other => exact ⟨other, rfl⟩
  | null | bool | number | string | array => cases same

theorem ordered_object_eq_iff {fields other : Fields Json} (nodup : fields.names.Nodup)
    (nodupOther : other.names.Nodup) :
    (object fields).ordered = (object other).ordered ↔
      (fields.map fun field => (field.1, field.2.ordered)).Perm
        (other.map fun field => (field.1, field.2.ordered)) := by
  rw [← Fields.names_map ordered] at nodup nodupOther
  rw [ordered, ordered, object.injEq, orderedFields_eq_map, orderedFields_eq_map]
  constructor
  · intro same
    have sortedAlike := (Fields.perm_sorted nodup).symm.trans (.of_eq same)
    exact sortedAlike.trans (Fields.perm_sorted nodupOther)
  · exact Fields.sorted_eq_of_perm nodup

theorem get?_fields_of_ordered_eq {json other : Json} (same : json.ordered = other.ordered)
    (distinct : json.isDistinct = true) (distinctOther : other.isDistinct = true)
    (name : String) :
    (json.fields.get? name).map ordered = (other.fields.get? name).map ordered := by
  have found : ∀ {document : Json}, document.isDistinct = true →
      document.ordered.fields.get? name = (document.fields.get? name).map ordered := by
    intro document isDistinct
    rw [fields_ordered, Fields.get?_map, Fields.get?_sorted (nodup_names_fields isDistinct)]
  rw [← found distinct, ← found distinctOther, same]

end Json

end QuerySql

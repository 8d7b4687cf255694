import Mathlib.Data.List.Induction
import Mathlib.Data.List.Nodup
import QuerySql.Json.Record
import QuerySql.Query.Filter

namespace QuerySql

namespace Json

def items : Json → List Json
  | .array items => items
  | _ => []

def fields : Json → Fields Json
  | .object fields => fields
  | _ => []

@[elab_as_elim] theorem induction {motive : Json → Prop}
    (step : ∀ json : Json, (∀ item ∈ json.items, motive item) →
      (∀ field ∈ json.fields, motive field.2) → motive json) (json : Json) : motive json := by
  have scalar : ∀ json : Json, json.items = [] → json.fields = [] → motive json := by
    intro json noItems noFields
    refine step json ?_ ?_
    · simp [noItems]
    · simp [noFields]
  refine @Json.rec motive (fun items => ∀ item ∈ items, motive item)
    (fun fields => ∀ field ∈ fields, motive field.2) (fun field => motive field.2)
    ?null ?bool ?number ?string ?array ?object ?noItem ?item ?noField ?field ?pair json
  case null => exact scalar _ rfl rfl
  case bool => exact fun _ => scalar _ rfl rfl
  case number => exact fun _ => scalar _ rfl rfl
  case string => exact fun _ => scalar _ rfl rfl
  case array => exact fun items each => step (.array items) each (List.forall_mem_nil _)
  case object => exact fun fields each => step (.object fields) (List.forall_mem_nil _) each
  case noItem => exact List.forall_mem_nil _
  case item => exact fun item rest own others => List.forall_mem_cons.mpr ⟨own, others⟩
  case noField => exact List.forall_mem_nil _
  case field => exact fun field rest own others => List.forall_mem_cons.mpr ⟨own, others⟩
  case pair => exact fun _ _ own => own

mutual

def isDistinct : Json → Bool
  | .array items => areDistinct items
  | .object fields => decide (Fields.names fields).Nodup && haveDistinctValues fields
  | _ => true
termination_by structural json => json

def areDistinct : List Json → Bool
  | [] => true
  | item :: rest => item.isDistinct && areDistinct rest
termination_by structural items => items

def haveDistinctValues : List (String × Json) → Bool
  | [] => true
  | (_, value) :: rest => value.isDistinct && haveDistinctValues rest
termination_by structural fields => fields

end

theorem areDistinct_iff (items : List Json) :
    areDistinct items = true ↔ ∀ item ∈ items, item.isDistinct = true := by
  induction items with
  | nil => simp [areDistinct]
  | cons item rest ih => simp [areDistinct, ih]

theorem haveDistinctValues_iff (fields : Fields Json) :
    haveDistinctValues fields = true ↔ ∀ field ∈ fields, field.2.isDistinct = true := by
  induction fields with
  | nil => simp [haveDistinctValues]
  | cons field rest ih => simp [haveDistinctValues, ih]

@[simp] theorem isDistinct_array (items : List Json) :
    (Json.array items).isDistinct = true ↔ ∀ item ∈ items, item.isDistinct = true := by
  rw [isDistinct, areDistinct_iff]

@[simp] theorem isDistinct_object (fields : Fields Json) :
    (Json.object fields).isDistinct = true ↔
      fields.names.Nodup ∧ ∀ field ∈ fields, field.2.isDistinct = true := by
  rw [isDistinct, Bool.and_eq_true, decide_eq_true_iff, haveDistinctValues_iff]

theorem isDistinct_items {json : Json} (distinct : json.isDistinct = true) :
    ∀ item ∈ json.items, item.isDistinct = true := by
  cases json
  case array items => exact (isDistinct_array items).mp distinct
  all_goals exact List.forall_mem_nil _

theorem isDistinct_fields {json : Json} (distinct : json.isDistinct = true) :
    ∀ field ∈ json.fields, field.2.isDistinct = true := by
  cases json
  case object fields => exact ((isDistinct_object fields).mp distinct).2
  all_goals exact List.forall_mem_nil _

theorem nodup_names_fields {json : Json} (distinct : json.isDistinct = true) :
    json.fields.names.Nodup := by
  cases json
  case object fields => exact ((isDistinct_object fields).mp distinct).1
  all_goals exact List.nodup_nil

end Json

namespace Fields

variable {α : Type} {fields : Fields α} {name : String} {value : α}

@[simp] theorem names_append (front back : Fields α) :
    names (front ++ back) = front.names ++ back.names :=
  List.map_append

theorem put_of_notMem (fresh : name ∉ fields.names) :
    fields.put name value = fields ++ [(name, value)] := by
  induction fields with
  | nil => rfl
  | cons field rest ih =>
      obtain ⟨other, old⟩ := field
      rw [names, List.map_cons, List.mem_cons, not_or] at fresh
      rw [put, if_neg (Ne.symm fresh.1), ih fresh.2]
      rfl

theorem foldl_put {tail : Fields α} (nodup : (fields.names ++ names tail).Nodup) :
    tail.foldl (fun map field => put map field.1 field.2) fields = fields ++ tail := by
  induction tail generalizing fields with
  | nil => rw [List.foldl_nil, List.append_nil]
  | cons field rest ih =>
      obtain ⟨name, value⟩ := field
      have fresh : name ∉ fields.names := by
        intro member
        exact (List.nodup_append.mp nodup).2.2 name member name (List.mem_cons_self ..) rfl
      rw [List.foldl_cons, put_of_notMem fresh, ih, List.append_assoc, List.singleton_append]
      rw [names_append, List.append_assoc]
      exact nodup

theorem collect_eq_self (nodup : fields.names.Nodup) : fields.collect = fields :=
  foldl_put nodup

theorem mem_put {field : String × α} (member : field ∈ fields.put name value) :
    field = (name, value) ∨ field ∈ fields := by
  induction fields with
  | nil => exact .inl (List.mem_singleton.mp member)
  | cons first rest ih =>
      obtain ⟨other, old⟩ := first
      rw [put] at member
      split at member
      · exact (List.mem_cons.mp member).imp_right (List.mem_cons_of_mem _)
      · rcases List.mem_cons.mp member with rfl | later
        · exact .inr (List.mem_cons_self ..)
        · exact (ih later).imp_right (List.mem_cons_of_mem _)

theorem nodup_put (nodup : fields.names.Nodup) : (fields.put name value).names.Nodup := by
  induction fields with
  | nil => exact List.nodup_singleton name
  | cons field rest ih =>
      obtain ⟨other, old⟩ := field
      obtain ⟨fresh, nodupRest⟩ := List.nodup_cons.mp nodup
      rw [put]
      split
      · subst other
        exact nodup
      · rename_i differs
        refine List.nodup_cons.mpr ⟨fun again => ?_, ih nodupRest⟩
        obtain ⟨field, member, isOther⟩ := List.mem_map.mp again
        rcases mem_put member with rfl | later
        · exact differs isOther.symm
        · exact fresh (List.mem_map.mpr ⟨field, later, isOther⟩)

theorem foldl_put_of (holds : Fields α → Prop) {tail : Fields α}
    (kept : ∀ field ∈ tail, ∀ map, holds map → holds (put map field.1 field.2))
    (start : holds fields) :
    holds (tail.foldl (fun map field => map.put field.1 field.2) fields) := by
  induction tail generalizing fields with
  | nil => exact start
  | cons field rest ih =>
      obtain ⟨first, others⟩ := List.forall_mem_cons.mp kept
      exact ih others (first fields start)

theorem nodup_collect (fields : Fields α) : fields.collect.names.Nodup :=
  foldl_put_of (fun map => map.names.Nodup) (fun _ _ _ nodup => nodup_put nodup)
    List.nodup_nil

theorem mem_of_mem_collect {field : String × α} (member : field ∈ fields.collect) :
    field ∈ fields := by
  refine foldl_put_of (fun map => ∀ field ∈ map, field ∈ fields) ?_
    (List.forall_mem_nil _) field member
  intro field isField map known other isOther
  rcases mem_put isOther with rfl | old
  · exact isField
  · exact known other old

@[simp] theorem get?_nil (name : String) : get? ([] : Fields α) name = none := rfl

@[simp] theorem get?_append (front back : Fields α) (name : String) :
    get? (front ++ back) name = (front.get? name).or (back.get? name) :=
  List.lookup_append

@[simp] theorem get?_cons (name other : String) (value : α) (rest : Fields α) :
    get? ((name, value) :: rest) other = if name = other then some value else rest.get? other := by
  by_cases same : name = other
  · simp [get?, same]
  · simp [get?, List.lookup_cons, same, beq_eq_false_iff_ne.mpr (Ne.symm same)]

theorem get?_eq_none (absent : name ∉ fields.names) : fields.get? name = none := by
  refine List.lookup_eq_none_iff.mpr fun field member => bne_iff_ne.mpr ?_
  rintro rfl
  exact absent (List.mem_map_of_mem member)

theorem get?_eq_map_find? (fields : Fields α) (name : String) :
    fields.get? name = (fields.find? fun field => field.1 == name).map Prod.snd := by
  rw [get?]
  induction fields with
  | nil => rfl
  | cons field rest ih =>
      obtain ⟨other, value⟩ := field
      rw [List.lookup_cons, List.find?_cons, ih, BEq.comm]
      cases other == name <;> rfl

theorem mem_of_get? (found : fields.get? name = some value) : (name, value) ∈ fields := by
  obtain ⟨front, back, rfl, -⟩ := List.lookup_eq_some_iff.mp found
  exact List.mem_append_right front (List.mem_cons_self ..)

theorem get?_filter {keeps : String × α → Bool} {name : String}
    (kept : ∀ value, keeps (name, value) = true) (fields : Fields α) :
    get? (fields.filter keeps) name = fields.get? name := by
  induction fields with
  | nil => rfl
  | cons field rest ih =>
      obtain ⟨other, value⟩ := field
      by_cases same : other = name
      · subst same
        rw [List.filter_cons_of_pos (kept value), get?_cons, if_pos rfl, get?_cons, if_pos rfl]
      · rw [get?_cons, if_neg same, ← ih, List.filter_cons]
        split
        · rw [get?_cons, if_neg same]
        · rfl

theorem names_put (fields : Fields α) (name : String) (value : α) :
    (fields.put name value).names =
      if name ∈ fields.names then fields.names else fields.names ++ [name] := by
  induction fields with
  | nil => rfl
  | cons field rest ih =>
      obtain ⟨other, old⟩ := field
      rw [put]
      by_cases same : other = name
      · simp [same, names]
      · have shifted : names ((other, old) :: put rest name value) =
            other :: names (put rest name value) := rfl
        have isName : name ∈ names ((other, old) :: rest) ↔ name ∈ names rest := by
          simp [names, Ne.symm same]
        rw [if_neg same, shifted, ih, if_congr isName rfl rfl, apply_ite (other :: ·)]
        rfl

theorem names_collect (fields : Fields α) : fields.collect.names = fields.names.eraseDups := by
  induction fields using List.reverseRecOn with
  | nil => rfl
  | append_singleton front field ih =>
      have collected : collect (front ++ [field]) = (collect front).put field.1 field.2 :=
        List.foldl_append
      have last : (names [field]).removeAll (names front) =
          if field.1 ∈ names front then [] else [field.1] := by
        have single : names [field] = [field.1] := rfl
        rw [single, List.removeAll, List.filter_singleton]
        by_cases known : field.1 ∈ names front <;> simp [known]
      rw [collected, names_put, ih, names_append, List.eraseDups_append, last,
        if_congr List.mem_eraseDups rfl rfl]
      split
      · rw [List.eraseDups_nil, List.append_nil]
      · rfl

theorem get?_mapEntries {β : Type} (change : String → α → β) (fields : Fields α) (name : String) :
    get? (fields.map fun field => (field.1, change field.1 field.2)) name =
      (fields.get? name).map (change name) := by
  induction fields with
  | nil => rfl
  | cons field rest ih =>
      rw [List.map_cons, get?_cons, get?_cons, ih]
      split
      · rename_i same
        rw [same, Option.map_some]
      · rfl

structure Among (names : List String) (fields : Fields Json) : Prop where
  sublist : fields.names.Sublist names
  distinct : ∀ field ∈ fields, field.2.isDistinct = true

namespace Among

variable {names others : List String} {fields more : Fields Json}

theorem nil : Among names [] :=
  ⟨List.nil_sublist names, List.forall_mem_nil _⟩

theorem single {name : String} {json : Json} (distinct : json.isDistinct = true) :
    Among [name] [(name, json)] :=
  ⟨List.Sublist.refl [name], List.forall_mem_singleton.mpr distinct⟩

theorem append (among : Among names fields) (amongMore : Among others more) :
    Among (names ++ others) (fields ++ more) where
  sublist := by
    rw [names_append]
    exact among.sublist.append amongMore.sublist
  distinct := List.forall_mem_append.mpr ⟨among.distinct, amongMore.distinct⟩

theorem object (among : Among names fields) (nodup : names.Nodup) :
    (Json.object fields).isDistinct = true :=
  (Json.isDistinct_object fields).mpr ⟨among.sublist.nodup nodup, among.distinct⟩

end Among

end Fields

theorem Json.FieldNames.mem_rename?_iff {names : Json.FieldNames} {fields kept : Fields Json}
    (renames : names.rename? fields = some kept) {name : String} {json : Json} :
    (name, json) ∈ kept ↔
      ∃ spelling, (spelling, json) ∈ fields ∧ names.resolve? spelling = some name := by
  induction fields generalizing kept with
  | nil =>
      cases renames
      simp
  | cons field rest ih =>
      obtain ⟨spelling, value⟩ := field
      rw [rename?] at renames
      obtain ⟨others, renamesRest, renames⟩ := Option.bind_eq_some_iff.mp renames
      have later := ih renamesRest
      split at renames
      · rename_i unknown
        cases renames
        rw [later]
        simp [or_and_right, exists_or, unknown]
      · rename_i known resolved
        split at renames
        · cases renames
        · cases renames
          rw [List.mem_cons, later]
          simp [or_and_right, exists_or, resolved, and_comm, eq_comm]

theorem Json.FieldNames.nodup_rename? {names : Json.FieldNames} {fields kept : Fields Json}
    (renames : names.rename? fields = some kept) : kept.names.Nodup := by
  induction fields generalizing kept with
  | nil =>
      cases renames
      exact List.nodup_nil
  | cons field rest ih =>
      obtain ⟨spelling, value⟩ := field
      rw [rename?] at renames
      obtain ⟨others, renamesRest, renames⟩ := Option.bind_eq_some_iff.mp renames
      split at renames
      · cases renames
        exact ih renamesRest
      · split at renames
        · cases renames
        · rename_i fresh
          cases renames
          exact List.nodup_cons.mpr ⟨fun member => fresh (List.contains_iff_mem.mpr member),
            ih renamesRest⟩

theorem Json.FieldNames.rename?_eq_filter {names : Json.FieldNames} {fields : Fields Json}
    (nodup : fields.names.Nodup)
    (own : ∀ name ∈ fields.names, ∀ known, names.resolve? name = some known → known = name) :
    names.rename? fields = some (fields.filter fun field => (names.resolve? field.1).isSome) := by
  induction fields with
  | nil => rfl
  | cons field rest ih =>
      obtain ⟨spelling, value⟩ := field
      obtain ⟨fresh, nodupRest⟩ := List.nodup_cons.mp nodup
      obtain ⟨first, others⟩ := List.forall_mem_cons.mp own
      rw [rename?, ih nodupRest others, Option.bind_some]
      cases resolved : names.resolve? spelling with
      | none => rw [List.filter_cons_of_neg (by simp [resolved])]
      | some known =>
          obtain rfl := first known resolved
          have absent : (Fields.names (rest.filter fun field =>
              (names.resolve? field.1).isSome)).contains known = false := by
            rw [List.contains_eq_mem, decide_eq_false_iff_not]
            exact fun member => fresh (List.filter_sublist.map Prod.fst |>.subset member)
          rw [List.filter_cons_of_pos (by simp [resolved])]
          simp only [absent, Bool.false_eq_true, if_false]

namespace Filter

theorem ofJsonFields_eq_map (fields : Fields Json) :
    ofJsonFields fields = fields.map fun field => (field.1, ofJson field.2) := by
  induction fields with
  | nil => rfl
  | cons field rest ih => rw [ofJsonFields, ih, List.map_cons]

theorem toJsonEntries_eq_map (entries : Criteria) :
    toJsonEntries entries = entries.map fun entry => (entry.1, entry.2.toJson) := by
  induction entries with
  | nil => rfl
  | cons entry rest ih => rw [toJsonEntries, ih, List.map_cons]

theorem toJson_ofJson_number (number : Json.Number) :
    (ofJson (.number number)).toJson = .number number := by
  cases number with
  | signed value => rfl
  | unsigned value large =>
      rw [ofJson, Value.ofJson, toJson, Value.toJson, Json.Number.ofUInt64, dif_pos large]
  | float value finite =>
      rw [ofJson, Value.ofJson, toJson, Value.toJson, Json.ofFloat, Json.Number.ofFloat?,
        dif_pos finite]

theorem toJsonItems_ofJsonItems {items : List Json}
    (same : ∀ item ∈ items, (ofJson item).toJson = item) :
    toJsonItems (ofJsonItems items) = items := by
  rw [ofJsonItems_eq_map, toJsonItems_eq_map, List.map_map]
  exact (List.map_congr_left same).trans (List.map_id items)

theorem toJsonEntries_ofJsonFields {fields : Fields Json}
    (same : ∀ field ∈ fields, (ofJson field.2).toJson = field.2) :
    toJsonEntries (ofJsonFields fields) = fields := by
  rw [ofJsonFields_eq_map, toJsonEntries_eq_map, List.map_map]
  refine (List.map_congr_left fun field member => ?_).trans (List.map_id fields)
  exact Prod.ext rfl (same field member)

theorem toJson_ofJson {json : Json} (distinct : json.isDistinct = true) :
    (ofJson json).toJson = json := by
  induction json using Json.induction with
  | step json items fields =>
      have sameItems := fun item member =>
        items item member (Json.isDistinct_items distinct item member)
      have sameFields := fun field member =>
        fields field member (Json.isDistinct_fields distinct field member)
      cases json
      case number number => exact toJson_ofJson_number number
      case array parts => exact congrArg Json.array (toJsonItems_ofJsonItems sameItems)
      case object parts =>
          have same : toJsonEntries (ofJsonFields parts) = parts :=
            toJsonEntries_ofJsonFields sameFields
          rw [ofJson, toJson, same]
          exact congrArg Json.object (Fields.collect_eq_self (Json.nodup_names_fields distinct))
      all_goals rfl

end Filter

end QuerySql

import QuerySql.Proofs.Predicate.Respelled
import QuerySql.Proofs.Sql.Emission
import QuerySql.Statement.Find

namespace QuerySql

open Sql

namespace Conditions

theorem emitEach_values (dialect : Dialect) (bindings : Bindings) (predicates : List Predicate) :
    (emitEach dialect bindings predicates).2.values =
      bindings.values ++ predicates.flatMap fun predicate =>
        if dialect.parameterized then Fragment.bound (predicate.fragments dialect) else [] := by
  induction predicates generalizing bindings with
  | nil => simp [emitEach]
  | cons predicate rest ih =>
      rw [emitEach_cons, ih, Fragment.emitAll_values, List.flatMap_cons, List.append_assoc]

theorem write_values_eq {conditions conditions' : Conditions} {name : String → String}
    (same : conditions'.predicates.map (Predicate.requalified name) =
      conditions.predicates.map (Predicate.requalified name)) (dialect : Dialect) :
    (conditions'.write dialect).values = (conditions.write dialect).values := by
  have ofRequalified (conditions : Conditions) : (conditions.write dialect).values =
      (conditions.predicates.map (Predicate.requalified name)).flatMap fun predicate =>
        if dialect.parameterized then Fragment.bound (predicate.fragments dialect) else [] := by
    have written : (conditions.write dialect).values =
        (emitEach dialect {} conditions.predicates).2.values := rfl
    rw [written, emitEach_values, List.nil_append, List.flatMap_map]
    simp only [Predicate.bound_requalified]
  rw [ofRequalified, ofRequalified, same]

end Conditions

namespace Table

variable {table : Table} {key other : String}

theorem Spells.columnRef_eq (spells : table.Spells key other) :
    table.columnRef other = table.columnRef key := by
  rw [columnRef, columnRef, spells.column_eq]

theorem Spells.groupKey_eq (spells : table.Spells key other) :
    table.groupKey other = table.groupKey key := by
  rcases spells.resolve? with ⟨entry, isColumn, isKey⟩ | rfl
  · rw [groupKey, groupKey, spells.columnRef_eq, isColumn, isKey]
  · rfl

end Table

/-- The second query spells attributes as their columns where the first names them: in its criteria,
its order and its grouping. -/
structure Query.Respelled (kept : Prop) (schema : Schema) (table : Table) (query query' : Query) :
    Prop where
  criteria : Scope.Respelled kept (Conditions.scope schema table query) query.criteria
    query'.criteria
  sort : List.Forall₂
    (fun order order' => table.Spells order.1 order'.1 ∧ order'.2 = order.2) query.sort query'.sort
  groupBy : List.Forall₂ table.Spells (query.groupBy.getD []) (query'.groupBy.getD [])
  limit : query'.limit = query.limit
  skip : query'.skip = query.skip
  instructions : query'.instructions = query.instructions

variable {kept : Prop} {schema : Schema} {table : Table} {query query' : Query}

namespace Query.Respelled

variable (respelled : Query.Respelled kept schema table query query')

include respelled

theorem tail_eq : Tail.of table query' = Tail.of table query := by
  have sameGroups := map_eq_of_forall₂ respelled.groupBy
    fun key other (spells : table.Spells key other) => spells.groupKey_eq
  have sameOrders : (query'.sort.map fun order => (table.columnRef order.1, order.2)) =
      query.sort.map fun order => (table.columnRef order.1, order.2) :=
    map_eq_of_forall₂ respelled.sort fun order order' ⟨spells, sameDirection⟩ =>
      Prod.ext (Table.Spells.columnRef_eq spells) sameDirection
  simp only [Tail.of, sameGroups, sameOrders, respelled.limit, respelled.skip]

theorem scope_eq : Conditions.scope schema table query' = Conditions.scope schema table query := by
  rw [Conditions.scope, Conditions.scope, respelled.instructions]

end Query.Respelled

namespace Conditions

/-- A query compiles under any other spelling of its keys, to the same clauses and values and to
predicates that differ at most in qualifiers.  If each filter on an association keeps its name, or
puts no condition on the columns of its own table, nothing differs. -/
theorem of_respelled {conditions : Conditions}
    (respelled : Query.Respelled kept schema table query query')
    (compiled : of schema table query = .ok conditions) :
    ∃ conditions', of schema table query' = .ok conditions' ∧
      conditions'.tail = conditions.tail ∧
      conditions'.predicates.map (Predicate.requalified fun _ => "") =
        conditions.predicates.map (Predicate.requalified fun _ => "") ∧
      (∀ dialect, (conditions'.write dialect).values = (conditions.write dialect).values) ∧
      (kept → conditions' = conditions) := by
  obtain ⟨predicates, expanded, rfl⟩ := exists_of_map_eq_ok compiled
  obtain ⟨predicates', expanded', same⟩ :=
    Scope.expandAll_respelled (fun _ => "") (.inr fun _ _ => rfl) _ _ _ respelled.criteria
      predicates expanded
  have compiled' : of schema table query' = .ok ⟨predicates', Tail.of table query'⟩ := by
    rw [of, respelled.scope_eq, expanded']
    rfl
  refine ⟨_, compiled', respelled.tail_eq, same, write_values_eq same, fun isKept => ?_⟩
  obtain ⟨others, expandedOther, sameOther⟩ :=
    Scope.expandAll_respelled id (.inl isKept) _ _ _ respelled.criteria predicates expanded
  rw [Predicate.map_requalified_id, id, id] at sameOther
  rw [respelled.tail_eq, Except.ok.inj (expanded'.symm.trans expandedOther), sameOther]

def teamSchema : Schema where
  tables := [
    ("user", {
      name := "user"
      attributes := [
        ("id", { type := some .integer, primaryKey := true }),
        ("name", { type := some .string, columnName := some "full_name" }),
        ("team", Attribute.withForeignKey { columnName := some "team_id" } "team" "id")] }),
    ("team", {
      name := "team"
      attributes := [
        ("id", { type := some .integer, primaryKey := true }),
        ("leader", Attribute.withForeignKey {} "user" "id")] })]

def userQuery (name team : String) : Query where
  filter := some [
    ("or", .list [
      .object [(team, .object [("leader", .object [(name, .value (.string "Bo"))])])],
      .object [(name, .object [("!", .list [.value (.string "Ann"), .value .null])])]]),
    ("like", .object [(name, .value (.string "A%"))]),
    (team, .object [(">", .value (.int 7))])]
  sort := [(name, .descending)]
  groupBy := some [name, team]

def userTable : Table :=
  (teamSchema.table? "user").getD { name := "" }

theorem respells_name : userTable.Respells "name" "full_name" :=
  ⟨⟨_, rfl, rfl, rfl⟩, by decide, by decide⟩

theorem respells_team : userTable.Respells "team" "team_id" :=
  ⟨⟨_, rfl, rfl, rfl⟩, by decide, by decide⟩

theorem respelled_userQuery :
    (userQuery "name" "team").Respelled True teamSchema userTable
      (userQuery "full_name" "team_id") where
  criteria := by
    refine .cons (.group rfl (.object ?leaders (.object ?names (.nil _)))) (.cons
      (.patterns rfl (.cons ⟨.inr respells_name, rfl⟩ .nil)) (.cons ?teams (.nil _)))
    case leaders =>
      refine .cons (.association rfl rfl (.inr respells_team) ?_ fun _ => .inr ?_) (.nil _)
      · refine .cons (.association rfl rfl (.inl rfl) ?_ fun _ => .inl rfl) (.nil _)
        exact .cons (.column rfl nofun respells_name) (.nil _)
      · intro leaf member isOwn
        cases List.mem_singleton.mp member
        cases isOwn
    case names =>
      exact .cons (.column rfl (fun entries isObject => by cases isObject; rfl) respells_name)
        (.nil _)
    case teams =>
      exact .column rfl (fun entries isObject => by cases isObject; rfl) respells_team
  sort := .cons ⟨.inr respells_name, rfl⟩ .nil
  groupBy := .cons (.inr respells_name) (.cons (.inr respells_team) .nil)
  limit := rfl
  skip := rfl
  instructions := rfl

theorem of_respelled_userQuery :
    ∃ conditions, of teamSchema userTable (userQuery "name" "team") = .ok conditions ∧
      of teamSchema userTable (userQuery "full_name" "team_id") = .ok conditions ∧
      conditions.predicates.length = 3 := by
  have compiled : ∃ conditions, of teamSchema userTable (userQuery "name" "team") =
      .ok conditions ∧ conditions.predicates.length = 3 := ⟨_, rfl, rfl⟩
  obtain ⟨conditions, compiled, three⟩ := compiled
  obtain ⟨conditions', compiled', _, _, _, same⟩ := of_respelled respelled_userQuery compiled
  rw [same trivial] at compiled'
  exact ⟨conditions, compiled, compiled', three⟩

def teamFilter (team : String) : Query where
  filter := some [(team, .object [("id", .value (.int 7))])]

/-- The join of the attribute is known as `__team`, however a filter on it is spelled. -/
theorem of_respelled_teamFilter :
    userTable.Respells "team" "team_id" ∧
      (Statement.conditions teamSchema {} "user" (teamFilter "team")).map WrittenConditions.text =
        .ok "WHERE \"__team\".\"id\" = $1" ∧
      (Statement.conditions teamSchema {} "user" (teamFilter "team_id")).map
          WrittenConditions.text =
        .ok "WHERE \"__team_id\".\"id\" = $1" :=
  ⟨respells_team, by decide +kernel⟩

end Conditions

end QuerySql

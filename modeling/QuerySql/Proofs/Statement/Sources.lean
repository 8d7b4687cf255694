import QuerySql.Proofs.Predicate.Words
import QuerySql.Statement.Find

namespace QuerySql

open Sql Sql.Fragment

variable {dialect : Dialect}

namespace Sql.Fragment

/-- The words that a table to read from stands behind. -/
def opensSource : Fragment → Bool
  | .fixed text => text = " FROM " || text = "LEFT OUTER JOIN "
  | _ => false

/-- The name that the table at the front is given, which may have its schema before it. -/
def alias? : List Fragment → Option String
  | .quoted _ :: .fixed "." :: .quoted _ :: .fixed " AS " :: .quoted name :: _ => some name
  | .quoted _ :: .fixed " AS " :: .quoted name :: _ => some name
  | _ => none

/-- The names that a statement gives to the tables behind its `FROM` and its joins. -/
def declared : List Fragment → List String
  | [] => []
  | fragment :: rest =>
      (if fragment.opensSource then alias? rest else none).toList ++ declared rest

abbrev Silent (fragment : Fragment) : Prop :=
  fragment.opensSource = false

theorem declared_append {front : List Fragment} (silent : Every Silent front)
    (back : List Fragment) : declared (front ++ back) = declared back := by
  induction front with
  | nil => rfl
  | cons fragment rest ih =>
      obtain ⟨first, others⟩ := List.forall_mem_cons.mp silent
      rw [List.cons_append, declared, first, if_neg Bool.false_ne_true, ih others]
      rfl

theorem declared_eq_nil {fragments : List Fragment} (silent : Every Silent fragments) :
    declared fragments = [] := by
  have behindNothing := declared_append silent []
  rwa [List.append_nil] at behindNothing

theorem Speak.silent {words : List String} {fragments : List Fragment}
    (speak : Speak words fragments) (spoken : ∀ word ∈ words, Silent (.fixed word)) :
    Every Silent fragments := by
  intro fragment member
  have isSpoken := speak fragment member
  cases fragment with
  | fixed text => exact spoken text isSpoken
  | verbatim text => exact isSpoken.elim
  | parentKey => exact isSpoken.elim
  | quoted name | operand value | pattern kind text => rfl

theorem silent_fixed_append {front : String} {first second : Char} {others : List Char}
    (isFront : front.toList = first :: second :: others) (notFrom : second ≠ 'F')
    (notJoin : second ≠ 'E') (back : String) : Silent (.fixed (front ++ back)) := by
  have differs {word : String} {start next : Char} {rest : List Char}
      (isWord : word.toList = start :: next :: rest) (other : second ≠ next) :
      front ++ back ≠ word := by
    intro same
    have sameChars := congrArg String.toList same
    rw [String.toList_append, isFront, isWord] at sameChars
    exact other (List.cons.inj (List.cons.inj sameChars).2).1
  have notSource : front ++ back ≠ " FROM " := differs rfl notFrom
  have notJoined : front ++ back ≠ "LEFT OUTER JOIN " := differs rfl notJoin
  simp only [Silent, opensSource, notSource, notJoined, decide_false, Bool.or_false]

end Sql.Fragment

theorem alias?_aliasedTable (dialect : Dialect) (table name : String) (back : List Fragment) :
    alias? (aliasedTable dialect table name ++ back) = some name := by
  rw [aliasedTable, tableFragments]
  cases dialect.qualifiers.lookup table <;> rfl

theorem silent_aliasedTable (dialect : Dialect) (table name : String) :
    Every Silent (aliasedTable dialect table name) := by
  rw [aliasedTable, tableFragments]
  cases dialect.qualifiers.lookup table with
  | none => exact .cons rfl (.lead rfl (.cons rfl .nil))
  | some schema => exact .cons rfl (.lead rfl (.cons rfl (.lead rfl (.cons rfl .nil))))

theorem declared_source {word : String} (opens : (Fragment.fixed word).opensSource = true)
    (table name : String) (back : List Fragment) :
    declared (.fixed word :: (aliasedTable dialect table name ++ back)) =
      name :: declared back := by
  rw [declared, if_pos opens, alias?_aliasedTable,
    declared_append (silent_aliasedTable dialect table name)]
  rfl

theorem Sql.ColumnRef.silent_fragments (ref : ColumnRef) : Every Silent ref.fragments :=
  .ref rfl rfl rfl

theorem Projected.silent_fragments (entry : Projected) :
    Every Silent (entry.fragments dialect) := by
  cases entry with
  | column ref => exact ref.silent_fragments
  | renamed ref name => exact ref.silent_fragments.link rfl (.cons rfl .nil)
  | group key index =>
      cases key with
      | column ref => exact ref.silent_fragments
      | expression text =>
          exact .cons rfl (.cons (silent_fixed_append rfl (by decide) (by decide) _) .nil)
  | calculation kind ref name =>
      have expression :
          Every Silent (.fixed (kind.function ++ "(") :: ref.fragments ++ [.fixed ")"]) := by
        refine (ref.silent_fragments.lead ?_).trail (by decide)
        cases kind <;> decide
      refine Every.link ?_ (by decide) (.cons rfl .nil)
      split
      · exact (expression.lead (by decide)).trail (by decide)
      · exact expression

namespace Tail

section Every

variable {holds : Fragment → Prop} {keyword : String}

theorem every_listClause (word : holds (.fixed keyword)) (comma : holds (.fixed ", "))
    {entries : List (List Fragment)} (each : ∀ entry ∈ entries, Every holds entry) :
    Every holds (listClause keyword entries) := by
  unfold listClause
  split
  · exact .nil
  · exact .lead word (.separated comma each)

theorem every_countClause (word : ∀ count, holds (.fixed (keyword ++ Text.decimal count)))
    (count : Option UInt64) : Every holds (countClause keyword count) := by
  cases count with
  | none => exact .nil
  | some count => exact .cons (word _) .nil

theorem every_fragments {tail : Tail}
    (words : ∀ word ∈ [" GROUP BY ", " ORDER BY ", ", ", " ASC", " DESC"], holds (.fixed word))
    (counted : ∀ keyword ∈ [" LIMIT ", " OFFSET "], ∀ count,
      holds (.fixed (keyword ++ Text.decimal count)))
    (groups : ∀ group ∈ tail.groups, Every holds group.fragments)
    (orders : ∀ order ∈ tail.orders, Every holds order.1.fragments) :
    Every holds tail.fragments := by
  have comma := words ", " (by decide)
  have ordered : ∀ entry ∈ tail.orders.map orderFragments, Every holds entry := by
    refine List.forall_mem_map.mpr fun order isOrder => (orders order isOrder).trail ?_
    cases order.2 <;> exact words _ (by decide)
  have grouping := every_listClause (words " GROUP BY " (by decide)) comma
    (List.forall_mem_map.mpr groups)
  have ordering := every_listClause (words " ORDER BY " (by decide)) comma ordered
  have limit := every_countClause (counted " LIMIT " (by decide)) tail.limit
  have offset := every_countClause (counted " OFFSET " (by decide)) tail.offset
  exact ((grouping.append ordering).append limit).append offset

end Every

theorem silent_fragments (tail : Tail) : Every Silent tail.fragments := by
  have counted : ∀ keyword ∈ [" LIMIT ", " OFFSET "], ∀ count,
      Silent (.fixed (keyword ++ Text.decimal count)) :=
    List.forall_mem_cons.mpr
      ⟨fun _ => silent_fixed_append rfl (by decide) (by decide) _,
        List.forall_mem_singleton.mpr fun _ =>
          silent_fixed_append rfl (by decide) (by decide) _⟩
  have groups : ∀ group ∈ tail.groups, Every Silent group.fragments := by
    intro group _
    cases group with
    | column ref => exact ref.silent_fragments
    | expression text => exact .cons rfl .nil
  exact every_fragments (by decide) counted groups fun order _ => order.1.silent_fragments

end Tail

namespace FindPlan

theorem declared_joinFragments (joins : List Join) (back : List Fragment) :
    declared (joinFragments dialect joins ++ back) =
      joins.map Join.qualifier ++ declared back := by
  induction joins with
  | nil => rfl
  | cons join rest ih =>
      have behind : Every Silent (.fixed " ON " :: join.parentKey.fragments ++
          .fixed " = " :: join.childKey.fragments ++ [.fixed " "]) :=
        ((join.parentKey.silent_fragments.lead (by decide)).link (by decide)
          join.childKey.silent_fragments).trail (by decide)
      have split : joinFragments dialect (join :: rest) ++ back =
          .fixed "LEFT OUTER JOIN " :: (aliasedTable dialect join.table join.qualifier ++
            ((.fixed " ON " :: join.parentKey.fragments ++
              .fixed " = " :: join.childKey.fragments ++ [.fixed " "]) ++
              (joinFragments dialect rest ++ back))) := by
        simp [joinFragments, Join.fragments]
      rw [split, declared_source rfl, declared_append behind, ih]
      rfl

theorem silent_whereFragments (predicates : List Predicate) :
    Every Silent (whereFragments dialect predicates) := by
  have each : ∀ part ∈ predicates.map (Predicate.fragments dialect), Every Silent part :=
    List.forall_mem_map.mpr fun predicate _ =>
      (predicate.speak_fragments dialect).silent (by decide)
  rw [whereFragments]
  split
  · exact .nil
  · exact ((Every.separated (by decide) each).lead (by decide)).trail (by decide)

/-- A statement declares the name of its own table and the aliases of its joins, and no others. -/
theorem declared_fragments (dialect : Dialect) (plan : FindPlan) :
    declared (plan.fragments dialect) =
      plan.selection.table :: plan.joins.map Join.qualifier := by
  have projected : Every Silent (.fixed "SELECT " :: separated ", "
      (plan.selection.entries.map (·.fragments dialect))) :=
    .lead (by decide) (.separated (by decide)
      (List.forall_mem_map.mpr fun entry _ => entry.silent_fragments))
  have spaces : Every Silent [.fixed " ", .fixed " "] := .lead rfl (.lead rfl .nil)
  have behind : Every Silent (whereFragments dialect plan.conditions.predicates ++
      plan.conditions.tail.fragments) :=
    (silent_whereFragments _).append plan.conditions.tail.silent_fragments
  have split : plan.fragments dialect =
      (.fixed "SELECT " :: separated ", " (plan.selection.entries.map (·.fragments dialect))) ++
        .fixed " FROM " :: (aliasedTable dialect plan.selection.table plan.selection.table ++
          ([.fixed " ", .fixed " "] ++ (joinFragments dialect plan.joins ++
            (whereFragments dialect plan.conditions.predicates ++
              plan.conditions.tail.fragments)))) := by
    simp [fragments, Selection.fragments]
  rw [split, declared_append projected, declared_source rfl, declared_append spaces,
    declared_joinFragments, declared_eq_nil behind, List.append_nil]

end FindPlan

end QuerySql

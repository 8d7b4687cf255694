import QuerySql.Predicate.Expansion
import QuerySql.Proofs.Outcome
import QuerySql.Proofs.Sql.Formula

/-!
Meanings of criteria.  An object says that all its keys hold, a group that all or any of its
elements do, and what constrains nothing holds of every row.  Values are numbered in the order in
which they are bound, and a disjunction that constrains nothing binds none.
-/

namespace QuerySql

open Sql

/-- What is said of a row by conditions whose values are numbered from a given number on. -/
@[ext] structure Meaning where
  constrains : Bool
  operands : List Value
  holds : (Atom → Bool) → Nat → Bool
  operands_of_free : constrains = false → operands = []
  holds_of_free : constrains = false → ∀ truth next, holds truth next = true

namespace Meaning

def free : Meaning where
  constrains := false
  operands := []
  holds _ _ := true
  operands_of_free _ := rfl
  holds_of_free _ _ _ := rfl

def never : Meaning where
  constrains := true
  operands := []
  holds _ _ := false
  operands_of_free := nofun
  holds_of_free := nofun

def both (first second : Meaning) : Meaning where
  constrains := first.constrains || second.constrains
  operands := first.operands ++ second.operands
  holds truth next :=
    first.holds truth next && second.holds truth (next + first.operands.length)
  operands_of_free isFree := by
    rw [Bool.or_eq_false_iff] at isFree
    rw [first.operands_of_free isFree.1, second.operands_of_free isFree.2, List.append_nil]
  holds_of_free isFree truth next := by
    rw [Bool.or_eq_false_iff] at isFree
    rw [first.holds_of_free isFree.1, second.holds_of_free isFree.2, Bool.and_self]

def either (first second : Meaning) : Meaning where
  constrains := first.constrains && second.constrains
  operands :=
    if first.constrains && second.constrains then first.operands ++ second.operands else []
  holds truth next :=
    first.holds truth next || second.holds truth (next + first.operands.length)
  operands_of_free isFree := by rw [isFree, if_neg Bool.false_ne_true]
  holds_of_free isFree truth next := by
    rcases Bool.and_eq_false_iff.mp isFree with firstFree | secondFree
    · rw [first.holds_of_free firstFree, Bool.true_or]
    · rw [second.holds_of_free secondFree, Bool.or_true]

def all : List Meaning → Meaning :=
  List.foldr both free

def any : List Meaning → Meaning :=
  List.foldr either never

def joined : Connective → Meaning → Meaning → Meaning
  | .conjunction => both
  | .disjunction => either

def combined : Connective → List Meaning → Meaning
  | .conjunction => all
  | .disjunction => any

theorem eq_free {meaning : Meaning} (isFree : meaning.constrains = false) : meaning = free := by
  ext1
  · exact isFree
  · exact meaning.operands_of_free isFree
  · funext truth next
    exact meaning.holds_of_free isFree truth next

@[simp] theorem constrains_both (first second : Meaning) :
    (first.both second).constrains = (first.constrains || second.constrains) := rfl

@[simp] theorem constrains_either (first second : Meaning) :
    (first.either second).constrains = (first.constrains && second.constrains) := rfl

theorem operands_either {first second : Meaning} (firstConstrains : first.constrains)
    (secondConstrains : second.constrains) :
    (first.either second).operands = first.operands ++ second.operands := by
  have constrain : first.constrains && second.constrains := by
    rw [firstConstrains, secondConstrains, Bool.and_self]
  exact if_pos constrain

@[simp] theorem free_both (meaning : Meaning) : free.both meaning = meaning := by
  ext1 <;> simp [both, free]

@[simp] theorem both_free (meaning : Meaning) : meaning.both free = meaning := by
  ext1 <;> simp [both, free]

theorem both_assoc (first second third : Meaning) :
    (first.both second).both third = first.both (second.both third) := by
  ext1
  · exact Bool.or_assoc _ _ _
  · exact List.append_assoc _ _ _
  · funext truth next
    simp [both, Bool.and_assoc, Nat.add_assoc]

@[simp] theorem free_either (meaning : Meaning) : free.either meaning = free :=
  eq_free rfl

@[simp] theorem either_free (meaning : Meaning) : meaning.either free = free :=
  eq_free (Bool.and_false _)

theorem either_never {meaning : Meaning} (constrains : meaning.constrains) :
    meaning.either never = meaning := by
  ext1
  · rw [constrains_either, constrains]
    rfl
  · rw [operands_either constrains rfl]
    exact List.append_nil _
  · funext truth next
    exact Bool.or_false _

@[simp] theorem all_nil : all [] = free := rfl

@[simp] theorem all_cons (meaning : Meaning) (rest : List Meaning) :
    all (meaning :: rest) = meaning.both (all rest) := rfl

@[simp] theorem any_nil : any [] = never := rfl

@[simp] theorem any_cons (meaning : Meaning) (rest : List Meaning) :
    any (meaning :: rest) = meaning.either (any rest) := rfl

theorem combined_cons (connective : Connective) (meaning : Meaning) (rest : List Meaning) :
    combined connective (meaning :: rest) =
      joined connective meaning (combined connective rest) := by
  cases connective <;> rfl

theorem all_append (front back : List Meaning) :
    all (front ++ back) = (all front).both (all back) := by
  induction front with
  | nil => rw [List.nil_append, all_nil, free_both]
  | cons meaning rest ih => rw [List.cons_append, all_cons, ih, all_cons, both_assoc]

section Items

variable {α : Type} {meaningOf : α → Meaning} {items : List α}

theorem constrains_all (notEmpty : items ≠ [])
    (constrain : ∀ item ∈ items, (meaningOf item).constrains) :
    (all (items.map meaningOf)).constrains := by
  cases items with
  | nil => exact absurd rfl notEmpty
  | cons item rest =>
      rw [List.map_cons, all_cons, constrains_both, constrain item List.mem_cons_self, Bool.true_or]

theorem constrains_any (constrain : ∀ item ∈ items, (meaningOf item).constrains) :
    (any (items.map meaningOf)).constrains := by
  induction items with
  | nil => rfl
  | cons item rest ih =>
      rw [List.map_cons, any_cons, constrains_either, constrain item List.mem_cons_self,
        ih fun other member => constrain other (List.mem_cons_of_mem item member), Bool.and_self]

theorem constrains_combined (connective : Connective) (notEmpty : items ≠ [])
    (constrain : ∀ item ∈ items, (meaningOf item).constrains) :
    (combined connective (items.map meaningOf)).constrains := by
  cases connective with
  | conjunction => exact constrains_all notEmpty constrain
  | disjunction => exact constrains_any constrain

end Items

end Meaning

/-- The form in which a value is bound, lower-cased if its column is. -/
def Value.compared (folded : Bool) (value : Value) : Value :=
  (if folded then value.lowercased else value).normalized

def Column.operand (column : Column) (folded : Bool) : Operand :=
  ⟨column.ref, folded⟩

namespace Condition

variable (dialect : Dialect)

def operands : Condition → List Value
  | .constant _ | .null _ _ => []
  | .compare column _ operand =>
      [operand.compared (column.isFolded dialect operand.isString)]
  | .member column _ operands =>
      operands.map (Value.compared (column.isFolded dialect (operands.any Value.isString)))
  | .textMatch column kind text =>
      [.string (kind.pattern (if column.isFolded dialect true then Text.lower text else text))]

def atom (next : Nat) : Condition → Atom
  | .constant holds => .constant holds
  | .null column negated => .null (column.operand false) negated
  | .compare column relation operand =>
      .compare (column.operand (column.isFolded dialect operand.isString)) relation next
  | .member column negated operands =>
      .member (column.operand (column.isFolded dialect (operands.any Value.isString))) negated
        (List.range' next operands.length)
  | .textMatch column _ _ =>
      let folded := column.isFolded dialect true
      .like (column.operand folded) (!folded && dialect.foldsCase) next

def meaning (condition : Condition) : Meaning where
  constrains := true
  operands := condition.operands dialect
  holds truth next := truth (condition.atom dialect next)
  operands_of_free := nofun
  holds_of_free := nofun

end Condition

def Filter.value? : Filter → Option Value
  | .value scalar => some scalar
  | _ => none

namespace Column

def equality (column : Column) (negated : Bool) (value : Value) : Condition :=
  if value.isNull then .null column negated
  else .compare column (if negated then .notEqual else .equal) value

def membership (column : Column) (negated : Bool) (items : List Filter) : Condition :=
  if items.isEmpty then .constant negated
  else .member column negated (items.filterMap Filter.value?)

/-- What an operator asks of a column; operands that it does not take ask nothing. -/
def operation? (column : Column) : Operator → Filter → Option Condition
  | .not, .value value => some (column.equality true value)
  | .compare comparison, .value value => some (.compare column (.order comparison) value)
  | .textMatch kind, .value value => some (.textMatch column kind value.text)
  | .not, .list items => some (column.membership true items)
  | _, _ => none

end Column

namespace Scope

variable (dialect : Dialect)

def patternMeaning (scope : Scope) (key : String) (pattern : Filter) : Meaning :=
  (pattern.value?.map fun value =>
    (Condition.textMatch (scope.column key) .like value.text).meaning dialect).getD .free

def operatorMeaning (scope : Scope) (key spelling : String) (operand : Filter) : Meaning :=
  (((Operator.ofKey? spelling).bind fun operator =>
    (scope.column key).operation? operator operand).map (·.meaning dialect)).getD .free

mutual

def meaning (scope : Scope) : List (String × Filter) → Meaning
  | [] => .free
  | (key, filter) :: rest => (meaningAt scope key filter).both (meaning scope rest)
termination_by structural criteria => criteria

def meaningAt (scope : Scope) (key : String) : Filter → Meaning
  | .value value =>
      match CriteriaKey.ofText key with
      | .column key => ((scope.column key).equality false value).meaning dialect
      | .group _ | .patterns => .free
  | .list items =>
      match CriteriaKey.ofText key with
      | .group connective => .combined connective (elementMeanings scope items)
      | .column key => ((scope.column key).membership false items).meaning dialect
      | .patterns => .free
  | .object entries =>
      match CriteriaKey.ofText key with
      | .patterns => .all (entries.map fun entry => patternMeaning dialect scope entry.1 entry.2)
      | .column key =>
          match scope.associated key entries with
          | .ok (some table) => meaning (scope.enter key table) entries
          | _ =>
              .all (entries.map fun entry => operatorMeaning dialect scope key entry.1 entry.2)
      | .group _ => .free
termination_by structural filter => filter

def elementMeanings (scope : Scope) : List Filter → List Meaning
  | [] => []
  | .object entries :: rest => meaning scope entries :: elementMeanings scope rest
  | _ :: rest => .free :: elementMeanings scope rest
termination_by structural elements => elements

end

end Scope

end QuerySql

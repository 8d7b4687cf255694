import QuerySql.Proofs.Sql.Formula

/-!
What formulas say of a row.  A row may have null in a column, and a comparison with null is neither
true nor false; such truth values are combined by the rules of three-valued logic.
-/

namespace QuerySql.Sql

inductive Truth where
  | yes
  | no
  | unknown
  deriving DecidableEq

namespace Truth

def ofBool (holds : Bool) : Truth :=
  if holds then .yes else .no

def not : Truth → Truth
  | .yes => .no
  | .no => .yes
  | .unknown => .unknown

def and : Truth → Truth → Truth
  | .yes, second => second
  | .no, _ => .no
  | .unknown, .no => .no
  | .unknown, _ => .unknown

def or : Truth → Truth → Truth
  | .yes, _ => .yes
  | .no, second => second
  | .unknown, .yes => .yes
  | .unknown, _ => .unknown

def any (truths : List Truth) : Truth :=
  truths.foldr or .no

def comparing {Content : Type} (holds : Content → Value → Bool) :
    Option Content → Value → Truth
  | some content, value => if value.isNull then .unknown else ofBool (holds content value)
  | none, _ => .unknown

theorem comparing_null {Content : Type} (holds : Content → Value → Bool)
    (content : Option Content) : comparing holds content .null = .unknown := by
  cases content <;> rfl

@[simp] theorem ofBool_eq_yes_iff {holds : Bool} : ofBool holds = .yes ↔ holds = true := by
  cases holds <;> simp [ofBool]

theorem ofBool_ne_unknown (holds : Bool) : ofBool holds ≠ .unknown := by
  cases holds <;> simp [ofBool]

theorem and_eq_yes_iff {first second : Truth} :
    first.and second = .yes ↔ first = .yes ∧ second = .yes := by
  cases first <;> cases second <;> simp [and]

theorem or_eq_yes_iff {first second : Truth} :
    first.or second = .yes ↔ first = .yes ∨ second = .yes := by
  cases first <;> cases second <;> simp [or]

theorem or_eq_no_iff {first second : Truth} :
    first.or second = .no ↔ first = .no ∧ second = .no := by
  cases first <;> cases second <;> simp [or]

theorem not_eq_yes_iff {truth : Truth} : truth.not = .yes ↔ truth = .no := by
  cases truth <;> simp [not]

theorem any_eq_yes_iff {truths : List Truth} : any truths = .yes ↔ .yes ∈ truths := by
  induction truths with
  | nil => simp [any]
  | cons first rest ih =>
      have split : any (first :: rest) = first.or (any rest) := rfl
      rw [split, or_eq_yes_iff, ih, List.mem_cons, eq_comm]

theorem any_eq_no_iff {truths : List Truth} : any truths = .no ↔ ∀ truth ∈ truths, truth = .no := by
  induction truths with
  | nil => simp [any]
  | cons first rest ih =>
      have split : any (first :: rest) = first.or (any rest) := rfl
      rw [split, or_eq_no_iff, ih, List.forall_mem_cons]

end Truth

/-- How an engine compares the contents of columns with values, where neither is null. -/
structure Engine (Content : Type) where
  lower : Content → Content
  equals : Content → Value → Bool
  orders : Comparison → Content → Value → Bool
  isLike : Bool → Content → Value → Bool

/-- The contents of a row's columns, of which there is none where the row has null. -/
abbrev Row (Content : Type) := ColumnRef → Option Content

variable {Content : Type} (engine : Engine Content) (row : Row Content)

def Operand.content (operand : Operand) : Option Content :=
  if operand.lowered then (row operand.ref).map engine.lower else row operand.ref

def Engine.relates : Relation → Option Content → Value → Truth
  | .equal, content, value => .comparing engine.equals content value
  | .notEqual, content, value => (Truth.comparing engine.equals content value).not
  | .order comparison, content, value => .comparing (engine.orders comparison) content value

def placed (values : List Value) (number : Nat) : Value :=
  values.getD (number - 1) .null

def Atom.truth (values : List Value) : Atom → Truth
  | .constant holds => .ofBool holds
  | .null column negated => .ofBool ((row column.ref).isNone != negated)
  | .compare column relation number =>
      engine.relates relation (column.content engine row) (placed values number)
  | .member column negated numbers =>
      let among := Truth.any (numbers.map fun number =>
        engine.relates .equal (column.content engine row) (placed values number))
      if negated then among.not else among
  | .like column ignoresCase number =>
      .comparing (engine.isLike ignoresCase) (column.content engine row) (placed values number)

def Formula.truth (values : List Value) : Formula → Truth
  | .atom condition => condition.truth engine row values
  | .and first second => (first.truth values).and (second.truth values)
  | .or first second => (first.truth values).or (second.truth values)

theorem Formula.truth_eq_yes_iff (values : List Value) (formula : Formula) :
    formula.truth engine row values = .yes ↔
      formula.holds (fun condition => condition.truth engine row values = .yes) = true := by
  induction formula with
  | atom condition => simp [truth, holds]
  | and first second ihFirst ihSecond =>
      rw [truth, Truth.and_eq_yes_iff, ihFirst, ihSecond, holds, Bool.and_eq_true]
  | or first second ihFirst ihSecond =>
      rw [truth, Truth.or_eq_yes_iff, ihFirst, ihSecond, holds, Bool.or_eq_true]

theorem map_placed {β : Type} (values : List Value) (look : Value → β) :
    ((List.range' 1 values.length).map fun number => look (placed values number)) =
      values.map look := by
  refine List.ext_getElem (by simp) fun index inNumbers inValues => ?_
  rw [List.length_map] at inValues
  simp [placed, Nat.add_comm 1, inValues]

end QuerySql.Sql

import QuerySql.Proofs.Sql.Token

/-!
Formulas of conditions.  The parser gives `AND` precedence over `OR`; it keeps what it has read of
each open parenthesis and takes the tokens one after another.
-/

namespace QuerySql.Sql

structure Operand where
  ref : ColumnRef
  lowered : Bool
  deriving DecidableEq

/-- A condition without connectives.  Values are given by the numbers of their placeholders. -/
inductive Atom where
  | constant (holds : Bool)
  | null (column : Operand) (negated : Bool)
  | compare (column : Operand) (relation : Relation) (value : Nat)
  | member (column : Operand) (negated : Bool) (values : List Nat)
  | like (column : Operand) (ignoresCase : Bool) (value : Nat)
  deriving DecidableEq

inductive Formula where
  | atom (condition : Atom)
  | and (first second : Formula)
  | or (first second : Formula)
  deriving DecidableEq

namespace Formula

def holds (truth : Atom → Bool) : Formula → Bool
  | .atom condition => truth condition
  | .and first second => first.holds truth && second.holds truth
  | .or first second => first.holds truth || second.holds truth

/-- What has been read between two parentheses: the alternatives before the last `OR`, and the
conjunction after it. -/
structure Level where
  alternatives : Option Formula := none
  conjunction : Option Formula := none
  deriving DecidableEq

namespace Level

def add (level : Level) (formula : Formula) : Level :=
  match level.conjunction with
  | none => { level with conjunction := some formula }
  | some conjunction => { level with conjunction := some (.and conjunction formula) }

def formula? (level : Level) : Option Formula :=
  match level.alternatives with
  | none => level.conjunction
  | some alternatives => level.conjunction.map (.or alternatives)

def split (level : Level) : Level :=
  { alternatives := level.formula? }

end Level

mutual

def parseOperand (outer : List Level) (level : Level) : List Token → Option Formula
  | .left :: rest => parseOperand (level :: outer) {} rest
  | .one :: .relation .equal :: .one :: rest =>
      parseOperator outer (level.add (.atom (.constant true))) rest
  | .one :: .relation .equal :: .zero :: rest =>
      parseOperator outer (level.add (.atom (.constant false))) rest
  | .name qualifier :: .dot :: .name column :: rest =>
      parseTest outer level ⟨⟨qualifier, column⟩, false⟩ rest
  | .lower :: .left :: .name qualifier :: .dot :: .name column :: .right :: rest =>
      parseTest outer level ⟨⟨qualifier, column⟩, true⟩ rest
  | _ => none
termination_by structural tokens => tokens

def parseTest (outer : List Level) (level : Level) (column : Operand) :
    List Token → Option Formula
  | .is :: .null :: rest =>
      parseOperator outer (level.add (.atom (.null column false))) rest
  | .is :: .not :: .null :: rest =>
      parseOperator outer (level.add (.atom (.null column true))) rest
  | .relation relation :: .placeholder value :: rest =>
      parseOperator outer (level.add (.atom (.compare column relation value))) rest
  | .like :: .placeholder value :: rest =>
      parseOperator outer (level.add (.atom (.like column false value))) rest
  | .ilike :: .placeholder value :: rest =>
      parseOperator outer (level.add (.atom (.like column true value))) rest
  | .in :: .left :: rest => parseList outer level column false [] rest
  | .not :: .in :: .left :: rest => parseList outer level column true [] rest
  | _ => none
termination_by structural tokens => tokens

def parseList (outer : List Level) (level : Level) (column : Operand) (negated : Bool)
    (values : List Nat) : List Token → Option Formula
  | .placeholder value :: .comma :: rest =>
      parseList outer level column negated (values ++ [value]) rest
  | .placeholder value :: .right :: rest =>
      parseOperator outer (level.add (.atom (.member column negated (values ++ [value])))) rest
  | _ => none
termination_by structural tokens => tokens

def parseOperator (outer : List Level) (level : Level) : List Token → Option Formula
  | [] => if outer.isEmpty then level.formula? else none
  | .and :: rest => parseOperand outer level rest
  | .or :: rest => parseOperand outer level.split rest
  | .right :: rest =>
      match outer, level.formula? with
      | enclosing :: outer, some formula => parseOperator outer (enclosing.add formula) rest
      | _, _ => none
  | _ => none
termination_by structural tokens => tokens

end

/-- The formula of a text, if it is one condition. -/
def ofText? (text : String) : Option Formula :=
  (Token.ofText? text).bind (parseOperand [] {})

example : ofText? "1=0 OR 1=1 AND (1=0)" =
    some (.or (.atom (.constant false))
      (.and (.atom (.constant true)) (.atom (.constant false)))) := by decide

structure Level.Extends (level next : Level) (meaning : (Atom → Bool) → Bool) : Prop where
  alternatives : next.alternatives = level.alternatives
  conjunction : ∃ formula, next.conjunction = some formula ∧
    ∀ truth, formula.holds truth =
      (level.conjunction.all (fun earlier => earlier.holds truth) && meaning truth)

/-- The tokens are read as one condition of a conjunction. -/
def Reads (tokens : List Token) (meaning : (Atom → Bool) → Bool) : Prop :=
  ∀ outer level rest, ∃ next,
    parseOperand outer level (tokens ++ rest) = parseOperator outer next rest ∧
      level.Extends next meaning

def ReadsAlternatives (tokens : List Token) (meaning : (Atom → Bool) → Bool) : Prop :=
  ∀ outer alternatives rest, ∃ next formula,
    parseOperand outer { alternatives } (tokens ++ rest) = parseOperator outer next rest ∧
      next.formula? = some formula ∧
      ∀ truth, formula.holds truth =
        (alternatives.any (fun earlier => earlier.holds truth) || meaning truth)

variable {tokens front back : List Token} {first second meaning : (Atom → Bool) → Bool}

theorem Level.extends_add (level : Level) (formula : Formula) :
    level.Extends (level.add formula) fun truth => formula.holds truth := by
  obtain ⟨alternatives, conjunction⟩ := level
  cases conjunction with
  | none => exact ⟨rfl, formula, rfl, fun truth => rfl⟩
  | some earlier => exact ⟨rfl, .and earlier formula, rfl, fun truth => rfl⟩

theorem Level.Extends.trans {level middle last : Level} (front : level.Extends middle first)
    (back : middle.Extends last second) :
    level.Extends last fun truth => first truth && second truth := by
  obtain ⟨earlier, isEarlier, earlierHolds⟩ := front.conjunction
  obtain ⟨whole, isWhole, wholeHolds⟩ := back.conjunction
  refine ⟨back.alternatives.trans front.alternatives, whole, isWhole, fun truth => ?_⟩
  rw [wholeHolds, isEarlier, Option.all_some, earlierHolds, Bool.and_assoc]

theorem Level.Extends.formula {alternatives : Option Formula} {next : Level}
    (extension : Level.Extends { alternatives } next meaning) :
    ∃ formula, next.formula? = some formula ∧
      ∀ truth, formula.holds truth =
        (alternatives.any (fun earlier => earlier.holds truth) || meaning truth) := by
  obtain ⟨conjunction, isConjunction, holdsConjunction⟩ := extension.conjunction
  have sameAlternatives := extension.alternatives
  cases alternatives with
  | none =>
      refine ⟨conjunction, ?_, fun truth => ?_⟩
      · rw [Level.formula?, sameAlternatives, isConjunction]
      · rw [holdsConjunction]
        rfl
  | some earlier =>
      refine ⟨.or earlier conjunction, ?_, fun truth => ?_⟩
      · rw [Level.formula?, sameAlternatives, isConjunction]
        rfl
      · rw [holds, holdsConjunction]
        rfl

theorem Reads.of_atom {condition : Atom}
    (reads : ∀ outer level rest, parseOperand outer level (tokens ++ rest) =
      parseOperator outer (level.add (.atom condition)) rest) :
    Reads tokens fun truth => truth condition := by
  intro outer level rest
  exact ⟨_, reads outer level rest, level.extends_add (.atom condition)⟩

theorem Reads.and (readsFront : Reads front first) (readsBack : Reads back second) :
    Reads (front ++ .and :: back) fun truth => first truth && second truth := by
  intro outer level rest
  obtain ⟨middle, toMiddle, extendsMiddle⟩ := readsFront outer level (.and :: back ++ rest)
  obtain ⟨last, toLast, extendsLast⟩ := readsBack outer middle rest
  refine ⟨last, ?_, extendsMiddle.trans extendsLast⟩
  rw [List.append_assoc, toMiddle, List.cons_append, parseOperator, toLast]

theorem Reads.alternatives (reads : Reads tokens meaning) : ReadsAlternatives tokens meaning := by
  intro outer alternatives rest
  obtain ⟨next, toNext, extension⟩ := reads outer { alternatives } rest
  obtain ⟨formula, isFormula, holdsFormula⟩ := extension.formula
  exact ⟨next, formula, toNext, isFormula, holdsFormula⟩

theorem ReadsAlternatives.or (readsFront : ReadsAlternatives front first)
    (readsBack : ReadsAlternatives back second) :
    ReadsAlternatives (front ++ .or :: back) fun truth => first truth || second truth := by
  intro outer alternatives rest
  obtain ⟨middle, earlier, toMiddle, isEarlier, holdsEarlier⟩ :=
    readsFront outer alternatives (.or :: back ++ rest)
  obtain ⟨last, whole, toLast, isWhole, holdsWhole⟩ := readsBack outer (some earlier) rest
  refine ⟨last, whole, ?_, isWhole, fun truth => ?_⟩
  · rw [List.append_assoc, toMiddle, List.cons_append, parseOperator, Level.split, isEarlier,
      toLast]
  · rw [holdsWhole, Option.any_some, holdsEarlier, Bool.or_assoc]

theorem ReadsAlternatives.parenthesized (reads : ReadsAlternatives tokens meaning) :
    Reads (.left :: tokens ++ [.right]) meaning := by
  intro outer level rest
  obtain ⟨inner, formula, toInner, isFormula, holdsFormula⟩ :=
    reads (level :: outer) none (.right :: rest)
  have holdsMeaning : (fun truth => formula.holds truth) = meaning := by
    funext truth
    rw [holdsFormula, Option.any_none, Bool.false_or]
  refine ⟨level.add formula, ?_, holdsMeaning ▸ level.extends_add formula⟩
  rw [List.append_assoc, List.cons_append, parseOperand, List.singleton_append, toInner]
  simp only [parseOperator, isFormula]

theorem ReadsAlternatives.exists_formula (reads : ReadsAlternatives tokens meaning) :
    ∃ formula, parseOperand [] {} tokens = some formula ∧
      ∀ truth, formula.holds truth = meaning truth := by
  obtain ⟨next, formula, toNext, isFormula, holdsFormula⟩ := reads [] none []
  refine ⟨formula, ?_, fun truth => ?_⟩
  · rw [List.append_nil] at toNext
    rw [toNext, parseOperator, List.isEmpty_nil, if_pos rfl, isFormula]
  · rw [holdsFormula, Option.any_none, Bool.false_or]

theorem ReadsAlternatives.ofText? {text : String} (reads : ReadsAlternatives tokens meaning)
    (lexes : Token.ofText? text = some tokens) :
    ∃ formula, Formula.ofText? text = some formula ∧
      ∀ truth, formula.holds truth = meaning truth := by
  obtain ⟨formula, parses, holdsFormula⟩ := reads.exists_formula
  refine ⟨formula, ?_, holdsFormula⟩
  rw [Formula.ofText?, lexes, Option.bind_some, parses]

end Formula

end QuerySql.Sql

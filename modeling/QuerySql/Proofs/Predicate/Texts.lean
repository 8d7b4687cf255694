import QuerySql.Proofs.Predicate.Leaves
import QuerySql.Proofs.Predicate.Reading
import QuerySql.Proofs.Predicate.Words
import QuerySql.Proofs.Sql.Emission

namespace QuerySql

open Sql Sql.Fragment

variable {dialect : Dialect} {bindings : Bindings} {next : Nat}

/-- Where values are bound, the next placeholder has this number. -/
def Sql.Bindings.ContinueAt (dialect : Dialect) (next : Nat) (bindings : Bindings) : Prop :=
  dialect.parameterized → bindings.next = next

theorem Sql.Bindings.ContinueAt.emitAll (continues : bindings.ContinueAt dialect next)
    (fragments : List Fragment) :
    (emitAll dialect bindings fragments).2.ContinueAt dialect (next + (bound fragments).length) := by
  intro parameterized
  rw [emitAll_bound parameterized, continues parameterized]

namespace Column

def text (dialect : Dialect) (lower : Bool) (column : Column) : String :=
  if lower then "LOWER(" ++ column.ref.text dialect.quote ++ ")" else column.ref.text dialect.quote

theorem emitAll_fragments (column : Column) (lower : Bool) :
    emitAll dialect bindings (column.fragments lower) = (column.text dialect lower, bindings) := by
  rw [emitAll_of_bound_eq_nil rfl (column.bound_fragments lower)]
  cases lower with
  | false => exact congrArg (·, bindings) column.ref.text_fragments
  | true =>
      have ref : bound column.ref.fragments = [] := rfl
      have written : Fragment.text dialect (column.fragments true) =
          "LOWER(" ++ (Fragment.text dialect column.ref.fragments ++ ")") :=
        congrArg ("LOWER(" ++ ·) (text_append ref [.fixed ")"])
      rw [written, column.ref.text_fragments, text, if_pos rfl, String.append_assoc]

end Column

namespace Condition

/-- The condition with what its column is compared with in lower case. -/
def lowered : Condition → Condition
  | .constant holds => .constant holds
  | .null column negated => .null column negated
  | .compare column relation value => .compare column relation value.lowercased
  | .member column negated values => .member column negated (values.map Value.lowercased)
  | .textMatch column kind text => .textMatch column kind (Text.lower text)

/-- The values that are bound for a condition. -/
def values : Condition → List Value
  | .constant _ | .null _ _ => []
  | .compare _ _ value => [value.normalized]
  | .member _ _ values => values.map Value.normalized
  | .textMatch _ kind text => [.string (kind.pattern text)]

/-- The literals that stand in a condition where nothing is bound. -/
def literals : Condition → List String
  | .constant _ | .null _ _ => []
  | .compare _ _ value => [literal value]
  | .member _ _ values => values.map literal
  | .textMatch _ kind text => [kind.patternLiteral text]

/-- What a column is compared with as it is written. -/
def operandTexts (dialect : Dialect) (next : Nat) (condition : Condition) : List String :=
  if dialect.parameterized then
    (List.range' next condition.values.length).map Bindings.placeholder
  else condition.literals

/-- A condition with its column in `LOWER` or not and with the texts of its operands. -/
def textWith (dialect : Dialect) (lower : Bool) (operands : List String) : Condition → String
  | .constant holds => if holds then "1=1" else "1=0"
  | .null column negated =>
      column.text dialect false ++ if negated then " IS NOT NULL" else " IS NULL"
  | .compare column relation _ =>
      column.text dialect lower ++ " " ++ relation.sql ++ " " ++ String.join operands
  | .member column negated _ =>
      column.text dialect lower ++ (if negated then " NOT IN (" else " IN (")
        ++ String.intercalate "," operands ++ ")"
  | .textMatch column _ _ =>
      column.text dialect lower ++ " " ++ patternComparator lower dialect.foldsCase ++ " "
        ++ String.join operands

/-- The condition with its operands as they are bound or written out. -/
def folded (dialect : Dialect) (condition : Condition) : Condition :=
  if condition.isFolded dialect then condition.lowered else condition

def textAt (dialect : Dialect) (next : Nat) (condition : Condition) : String :=
  condition.textWith dialect (condition.isFolded dialect)
    ((condition.folded dialect).operandTexts dialect next)

theorem values_folded (dialect : Dialect) (condition : Condition) :
    (condition.folded dialect).values = condition.operands dialect := by
  cases condition with
  | constant holds => rfl
  | null column negated => rfl
  | compare column relation value =>
      rw [folded, isFolded, operands]
      cases column.isFolded dialect value.isString <;> rfl
  | member column negated values =>
      rw [folded, isFolded, operands]
      cases column.isFolded dialect (values.any Value.isString) with
      | false => rfl
      | true => exact List.map_map
  | textMatch column kind text =>
      rw [folded, isFolded, operands]
      cases column.isFolded dialect true <;> rfl

theorem length_inputs (dialect : Dialect) (condition : Condition) :
    (condition.inputs dialect).length = (condition.operands dialect).length := by
  cases condition with
  | constant holds | null column negated | compare column relation value => rfl
  | textMatch column kind text => rfl
  | member column negated values =>
      rw [inputs, operands, List.length_map, List.length_map]

theorem literals_inputs (inline : dialect.parameterized = false) (condition : Condition) :
    (condition.inputs dialect).map (fun input => (input.emit dialect {}).1) =
      (condition.folded dialect).literals := by
  cases condition with
  | constant holds => rfl
  | null column negated => rfl
  | compare column relation value =>
      rw [folded, isFolded]
      cases lower : column.isFolded dialect value.isString <;>
        simp [inputs, literals, lowered, emit, operandFragment, lower, inline]
  | member column negated values =>
      rw [folded, isFolded]
      cases lower : column.isFolded dialect (values.any Value.isString) <;>
        simp [inputs, literals, lowered, emit, operandFragment, lower, inline]
  | textMatch column kind text =>
      rw [folded, isFolded]
      cases lower : column.isFolded dialect true <;>
        simp [inputs, literals, lowered, emit, lower, inline]

theorem emitParts_given {inputs : List Fragment} (parameterized : dialect.parameterized)
    (given : ∀ input ∈ inputs, (∃ value, input = .operand value) ∨
      ∃ kind text, input = .pattern kind text) (bindings : Bindings) :
    (emitParts dialect bindings (inputs.map fun input => [input])).1 =
      (List.range' bindings.next inputs.length).map Bindings.placeholder := by
  induction inputs generalizing bindings with
  | nil => rfl
  | cons input rest ih =>
      obtain ⟨first, others⟩ := List.forall_mem_cons.mp given
      rw [List.map_cons, emitParts_cons, ih others]
      rcases first with ⟨value, rfl⟩ | ⟨kind, text, rfl⟩ <;>
        simp [emitAll_singleton, emit, parameterized, Bindings.bind, List.range'_succ]

theorem emitParts_inline {inputs : List Fragment} (inline : dialect.parameterized = false)
    (bindings : Bindings) :
    (emitParts dialect bindings (inputs.map fun input => [input])).1 =
      inputs.map fun input => (input.emit dialect {}).1 := by
  induction inputs with
  | nil => rfl
  | cons input rest ih =>
      rw [List.map_cons, emitParts_cons, emitAll_singleton, emit_of_inline inline, ih,
        List.map_cons]

theorem emitParts_inputs (continues : bindings.ContinueAt dialect next) (condition : Condition) :
    (emitParts dialect bindings ((condition.inputs dialect).map fun input => [input])).1 =
      (condition.folded dialect).operandTexts dialect next := by
  rw [operandTexts]
  split
  · rename_i parameterized
    have given : ∀ input ∈ condition.inputs dialect, (∃ value, input = .operand value) ∨
        ∃ kind text, input = .pattern kind text := fun input member =>
      (mem_inputs member).imp_right fun ⟨_, kind, _, written, _, isPattern⟩ =>
        ⟨kind, written, isPattern⟩
    rw [emitParts_given parameterized given, length_inputs, values_folded,
      continues parameterized]
  · rename_i notParameterized
    have inline : dialect.parameterized = false := Bool.eq_false_iff.mpr notParameterized
    rw [emitParts_inline inline, literals_inputs inline]

theorem emitAll_fragments (continues : bindings.ContinueAt dialect next) (condition : Condition) :
    (emitAll dialect bindings (condition.fragments dialect)).1 = condition.textAt dialect next := by
  rw [textAt, ← emitParts_inputs continues]
  cases condition with
  | constant holds => exact String.append_empty
  | null column negated =>
      rw [fragments, emitAll_append, column.emitAll_fragments, emitAll_singleton]
      rfl
  | compare column relation value =>
      rw [fragments, emitAll_append, column.emitAll_fragments, emitAll_fixed]
      simp [textWith, inputs, isFolded, emitParts, String.join, String.append_assoc]
  | member column negated values =>
      rw [fragments, List.append_assoc, emitAll_append, column.emitAll_fragments,
        List.cons_append, emitAll_fixed, emitAll_append, emitAll_separated]
      simp [textWith, inputs, isFolded, emitAll_singleton, emit, String.append_assoc,
        Function.comp_def]
  | textMatch column kind text =>
      rw [fragments, emitAll_append, column.emitAll_fragments, emitAll_fixed]
      simp [textWith, inputs, isFolded, emitParts, String.join, String.append_assoc]

end Condition

namespace Predicate

def values (dialect : Dialect) (predicate : Predicate) : List Value :=
  predicate.leaves.flatMap fun single => (single.folded dialect).values

theorem bound_fragments (dialect : Dialect) (predicate : Predicate) :
    bound (predicate.fragments dialect) = predicate.values dialect := by
  rw [sees_bound.fragments, values]
  simp only [Condition.bound_fragments, Condition.values_folded]

mutual

/-- The text of a predicate whose placeholders are numbered from the given one on. -/
def textFrom (dialect : Dialect) (next : Nat) : Predicate → String
  | .condition single => single.textAt dialect next
  | .every parts => String.intercalate " AND " (textsFrom dialect next parts)
  | .group connective elements =>
      "(" ++ String.intercalate connective.joiner (elementTextsFrom dialect next elements) ++ ")"
termination_by structural predicate => predicate

def textsFrom (dialect : Dialect) (next : Nat) : List Predicate → List String
  | [] => []
  | part :: rest =>
      part.textFrom dialect next
        :: textsFrom dialect (next + (part.values dialect).length) rest
termination_by structural parts => parts

def elementTextsFrom (dialect : Dialect) (next : Nat) : List (List Predicate) → List String
  | [] => []
  | element :: rest =>
      ("(" ++ String.intercalate " AND " (textsFrom dialect next element) ++ ")")
        :: elementTextsFrom dialect (next + (element.flatMap (values dialect)).length) rest
termination_by structural elements => elements

end

theorem emitAll_parenthesized (fragments : List Fragment) :
    emitAll dialect bindings (parenthesized fragments) =
      ("(" ++ (emitAll dialect bindings fragments).1 ++ ")",
        (emitAll dialect bindings fragments).2) := by
  rw [parenthesized, List.cons_append, emitAll_fixed, emitAll_append, emitAll_singleton,
    String.append_assoc]
  rfl

theorem bound_conjunction (dialect : Dialect) (parts : List Predicate) :
    bound (conjunction (parts.map (fragments dialect))) = parts.flatMap (values dialect) := by
  rw [sees_bound.conjunction, List.flatMap_map]
  simp only [bound_fragments]

mutual

/-- A predicate is emitted as its text, with each placeholder numbered on from the last. -/
theorem emitAll_fragments {bindings : Bindings} {next : Nat}
    (continues : bindings.ContinueAt dialect next) (predicate : Predicate) :
    (emitAll dialect bindings (predicate.fragments dialect)).1 =
      predicate.textFrom dialect next := by
  cases predicate with
  | condition single => exact Condition.emitAll_fragments continues single
  | every parts =>
      rw [fragments, conjunction, emitAll_separated, textFrom, emitParts_partsFragments continues]
  | group connective elements =>
      rw [fragments, emitAll_parenthesized, emitAll_separated, textFrom,
        emitParts_elementsFragments continues]
termination_by structural predicate

theorem emitParts_partsFragments {bindings : Bindings} {next : Nat}
    (continues : bindings.ContinueAt dialect next) (parts : List Predicate) :
    (emitParts dialect bindings (partsFragments dialect parts)).1 =
      textsFrom dialect next parts := by
  cases parts with
  | nil => rfl
  | cons part rest =>
      have behind := continues.emitAll (part.fragments dialect)
      rw [part.bound_fragments] at behind
      rw [partsFragments, emitParts_cons, textsFrom, emitAll_fragments continues part,
        emitParts_partsFragments behind rest]
termination_by structural parts

theorem emitParts_elementsFragments {bindings : Bindings} {next : Nat}
    (continues : bindings.ContinueAt dialect next) (elements : List (List Predicate)) :
    (emitParts dialect bindings (elementsFragments dialect elements)).1 =
      elementTextsFrom dialect next elements := by
  cases elements with
  | nil => rfl
  | cons element rest =>
      have behind := continues.emitAll (conjunction (partsFragments dialect element))
      rw [partsFragments_eq_map, bound_conjunction, ← partsFragments_eq_map] at behind
      rw [elementsFragments, emitParts_cons, emitAll_parenthesized, elementTextsFrom]
      dsimp only
      rw [emitParts_elementsFragments behind rest, conjunction, emitAll_separated,
        emitParts_partsFragments continues element]
termination_by structural elements

end

end Predicate

end QuerySql

import QuerySql.Proofs.Sql.Observation
import QuerySql.Proofs.Sql.Token

/-!
Text with values in it.  Where values are bound, a placeholder stands for each; where they are not,
a literal does.  Apart from that both texts are the same, as long as no operand of a match is taken
literally: such operands are escaped in one way for a literal and in another for a bound pattern.
-/

namespace QuerySql

@[simp] theorem Value.normalized_normalized (value : Value) :
    value.normalized.normalized = value.normalized := by
  cases value <;> rfl

namespace Sql

@[simp] theorem literal_normalized (value : Value) : literal value.normalized = literal value := by
  rw [literal, literal, Value.normalized_normalized]

theorem patternLiteral_like (text : String) :
    TextMatch.like.patternLiteral text = literal (.string (TextMatch.like.pattern text)) := by
  simp [TextMatch.patternLiteral, TextMatch.pattern, TextMatch.before, TextMatch.after,
    TextMatch.isLiteral, literal, Value.normalized]

/-- A text with gaps for values, each with the text behind it. -/
structure Gapped where
  front : String
  gaps : List (Value × String)

namespace Gapped

def fillFrom (write : Nat → Value → String) (next : Nat) : List (Value × String) → String
  | [] => ""
  | (value, text) :: rest => write next value ++ text ++ fillFrom write (next + 1) rest

def fill (gapped : Gapped) (write : Nat → Value → String) : String :=
  gapped.front ++ fillFrom write 1 gapped.gaps

def values (gapped : Gapped) : List Value :=
  gapped.gaps.map Prod.fst

def numbered (gapped : Gapped) : String :=
  gapped.fill fun number _ => Bindings.placeholder number

def inlined (gapped : Gapped) : String :=
  gapped.fill fun _ value => literal value

def prepend (text : String) (gapped : Gapped) : Gapped :=
  { gapped with front := text ++ gapped.front }

def behind (value : Value) (gapped : Gapped) : Gapped :=
  ⟨"", (value, gapped.front) :: gapped.gaps⟩

def ofFragments (quote : Char) : List Fragment → Gapped
  | [] => ⟨"", []⟩
  | .fixed text :: rest | .verbatim text :: rest => (ofFragments quote rest).prepend text
  | .quoted name :: rest => (ofFragments quote rest).prepend (identifier quote name)
  | .operand value :: rest => (ofFragments quote rest).behind value.normalized
  | .pattern kind text :: rest => (ofFragments quote rest).behind (.string (kind.pattern text))
  | .parentKey :: rest => (ofFragments quote rest).prepend parentKeyMarker

theorem values_ofFragments (quote : Char) (fragments : List Fragment) :
    (ofFragments quote fragments).values = Fragment.bound fragments := by
  induction fragments with
  | nil => rfl
  | cons fragment rest ih =>
      rw [values] at ih
      cases fragment <;> simp [values, ofFragments, prepend, behind, Fragment.bound, ih]

theorem emitAll_bound {dialect : Dialect} (parameterized : dialect.parameterized)
    (bindings : Bindings) (fragments : List Fragment) :
    (Fragment.emitAll dialect bindings fragments).1 =
      (ofFragments dialect.quote fragments).front ++
        fillFrom (fun number _ => Bindings.placeholder number) bindings.next
          (ofFragments dialect.quote fragments).gaps := by
  induction fragments generalizing bindings with
  | nil => rfl
  | cons fragment rest ih =>
      rw [Fragment.emitAll_cons, ih]
      cases fragment <;>
        simp [Fragment.emit, parameterized, Bindings.bind, ofFragments, prepend, behind, fillFrom,
          String.append_assoc]

/-- Fragments whose values are not bound are written with a literal in each gap, if their patterns
are with wildcards of the caller's own. -/
theorem emitAll_inlined {dialect : Dialect} (inline : dialect.parameterized = false)
    (bindings : Bindings) {fragments : List Fragment}
    (wildcards : ∀ kind text, .pattern kind text ∈ fragments → kind = .like) (next : Nat) :
    Fragment.emitAll dialect bindings fragments =
      ((ofFragments dialect.quote fragments).front ++
        fillFrom (fun _ value => literal value) next (ofFragments dialect.quote fragments).gaps,
        bindings) := by
  -- A literal does not depend on the number of its gap, which the induction leaves open.
  induction fragments generalizing next with
  | nil => rfl
  | cons fragment rest ih =>
      have following (next : Nat) := ih (fun kind text member =>
        wildcards kind text (List.mem_cons_of_mem fragment member)) next
      cases fragment with
      | operand value =>
          simp [Fragment.emitAll_cons, Fragment.emit, inline, following (next + 1), ofFragments,
            behind, fillFrom, String.append_assoc]
      | pattern kind text =>
          obtain rfl := wildcards kind text List.mem_cons_self
          simp [Fragment.emitAll_cons, Fragment.emit, inline, following (next + 1), ofFragments,
            behind, fillFrom, patternLiteral_like, String.append_assoc]
      | fixed text | quoted name | verbatim text | parentKey =>
          simp [Fragment.emitAll_cons, Fragment.emit, following next, ofFragments, prepend,
            String.append_assoc]

end Gapped

namespace Fragment

theorem sees_bound : SeesThrough bound where
  nil := rfl
  link front text back _ := by
    rw [bound_append, bound]

theorem emitAll_of_bound_eq_nil {dialect dialect' : Dialect}
    (sameQuote : dialect.quote = dialect'.quote) {fragments : List Fragment}
    (bindsNothing : bound fragments = []) (bindings : Bindings) :
    emitAll dialect bindings fragments = (text dialect' fragments, bindings) := by
  rw [text]
  induction fragments with
  | nil => rfl
  | cons fragment rest ih =>
      cases fragment with
      | operand value => cases bindsNothing
      | pattern kind text => cases bindsNothing
      | quoted name =>
          rw [emitAll_cons, emitAll_cons, emit, emit, ih bindsNothing, sameQuote]
      | fixed text | verbatim text | parentKey =>
          rw [emitAll_cons, emitAll_cons, emit, emit, ih bindsNothing]

end Fragment

end Sql

end QuerySql

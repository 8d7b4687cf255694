import QuerySql.Proofs.Sql.Emission
import QuerySql.Proofs.Sql.Lexeme

namespace QuerySql

open Sql

def Value.blanked : Value → Value
  | .string _ => .string ""
  | value => value

@[simp] theorem Value.isNull_blanked (value : Value) : value.blanked.isNull = value.isNull := by
  cases value <;> rfl

@[simp] theorem Value.isString_blanked (value : Value) :
    value.blanked.isString = value.isString := by
  cases value <;> rfl

@[simp] theorem Value.blanked_blanked (value : Value) : value.blanked.blanked = value.blanked := by
  cases value <;> rfl

@[simp] theorem Value.blanked_lowercased (value : Value) :
    value.lowercased.blanked = value.blanked := by
  cases value <;> rfl

namespace Sql

def isScalarText (text : String) : Bool :=
  text.toList.all fun char => char.isAlphanum || char = '.' || char = '-'

theorem isScalarText_append {front back : String} (frontScalar : isScalarText front)
    (backScalar : isScalarText back) : isScalarText (front ++ back) := by
  unfold isScalarText at frontScalar backScalar ⊢
  rw [String.toList_append, List.all_append, frontScalar, backScalar]
  rfl

theorem notMem_of_isScalarText {text : String} (scalar : isScalarText text) {sign : Char}
    (other : isScalarText (String.singleton sign) = false) : sign ∉ text.toList := by
  intro member
  have isPart := List.all_eq_true.mp scalar sign member
  rw [isScalarText, String.toList_singleton, List.all_cons, isPart] at other
  cases other

theorem isPlainText_of_isScalarText {text : String} (scalar : isScalarText text) :
    isPlainText text := by
  rw [isPlainText, List.all_eq_true]
  intro char member
  have noDollar : '$' ∉ text.toList := notMem_of_isScalarText scalar (by decide)
  have noQuote : '"' ∉ text.toList := notMem_of_isScalarText scalar (by decide)
  have noBacktick : '`' ∉ text.toList := notMem_of_isScalarText scalar (by decide)
  simp [isPlain, ne_of_mem_of_not_mem member noDollar, ne_of_mem_of_not_mem member noQuote,
    ne_of_mem_of_not_mem member noBacktick]

theorem isScalarText_ofList {chars : List Char}
    (scalar : ∀ char ∈ chars, char.isDigit ∨ char = '.') : isScalarText (String.ofList chars) := by
  rw [isScalarText, String.toList_ofList, List.all_eq_true]
  intro char member
  rcases scalar char member with isDigit | rfl
  · simp [Char.isAlphanum, isDigit]
  · decide

theorem isScalarText_decimal (number : Nat) : isScalarText (Text.decimal number) :=
  isScalarText_ofList fun _ member =>
    .inl (Nat.isDigit_of_mem_toDigits (by decide) (by decide) member)

end Sql

namespace Decimal

theorem Scaled.isScalarText_positional (number : Scaled) : isScalarText number.positional := by
  have digits : ∀ char ∈ number.digits, char.isDigit := fun char member =>
    Nat.isDigit_of_mem_toDigits (by decide) (by decide) member
  have zeros (count : Nat) : ∀ char ∈ List.replicate count '0', char.isDigit := by
    intro char member
    rw [List.eq_of_mem_replicate member]
    decide
  unfold positional
  dsimp only
  split
  · refine isScalarText_ofList fun char member => .inl ?_
    rcases List.mem_append.mp member with inDigits | inZeros
    · exact digits char inDigits
    · exact zeros _ char inZeros
  · split
    · refine isScalarText_ofList fun char member => ?_
      rcases List.mem_append.mp member with inFront | inBack
      · exact .inl (digits char (List.mem_of_mem_take inFront))
      · rcases List.mem_cons.mp inBack with isPoint | inFraction
        · exact .inr isPoint
        · exact .inl (digits char (List.mem_of_mem_drop inFraction))
    · refine isScalarText_ofList fun char member => ?_
      rcases List.mem_append.mp member with inFront | inDigits
      · rcases List.mem_cons.mp inFront with rfl | inFront
        · exact .inl (by decide)
        · rcases List.mem_cons.mp inFront with isPoint | inZeros
          · exact .inr isPoint
          · exact .inl (zeros _ char inZeros)
      · exact .inl (digits char inDigits)

theorem isScalarText_plain (number : Float) : isScalarText (plain number) := by
  unfold plain
  split
  · decide
  · split
    · split <;> decide
    · unfold signedText
      refine isScalarText_append (by split <;> decide) ?_
      split
      · decide
      · exact Scaled.isScalarText_positional _

end Decimal

namespace Sql

theorem literal_cases (value : Value) :
    (∃ text, value.normalized = .string text ∧
        literal value = doubleQuoted (escapeLiteral false text)) ∨
      value.normalized.isString = false ∧ isScalarText (literal value) := by
  have quoted {text : String} (isText : value.normalized = .string text) :
      ∃ text, value.normalized = .string text ∧
        literal value = doubleQuoted (escapeLiteral false text) := by
    refine ⟨text, isText, ?_⟩
    rw [literal, isText]
  cases value with
  | null => exact .inr ⟨rfl, by decide⟩
  | bool flag => exact .inr ⟨rfl, by cases flag <;> decide⟩
  | int number =>
      have signed : isScalarText (Text.signedDecimal number.toInt) := by
        unfold Text.signedDecimal
        split
        · exact isScalarText_append (by decide) (isScalarText_decimal _)
        · exact isScalarText_decimal _
      exact .inr ⟨rfl, signed⟩
  | uint number => exact .inr ⟨rfl, isScalarText_decimal number.toNat⟩
  | float number => exact .inr ⟨rfl, Decimal.isScalarText_plain number⟩
  | _ => exact .inl (quoted rfl)

namespace Reader

theorem run_literal_string (done : List Lexeme) (text : String) :
    (Reader.mk done .between).run (literal (.string text)).toList =
      { done, mode := .literalClosing (escapeLiteral false text).toList } :=
  run_doubleQuoted (staysInside_escapeLiteral false text) done

theorem staysInside_affix {affix : String} (isAffix : affix = "" ∨ affix = "%") :
    StaysInside affix.toList := by
  rcases isAffix with rfl | rfl
  · intro done chars
    simp
  · intro done chars
    simp [step]

theorem run_patternLiteral (done : List Lexeme) (kind : TextMatch) (text : String) :
    ∃ chars, (Reader.mk done .between).run (kind.patternLiteral text).toList =
      { done, mode := .literalClosing chars } := by
  have before : kind.before = "" ∨ kind.before = "%" := by cases kind <;> simp [TextMatch.before]
  have after : kind.after = "" ∨ kind.after = "%" := by cases kind <;> simp [TextMatch.after]
  refine ⟨_, run_doubleQuoted ?_ done⟩
  rw [String.toList_append, String.toList_append]
  exact ((staysInside_affix before).append (staysInside_escapeLiteral kind.isLiteral text)).append
    (staysInside_affix after)

end Reader

namespace Fragment

def blanked : Fragment → Fragment
  | .operand value => .operand value.blanked
  | .pattern kind _ => .pattern kind ""
  | fragment => fragment

variable {dialect : Dialect} {reader : Reader} {fragment : Fragment}

def Follows (reader : Reader) (fragment : Fragment) : Prop :=
  reader.mode = .between ∨ reader.isSettled ∧ fragment.opens

theorem Follows.settled (follows : fragment.Follows reader) : reader.isSettled := by
  rcases follows with between | ⟨settled, _⟩
  · rw [Reader.isSettled, between]
  · exact settled

theorem Follows.eq_between (follows : fragment.Follows reader) (notOpens : fragment.opens = false) :
    reader = { done := reader.done, mode := .between } := by
  rcases follows with between | ⟨_, opens⟩
  · rw [← between]
  · rw [notOpens] at opens
    cases opens

theorem text_cons (inline : dialect.parameterized = false) (fragment : Fragment)
    (rest : List Fragment) :
    text dialect (fragment :: rest) = (fragment.emit dialect {}).1 ++ text dialect rest := by
  rw [text, emitAll_cons, emit_of_inline inline, text]

theorem isSettled_run_emit (inline : dialect.parameterized = false)
    (backtick : dialect.quote = '`') (follows : fragment.Follows reader)
    (clean : ∀ quote, fragment.Clean quote) :
    (reader.run (fragment.emit dialect {}).1.toList).isSettled := by
  have quotesClosed {text : String} (plain : isPlainText text) :
      (reader.run text.toList).isSettled :=
    Reader.isSettled_run follows.settled (Reader.quotes_notMem_of_isPlainText plain).1
      (Reader.quotes_notMem_of_isPlainText plain).2
  cases fragment with
  | fixed text => exact quotesClosed (clean '`')
  | quoted name =>
      rw [follows.eq_between rfl, emit, backtick, Reader.run_identifier]
      rfl
  | verbatim text => exact Reader.isSettled_run follows.settled (clean '"').2 (clean '`').2
  | operand value =>
      rw [emit, inline, if_neg Bool.false_ne_true]
      rcases literal_cases value with ⟨text, _, isQuoted⟩ | ⟨_, scalar⟩
      · rw [isQuoted, follows.eq_between rfl,
          Reader.run_doubleQuoted (Reader.staysInside_escapeLiteral false text)]
        rfl
      · exact quotesClosed (isPlainText_of_isScalarText scalar)
  | pattern kind text =>
      obtain ⟨chars, closed⟩ := Reader.run_patternLiteral reader.done kind text
      rw [emit, inline, if_neg Bool.false_ne_true, follows.eq_between rfl, closed]
      rfl
  | parentKey =>
      have plain : isPlainText parentKeyMarker := by decide
      exact quotesClosed plain

theorem follows_run_emit (inline : dialect.parameterized = false)
    (backtick : dialect.quote = '`') (follows : fragment.Follows reader)
    (clean : ∀ quote, fragment.Clean quote) {next : Fragment} (apart : Apart fragment next) :
    next.Follows (reader.run (fragment.emit dialect {}).1.toList) := by
  rcases apart with closes | opens
  · cases fragment with
    | fixed text =>
        exact .inl (Reader.between_run_of_closesApart follows.settled (clean '`') closes)
    | quoted name => cases closes
    | verbatim text => cases closes
    | operand value => cases closes
    | pattern kind text => cases closes
    | parentKey => cases closes
  · exact .inr ⟨isSettled_run_emit inline backtick follows clean, opens⟩

theorem marked_run_emit (inline : dialect.parameterized = false)
    (follows : fragment.Follows reader) :
    (reader.run (fragment.emit dialect {}).1.toList).marked =
      (reader.run (fragment.blanked.emit dialect {}).1.toList).marked := by
  cases fragment with
  | fixed text => rfl
  | quoted name => rfl
  | verbatim text => rfl
  | operand value =>
      cases value with
      | string text =>
          rw [follows.eq_between rfl, blanked, Value.blanked, emit, emit, inline,
            if_neg Bool.false_ne_true, if_neg Bool.false_ne_true, Reader.run_literal_string,
            Reader.run_literal_string, Reader.marked_literalClosing, Reader.marked_literalClosing]
      | _ => simp only [blanked, Value.blanked]
  | pattern kind text =>
      obtain ⟨chars, closed⟩ := Reader.run_patternLiteral reader.done kind text
      obtain ⟨chars', closed'⟩ := Reader.run_patternLiteral reader.done kind ""
      rw [follows.eq_between rfl, blanked, emit, emit, inline, if_neg Bool.false_ne_true,
        if_neg Bool.false_ne_true, closed, closed', Reader.marked_literalClosing,
        Reader.marked_literalClosing]
  | parentKey => rfl

theorem marked_run_text (inline : dialect.parameterized = false) (backtick : dialect.quote = '`')
    {fragments : List Fragment} (tidy : ∀ quote, Tidy quote fragments)
    (settled : reader.isSettled) (follows : ∀ first ∈ fragments.head?, first.Follows reader) :
    (reader.run (text dialect fragments).toList).isSettled ∧
      (reader.run (text dialect fragments).toList).marked =
        (reader.run (text dialect (fragments.map blanked)).toList).marked := by
  -- A text may leave the reader in different literals; that it can go on with the next fragment is
  -- what makes the rest read alike.
  induction fragments generalizing reader with
  | nil => exact ⟨settled, rfl⟩
  | cons fragment rest ih =>
      have first : fragment.Follows reader := follows fragment rfl
      have clean (quote : Char) := (tidy quote).clean fragment List.mem_cons_self
      have spaced := List.isChain_cons.mp (tidy '`').spaced
      have restTidy (quote : Char) : Tidy quote rest :=
        ⟨spaced.2, fun other member => (tidy quote).clean other (List.mem_cons_of_mem _ member)⟩
      obtain ⟨restSettled, sameRest⟩ := ih restTidy (isSettled_run_emit inline backtick first clean)
        fun next isNext => follows_run_emit inline backtick first clean (spaced.1 next isNext)
      rw [List.map_cons, text_cons inline, text_cons inline, String.toList_append,
        String.toList_append, Reader.run_append, Reader.run_append]
      exact ⟨restSettled,
        sameRest.trans (Reader.marked_run_congr (marked_run_emit inline first) _)⟩

/-- Tidy fragments that differ in their texts only are written with the same lexemes around the
literals. -/
theorem ofText?_text_congr (inline : dialect.parameterized = false) (backtick : dialect.quote = '`')
    {fragments fragments' : List Fragment} (tidy : ∀ quote, Tidy quote fragments)
    (tidy' : ∀ quote, Tidy quote fragments')
    (same : fragments.map blanked = fragments'.map blanked) :
    ∃ lexemes lexemes', Lexeme.ofText? (text dialect fragments) = some lexemes ∧
      Lexeme.ofText? (text dialect fragments') = some lexemes' ∧
      lexemes.map Lexeme.marked = lexemes'.map Lexeme.marked := by
  have starts (fragments : List Fragment) : ∀ first ∈ fragments.head?, first.Follows {} :=
    fun _ _ => .inl rfl
  obtain ⟨settled, left⟩ := marked_run_text inline backtick tidy rfl (starts fragments)
  obtain ⟨_, right⟩ := marked_run_text inline backtick tidy' rfl (starts fragments')
  exact Lexeme.ofText?_congr settled (left.trans (same ▸ right.symm))

end Fragment

end Sql

end QuerySql

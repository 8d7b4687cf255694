import QuerySql.Proofs.Sql.PatternLiteral
import QuerySql.Proofs.Sql.Token

/-!
Lexemes of SQL text that has literals in it.  A name stands between backticks, where a doubled one
stands for itself, and a literal between double quotes, where a quote is doubled or has a backslash
before it, as any other character may have.
-/

namespace QuerySql.Sql

inductive Lexeme where
  | name (text : String)
  | literal (text : String)
  | word (text : String)
  deriving DecidableEq

inductive ReaderMode where
  | between
  | word (isWord : Bool) (chars : List Char)
  | name (chars : List Char)
  /-- Behind a backtick inside a name, which closes it unless another one follows. -/
  | nameClosing (chars : List Char)
  | literal (chars : List Char)
  | escape (chars : List Char)
  | literalClosing (chars : List Char)
  deriving DecidableEq

structure Reader where
  done : List Lexeme := []
  mode : ReaderMode := .between
  deriving DecidableEq

namespace Reader

def read (reader : Reader) : List Lexeme :=
  match reader.mode with
  | .word _ chars => reader.done ++ [.word (String.ofList chars)]
  | .nameClosing chars => reader.done ++ [.name (String.ofList chars)]
  | .literalClosing chars => reader.done ++ [.literal (String.ofList chars)]
  | .between | .name _ | .literal _ | .escape _ => reader.done

def begin (done : List Lexeme) (char : Char) : Reader :=
  if char = '`' then { done, mode := .name [] }
  else if char = '"' then { done, mode := .literal [] }
  else if char = ' ' then { done }
  else if isBreak char then { done := done ++ [.word (String.singleton char)] }
  else { done, mode := .word (isWordChar char) [char] }

def continues (isWord : Bool) (char : Char) : Bool :=
  !isBreak char && char ≠ '`' && char ≠ '"' && isWordChar char == isWord

def step (reader : Reader) (char : Char) : Reader :=
  match reader.mode with
  | .between => begin reader.done char
  | .word isWord chars =>
      if continues isWord char then { reader with mode := .word isWord (chars ++ [char]) }
      else begin reader.read char
  | .name chars =>
      if char = '`' then { reader with mode := .nameClosing chars }
      else { reader with mode := .name (chars ++ [char]) }
  | .nameClosing chars =>
      if char = '`' then { reader with mode := .name (chars ++ ['`']) }
      else begin reader.read char
  | .literal chars =>
      if char = '\\' then { reader with mode := .escape chars }
      else if char = '"' then { reader with mode := .literalClosing chars }
      else { reader with mode := .literal (chars ++ [char]) }
  | .escape chars => { reader with mode := .literal (chars ++ ['\\', char]) }
  | .literalClosing chars =>
      if char = '"' then { reader with mode := .literal (chars ++ ['"', '"']) }
      else begin reader.read char

def run (reader : Reader) (text : List Char) : Reader :=
  text.foldl step reader

def isSettled (reader : Reader) : Bool :=
  match reader.mode with
  | .name _ | .literal _ | .escape _ => false
  | .between | .word _ _ | .nameClosing _ | .literalClosing _ => true

end Reader

namespace Lexeme

/-- The lexemes of a text, unless it ends inside of quotes. -/
def ofText? (text : String) : Option (List Lexeme) :=
  let reader := Reader.run {} text.toList
  if reader.isSettled then some reader.read else none

def marked : Lexeme → Lexeme
  | .literal _ => .literal ""
  | lexeme => lexeme

def isLiteral : Lexeme → Bool
  | .literal _ => true
  | _ => false

example : ofText? "`a``\"b`<=\"x\\\"\"\"y\" AND(c)" =
    some [.name "a`\"b", .word "<=", .literal "x\\\"\"\"y", .word "AND", .word "(", .word "c",
      .word ")"] := by
  decide

theorem isLiteral_marked (lexeme : Lexeme) : lexeme.marked.isLiteral = lexeme.isLiteral := by
  cases lexeme <;> rfl

theorem countP_isLiteral_congr {lexemes lexemes' : List Lexeme}
    (same : lexemes.map marked = lexemes'.map marked) :
    lexemes.countP isLiteral = lexemes'.countP isLiteral := by
  have unmarked : isLiteral ∘ marked = isLiteral := funext isLiteral_marked
  rw [← unmarked, ← List.countP_map, same, List.countP_map]

@[simp] theorem marked_marked (lexeme : Lexeme) : lexeme.marked.marked = lexeme.marked := by
  cases lexeme <;> rfl

end Lexeme

namespace ReaderMode

def marked : ReaderMode → ReaderMode
  | .literal _ => .literal []
  | .escape _ => .escape []
  | .literalClosing _ => .literalClosing []
  | mode => mode

end ReaderMode

namespace Reader

variable {reader reader' : Reader} {char : Char}

def marked (reader : Reader) : Reader :=
  { done := reader.done.map Lexeme.marked, mode := reader.mode.marked }

theorem marked_literalClosing (done : List Lexeme) (chars : List Char) :
    marked { done, mode := .literalClosing chars } =
      { done := done.map Lexeme.marked, mode := .literalClosing [] } := rfl

theorem read_marked (reader : Reader) : reader.marked.read = reader.read.map Lexeme.marked := by
  obtain ⟨done, mode⟩ := reader
  cases mode <;> simp [marked, ReaderMode.marked, read, Lexeme.marked]

theorem isSettled_marked (reader : Reader) : reader.marked.isSettled = reader.isSettled := by
  obtain ⟨done, mode⟩ := reader
  cases mode <;> rfl

theorem begin_marked (done : List Lexeme) (char : Char) :
    begin (done.map Lexeme.marked) char = (begin done char).marked := by
  unfold begin
  repeat' split
  all_goals simp [marked, ReaderMode.marked, Lexeme.marked]

theorem marked_marked (reader : Reader) : reader.marked.marked = reader.marked := by
  obtain ⟨done, mode⟩ := reader
  cases mode <;> simp [marked, ReaderMode.marked]

theorem step_marked (reader : Reader) (char : Char) :
    (reader.marked.step char).marked = (reader.step char).marked := by
  have begun : (begin reader.marked.read char).marked = (begin reader.read char).marked := by
    rw [read_marked, begin_marked, marked_marked]
  obtain ⟨done, mode⟩ := reader
  cases mode with
  | between => exact begun
  | word isWord chars =>
      by_cases goesOn : continues isWord char
      · simp [step, marked, ReaderMode.marked, goesOn]
      · simpa [step, marked, ReaderMode.marked, goesOn] using begun
  | name chars =>
      by_cases isQuote : char = '`' <;> simp [step, marked, ReaderMode.marked, isQuote]
  | nameClosing chars =>
      by_cases isQuote : char = '`'
      · simp [step, marked, ReaderMode.marked, isQuote]
      · simpa [step, marked, ReaderMode.marked, isQuote] using begun
  | literal chars =>
      by_cases isBackslash : char = '\\'
      · simp [step, marked, ReaderMode.marked, isBackslash]
      · by_cases isQuote : char = '"' <;>
          simp [step, marked, ReaderMode.marked, isBackslash, isQuote]
  | escape chars => simp [step, marked, ReaderMode.marked]
  | literalClosing chars =>
      by_cases isQuote : char = '"'
      · simp [step, marked, ReaderMode.marked, isQuote]
      · simpa [step, marked, ReaderMode.marked, isQuote] using begun

theorem marked_run_congr (same : reader.marked = reader'.marked) (text : List Char) :
    (reader.run text).marked = (reader'.run text).marked := by
  induction text generalizing reader reader' with
  | nil => exact same
  | cons char rest ih =>
      refine ih ?_
      rw [← step_marked reader, same, step_marked]

theorem run_append (reader : Reader) (front back : List Char) :
    reader.run (front ++ back) = (reader.run front).run back :=
  List.foldl_append

@[simp] theorem run_cons (reader : Reader) (char : Char) (rest : List Char) :
    reader.run (char :: rest) = (reader.step char).run rest := rfl

@[simp] theorem run_nil (reader : Reader) : reader.run [] = reader := rfl

end Reader

theorem Lexeme.ofText?_congr {text text' : String}
    (settled : (Reader.run {} text.toList).isSettled)
    (same : (Reader.run {} text.toList).marked = (Reader.run {} text'.toList).marked) :
    ∃ lexemes lexemes', ofText? text = some lexemes ∧ ofText? text' = some lexemes' ∧
      lexemes.map marked = lexemes'.map marked := by
  have settled' : (Reader.run {} text'.toList).isSettled := by
    rw [← Reader.isSettled_marked, ← same, Reader.isSettled_marked, settled]
  refine ⟨_, _, if_pos settled, if_pos settled', ?_⟩
  rw [← Reader.read_marked, same, Reader.read_marked]

namespace Reader

variable {reader : Reader} {char : Char}

theorem step_of_isBreak (settled : reader.isSettled) (isBreakChar : isBreak char) :
    (reader.step char).mode = .between := by
  have notQuote : char ≠ '"' := by rintro rfl; exact absurd isBreakChar (by decide)
  have notBacktick : char ≠ '`' := by rintro rfl; exact absurd isBreakChar (by decide)
  have begun (done : List Lexeme) : (begin done char).mode = .between := by
    unfold begin
    rw [if_neg notBacktick, if_neg notQuote, if_pos isBreakChar]
    split <;> rfl
  obtain ⟨done, mode⟩ := reader
  cases mode with
  | between => exact begun done
  | word isWord chars => simp [step, continues, isBreakChar, begun]
  | nameClosing chars => simp [step, notBacktick, begun]
  | literalClosing chars => simp [step, notQuote, begun]
  | name chars => cases settled
  | literal chars => cases settled
  | escape chars => cases settled

theorem isSettled_step (settled : reader.isSettled) (notQuote : char ≠ '"')
    (notBacktick : char ≠ '`') : (reader.step char).isSettled := by
  have begun (done : List Lexeme) : (begin done char).isSettled := by
    unfold begin
    rw [if_neg notBacktick, if_neg notQuote]
    split
    · rfl
    · split <;> rfl
  obtain ⟨done, mode⟩ := reader
  cases mode with
  | between => exact begun done
  | word isWord chars =>
      by_cases goesOn : continues isWord char
      · simp [step, goesOn, isSettled]
      · simp [step, goesOn, begun]
  | nameClosing chars => simp [step, notBacktick, begun]
  | literalClosing chars => simp [step, notQuote, begun]
  | name chars => cases settled
  | literal chars => cases settled
  | escape chars => cases settled

theorem isSettled_run {text : List Char} (settled : reader.isSettled) (noQuote : '"' ∉ text)
    (noBacktick : '`' ∉ text) : (reader.run text).isSettled := by
  induction text generalizing reader with
  | nil => exact settled
  | cons char rest ih =>
      rw [List.mem_cons, not_or] at noQuote noBacktick
      exact ih (isSettled_step settled (Ne.symm noQuote.1) (Ne.symm noBacktick.1)) noQuote.2
        noBacktick.2

theorem quotes_notMem_of_isPlainText {text : String} (plain : isPlainText text) :
    '"' ∉ text.toList ∧ '`' ∉ text.toList := by
  have notPlain (quote : Char) (isQuote : isPlain quote = false) : quote ∉ text.toList := by
    intro member
    rw [List.all_eq_true.mp plain quote member] at isQuote
    cases isQuote
  exact ⟨notPlain '"' (by decide), notPlain '`' (by decide)⟩

theorem between_run_of_closesApart {text : String} (settled : reader.isSettled)
    (plain : isPlainText text) (closes : closesApart text) :
    (reader.run text.toList).mode = .between := by
  rw [closesApart, Option.any_eq_true] at closes
  obtain ⟨last, isLast, isBreakChar⟩ := closes
  obtain ⟨front, chars⟩ := List.getLast?_eq_some_iff.mp isLast
  obtain ⟨noQuote, noBacktick⟩ := quotes_notMem_of_isPlainText plain
  have frontSettled : (reader.run front).isSettled :=
    isSettled_run settled (fun member => noQuote (by simp [chars, member])) fun member =>
      noBacktick (by simp [chars, member])
  rw [chars, run_append, run_cons, run_nil]
  exact step_of_isBreak frontSettled isBreakChar

theorem run_doubleQuotes (done : List Lexeme) (chars name : List Char) :
    (Reader.mk done (.name chars)).run (doubleQuotes '`' name) =
      { done, mode := .name (chars ++ name) } := by
  induction name generalizing chars with
  | nil => simp [doubleQuotes]
  | cons char rest ih =>
      by_cases isQuote : char = '`' <;> simp [doubleQuotes, isQuote, step, ih]

theorem run_identifier (done : List Lexeme) (name : String) :
    (Reader.mk done .between).run (identifier '`' name).toList =
      { done, mode := .nameClosing name.toList } := by
  have opened : (Reader.mk done .between).step '`' = { done, mode := .name [] } := by
    simp [step, begin]
  rw [identifier, String.toList_ofList, identifierChars, List.cons_append, run_cons, opened,
    run_append, run_doubleQuotes]
  simp [step]

def StaysInside (text : List Char) : Prop :=
  ∀ done chars, (Reader.mk done (.literal chars)).run text =
    { done, mode := .literal (chars ++ text) }

theorem StaysInside.append {front back : List Char} (frontInside : StaysInside front)
    (backInside : StaysInside back) : StaysInside (front ++ back) := by
  intro done chars
  rw [run_append, frontInside, backInside, List.append_assoc]

theorem staysInside_escapeLiteralChar (inPattern : Bool) (char : Char) :
    StaysInside (escapeLiteralChar inPattern char) := by
  intro done chars
  rcases escapeLiteralChar_cases inPattern char with
    ⟨letter, isEscaped, _⟩ | ⟨isSelf, _, notQuote, notBackslash⟩
  · rw [isEscaped]
    simp [step]
  · rw [isSelf]
    simp [step, notQuote, notBackslash]

theorem staysInside_escapeLiteral (inPattern : Bool) (text : String) :
    StaysInside (escapeLiteral inPattern text).toList := by
  rw [escapeLiteral, String.toList_ofList]
  induction text.toList with
  | nil =>
      intro done chars
      simp
  | cons char rest ih =>
      rw [List.flatMap_cons]
      exact (staysInside_escapeLiteralChar inPattern char).append ih

theorem run_doubleQuoted {text : String} (inside : StaysInside text.toList) (done : List Lexeme) :
    (Reader.mk done .between).run (doubleQuoted text).toList =
      { done, mode := .literalClosing text.toList } := by
  have opened : (Reader.mk done .between).step '"' = { done, mode := .literal [] } := by
    simp [step, begin]
  have chars : (doubleQuoted text).toList = '"' :: (text.toList ++ ['"']) := by
    simp [doubleQuoted]
  rw [chars, run_cons, opened, run_append, inside]
  simp [step]

end Reader

end QuerySql.Sql

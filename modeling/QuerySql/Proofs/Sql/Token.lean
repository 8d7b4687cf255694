import QuerySql.Proofs.Sql.Spacing

/-!
Tokens of conditions.  The lexer reads a text from left to right; a quoted identifier is one token,
in which a doubled quote stands for one.  Spaced fragments are emitted as text that the lexer reads
as the tokens of each fragment, one after another.
-/

namespace QuerySql.Sql

inductive Token where
  | name (text : String)
  | placeholder (number : Nat)
  | relation (relation : Relation)
  | parentKey
  | and
  | or
  | not
  | is
  | null
  | in
  | like
  | ilike
  | lower
  | zero
  | one
  | left
  | right
  | comma
  | dot
  | other (text : String)
  deriving DecidableEq

namespace Token

def spellings : List (String × Token) :=
  [("AND", .and), ("OR", .or), ("NOT", .not), ("IS", .is), ("NULL", .null), ("IN", .in),
    ("LIKE", .like), ("ILIKE", .ilike), ("LOWER", .lower), ("0", .zero), ("1", .one),
    ("=", .relation .equal), ("<>", .relation .notEqual), ("<", .relation (.order .less)),
    ("<=", .relation (.order .atMost)), (">", .relation (.order .greater)),
    (">=", .relation (.order .atLeast)), (parentKeyMarker, .parentKey)]

def ofSpelling : List Char → Token
  | '$' :: digit :: digits =>
      if (digit :: digits).all Char.isDigit then
        .placeholder (Nat.ofDigitChars 10 (digit :: digits) 0)
      else .other (String.ofList ('$' :: digit :: digits))
  | chars => (spellings.lookup (String.ofList chars)).getD (.other (String.ofList chars))

def ofBreak (char : Char) : List Token :=
  if char = '(' then [.left]
  else if char = ')' then [.right]
  else if char = ',' then [.comma]
  else if char = '.' then [.dot]
  else []

end Token

def isWordChar (char : Char) : Bool :=
  char.isAlphanum || char = '$' || char = '_'

def isSymbolChar (char : Char) : Bool :=
  !isWordChar char && !isBreak char && char ≠ '"'

inductive LexerMode where
  | between
  | word (chars : List Char)
  | symbol (chars : List Char)
  | inside (chars : List Char)
  | closing (chars : List Char)
  deriving DecidableEq

structure Lexer where
  tokens : List Token := []
  mode : LexerMode := .between
  deriving DecidableEq

namespace Lexer

def read (lexer : Lexer) : List Token :=
  match lexer.mode with
  | .word chars | .symbol chars => lexer.tokens ++ [Token.ofSpelling chars]
  | .closing chars => lexer.tokens ++ [.name (String.ofList chars)]
  | .between | .inside _ => lexer.tokens

def begin (tokens : List Token) (char : Char) : Lexer :=
  if char = '"' then { tokens, mode := .inside [] }
  else if isBreak char then { tokens := tokens ++ Token.ofBreak char }
  else if isWordChar char then { tokens, mode := .word [char] }
  else { tokens, mode := .symbol [char] }

def step (lexer : Lexer) (char : Char) : Lexer :=
  match lexer.mode with
  | .between => begin lexer.tokens char
  | .word chars =>
      if isWordChar char then { lexer with mode := .word (chars ++ [char]) }
      else begin lexer.read char
  | .symbol chars =>
      if isSymbolChar char then { lexer with mode := .symbol (chars ++ [char]) }
      else begin lexer.read char
  | .inside chars =>
      if char = '"' then { lexer with mode := .closing chars }
      else { lexer with mode := .inside (chars ++ [char]) }
  | .closing chars =>
      if char = '"' then { lexer with mode := .inside (chars ++ ['"']) }
      else begin lexer.read char

def run (lexer : Lexer) (text : List Char) : Lexer :=
  text.foldl step lexer

def isSettled (lexer : Lexer) : Bool :=
  match lexer.mode with
  | .inside _ => false
  | _ => true

end Lexer

namespace Token

/-- The tokens of a text, unless it ends inside an identifier. -/
def ofText? (text : String) : Option (List Token) :=
  let lexer := Lexer.run {} text.toList
  if lexer.isSettled then some lexer.read else none

def ofText (text : String) : List Token :=
  (Lexer.run {} text.toList).read

end Token

namespace Token

@[simp] theorem ofText_left : ofText "(" = [.left] := by decide

@[simp] theorem ofText_right : ofText ")" = [.right] := by decide

@[simp] theorem ofText_comma : ofText "," = [.comma] := by decide

@[simp] theorem ofText_dot : ofText "." = [.dot] := by decide

@[simp] theorem ofText_and : ofText " AND " = [.and] := by decide

@[simp] theorem ofText_or : ofText " OR " = [.or] := by decide

@[simp] theorem ofText_lower : ofText "LOWER(" = [.lower, .left] := by decide

@[simp] theorem ofText_isNull : ofText " IS NULL" = [.is, .null] := by decide

@[simp] theorem ofText_isNotNull : ofText " IS NOT NULL" = [.is, .not, .null] := by decide

@[simp] theorem ofText_in : ofText " IN (" = [.in, .left] := by decide

@[simp] theorem ofText_notIn : ofText " NOT IN (" = [.not, .in, .left] := by decide

@[simp] theorem ofText_constant (holds : Bool) :
    ofText (if holds then "1=1" else "1=0") =
      [.one, .relation .equal, if holds then .one else .zero] := by
  cases holds <;> decide

@[simp] theorem ofText_relation (relation : Relation) :
    ofText (" " ++ relation.sql ++ " ") = [.relation relation] := by
  cases relation with
  | equal => decide
  | notEqual => decide
  | order comparison => cases comparison <;> decide

@[simp] theorem ofText_patternComparator (folded foldsCase : Bool) :
    ofText (" " ++ patternComparator folded foldsCase ++ " ") =
      [if !folded && foldsCase then .ilike else .like] := by
  cases folded <;> cases foldsCase <;> decide

end Token

namespace Lexer

variable {lexer : Lexer} {char : Char}

@[simp] theorem run_nil (lexer : Lexer) : lexer.run [] = lexer := rfl

@[simp] theorem run_cons (lexer : Lexer) (char : Char) (rest : List Char) :
    lexer.run (char :: rest) = (lexer.step char).run rest := rfl

theorem run_append (lexer : Lexer) (front back : List Char) :
    lexer.run (front ++ back) = (lexer.run front).run back :=
  List.foldl_append

theorem step_of_isBreak (settled : lexer.isSettled) (isBreakChar : isBreak char) :
    lexer.step char = { tokens := lexer.read ++ Token.ofBreak char } := by
  have notQuote : char ≠ '"' := by rintro rfl; exact absurd isBreakChar (by decide)
  have notWord : isWordChar char = false := by
    simp only [isBreak, Bool.or_eq_true, decide_eq_true_eq] at isBreakChar
    rcases isBreakChar with (((rfl | rfl) | rfl) | rfl) | rfl <;> decide
  have begun (tokens : List Token) :
      begin tokens char = { tokens := tokens ++ Token.ofBreak char } := by
    simp [begin, notQuote, isBreakChar]
  cases mode : lexer.mode with
  | between => simp [step, mode, read, begun]
  | word chars => simp [step, mode, notWord, begun]
  | symbol chars => simp [step, mode, isSymbolChar, isBreakChar, begun]
  | inside chars => simp [isSettled, mode] at settled
  | closing chars => simp [step, mode, notQuote, begun]

theorem begin_prepend (earlier tokens : List Token) (char : Char) :
    begin (earlier ++ tokens) char =
      { begin tokens char with tokens := earlier ++ (begin tokens char).tokens } := by
  unfold begin
  split
  · rfl
  · split
    · simp
    · split <;> rfl

theorem read_prepend (earlier tokens : List Token) (mode : LexerMode) :
    (Lexer.mk (earlier ++ tokens) mode).read = earlier ++ (Lexer.mk tokens mode).read := by
  cases mode <;> simp [read]

theorem step_prepend (earlier tokens : List Token) (mode : LexerMode) (char : Char) :
    (Lexer.mk (earlier ++ tokens) mode).step char =
      { (Lexer.mk tokens mode).step char with
        tokens := earlier ++ ((Lexer.mk tokens mode).step char).tokens } := by
  cases mode with
  | between => exact begin_prepend earlier tokens char
  | word chars =>
      by_cases isWord : isWordChar char
      · simp [step, isWord]
      · simpa [step, isWord, read_prepend] using begin_prepend earlier _ char
  | symbol chars =>
      by_cases isSymbol : isSymbolChar char
      · simp [step, isSymbol]
      · simpa [step, isSymbol, read_prepend] using begin_prepend earlier _ char
  | inside chars => by_cases isQuote : char = '"' <;> simp [step, isQuote]
  | closing chars =>
      by_cases isQuote : char = '"'
      · simp [step, isQuote]
      · simpa [step, isQuote, read_prepend] using begin_prepend earlier _ char

theorem run_prepend (earlier tokens : List Token) (mode : LexerMode) (text : List Char) :
    (Lexer.mk (earlier ++ tokens) mode).run text =
      { (Lexer.mk tokens mode).run text with
        tokens := earlier ++ ((Lexer.mk tokens mode).run text).tokens } := by
  induction text generalizing tokens mode with
  | nil => rfl
  | cons char rest ih =>
      rw [run_cons, step_prepend]
      exact ih _ _

theorem run_doubleQuotes (tokens : List Token) (chars name : List Char) :
    (Lexer.mk tokens (.inside chars)).run (doubleQuotes '"' name) =
      { tokens, mode := .inside (chars ++ name) } := by
  induction name generalizing chars with
  | nil => simp [doubleQuotes]
  | cons char rest ih =>
      by_cases isQuote : char = '"'
      · simp [doubleQuotes, isQuote, step, ih]
      · simp [doubleQuotes, isQuote, step, ih]

theorem run_identifier (tokens : List Token) (name : String) :
    (Lexer.mk tokens .between).run (identifier '"' name).toList =
      { tokens, mode := .closing name.toList } := by
  have opened : (Lexer.mk tokens .between).step '"' = { tokens, mode := .inside [] } := by
    simp [step, begin]
  rw [identifier, String.toList_ofList, identifierChars, List.cons_append, run_cons, opened,
    run_append, run_doubleQuotes]
  simp [step]

theorem run_word (tokens : List Token) (chars more : List Char)
    (areWordChars : ∀ char ∈ more, isWordChar char) :
    (Lexer.mk tokens (.word chars)).run more = { tokens, mode := .word (chars ++ more) } := by
  induction more generalizing chars with
  | nil => simp
  | cons char rest ih =>
      have isWord := areWordChars char List.mem_cons_self
      have next : (Lexer.mk tokens (.word chars)).step char =
          { tokens, mode := .word (chars ++ [char]) } := by
        simp [step, isWord]
      rw [run_cons, next, ih _ fun other member =>
        areWordChars other (List.mem_cons_of_mem char member)]
      simp

theorem ofSpelling_placeholder (number : Nat) :
    Token.ofSpelling ('$' :: (Text.decimal number).toList) = .placeholder number := by
  have areDigits : (Text.decimal number).toList.all Char.isDigit :=
    List.all_eq_true.mpr fun _ => isDigit_of_mem_decimal
  have reads : Nat.ofDigitChars 10 (Text.decimal number).toList 0 = number := by
    rw [Text.decimal, String.toList_ofList]
    exact Nat.ofDigitChars_toDigits (by decide) (by decide)
  cases digits : (Text.decimal number).toList with
  | nil =>
      have notNil : Nat.toDigits 10 number ≠ [] := Nat.toDigits_ne_nil
      rw [Text.decimal, String.toList_ofList] at digits
      exact absurd digits notNil
  | cons digit rest =>
      rw [digits] at areDigits reads
      rw [Token.ofSpelling, if_pos areDigits, reads]

theorem run_placeholder (tokens : List Token) (number : Nat) :
    (Lexer.mk tokens .between).run (Bindings.placeholder number).toList =
      { tokens, mode := .word ('$' :: (Text.decimal number).toList) } := by
  have opened : (Lexer.mk tokens .between).step '$' = { tokens, mode := .word ['$'] } := by
    simp [step, begin, isBreak, isWordChar]
  have chars : (Bindings.placeholder number).toList = '$' :: (Text.decimal number).toList := by
    rw [Bindings.placeholder, String.toList_append]
    rfl
  have areWordChars : ∀ char ∈ (Text.decimal number).toList, isWordChar char := by
    intro char member
    simp [isWordChar, Char.isAlphanum, isDigit_of_mem_decimal member]
  rw [chars, run_cons, opened, run_word tokens _ _ areWordChars]
  rfl

theorem isSettled_begin {tokens : List Token} (notQuote : char ≠ '"') :
    (begin tokens char).isSettled := by
  simp only [begin, notQuote, if_false]
  split
  · rfl
  · split <;> rfl

theorem isSettled_step (settled : lexer.isSettled) (notQuote : char ≠ '"') :
    (lexer.step char).isSettled := by
  unfold step
  split
  · exact isSettled_begin notQuote
  · split
    · rfl
    · exact isSettled_begin notQuote
  · split
    · rfl
    · exact isSettled_begin notQuote
  · rename_i mode
    simp [isSettled, mode] at settled
  · simpa [notQuote] using isSettled_begin notQuote

theorem isSettled_run {text : List Char} (settled : lexer.isSettled) (noQuote : '"' ∉ text) :
    (lexer.run text).isSettled := by
  induction text generalizing lexer with
  | nil => exact settled
  | cons char rest ih =>
      rw [List.mem_cons, not_or] at noQuote
      exact ih (isSettled_step settled (Ne.symm noQuote.1)) noQuote.2

theorem between_of_closesApart {text : String} (settled : lexer.isSettled)
    (noQuote : '"' ∉ text.toList) (closes : closesApart text) :
    (lexer.run text.toList).mode = .between := by
  rw [closesApart, Option.any_eq_true] at closes
  obtain ⟨last, isLast, isBreakChar⟩ := closes
  obtain ⟨front, chars⟩ := List.getLast?_eq_some_iff.mp isLast
  have frontSettled : (lexer.run front).isSettled :=
    isSettled_run settled fun member => noQuote (by simp [chars, member])
  rw [chars, run_append, run_cons, step_of_isBreak frontSettled isBreakChar]
  rfl

theorem read_run_between (tokens : List Token) (text : String) :
    ((Lexer.mk tokens .between).run text.toList).read = tokens ++ Token.ofText text := by
  have prepended := run_prepend tokens [] .between text.toList
  rw [List.append_nil] at prepended
  rw [prepended, read_prepend]
  rfl

theorem read_run_of_opensApart {text : String} (settled : lexer.isSettled)
    (opens : opensApart text) :
    (lexer.run text.toList).read = lexer.read ++ Token.ofText text := by
  rw [← read_run_between]
  cases chars : text.toList with
  | nil => simp [opensApart, chars] at opens
  | cons char rest =>
      have isBreakChar : isBreak char := by simpa [opensApart, chars] using opens
      rw [run_cons, run_cons, step_of_isBreak settled isBreakChar,
        step_of_isBreak (show (Lexer.mk lexer.read .between).isSettled from rfl) isBreakChar]
      rfl

end Lexer

namespace Fragment

/-- The tokens of fragments whose placeholders are numbered from the given number on. -/
def tokens (next : Nat) : List Fragment → List Token
  | [] => []
  | .fixed text :: rest | .verbatim text :: rest => Token.ofText text ++ tokens next rest
  | .quoted name :: rest => .name name :: tokens next rest
  | .operand _ :: rest | .pattern _ _ :: rest => .placeholder next :: tokens (next + 1) rest
  | .parentKey :: rest => .parentKey :: tokens next rest

def bound : List Fragment → List Value
  | [] => []
  | .operand value :: rest => value.normalized :: bound rest
  | .pattern kind text :: rest => .string (kind.pattern text) :: bound rest
  | .fixed _ :: rest | .quoted _ :: rest | .verbatim _ :: rest | .parentKey :: rest => bound rest

theorem bound_append (front back : List Fragment) :
    bound (front ++ back) = bound front ++ bound back := by
  induction front with
  | nil => rfl
  | cons fragment rest ih => cases fragment <;> simp [bound, ih]

theorem tokens_append (next : Nat) (front back : List Fragment) :
    tokens next (front ++ back) =
      tokens next front ++ tokens (next + (bound front).length) back := by
  induction front generalizing next with
  | nil => rfl
  | cons fragment rest ih =>
      cases fragment <;> simp [tokens, bound, ih, Nat.add_assoc, Nat.add_comm 1]

variable {dialect : Dialect}

theorem emitAll_bound (parameterized : dialect.parameterized) (bindings : Bindings)
    (fragments : List Fragment) :
    (emitAll dialect bindings fragments).2 =
      { values := bindings.values ++ bound fragments
        next := bindings.next + (bound fragments).length } := by
  induction fragments generalizing bindings with
  | nil => simp [bound]
  | cons fragment rest ih =>
      cases fragment <;>
        simp [emitAll_cons, emit, ih, bound, parameterized, Bindings.bind, Value.normalized,
          Nat.add_assoc, Nat.add_comm 1]

end Fragment

namespace Lexer

variable {dialect : Dialect} {lexer : Lexer}

def Ready (lexer : Lexer) (fragments : List Fragment) : Prop :=
  lexer.mode = .between ∨ lexer.isSettled ∧ Fragment.Opens fragments

theorem Ready.settled {fragments : List Fragment} (ready : lexer.Ready fragments) :
    lexer.isSettled := by
  rcases ready with between | ⟨settled, _⟩
  · simp [isSettled, between]
  · exact settled

theorem Ready.eq_between {fragment : Fragment} {rest : List Fragment}
    (ready : lexer.Ready (fragment :: rest)) (notOpen : fragment.opens = false) :
    lexer = { tokens := lexer.read, mode := .between } := by
  rcases ready with between | ⟨_, opens⟩
  · obtain ⟨tokens, mode⟩ := lexer
    cases between
    rfl
  · have fragmentOpens := opens fragment rfl
    rw [notOpen] at fragmentOpens
    contradiction

private theorem ready_of_apart {fragment : Fragment} {rest : List Fragment}
    (settled : lexer.isSettled) (apart : ∀ next ∈ rest.head?, Fragment.Apart fragment next)
    (closes : fragment.closes → lexer.mode = .between) : lexer.Ready rest := by
  by_cases fragmentCloses : fragment.closes
  · exact .inl (closes fragmentCloses)
  · refine .inr ⟨settled, fun next isNext => ?_⟩
    rcases apart next isNext with closes | opens
    · exact absurd closes fragmentCloses
    · exact opens

theorem read_emit {fragment : Fragment} {rest : List Fragment} (bindings : Bindings)
    (parameterized : dialect.parameterized) (isQuote : dialect.quote = '"')
    (clean : fragment.Clean '"') (apart : ∀ next ∈ rest.head?, Fragment.Apart fragment next)
    (ready : lexer.Ready (fragment :: rest)) :
    (lexer.run (fragment.emit dialect bindings).1.toList).Ready rest ∧
      (lexer.run (fragment.emit dialect bindings).1.toList).read =
        lexer.read ++ Fragment.tokens bindings.next [fragment] := by
  cases fragment with
  | fixed text =>
      have noQuote : '"' ∉ text.toList := fun member =>
        absurd (List.all_eq_true.mp clean '"' member) (by decide)
      have settled := isSettled_run ready.settled noQuote
      refine ⟨ready_of_apart settled apart (between_of_closesApart ready.settled noQuote), ?_⟩
      simp only [Fragment.emit, Fragment.tokens, List.append_nil]
      rcases ready with between | ⟨settled, opens⟩
      · obtain ⟨tokens, mode⟩ := lexer
        cases between
        exact read_run_between tokens text
      · exact read_run_of_opensApart settled (opens _ rfl)
  | quoted name =>
      rw [ready.eq_between rfl, Fragment.emit, isQuote, run_identifier]
      refine ⟨ready_of_apart rfl apart (by simp [Fragment.closes]), ?_⟩
      simp [read, Fragment.tokens]
  | verbatim text =>
      rw [ready.eq_between rfl]
      refine ⟨ready_of_apart (isSettled_run rfl clean.2) apart (by simp [Fragment.closes]), ?_⟩
      rw [Fragment.tokens, Fragment.tokens, List.append_nil]
      exact read_run_between lexer.read text
  | operand value =>
      rw [ready.eq_between rfl, Fragment.emit, if_pos parameterized, Bindings.bind, run_placeholder]
      refine ⟨ready_of_apart rfl apart (by simp [Fragment.closes]), ?_⟩
      simp [read, Fragment.tokens, ofSpelling_placeholder]
  | pattern kind text =>
      rw [ready.eq_between rfl, Fragment.emit, if_pos parameterized, Bindings.bind, run_placeholder]
      refine ⟨ready_of_apart rfl apart (by simp [Fragment.closes]), ?_⟩
      simp [read, Fragment.tokens, ofSpelling_placeholder]
  | parentKey =>
      rw [ready.eq_between rfl]
      have noQuote : '"' ∉ parentKeyMarker.toList := by decide
      refine ⟨ready_of_apart (isSettled_run rfl noQuote) apart (by simp [Fragment.closes]), ?_⟩
      exact read_run_between lexer.read parentKeyMarker

theorem read_emitAll {fragments : List Fragment} (bindings : Bindings)
    (parameterized : dialect.parameterized) (isQuote : dialect.quote = '"')
    (tidy : Fragment.Tidy '"' fragments) (ready : lexer.Ready fragments) :
    (lexer.run (Fragment.emitAll dialect bindings fragments).1.toList).isSettled ∧
      (lexer.run (Fragment.emitAll dialect bindings fragments).1.toList).read =
        lexer.read ++ Fragment.tokens bindings.next fragments := by
  obtain ⟨spaced, clean⟩ := tidy
  induction fragments generalizing lexer bindings with
  | nil => exact ⟨ready.settled, by simp [Fragment.tokens]⟩
  | cons fragment rest ih =>
      rw [List.isChain_cons] at spaced
      obtain ⟨nextReady, reads⟩ := read_emit bindings parameterized isQuote
        (clean fragment List.mem_cons_self) spaced.1 ready
      obtain ⟨settled, following⟩ := ih (fragment.emit dialect bindings).2 nextReady spaced.2
        fun other member => clean other (List.mem_cons_of_mem fragment member)
      have counted : (fragment.emit dialect bindings).2.next =
          bindings.next + (Fragment.bound [fragment]).length := by
        have emitted := Fragment.emitAll_bound parameterized bindings [fragment]
        exact congrArg Bindings.next emitted
      have split := Fragment.tokens_append bindings.next [fragment] rest
      rw [Fragment.emitAll_cons, String.toList_append, run_append]
      refine ⟨settled, ?_⟩
      rw [following, reads, counted, List.append_assoc, ← split, List.singleton_append]

end Lexer

/-- Tidy fragments are emitted as the text of their tokens. -/
theorem Token.ofText?_emitAll {dialect : Dialect} {fragments : List Fragment}
    (parameterized : dialect.parameterized) (isQuote : dialect.quote = '"')
    (tidy : Fragment.Tidy '"' fragments) :
    Token.ofText? (Fragment.emitAll dialect {} fragments).1 =
      some (Fragment.tokens 1 fragments) := by
  obtain ⟨settled, reads⟩ :=
    Lexer.read_emitAll {} parameterized isQuote tidy (show Lexer.Ready {} fragments from .inl rfl)
  rw [Token.ofText?, if_pos settled, reads]
  rfl

end QuerySql.Sql

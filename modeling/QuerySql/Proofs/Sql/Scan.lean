import QuerySql.Proofs.Sql.Spacing

namespace QuerySql.Sql

inductive ScanMode where
  | outside
  | placeholder (digits : List Char)
  | inside
  | closing

@[ext] structure Scan where
  found : List String := []
  mode : ScanMode := .outside

namespace Scan

/-- The placeholders met so far, with the one that may still go on. -/
def placeholders (scan : Scan) : List String :=
  match scan.mode with
  | .placeholder digits => scan.found ++ [String.ofList ('$' :: digits)]
  | _ => scan.found

def begin (quote : Char) (found : List String) (char : Char) : Scan :=
  if char = quote then { found, mode := .inside }
  else if char = '$' then { found, mode := .placeholder [] }
  else { found, mode := .outside }

def step (quote : Char) (scan : Scan) (char : Char) : Scan :=
  match scan.mode with
  | .outside => begin quote scan.found char
  | .placeholder digits =>
      if char.isDigit then { scan with mode := .placeholder (digits ++ [char]) }
      else begin quote scan.placeholders char
  | .inside => if char = quote then { scan with mode := .closing } else scan
  | .closing =>
      if char = quote then { scan with mode := .inside } else begin quote scan.found char

def run (quote : Char) (scan : Scan) (text : List Char) : Scan :=
  text.foldl (step quote) scan

end Scan

def placeholders (quote : Char) (text : String) : List String :=
  (Scan.run quote {} text.toList).placeholders

/-- The placeholders of so many values. -/
def numbered (count : Nat) : List String :=
  (List.range count).map fun index => Bindings.placeholder (index + 1)

example : placeholders '"' "\"a$1\"\"b\" = $1 AND c IN ($2,$10)" = ["$1", "$2", "$10"] := by
  decide

namespace Scan

variable {quote : Char} {scan : Scan} {found : List String} {char : Char}

@[simp] theorem run_nil (quote : Char) (scan : Scan) : run quote scan [] = scan := rfl

@[simp] theorem run_cons (quote : Char) (scan : Scan) (char : Char) (rest : List Char) :
    run quote scan (char :: rest) = run quote (step quote scan char) rest := rfl

theorem run_append (quote : Char) (scan : Scan) (front back : List Char) :
    run quote scan (front ++ back) = run quote (run quote scan front) back :=
  List.foldl_append

def Settled (scan : Scan) : Prop :=
  scan.mode ≠ .inside

def Ready (scan : Scan) (fragments : List Fragment) : Prop :=
  scan.mode = .outside ∨ scan.Settled ∧ Fragment.Opens fragments

theorem placeholders_of_outside (outside : scan.mode = .outside) :
    scan.placeholders = scan.found := by
  simp [placeholders, outside]

theorem begin_of_ne (notQuote : char ≠ quote) (notDollar : char ≠ '$') :
    begin quote found char = { found, mode := .outside } := by
  simp [begin, notQuote, notDollar]

theorem step_of_settled (settled : scan.Settled) (notDigit : char.isDigit = false)
    (notQuote : char ≠ quote) (notDollar : char ≠ '$') :
    step quote scan char = { found := scan.placeholders, mode := .outside } := by
  cases mode : scan.mode with
  | outside => simp [step, mode, placeholders, begin_of_ne notQuote notDollar]
  | placeholder digits =>
      simp [step, mode, notDigit, begin_of_ne notQuote notDollar]
  | inside => exact absurd mode settled
  | closing => simp [step, mode, placeholders, notQuote, begin_of_ne notQuote notDollar]

theorem run_of_outside {text : List Char} (outside : scan.mode = .outside)
    (noDollar : '$' ∉ text) (noQuote : quote ∉ text) : run quote scan text = scan := by
  induction text with
  | nil => rfl
  | cons char rest ih =>
      rw [List.mem_cons, not_or] at noDollar noQuote
      have unchanged : step quote scan char = scan := by
        rw [step, outside, begin_of_ne (Ne.symm noQuote.1) (Ne.symm noDollar.1)]
        exact Scan.ext rfl outside.symm
      rw [run_cons, unchanged]
      exact ih noDollar.2 noQuote.2

theorem run_doubleQuotes (name : List Char) (inside : scan.mode = .inside) :
    run quote scan (doubleQuotes quote name) = scan := by
  induction name with
  | nil => rfl
  | cons char rest ih =>
      by_cases isQuote : char = quote
      · have doubled : step quote (step quote scan quote) quote = scan := by
          simp [step, inside, Scan.ext_iff]
        simp only [doubleQuotes, isQuote, if_true, run_cons, doubled]
        exact ih
      · have kept : step quote scan char = scan := by
          simp [step, inside, isQuote]
        simp only [doubleQuotes, isQuote, if_false, run_cons, kept]
        exact ih

theorem run_identifier (name : String) (outside : scan.mode = .outside) :
    run quote scan (identifier quote name).toList = { scan with mode := .closing } := by
  have opened : step quote scan quote = { scan with mode := .inside } := by
    simp [step, outside, begin]
  rw [identifier, String.toList_ofList, identifierChars, List.cons_append, run_cons, opened,
    run_append, run_doubleQuotes name.toList rfl]
  simp [step]

theorem run_digits {digits more : List Char} (mode : scan.mode = .placeholder digits)
    (areDigits : ∀ char ∈ more, char.isDigit) :
    run quote scan more = { scan with mode := .placeholder (digits ++ more) } := by
  induction more generalizing scan digits with
  | nil => exact Scan.ext rfl (by simpa using mode)
  | cons char rest ih =>
      have isDigit := areDigits char List.mem_cons_self
      have next : step quote scan char = { scan with mode := .placeholder (digits ++ [char]) } := by
        simp [step, mode, isDigit]
      rw [run_cons, next,
        ih rfl fun other member => areDigits other (List.mem_cons_of_mem _ member)]
      simp

theorem run_placeholder (number : Nat) (outside : scan.mode = .outside) (notQuote : quote ≠ '$') :
    run quote scan (Bindings.placeholder number).toList =
      { scan with mode := .placeholder (Text.decimal number).toList } := by
  have opened : step quote scan '$' = { scan with mode := .placeholder [] } := by
    simp [step, outside, begin, Ne.symm notQuote]
  have chars : (Bindings.placeholder number).toList = '$' :: (Text.decimal number).toList := by
    rw [Bindings.placeholder, String.toList_append]
    rfl
  rw [chars, run_cons, opened, run_digits rfl fun char => isDigit_of_mem_decimal, List.nil_append]

/-- The scan has met one placeholder for each bound value. -/
structure Meets (scan : Scan) (bindings : Bindings) : Prop where
  placeholders : scan.placeholders = numbered bindings.values.length
  next : bindings.next = bindings.values.length + 1

theorem numbered_succ (count : Nat) :
    numbered (count + 1) = numbered count ++ [Bindings.placeholder (count + 1)] := by
  simp [numbered, List.range_succ]

variable {dialect : Dialect} {bindings : Bindings}

theorem Meets.plain {text : List Char} (meets : scan.Meets bindings)
    (outside : scan.mode = .outside) (noDollar : '$' ∉ text) (noQuote : quote ∉ text) :
    (run quote scan text).mode = .outside ∧ (run quote scan text).Meets bindings := by
  rw [run_of_outside outside noDollar noQuote]
  exact ⟨outside, meets⟩

theorem Meets.fixed {text : String} {rest : List Fragment}
    (quoteKind : quote = '"' ∨ quote = '`') (meets : scan.Meets bindings)
    (ready : scan.Ready (.fixed text :: rest)) (plain : isPlainText text) :
    (run quote scan text.toList).mode = .outside ∧
      (run quote scan text.toList).Meets bindings := by
  have plainChar (char : Char) (member : char ∈ text.toList) : char ≠ '$' ∧ char ≠ quote := by
    have isPlain := List.all_eq_true.mp plain char member
    simp only [Sql.isPlain, Bool.and_eq_true, decide_eq_true_eq] at isPlain
    rcases quoteKind with rfl | rfl
    · exact ⟨isPlain.1.1, isPlain.1.2⟩
    · exact ⟨isPlain.1.1, isPlain.2⟩
  have noDollar : '$' ∉ text.toList := fun member => (plainChar '$' member).1 rfl
  have noQuote : quote ∉ text.toList := fun member => (plainChar quote member).2 rfl
  rcases ready with outside | ⟨settled, opens⟩
  · exact meets.plain outside noDollar noQuote
  · have opensText : opensApart text := opens _ rfl
    cases chars : text.toList with
    | nil => simp [opensApart, chars] at opensText
    | cons char tail =>
        rw [chars, List.mem_cons, not_or] at noDollar noQuote
        have isBreakChar : isBreak char := by simpa [opensApart, chars] using opensText
        have notDigit : char.isDigit = false := by
          simp only [isBreak, Bool.or_eq_true, decide_eq_true_eq] at isBreakChar
          rcases isBreakChar with (((rfl | rfl) | rfl) | rfl) | rfl <;> decide
        rw [run_cons, step_of_settled settled notDigit (Ne.symm noQuote.1) (Ne.symm noDollar.1)]
        exact Meets.plain ⟨meets.placeholders, meets.next⟩ rfl noDollar.2 noQuote.2

theorem Meets.bind {rest : List Fragment} (notDollar : quote ≠ '$') (meets : scan.Meets bindings)
    (outside : scan.mode = .outside) (opens : Fragment.Opens rest) (value : Value) :
    (run quote scan (bindings.bind value).1.toList).Ready rest ∧
      (run quote scan (bindings.bind value).1.toList).Meets (bindings.bind value).2 := by
  have found := meets.placeholders
  rw [placeholders_of_outside outside] at found
  have placeholder :
      (bindings.bind value).1 = Bindings.placeholder (bindings.values.length + 1) := by
    rw [Bindings.bind, meets.next]
  rw [placeholder, run_placeholder _ outside notDollar]
  refine ⟨.inr ⟨by simp [Settled], opens⟩, ?_, ?_⟩
  · have text : String.ofList ('$' :: (Text.decimal (bindings.values.length + 1)).toList) =
        Bindings.placeholder (bindings.values.length + 1) := by
      rw [← String.toList_inj, String.toList_ofList, Bindings.placeholder, String.toList_append]
      rfl
    simp [Scan.placeholders, Bindings.bind, numbered_succ, found, text]
  · simp [Bindings.bind, meets.next]

private theorem opens_of_apart {fragment : Fragment} {rest : List Fragment}
    (apart : ∀ next ∈ rest.head?, Fragment.Apart fragment next) (open_ : fragment.closes = false) :
    Fragment.Opens rest := by
  intro next isNext
  rcases apart next isNext with closes | opens
  · rw [open_] at closes
    contradiction
  · exact opens

private theorem outside_of_ready {fragment : Fragment} {rest : List Fragment}
    (ready : scan.Ready (fragment :: rest)) (notOpen : fragment.opens = false) :
    scan.mode = .outside := by
  rcases ready with outside | ⟨_, opens⟩
  · exact outside
  · have fragmentOpens := opens fragment rfl
    rw [notOpen] at fragmentOpens
    contradiction

theorem Meets.emit {fragment : Fragment} {rest : List Fragment}
    (parameterized : dialect.parameterized) (quoteKind : dialect.quote = '"' ∨ dialect.quote = '`')
    (clean : fragment.Clean dialect.quote)
    (apart : ∀ next ∈ rest.head?, Fragment.Apart fragment next)
    (meets : scan.Meets bindings) (ready : scan.Ready (fragment :: rest)) :
    (run dialect.quote scan (fragment.emit dialect bindings).1.toList).Ready rest ∧
      (run dialect.quote scan (fragment.emit dialect bindings).1.toList).Meets
        (fragment.emit dialect bindings).2 := by
  have notDollar : dialect.quote ≠ '$' := by
    rcases quoteKind with isQuote | isQuote <;> rw [isQuote] <;> decide
  cases fragment with
  | fixed text =>
      have read := meets.fixed quoteKind ready clean
      exact ⟨.inl read.1, read.2⟩
  | quoted name =>
      have outside := outside_of_ready ready rfl
      rw [Fragment.emit, run_identifier name outside]
      refine ⟨.inr ⟨by simp [Settled], opens_of_apart apart rfl⟩, ?_, meets.next⟩
      rw [← meets.placeholders, placeholders_of_outside outside]
      rfl
  | verbatim text =>
      have read := meets.plain (outside_of_ready ready rfl) clean.1 clean.2
      exact ⟨.inl read.1, read.2⟩
  | operand value =>
      rw [Fragment.emit, if_pos parameterized]
      exact meets.bind notDollar (outside_of_ready ready rfl) (opens_of_apart apart rfl) value
  | pattern kind text =>
      rw [Fragment.emit, if_pos parameterized]
      exact meets.bind notDollar (outside_of_ready ready rfl) (opens_of_apart apart rfl)
        (.string (kind.pattern text))
  | parentKey =>
      have noQuote : dialect.quote ∉ parentKeyMarker.toList := by
        rcases quoteKind with isQuote | isQuote <;> rw [isQuote] <;> decide
      have read := meets.plain (outside_of_ready ready rfl) (by decide) noQuote
      exact ⟨.inl read.1, read.2⟩

theorem Meets.emitAll {fragments : List Fragment} (parameterized : dialect.parameterized)
    (quoteKind : dialect.quote = '"' ∨ dialect.quote = '`')
    (tidy : Fragment.Tidy dialect.quote fragments) (meets : scan.Meets bindings)
    (ready : scan.Ready fragments) :
    (run dialect.quote scan (Fragment.emitAll dialect bindings fragments).1.toList).Meets
      (Fragment.emitAll dialect bindings fragments).2 := by
  obtain ⟨spaced, clean⟩ := tidy
  induction fragments generalizing scan bindings with
  | nil => exact meets
  | cons fragment rest ih =>
      rw [List.isChain_cons] at spaced
      have read := meets.emit parameterized quoteKind (clean fragment List.mem_cons_self) spaced.1
        ready
      rw [Fragment.emitAll_cons, String.toList_append, run_append]
      exact ih read.2 read.1 spaced.2 fun other member =>
        clean other (List.mem_cons_of_mem fragment member)

end Scan

/-- The text of tidy fragments holds the placeholders of its values, numbered from one. -/
theorem placeholders_emitAll {dialect : Dialect} {fragments : List Fragment}
    (parameterized : dialect.parameterized) (quoteKind : dialect.quote = '"' ∨ dialect.quote = '`')
    (tidy : Fragment.Tidy dialect.quote fragments) :
    placeholders dialect.quote (Fragment.emitAll dialect {} fragments).1 =
      numbered (Fragment.emitAll dialect {} fragments).2.values.length :=
  (Scan.Meets.emitAll parameterized quoteKind tidy ⟨rfl, rfl⟩ (.inl rfl)).placeholders

end QuerySql.Sql

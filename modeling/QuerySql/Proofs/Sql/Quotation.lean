import QuerySql.Proofs.Sql.PatternLiteral
import QuerySql.Proofs.Sql.Unquoted

namespace QuerySql.Sql

/-- Reads a text up to the double quote that closes it.  A doubled quote stands for one, and a
backslash with the character behind it for what the two of them name. -/
def closingText? : List Char → Option (List Char × List Char)
  | [] => none
  | [char] => if char = '"' then some ([], []) else none
  | char :: next :: rest =>
      if char = '\\' then
        (closingText? rest).map fun (text, behind) => (unescaped next ++ text, behind)
      else if char = '"' then
        if next = '"' then (closingText? rest).map fun (text, behind) => ('"' :: text, behind)
        else some ([], next :: rest)
      else (closingText? (next :: rest)).map fun (text, behind) => (char :: text, behind)

def readDoubleQuoted? : List Char → Option (List Char × List Char)
  | [] => none
  | char :: rest => if char = '"' then closingText? rest else none

example : readDoubleQuoted? "\"a\\\"b\\0\"\"\\%\" AND".toList =
    some ("a\"b\x00\"\\%".toList, " AND".toList) := by
  decide

def readSingleQuoted? : List Char → Option (List Char × List Char) :=
  readName? '\''

theorem closingText?_cons {char : Char} (notQuote : char ≠ '"') (notBackslash : char ≠ '\\')
    (rest : List Char) :
    closingText? (char :: rest) =
      (closingText? rest).map fun (text, behind) => (char :: text, behind) := by
  cases rest with
  | nil => simp [closingText?, notQuote]
  | cons next rest => rw [closingText?, if_neg notBackslash, if_neg notQuote]

theorem closingText?_backslash (char : Char) (rest : List Char) :
    closingText? ('\\' :: char :: rest) =
      (closingText? rest).map fun (text, behind) => (unescaped char ++ text, behind) := by
  rw [closingText?, if_pos rfl]

theorem closingText?_closed {behind : List Char} (apart : behind.head? ≠ some '"') :
    closingText? ('"' :: behind) = some ([], behind) := by
  cases behind with
  | nil => rw [closingText?, if_pos rfl]
  | cons next rest =>
      have differs : next ≠ '"' := fun same => apart (congrArg some same)
      rw [closingText?, if_neg (by decide), if_pos rfl, if_neg differs]

theorem closingText?_escapeLiteralChar (char : Char) (rest : List Char) :
    closingText? (escapeLiteralChar false char ++ rest) =
      (closingText? rest).map fun (text, behind) => (char :: text, behind) := by
  have kept : keptChar false char = [char] := if_neg (by simp)
  rcases escapeLiteralChar_cases false char with
    ⟨letter, isEscaped, standsFor⟩ | ⟨isPlain, _, notQuote, notBackslash⟩
  · rw [isEscaped, List.cons_append, List.cons_append, List.nil_append, closingText?_backslash,
      standsFor, kept]
    rfl
  · rw [isPlain]
    exact closingText?_cons notQuote notBackslash rest

theorem closingText?_escaped {behind : List Char} (apart : behind.head? ≠ some '"')
    (chars : List Char) :
    closingText? (chars.flatMap (escapeLiteralChar false) ++ '"' :: behind) =
      some (chars, behind) := by
  induction chars with
  | nil => exact closingText?_closed apart
  | cons char rest ih =>
      rw [List.flatMap_cons, List.append_assoc, closingText?_escapeLiteralChar, ih]
      rfl

theorem readDoubleQuoted?_escaped {behind : List Char} (apart : behind.head? ≠ some '"')
    (text : String) :
    readDoubleQuoted? ((doubleQuoted (escapeLiteral false text)).toList ++ behind) =
      some (text.toList, behind) := by
  have chars : (doubleQuoted (escapeLiteral false text)).toList ++ behind =
      '"' :: (text.toList.flatMap (escapeLiteralChar false) ++ '"' :: behind) := by
    simp [doubleQuoted, escapeLiteral]
  rw [chars, readDoubleQuoted?, if_pos rfl]
  exact closingText?_escaped apart text.toList

theorem doubleQuotes_eq_flatMap (quote : Char) (name : List Char) :
    doubleQuotes quote name =
      name.flatMap fun char => if char = quote then [char, char] else [char] := by
  induction name with
  | nil => rfl
  | cons char rest ih =>
      rw [doubleQuotes, List.flatMap_cons, ih]
      split
      · rename_i isQuote
        rw [isQuote]
        rfl
      · rfl

theorem singleQuoted_eq_identifier (text : String) : singleQuoted text = identifier '\'' text := by
  rw [singleQuoted, identifier, identifierChars, doubleQuotes_eq_flatMap, ← String.toList_inj]
  simp

theorem readSingleQuoted?_singleQuoted {behind : List Char} (apart : behind.head? ≠ some '\'')
    (text : String) :
    readSingleQuoted? ((singleQuoted text).toList ++ behind) = some (text.toList, behind) := by
  rw [singleQuoted_eq_identifier]
  exact readName?_identifier apart text

section Normalized

variable {value : Value} {text : String}

theorem literal_of_normalized (isText : value.normalized = .string text) :
    literal value = doubleQuoted (escapeLiteral false text) := by
  rw [literal, isText]

theorem dialectLiteral_of_normalized {dialect : Dialect} (isQuote : dialect.quote = '"')
    (isText : value.normalized = .string text) :
    dialectLiteral dialect value = singleQuoted text := by
  rw [dialectLiteral, if_neg (not_not_intro isQuote), isText]

/-- The literal of a value that is normalized to a text, as a string is to itself, is read back as
that text, and what stands behind it is left, if that does not begin with the quote. -/
theorem read_literal (isText : value.normalized = .string text) :
    (∀ behind : List Char, behind.head? ≠ some '"' →
      readDoubleQuoted? ((literal value).toList ++ behind) = some (text.toList, behind)) ∧
    (∀ dialect : Dialect, dialect.quote = '"' →
      ∀ behind : List Char, behind.head? ≠ some '\'' →
        readSingleQuoted? ((dialectLiteral dialect value).toList ++ behind) =
          some (text.toList, behind)) := by
  refine ⟨fun behind apart => ?_, fun dialect isQuote behind apart => ?_⟩
  · rw [literal_of_normalized isText]
    exact readDoubleQuoted?_escaped apart text
  · rw [dialectLiteral_of_normalized isQuote isText]
    exact readSingleQuoted?_singleQuoted apart text

theorem read_literal_list :
    (Value.list [.string "o'k\"\\", .null]).normalized = .string "[\"o'k\\\"\\\\\",null]" ∧
    literal (.list [.string "o'k\"\\", .null]) =
      "\"[\\\"o\\'k\\\\\\\"\\\\\\\\\\\",null]\"" ∧
    readDoubleQuoted? ((literal (.list [.string "o'k\"\\", .null])).toList ++ "' OR".toList) =
      some ("[\"o'k\\\"\\\\\",null]".toList, "' OR".toList) ∧
    readSingleQuoted?
        ((dialectLiteral .postgres (.list [.string "o'k\"\\", .null])).toList ++ "\"".toList) =
      some ("[\"o'k\\\"\\\\\",null]".toList, "\"".toList) := by
  have isText : (Value.list [.string "o'k\"\\", .null]).normalized =
      .string "[\"o'k\\\"\\\\\",null]" := by
    rfl
  obtain ⟨double, single⟩ := read_literal isText
  exact ⟨isText, by decide, double _ (by decide), single .postgres rfl _ (by decide)⟩

end Normalized

end QuerySql.Sql

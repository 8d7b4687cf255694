import Mathlib.Data.List.Infix
import QuerySql.Sql.Identifier

namespace QuerySql.Sql

/-- Reads a name up to the quote that closes it.  A doubled quote stands for one. -/
def closingName? (quote : Char) : List Char → Option (List Char × List Char)
  | [] => none
  | [char] => if char = quote then some ([], []) else none
  | char :: next :: rest =>
      if char = quote then
        if next = quote then
          (closingName? quote rest).map fun (name, behind) => (quote :: name, behind)
        else some ([], next :: rest)
      else (closingName? quote (next :: rest)).map fun (name, behind) => (char :: name, behind)

def readName? (quote : Char) : List Char → Option (List Char × List Char)
  | [] => none
  | char :: rest => if char = quote then closingName? quote rest else none

/-- The name that a text quotes. -/
def unquoted? (quote : Char) (text : String) : Option String :=
  match readName? quote text.toList with
  | some (name, []) => some (String.ofList name)
  | _ => none

section Quoted

variable {quote : Char}

theorem closingName?_cons_of_ne {char : Char} (differs : char ≠ quote) (rest : List Char) :
    closingName? quote (char :: rest) =
      (closingName? quote rest).map fun (name, behind) => (char :: name, behind) := by
  cases rest with
  | nil => simp [closingName?, differs]
  | cons next rest => rw [closingName?, if_neg differs]

theorem closingName?_doubled (rest : List Char) :
    closingName? quote (quote :: quote :: rest) =
      (closingName? quote rest).map fun (name, behind) => (quote :: name, behind) := by
  rw [closingName?, if_pos rfl, if_pos rfl]

theorem closingName?_closed {behind : List Char} (apart : behind.head? ≠ some quote) :
    closingName? quote (quote :: behind) = some ([], behind) := by
  cases behind with
  | nil => rw [closingName?, if_pos rfl]
  | cons next rest =>
      have differs : next ≠ quote := fun same => apart (congrArg some same)
      rw [closingName?, if_pos rfl, if_neg differs]

theorem closingName?_doubleQuotes {behind : List Char} (apart : behind.head? ≠ some quote)
    (name : List Char) :
    closingName? quote (doubleQuotes quote name ++ quote :: behind) = some (name, behind) := by
  induction name with
  | nil => exact closingName?_closed apart
  | cons char rest ih =>
      by_cases isQuote : char = quote
      · rw [doubleQuotes, if_pos isQuote, List.cons_append, List.cons_append, closingName?_doubled,
          ih, isQuote]
        rfl
      · rw [doubleQuotes, if_neg isQuote, List.cons_append, closingName?_cons_of_ne isQuote, ih]
        rfl

/-- A quoted identifier is read back, whatever its name holds, if no quote stands behind it. -/
theorem readName?_identifierChars {behind : List Char} (apart : behind.head? ≠ some quote)
    (name : List Char) :
    readName? quote (identifierChars quote name ++ behind) = some (name, behind) := by
  rw [identifierChars, List.cons_append, List.cons_append, readName?, if_pos rfl, List.append_assoc]
  exact closingName?_doubleQuotes apart name

theorem readName?_identifier {behind : List Char} (apart : behind.head? ≠ some quote)
    (name : String) :
    readName? quote ((identifier quote name).toList ++ behind) = some (name.toList, behind) := by
  rw [identifier, String.toList_ofList]
  exact readName?_identifierChars apart name.toList

@[simp] theorem unquoted?_identifier (quote : Char) (name : String) :
    unquoted? quote (identifier quote name) = some name := by
  have apart : ([] : List Char).head? ≠ some quote := nofun
  have read := readName?_identifier apart name
  rw [List.append_nil] at read
  rw [unquoted?, read]
  exact congrArg some String.ofList_toList

theorem identifier_injective (quote : Char) : Function.Injective (identifier quote) := by
  intro name other same
  have read := unquoted?_identifier quote name
  rw [same, unquoted?_identifier, Option.some_inj] at read
  exact read.symm

end Quoted

/-- Splits a text where a sign first stands in it. -/
def splitFirst? (sign : List Char) : List Char → Option (List Char × List Char)
  | [] => if sign.isEmpty then some ([], []) else none
  | char :: rest =>
      if sign.isPrefixOf (char :: rest) then some ([], (char :: rest).drop sign.length)
      else (splitFirst? sign rest).map fun (front, back) => (char :: front, back)

section Split

variable {char : Char} {sign front back : List Char}

theorem splitFirst?_append_self (sign back : List Char) :
    splitFirst? sign (sign ++ back) = some ([], back) := by
  cases whole : sign ++ back with
  | nil =>
      obtain ⟨rfl, rfl⟩ := List.append_eq_nil_iff.mp whole
      rfl
  | cons char rest =>
      have found : sign.isPrefixOf (char :: rest) := by
        rw [← whole, List.isPrefixOf_iff_prefix]
        exact List.prefix_append sign back
      rw [splitFirst?, if_pos found, ← whole, List.drop_left]

/-- A sign of one character, however often repeated, begins inside of a text in front of it only if
that text holds the sign or ends with the character. -/
theorem not_prefix_append (uniform : ∀ other ∈ sign, other = char) (notInfix : ¬ sign <:+: front)
    (notLast : front.getLast? ≠ some char) (nonempty : front ≠ []) :
    ¬ sign <+: front ++ (sign ++ back) := by
  intro isPrefix
  rcases List.prefix_or_prefix_of_prefix isPrefix (List.prefix_append front (sign ++ back)) with
    within | beyond
  · exact notInfix within.isInfix
  · have last : front.getLast nonempty = char :=
      uniform _ (beyond.subset (List.getLast_mem nonempty))
    rw [List.getLast?_eq_some_getLast nonempty, last] at notLast
    exact notLast rfl

theorem splitFirst?_append (uniform : ∀ other ∈ sign, other = char) (notInfix : ¬ sign <:+: front)
    (notLast : front.getLast? ≠ some char) (back : List Char) :
    splitFirst? sign (front ++ (sign ++ back)) = some (front, back) := by
  induction front with
  | nil => exact splitFirst?_append_self sign back
  | cons first rest ih =>
      have notPrefix : ¬ sign <+: first :: rest ++ (sign ++ back) :=
        not_prefix_append uniform notInfix notLast (List.cons_ne_nil first rest)
      have restEnds : rest.getLast? ≠ some char := by
        intro isLast
        rw [List.getLast?_cons, isLast] at notLast
        exact notLast rfl
      rw [List.cons_append] at notPrefix ⊢
      rw [splitFirst?, if_neg (mt List.isPrefixOf_iff_prefix.mp notPrefix),
        ih (mt (List.infix_cons ·) notInfix) restEnds]
      rfl

end Split

end QuerySql.Sql

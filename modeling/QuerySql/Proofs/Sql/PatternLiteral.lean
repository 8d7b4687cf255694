import Mathlib.Data.List.Basic
import QuerySql.Sql.Literal

namespace QuerySql

namespace Sql

def unescaped (char : Char) : List Char :=
  if char = '0' then [Char.ofNat 0x00]
  else if char = 'n' then ['\n']
  else if char = 'r' then ['\r']
  else if char = 'b' then [Char.ofNat 0x08]
  else if char = 't' then ['\t']
  else if char = 'Z' then [Char.ofNat 0x1A]
  else if char = '%' || char = '_' then ['\\', char]
  else [char]

def readLiteral : List Char → Option (List Char)
  | [] | ['\\'] => none
  | '"' :: rest => if rest.isEmpty then some [] else none
  | '\\' :: char :: rest => (readLiteral rest).map (unescaped char ++ ·)
  | char :: rest => (readLiteral rest).map (char :: ·)

/-- The text of a literal in double quotes. -/
def decodeLiteral? (literal : String) : Option String :=
  match literal.toList with
  | '"' :: rest => (readLiteral rest).map String.ofList
  | _ => none

def keptChar (inPattern : Bool) (char : Char) : List Char :=
  if inPattern && (char = '%' || char = '_') then ['\\', char] else [char]

theorem readLiteral_cons {char : Char} (notQuote : char ≠ '"') (notBackslash : char ≠ '\\')
    (rest : List Char) : readLiteral (char :: rest) = (readLiteral rest).map (char :: ·) := by
  rw [readLiteral]
  · exact fun isBackslash => absurd isBackslash notBackslash
  · exact notQuote
  · exact fun _ _ isBackslash => absurd isBackslash notBackslash

theorem readLiteral_backslash (char : Char) (rest : List Char) :
    readLiteral ('\\' :: char :: rest) = (readLiteral rest).map (unescaped char ++ ·) := by
  rw [readLiteral]

theorem escapeLiteralChar_cases (inPattern : Bool) (char : Char) :
    (∃ letter, escapeLiteralChar inPattern char = ['\\', letter] ∧
        unescaped letter = keptChar inPattern char) ∨
      escapeLiteralChar inPattern char = [char] ∧ keptChar inPattern char = [char] ∧
        char ≠ '"' ∧ char ≠ '\\' := by
  unfold escapeLiteralChar
  split
  · rename_i isNull
    subst isNull
    exact .inl ⟨'0', rfl, by cases inPattern <;> decide⟩
  split
  · rename_i isNewline
    subst isNewline
    exact .inl ⟨'n', rfl, by cases inPattern <;> decide⟩
  split
  · rename_i isReturn
    subst isReturn
    exact .inl ⟨'r', rfl, by cases inPattern <;> decide⟩
  split
  · rename_i isBackspace
    subst isBackspace
    exact .inl ⟨'b', rfl, by cases inPattern <;> decide⟩
  split
  · rename_i isTab
    subst isTab
    exact .inl ⟨'t', rfl, by cases inPattern <;> decide⟩
  split
  · rename_i isSubstitute
    subst isSubstitute
    exact .inl ⟨'Z', rfl, by cases inPattern <;> decide⟩
  split
  · rename_i standsForItself
    refine .inl ⟨char, rfl, ?_⟩
    simp only [Bool.or_eq_true, decide_eq_true_eq] at standsForItself
    rcases standsForItself with (rfl | rfl) | rfl <;> cases inPattern <;> decide
  split
  · rename_i isWildcard
    refine .inl ⟨char, rfl, ?_⟩
    rw [keptChar, if_pos isWildcard]
    simp only [Bool.and_eq_true, Bool.or_eq_true, decide_eq_true_eq] at isWildcard
    rcases isWildcard.2 with rfl | rfl <;> decide
  · rename_i notSpecial notWildcard
    simp only [Bool.or_eq_true, decide_eq_true_eq, not_or] at notSpecial
    exact .inr ⟨rfl, if_neg notWildcard, notSpecial.2, notSpecial.1.1⟩

theorem readLiteral_escapeLiteralChar (inPattern : Bool) (char : Char) (rest : List Char) :
    readLiteral (escapeLiteralChar inPattern char ++ rest) =
      (readLiteral rest).map (keptChar inPattern char ++ ·) := by
  rcases escapeLiteralChar_cases inPattern char with
    ⟨letter, isEscaped, kept⟩ | ⟨isPlain, kept, notQuote, notBackslash⟩
  · rw [isEscaped, ← kept]
    exact readLiteral_backslash letter rest
  · rw [isPlain, kept]
    exact readLiteral_cons notQuote notBackslash rest

theorem readLiteral_escaped (inPattern : Bool) (chars rest : List Char) :
    readLiteral (chars.flatMap (escapeLiteralChar inPattern) ++ rest) =
      (readLiteral rest).map (chars.flatMap (keptChar inPattern) ++ ·) := by
  induction chars with
  | nil => simp
  | cons char others ih =>
      rw [List.flatMap_cons, List.append_assoc, readLiteral_escapeLiteralChar, ih, Option.map_map,
        List.flatMap_cons]
      simp only [Function.comp_def, List.append_assoc]

theorem length_escapePatternChar (chars : List Char) :
    (chars.flatMap escapePatternChar).length =
      (chars.flatMap (keptChar true)).length + chars.count '\\' := by
  induction chars with
  | nil => rfl
  | cons char rest ih =>
      have charLength : (escapePatternChar char).length =
          (keptChar true char).length + if char = '\\' then 1 else 0 := by
        by_cases isBackslash : char = '\\'
        · subst isBackslash
          decide
        · simp [escapePatternChar, keptChar, isBackslash]
      simp only [List.flatMap_cons, List.length_append, ih, charLength, List.count_cons, beq_iff_eq]
      omega

theorem kept_eq_escaped_iff (chars : List Char) :
    chars.flatMap (keptChar true) = chars.flatMap escapePatternChar ↔ '\\' ∉ chars := by
  constructor
  · intro same
    have sameLength := length_escapePatternChar chars
    rw [same] at sameLength
    exact List.count_eq_zero.mp (by omega)
  · intro noBackslash
    apply List.flatMap_congr
    intro char member
    have notBackslash : char ≠ '\\' := fun isBackslash => noBackslash (isBackslash ▸ member)
    simp [keptChar, escapePatternChar, notBackslash]

theorem kept_eq_self (chars : List Char) : chars.flatMap (keptChar false) = chars := by
  have kept : keptChar false = fun char => [char] := by
    funext char
    simp [keptChar]
  rw [kept, List.flatMap_singleton']

theorem readLiteral_affix {affix : String} (isAffix : affix = "" ∨ affix = "%")
    (rest : List Char) :
    readLiteral (affix.toList ++ rest) = (readLiteral rest).map (affix.toList ++ ·) := by
  rcases isAffix with rfl | rfl
  · simp
  · exact readLiteral_cons (by decide) (by decide) rest

end Sql

namespace TextMatch

open Sql

theorem decodeLiteral?_patternLiteral (kind : TextMatch) (text : String) :
    decodeLiteral? (kind.patternLiteral text) =
      some (kind.before ++ String.ofList (text.toList.flatMap (keptChar kind.isLiteral))
        ++ kind.after) := by
  have before : kind.before = "" ∨ kind.before = "%" := by cases kind <;> simp [TextMatch.before]
  have after : kind.after = "" ∨ kind.after = "%" := by cases kind <;> simp [TextMatch.after]
  have chars : (kind.patternLiteral text).toList = '"' :: (kind.before.toList ++
      (text.toList.flatMap (escapeLiteralChar kind.isLiteral) ++ (kind.after.toList ++ ['"']))) := by
    simp [patternLiteral, doubleQuoted, escapeLiteral]
  have closed : readLiteral ['"'] = some [] := rfl
  rw [decodeLiteral?, chars]
  simp only [readLiteral_affix before, readLiteral_escaped, readLiteral_affix after, closed,
    Option.map_some]
  simp [String.append_assoc]

/-- The literal stands for the pattern that is bound in its place, unless the operand is taken
literally and has a backslash. -/
theorem decodeLiteral?_patternLiteral_eq_iff (kind : TextMatch) (text : String) :
    decodeLiteral? (kind.patternLiteral text) = some (kind.pattern text) ↔
      kind = .like ∨ '\\' ∉ text.toList := by
  rw [decodeLiteral?_patternLiteral, Option.some_inj, pattern, ← String.toList_inj]
  simp only [String.toList_append, List.append_left_inj, List.append_right_inj,
    String.toList_ofList]
  cases kind with
  | like => simp [isLiteral, kept_eq_self]
  | contains => simp [isLiteral, escapePattern, kept_eq_escaped_iff]
  | startsWith => simp [isLiteral, escapePattern, kept_eq_escaped_iff]
  | endsWith => simp [isLiteral, escapePattern, kept_eq_escaped_iff]

end TextMatch

namespace Text

theorem eq_of_ofNat_eq_backslash {code : Nat} (same : Char.ofNat code = '\\') : code = 0x5C := by
  by_cases valid : code.isValidChar
  · have sameCode : (Char.ofNat code).toNat = code := by
      rw [Char.ofNat, dif_pos valid]
      rfl
    rw [← sameCode, same]
    rfl
  · rw [Char.ofNat, dif_neg valid] at same
    exact absurd same (by decide)

theorem mem_lowerChar_iff (char : Char) : '\\' ∈ lowerChar char ↔ char = '\\' := by
  have basic : ∀ code < 0x80, (Char.ofNat code).toLower = '\\' ↔ Char.ofNat code = '\\' := by
    decide
  -- Beyond the basic letters no lower-case form comes near the backslash.
  have beyond : ∀ range ∈ lowerRanges, (0x5C : Int) < range.first + range.offset := by
    decide +kernel
  unfold lowerChar
  split
  · rename_i isBasic
    have same := basic char.toNat isBasic
    rw [Char.ofNat_toNat] at same
    rw [List.mem_singleton, eq_comm, same]
  · rename_i notBasic
    have notBackslash : char ≠ '\\' := by
      rintro rfl
      exact notBasic (by decide)
    split
    · have notDotted : '\\' ∉ ['i', Char.ofNat 0x307] := by decide
      simp only [notDotted, notBackslash]
    · split
      · rename_i range found
        have above := beyond range (List.mem_of_find?_eq_some found)
        have isContained := List.find?_some found
        simp only [CaseRange.contains, Bool.and_eq_true, decide_eq_true_eq] at isContained
        have notLowered : '\\' ≠ Char.ofNat (range.apply char.toNat) := by
          intro same
          have isCode := eq_of_ofNat_eq_backslash same.symm
          rw [CaseRange.apply] at isCode
          omega
        simp only [List.mem_singleton, notLowered, notBackslash]
      · rw [List.mem_singleton, eq_comm]

theorem mem_lowerFrom_iff (before chars : List Char) :
    '\\' ∈ lowerFrom before chars ↔ '\\' ∈ chars := by
  induction chars generalizing before with
  | nil => rfl
  | cons char rest ih =>
      have small : '\\' ≠ finalSigma ∧ '\\' ≠ smallSigma ∧ '\\' ≠ capitalSigma := by decide
      rw [lowerFrom, List.mem_append, ih, List.mem_cons]
      split
      · rename_i isSigma
        subst isSigma
        split <;> simp [small]
      · rw [mem_lowerChar_iff, eq_comm]

theorem mem_lower_iff (text : String) : '\\' ∈ (lower text).toList ↔ '\\' ∈ text.toList := by
  rw [lower, String.toList_ofList, mem_lowerFrom_iff]

end Text

end QuerySql

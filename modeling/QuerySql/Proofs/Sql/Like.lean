import Mathlib.Data.List.Infix
import QuerySql.Sql.Literal

namespace QuerySql

namespace Sql

def firstThen (accepts : Char → Bool) (next : List Char → Bool) : List Char → Bool
  | [] => false
  | char :: rest => accepts char && next rest

/-- Whether a pattern matches a text.  One that ends in a backslash matches none. -/
def isLike : List Char → List Char → Bool
  | [] => List.isEmpty
  | '%' :: pattern => fun text => text.tails.any (isLike pattern)
  | '_' :: pattern => firstThen (fun _ => true) (isLike pattern)
  | ['\\'] => fun _ => false
  | '\\' :: char :: pattern => firstThen (· == char) (isLike pattern)
  | char :: pattern => firstThen (· == char) (isLike pattern)

theorem firstThen_eq_iff {char : Char} {next : List Char → Bool} {text : List Char} :
    firstThen (· == char) next text = true ↔ ∃ rest, text = char :: rest ∧ next rest = true := by
  cases text with
  | nil => simp [firstThen]
  | cons first rest => simp [firstThen]

theorem isLike_nil_iff {text : List Char} : isLike [] text = true ↔ text = [] :=
  List.isEmpty_iff

theorem isLike_sequence_iff {pattern text : List Char} :
    isLike ('%' :: pattern) text = true ↔ ∃ rest, rest <:+ text ∧ isLike pattern rest = true := by
  simp only [isLike, List.any_eq_true, List.mem_tails]

theorem isLike_sequence (text : List Char) : isLike ['%'] text = true :=
  isLike_sequence_iff.mpr ⟨[], List.nil_suffix, rfl⟩

theorem isLike_escapePatternChar (char : Char) (pattern : List Char) :
    isLike (escapePatternChar char ++ pattern) = firstThen (· == char) (isLike pattern) := by
  rw [escapePatternChar]
  split
  · rfl
  · rename_i plain
    simp only [Bool.or_eq_true, decide_eq_true_eq, not_or] at plain
    obtain ⟨⟨notBackslash, notSequence⟩, notAny⟩ := plain
    rw [List.singleton_append, isLike]
    · exact fun isSequence => notSequence isSequence
    · exact fun isAny => notAny isAny
    · exact fun isBackslash _ => notBackslash isBackslash
    · exact fun _ _ isBackslash => absurd isBackslash notBackslash

theorem isLike_escaped_append_iff {chars pattern text : List Char} :
    isLike (chars.flatMap escapePatternChar ++ pattern) text = true ↔
      ∃ rest, text = chars ++ rest ∧ isLike pattern rest = true := by
  induction chars generalizing text with
  | nil => simp
  | cons char others ih =>
      rw [List.flatMap_cons, List.append_assoc, isLike_escapePatternChar, firstThen_eq_iff]
      constructor
      · rintro ⟨behind, rfl, matchesBehind⟩
        obtain ⟨rest, rfl, matchesRest⟩ := ih.mp matchesBehind
        exact ⟨rest, rfl, matchesRest⟩
      · rintro ⟨rest, rfl, matchesRest⟩
        exact ⟨others ++ rest, rfl, ih.mpr ⟨rest, rfl, matchesRest⟩⟩

theorem isLike_escaped_iff {chars text : List Char} :
    isLike (chars.flatMap escapePatternChar) text = true ↔ text = chars := by
  have behind := @isLike_escaped_append_iff chars [] text
  rw [List.append_nil] at behind
  simp only [behind, isLike_nil_iff, exists_eq_right, List.append_nil]

end Sql

namespace TextMatch

open Sql

/-- What a match asks of a text: that it matches the operand as a pattern, or that it holds the
operand, begins with it or ends with it. -/
def Accepts (kind : TextMatch) (operand text : List Char) : Prop :=
  match kind with
  | .like => isLike operand text = true
  | .contains => operand <:+: text
  | .startsWith => operand <+: text
  | .endsWith => operand <:+ text

instance (kind : TextMatch) (operand text : List Char) : Decidable (kind.Accepts operand text) :=
  match kind with
  | .like => inferInstanceAs (Decidable (isLike operand text = true))
  | .contains => inferInstanceAs (Decidable (operand <:+: text))
  | .startsWith => inferInstanceAs (Decidable (operand <+: text))
  | .endsWith => inferInstanceAs (Decidable (operand <:+ text))

/-- The pattern of an operand matches what the operand asks for. -/
theorem isLike_pattern_iff (kind : TextMatch) (operand text : String) :
    isLike (kind.pattern operand).toList text.toList = true ↔
      kind.Accepts operand.toList text.toList := by
  cases kind with
  | like => simp [pattern, before, after, isLiteral, Accepts]
  | contains =>
      have chars : (pattern .contains operand).toList =
          '%' :: (operand.toList.flatMap escapePatternChar ++ ['%']) := by
        simp [pattern, before, after, isLiteral, escapePattern]
      rw [chars, isLike_sequence_iff, Accepts, List.infix_iff_prefix_suffix]
      refine exists_congr fun behind => ?_
      rw [isLike_escaped_append_iff, and_comm]
      simp only [isLike_sequence, and_true, List.IsPrefix, eq_comm]
  | startsWith =>
      have chars : (pattern .startsWith operand).toList =
          operand.toList.flatMap escapePatternChar ++ ['%'] := by
        simp [pattern, before, after, isLiteral, escapePattern]
      rw [chars, isLike_escaped_append_iff, Accepts]
      simp only [isLike_sequence, and_true, List.IsPrefix, eq_comm]
  | endsWith =>
      have chars : (pattern .endsWith operand).toList =
          '%' :: operand.toList.flatMap escapePatternChar := by
        simp [pattern, before, after, isLiteral, escapePattern]
      rw [chars, isLike_sequence_iff, Accepts]
      simp only [isLike_escaped_iff, exists_eq_right]

end TextMatch

end QuerySql

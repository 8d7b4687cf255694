import Mathlib.Algebra.GroupWithZero.Nat
import QuerySql.Proofs.Sql.Blanked
import QuerySql.Proofs.Sql.Words

namespace QuerySql

namespace Sql

def occurrences (target : List Char) : List Char → Nat
  | [] => 0
  | char :: rest => (if target.isPrefixOf (char :: rest) then 1 else 0) + occurrences target rest

section Occurrences

variable {first char : Char} {target front : List Char}

theorem occurrences_append_of_notMem (notMem : first ∉ front) (back : List Char) :
    occurrences (first :: target) (front ++ back) = occurrences (first :: target) back := by
  induction front with
  | nil => rfl
  | cons other rest ih =>
      obtain ⟨differs, notInRest⟩ := not_or.mp (List.mem_cons.not.mp notMem)
      rw [List.cons_append, occurrences, List.isPrefixOf_cons_cons, beq_false_of_ne differs,
        Bool.false_and, if_neg Bool.false_ne_true, ih notInRest, Nat.zero_add]

theorem isPrefixOf_append_cons (foreign : char ∉ target) (front back : List Char) :
    target.isPrefixOf (front ++ char :: back) = target.isPrefixOf front := by
  induction target generalizing front with
  | nil => simp
  | cons sign rest ih =>
      obtain ⟨differs, notInRest⟩ := not_or.mp (List.mem_cons.not.mp foreign)
      cases front with
      | nil =>
          rw [List.nil_append, List.isPrefixOf_cons_cons, beq_false_of_ne (Ne.symm differs),
            Bool.false_and]
          rfl
      | cons other others =>
          rw [List.cons_append, List.isPrefixOf_cons_cons, List.isPrefixOf_cons_cons, ih notInRest]

theorem occurrences_append_cons (foreign : char ∉ first :: target) (front back : List Char) :
    occurrences (first :: target) (front ++ char :: back) =
      occurrences (first :: target) front + occurrences (first :: target) back := by
  induction front with
  | nil =>
      have notFirst : first ∉ [char] := by
        simpa using (List.ne_of_not_mem_cons foreign).symm
      rw [occurrences, Nat.zero_add]
      exact occurrences_append_of_notMem notFirst back
  | cons other rest ih =>
      rw [List.cons_append, occurrences, occurrences, ih, ← List.cons_append,
        isPrefixOf_append_cons foreign, Nat.add_assoc]

/-- A way to write signs that leaves those of the target as they are and brings none of them in. -/
structure Spares (target : List Char) (write : Char → List Char) : Prop where
  own : ∀ char ∈ target, write char = [char]
  other : ∀ char ∉ target, ∃ next rest, write char = next :: rest ∧
    ∀ sign ∈ next :: rest, sign ∉ target

variable {write : Char → List Char}

theorem Spares.isPrefixOf_flatMap {part : List Char} (spares : Spares target write)
    (isPart : ∀ sign ∈ part, sign ∈ target) (chars : List Char) :
    part.isPrefixOf (chars.flatMap write) = part.isPrefixOf chars := by
  induction part generalizing chars with
  | nil => simp
  | cons sign rest ih =>
      obtain ⟨isSign, restIsPart⟩ := List.forall_mem_cons.mp isPart
      cases chars with
      | nil => rfl
      | cons char others =>
          rw [List.flatMap_cons, List.isPrefixOf_cons_cons]
          by_cases own : char ∈ target
          · rw [spares.own char own, List.singleton_append, List.isPrefixOf_cons_cons,
              ih restIsPart]
          · obtain ⟨next, written, isWritten, foreign⟩ := spares.other char own
            have notNext : (sign == next) = false :=
              beq_false_of_ne (ne_of_mem_of_not_mem isSign (foreign next List.mem_cons_self))
            have notChar : (sign == char) = false :=
              beq_false_of_ne (ne_of_mem_of_not_mem isSign own)
            rw [isWritten, List.cons_append, List.isPrefixOf_cons_cons, notNext, notChar,
              Bool.false_and, Bool.false_and]

theorem Spares.occurrences_flatMap (spares : Spares (first :: target) write) (chars : List Char) :
    occurrences (first :: target) (chars.flatMap write) = occurrences (first :: target) chars := by
  induction chars with
  | nil => rfl
  | cons char rest ih =>
      have begins := spares.isPrefixOf_flatMap (fun _ => id) (char :: rest)
      rw [List.flatMap_cons] at begins ⊢
      rw [occurrences, ← begins, ← ih]
      by_cases own : char ∈ first :: target
      · rw [spares.own char own, List.singleton_append, occurrences]
      · obtain ⟨next, written, isWritten, foreign⟩ := spares.other char own
        have notFirst : first ∉ next :: written := fun member =>
          foreign first member List.mem_cons_self
        have notNext : first ≠ next := List.ne_of_not_mem_cons notFirst
        rw [isWritten, occurrences_append_of_notMem notFirst, List.cons_append,
          List.isPrefixOf_cons_cons, beq_false_of_ne notNext, Bool.false_and,
          if_neg Bool.false_ne_true, Nat.zero_add]

end Occurrences

theorem forall_mem_marker {holds : Char → Prop} :
    (∀ sign ∈ parentKeyMarker.toList, holds sign) ↔ holds '^' ∧ holds '?' := by
  have signs : parentKeyMarker.toList = ['^', '?', '^'] := by decide
  rw [signs, List.forall_mem_cons, List.forall_mem_cons, List.forall_mem_singleton]
  exact ⟨fun ⟨caret, question, _⟩ => ⟨caret, question⟩,
    fun ⟨caret, question⟩ => ⟨caret, question, caret⟩⟩

def Caretless (text : String) : Prop :=
  '^' ∉ text.toList

instance (text : String) : Decidable (Caretless text) :=
  inferInstanceAs (Decidable (_ ∉ _))

theorem Caretless.append {front back : String} (frontCaretless : Caretless front)
    (backCaretless : Caretless back) : Caretless (front ++ back) := by
  rw [Caretless, String.toList_append, List.mem_append]
  exact not_or.mpr ⟨frontCaretless, backCaretless⟩

def markers (text : String) : Nat :=
  occurrences parentKeyMarker.toList text.toList

theorem markers_empty : markers "" = 0 := rfl

theorem markers_append_of_caretless {front : String} (caretless : Caretless front)
    (back : String) : markers (front ++ back) = markers back := by
  rw [markers, String.toList_append]
  exact occurrences_append_of_notMem caretless _

theorem markers_append_ofList_cons {char : Char} (foreign : char ∉ parentKeyMarker.toList)
    (front : String) (back : List Char) :
    markers (front ++ String.ofList (char :: back)) =
      markers front + markers (String.ofList back) := by
  rw [markers, String.toList_append, String.toList_ofList, markers, markers, String.toList_ofList]
  exact occurrences_append_cons foreign _ _

theorem markers_ofList_cons {char : Char} (foreign : char ∉ parentKeyMarker.toList)
    (back : List Char) : markers (String.ofList (char :: back)) = markers (String.ofList back) := by
  have behindNothing := markers_append_ofList_cons foreign "" back
  rwa [String.empty_append, markers_empty, Nat.zero_add] at behindNothing

theorem markers_doubleQuoted_append (text back : String) :
    markers (doubleQuoted text ++ back) = markers text + markers back := by
  have closing : "\"" ++ back = String.ofList ('"' :: back.toList) := by
    rw [← List.singleton_append, String.ofList_append, String.ofList_toList]
  rw [doubleQuoted, String.append_assoc, String.append_assoc,
    markers_append_of_caretless (by decide), closing, markers_append_ofList_cons (by decide),
    String.ofList_toList]

theorem markers_marker_append {text : String} (opens : opensApart text) :
    markers (parentKeyMarker ++ text) = 1 + markers text := by
  obtain ⟨char, isFirst, isBreakChar⟩ := (Option.any_eq_true _ _).mp opens
  obtain ⟨rest, chars⟩ := List.head?_eq_some_iff.mp isFirst
  have foreign : char ∉ parentKeyMarker.toList := by
    intro member
    have noBreaks : ∀ sign ∈ parentKeyMarker.toList, isBreak sign = false :=
      forall_mem_marker.mpr (by decide)
    rw [noBreaks char member] at isBreakChar
    cases isBreakChar
  have isText : text = String.ofList (char :: rest) := by rw [← chars, String.ofList_toList]
  have one : markers parentKeyMarker = 1 := by decide
  rw [isText, markers_append_ofList_cons foreign, one, markers_ofList_cons foreign]

theorem exists_escaped {letter : Char} (foreign : letter ∉ parentKeyMarker.toList) :
    ∃ next rest, ['\\', letter] = next :: rest ∧
      ∀ sign ∈ next :: rest, sign ∉ parentKeyMarker.toList :=
  ⟨'\\', [letter], rfl,
    List.forall_mem_cons.mpr ⟨by decide, List.forall_mem_singleton.mpr foreign⟩⟩

theorem spares_escapeLiteralChar (inPattern : Bool) :
    Spares parentKeyMarker.toList (escapeLiteralChar inPattern) where
  own := forall_mem_marker.mpr (by cases inPattern <;> decide)
  other char foreign := by
    unfold escapeLiteralChar
    split
    · exact exists_escaped (by decide)
    split
    · exact exists_escaped (by decide)
    split
    · exact exists_escaped (by decide)
    split
    · exact exists_escaped (by decide)
    split
    · exact exists_escaped (by decide)
    split
    · exact exists_escaped (by decide)
    split
    · exact exists_escaped foreign
    split
    · exact exists_escaped foreign
    · exact ⟨char, [], rfl, List.forall_mem_singleton.mpr foreign⟩

theorem spares_escapePatternChar : Spares parentKeyMarker.toList escapePatternChar where
  own := forall_mem_marker.mpr (by decide)
  other char foreign := by
    unfold escapePatternChar
    split
    · exact exists_escaped foreign
    · exact ⟨char, [], rfl, List.forall_mem_singleton.mpr foreign⟩

theorem markers_escapeLiteral (inPattern : Bool) (text : String) :
    markers (escapeLiteral inPattern text) = markers text := by
  rw [markers, escapeLiteral, String.toList_ofList]
  exact (spares_escapeLiteralChar inPattern).occurrences_flatMap text.toList

theorem markers_escapePattern (text : String) : markers (escapePattern text) = markers text := by
  rw [markers, escapePattern, String.toList_ofList]
  exact spares_escapePatternChar.occurrences_flatMap text.toList

theorem markers_affixed (kind : TextMatch) (text : String) :
    markers (kind.before ++ text ++ kind.after) = markers text := by
  have before : Caretless kind.before := by cases kind <;> decide
  rw [String.append_assoc, markers_append_of_caretless before]
  have behindPercent : markers (text ++ "%") = markers text := by
    have appended := markers_append_ofList_cons (by decide : '%' ∉ parentKeyMarker.toList) text []
    exact appended
  cases kind with
  | like | endsWith => rw [TextMatch.after, String.append_empty]
  | contains | startsWith => exact behindPercent

theorem markers_pattern (kind : TextMatch) (text : String) :
    markers (kind.pattern text) = markers text := by
  rw [TextMatch.pattern, markers_affixed]
  split
  · exact markers_escapePattern text
  · rfl

theorem markers_patternLiteral_append (kind : TextMatch) (text back : String) :
    markers (kind.patternLiteral text ++ back) = markers (kind.pattern text) + markers back := by
  rw [TextMatch.patternLiteral, markers_doubleQuoted_append, markers_affixed,
    markers_escapeLiteral, markers_pattern]

end Sql

def Value.markers : Value → Nat
  | .string text => Sql.markers text
  | _ => 0

theorem Value.markers_of_not_isString {value : Value} (scalar : value.isString = false) :
    value.markers = 0 := by
  cases value <;> first | rfl | cases scalar

/-- The markers that values bring into a text, which they do where they are not bound. -/
def Dialect.inlinedMarkers (dialect : Dialect) (values : List Value) : Nat :=
  if dialect.parameterized then 0 else (values.map Value.markers).sum

theorem Dialect.inlinedMarkers_append (dialect : Dialect) (front back : List Value) :
    dialect.inlinedMarkers (front ++ back) =
      dialect.inlinedMarkers front + dialect.inlinedMarkers back := by
  unfold inlinedMarkers
  split
  · rfl
  · rw [List.map_append, List.sum_append]

theorem Dialect.inlinedMarkers_eq_zero_iff (dialect : Dialect) (values : List Value) :
    dialect.inlinedMarkers values = 0 ↔
      dialect.parameterized ∨ ∀ text, .string text ∈ values → Sql.markers text = 0 := by
  have each : (∀ value ∈ values, value.markers = 0) ↔
      ∀ text, .string text ∈ values → Sql.markers text = 0 := by
    refine ⟨fun none text member => none _ member, fun none value member => ?_⟩
    cases value with
    | string text => exact none text member
    | _ => rfl
  rw [inlinedMarkers, ← each]
  split
  · rename_i parameterized
    exact iff_of_true rfl (.inl parameterized)
  · rename_i inline
    rw [List.sum_eq_zero_iff_forall_eq_nat, List.forall_mem_map]
    exact (or_iff_right inline).symm

namespace Sql

theorem markers_literal_append (value : Value) (back : String) :
    markers (literal value ++ back) = value.normalized.markers + markers back := by
  rcases literal_cases value with ⟨text, isText, isQuoted⟩ | ⟨notText, scalar⟩
  · rw [isQuoted, markers_doubleQuoted_append, markers_escapeLiteral, isText, Value.markers]
  · have caretless : Caretless (literal value) := notMem_of_isScalarText scalar (by decide)
    rw [markers_append_of_caretless caretless, Value.markers_of_not_isString notText, Nat.zero_add]

theorem mem_of_mem_doubleQuotes {quote char : Char} {name : List Char}
    (member : char ∈ doubleQuotes quote name) : char ∈ name := by
  induction name with
  | nil => cases member
  | cons other rest ih =>
      rw [doubleQuotes] at member
      split at member
      · rename_i isQuote
        rcases List.mem_cons.mp member with rfl | member
        · exact isQuote ▸ List.mem_cons_self
        · rcases List.mem_cons.mp member with rfl | inRest
          · exact isQuote ▸ List.mem_cons_self
          · exact List.mem_cons_of_mem other (ih inRest)
      · rcases List.mem_cons.mp member with rfl | inRest
        · exact List.mem_cons_self
        · exact List.mem_cons_of_mem other (ih inRest)

theorem caretless_identifier {quote : Char} (notCaret : quote ≠ '^') {name : String}
    (caretless : Caretless name) : Caretless (identifier quote name) := by
  rw [Caretless, identifier, String.toList_ofList, identifierChars]
  intro member
  rcases List.mem_append.mp member with inFront | closes
  · rcases List.mem_cons.mp inFront with opens | inName
    · exact notCaret opens.symm
    · exact caretless (mem_of_mem_doubleQuotes inName)
  · exact notCaret (List.mem_singleton.mp closes).symm

theorem caretless_decimal (number : Nat) : Caretless (Text.decimal number) :=
  notMem_of_isScalarText (isScalarText_decimal number) (by decide)

theorem caretless_placeholder (number : Nat) : Caretless (Bindings.placeholder number) :=
  Caretless.append (by decide) (caretless_decimal number)

namespace Fragment

/-- Apart from values, the fragment writes no sign that begins a marker. -/
def Bare : Fragment → Prop
  | .fixed text | .quoted text | .verbatim text => Caretless text
  | .operand _ | .pattern _ _ => True
  | .parentKey => False

instance : DecidablePred Bare
  | .fixed _ | .quoted _ | .verbatim _ => inferInstanceAs (Decidable (Caretless _))
  | .operand _ | .pattern _ _ => inferInstanceAs (Decidable True)
  | .parentKey => inferInstanceAs (Decidable False)

def name? : Fragment → Option String
  | .quoted name => some name
  | _ => none

theorem Speak.bare {words : List String} {fragments : List Fragment}
    (speak : Speak words fragments) (spoken : ∀ word ∈ words, Caretless word)
    (names : ∀ name ∈ fragments.filterMap name?, Caretless name) :
    Every Bare fragments := by
  intro fragment member
  have speaks := speak fragment member
  cases fragment with
  | fixed text => exact spoken text speaks
  | quoted name => exact names name (List.mem_filterMap.mpr ⟨_, member, rfl⟩)
  | operand value => trivial
  | pattern kind text => trivial
  | verbatim text => exact speaks.elim
  | parentKey => exact speaks.elim

variable {dialect : Dialect} {fragment : Fragment} {fragments : List Fragment}

theorem markers_emit_append (notCaret : dialect.quote ≠ '^') (bare : fragment.Bare)
    (bindings : Bindings) (back : String) :
    markers ((fragment.emit dialect bindings).1 ++ back) =
      dialect.inlinedMarkers (bound [fragment]) + markers back := by
  have brings {text : String} {values : List Value} (caretless : Caretless text)
      (none : dialect.inlinedMarkers values = 0) :
      markers (text ++ back) = dialect.inlinedMarkers values + markers back := by
    rw [markers_append_of_caretless caretless, none, Nat.zero_add]
  have nothing : dialect.inlinedMarkers [] = 0 := ite_self 0
  cases fragment with
  | fixed text => exact brings bare nothing
  | quoted name => exact brings (caretless_identifier notCaret bare) nothing
  | verbatim text => exact brings bare nothing
  | operand value =>
      cases parameterized : dialect.parameterized with
      | true =>
          rw [emit, if_pos parameterized]
          exact brings (caretless_placeholder _) (if_pos parameterized)
      | false => simp [emit, parameterized, markers_literal_append, Dialect.inlinedMarkers, bound]
  | pattern kind text =>
      cases parameterized : dialect.parameterized with
      | true =>
          rw [emit, if_pos parameterized]
          exact brings (caretless_placeholder _) (if_pos parameterized)
      | false =>
          simp [emit, parameterized, markers_patternLiteral_append, Dialect.inlinedMarkers, bound,
            Value.markers]
  | parentKey => exact bare.elim

/-- In a text of fragments that write none of their own, markers come from values only. -/
theorem markers_emitAll_append (notCaret : dialect.quote ≠ '^')
    (bare : Every Bare fragments) (bindings : Bindings) (back : String) :
    markers ((emitAll dialect bindings fragments).1 ++ back) =
      dialect.inlinedMarkers (bound fragments) + markers back := by
  induction fragments generalizing bindings with
  | nil =>
      have nothing : dialect.inlinedMarkers [] = 0 := ite_self 0
      rw [emitAll_nil, String.empty_append, bound, nothing, Nat.zero_add]
  | cons fragment rest ih =>
      obtain ⟨first, others⟩ := List.forall_mem_cons.mp bare
      have parts : bound (fragment :: rest) = bound [fragment] ++ bound rest :=
        bound_append [fragment] rest
      rw [emitAll_cons, String.append_assoc, markers_emit_append notCaret first, ih others, parts,
        Dialect.inlinedMarkers_append, Nat.add_assoc]

theorem markers_emitAll (notCaret : dialect.quote ≠ '^')
    (bare : Every Bare fragments) (bindings : Bindings) :
    markers (emitAll dialect bindings fragments).1 = dialect.inlinedMarkers (bound fragments) := by
  have appended := markers_emitAll_append notCaret bare bindings ""
  rwa [String.append_empty, markers_empty, Nat.add_zero] at appended

theorem caretless_emitAll (notCaret : dialect.quote ≠ '^') (bare : Every Bare fragments)
    (unbound : bound fragments = []) (bindings : Bindings) :
    Caretless (emitAll dialect bindings fragments).1 := by
  induction fragments generalizing bindings with
  | nil => exact List.not_mem_nil
  | cons fragment rest ih =>
      obtain ⟨first, others⟩ := List.forall_mem_cons.mp bare
      rw [emitAll_cons]
      cases fragment with
      | fixed text | verbatim text => exact Caretless.append first (ih others unbound _)
      | quoted name =>
          exact (caretless_identifier notCaret first).append (ih others unbound _)
      | operand value => cases unbound
      | pattern kind text => cases unbound
      | parentKey => exact first.elim

theorem opensApart_emitAll (opens : Opens fragments) (notNil : fragments ≠ [])
    (bindings : Bindings) : opensApart (emitAll dialect bindings fragments).1 := by
  obtain ⟨fragment, rest, rfl⟩ := List.exists_cons_of_ne_nil notNil
  have first : fragment.opens := opens fragment rfl
  cases fragment with
  | fixed text => exact opensApart_append first
  | quoted name => cases first
  | verbatim text => cases first
  | operand value => cases first
  | pattern kind text => cases first
  | parentKey => cases first

theorem markers_around_parentKey (notCaret : dialect.quote ≠ '^') {front back : List Fragment}
    (frontBare : Every Bare front) (backBare : Every Bare back) (opens : Opens back)
    (notNil : back ≠ []) :
    markers (text dialect (front ++ .parentKey :: back)) =
      1 + dialect.inlinedMarkers (bound (front ++ .parentKey :: back)) := by
  have values : bound (front ++ .parentKey :: back) = bound front ++ bound back :=
    bound_append front (.parentKey :: back)
  rw [text, emitAll_append, markers_emitAll_append notCaret frontBare, emitAll_cons, emit,
    markers_marker_append (opensApart_emitAll opens notNil _), markers_emitAll notCaret backBare,
    values, Dialect.inlinedMarkers_append, Nat.add_left_comm]

end Fragment

end Sql

end QuerySql

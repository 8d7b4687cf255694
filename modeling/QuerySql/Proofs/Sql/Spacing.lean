import Mathlib.Data.List.Chain
import QuerySql.Predicate.Basic

/-!
Spacing of fragments.  Names and placeholders that stand side by side would be read as one, so
between any two fragments the text has a break: a blank, a parenthesis, a comma or a point.
-/

namespace QuerySql.Sql

def isBreak (char : Char) : Bool :=
  char = ' ' || char = '(' || char = ')' || char = ',' || char = '.'

def isPlain (char : Char) : Bool :=
  char ≠ '$' && char ≠ '"' && char ≠ '`'

theorem isPlain_of_isDigit {char : Char} (digit : char.isDigit) : isPlain char := by
  have notDollar : char ≠ '$' := by rintro rfl; exact absurd digit (by decide)
  have notQuote : char ≠ '"' := by rintro rfl; exact absurd digit (by decide)
  have notBacktick : char ≠ '`' := by rintro rfl; exact absurd digit (by decide)
  simp [isPlain, notDollar, notQuote, notBacktick]

theorem isDigit_of_mem_decimal {number : Nat} {char : Char}
    (member : char ∈ (Text.decimal number).toList) : char.isDigit := by
  rw [Text.decimal, String.toList_ofList] at member
  exact Nat.isDigit_of_mem_toDigits (by decide) (by decide) member

def opensApart (text : String) : Bool :=
  text.toList.head?.any isBreak

def closesApart (text : String) : Bool :=
  text.toList.getLast?.any isBreak

def isPlainText (text : String) : Bool :=
  text.toList.all isPlain

def leads (text : String) : Bool :=
  closesApart text && isPlainText text

def trails (text : String) : Bool :=
  opensApart text && isPlainText text

def links (text : String) : Bool :=
  leads text && trails text

theorem leads_of_links {text : String} (isLink : links text) : leads text := by
  rw [links, Bool.and_eq_true] at isLink
  exact isLink.1

theorem trails_of_links {text : String} (isLink : links text) : trails text := by
  rw [links, Bool.and_eq_true] at isLink
  exact isLink.2

theorem opensApart_append {front back : String} (opens : opensApart front) :
    opensApart (front ++ back) := by
  unfold opensApart at opens ⊢
  rw [String.toList_append]
  cases frontChars : front.toList with
  | nil => simp [frontChars] at opens
  | cons char rest => simpa [frontChars] using opens

theorem isPlainText_append {front back : String} (frontPlain : isPlainText front)
    (backPlain : isPlainText back) : isPlainText (front ++ back) := by
  unfold isPlainText at frontPlain backPlain ⊢
  rw [String.toList_append, List.all_append, frontPlain, backPlain]
  rfl

theorem trails_append {front back : String} (frontTrails : trails front)
    (backPlain : isPlainText back) : trails (front ++ back) := by
  rw [trails, Bool.and_eq_true] at frontTrails ⊢
  exact ⟨opensApart_append frontTrails.1, isPlainText_append frontTrails.2 backPlain⟩

theorem isPlainText_decimal (number : Nat) : isPlainText (Text.decimal number) := by
  rw [isPlainText, List.all_eq_true]
  intro char member
  exact isPlain_of_isDigit (isDigit_of_mem_decimal member)

namespace Fragment

def opens : Fragment → Bool
  | .fixed text => opensApart text
  | _ => false

def closes : Fragment → Bool
  | .fixed text => closesApart text
  | _ => false

def Apart (first second : Fragment) : Prop :=
  first.closes ∨ second.opens

/-- The language's own text is plain, and copied text does not touch placeholders or identifiers. -/
def Clean (quote : Char) : Fragment → Prop
  | .fixed text => isPlainText text
  | .verbatim text => '$' ∉ text.toList ∧ quote ∉ text.toList
  | _ => True

def Opens (fragments : List Fragment) : Prop :=
  ∀ fragment ∈ fragments.head?, fragment.opens

def Closes (fragments : List Fragment) : Prop :=
  ∀ fragment ∈ fragments.getLast?, fragment.closes

structure Tidy (quote : Char) (fragments : List Fragment) : Prop where
  spaced : fragments.IsChain Apart
  clean : ∀ fragment ∈ fragments, fragment.Clean quote

theorem opens_append {front back : List Fragment} (frontOpens : Opens front)
    (backOpens : Opens back) : Opens (front ++ back) := by
  cases front with
  | nil => exact backOpens
  | cons fragment rest => exact frontOpens

theorem closes_append {front back : List Fragment} (frontCloses : Closes front)
    (backCloses : Closes back) : Closes (front ++ back) := by
  intro fragment last
  rw [List.getLast?_append] at last
  cases backLast : back.getLast? with
  | none =>
      rw [backLast] at last
      exact frontCloses fragment last
  | some final =>
      rw [backLast] at last
      exact backCloses fragment (by rwa [backLast])

theorem opens_fixed {text : String} (opens : opensApart text) (rest : List Fragment) :
    Opens (.fixed text :: rest) := by
  intro fragment first
  cases first
  exact opens

theorem closes_fixed {text : String} (closes : closesApart text) (front : List Fragment) :
    Closes (front ++ [.fixed text]) := by
  intro fragment last
  rw [List.getLast?_concat] at last
  cases last
  exact closes

namespace Tidy

variable {quote : Char} {front back fragments : List Fragment} {text : String}

theorem nil : Tidy quote [] :=
  ⟨.nil, by simp⟩

theorem single (fragment : Fragment) (clean : fragment.Clean quote) : Tidy quote [fragment] :=
  ⟨.singleton _, by simpa using clean⟩

theorem fixed (plain : isPlainText text) : Tidy quote [.fixed text] :=
  single (.fixed text) plain

theorem quoted (name : String) : Tidy quote [.quoted name] :=
  single (.quoted name) trivial

theorem operand (value : Value) : Tidy quote [.operand value] :=
  single (.operand value) trivial

theorem pattern (kind : TextMatch) (text : String) : Tidy quote [.pattern kind text] :=
  single (.pattern kind text) trivial

private theorem append (frontTidy : Tidy quote front) (backTidy : Tidy quote back)
    (apart : ∀ last ∈ front.getLast?, ∀ first ∈ back.head?, Apart last first) :
    Tidy quote (front ++ back) where
  spaced := frontTidy.spaced.append backTidy.spaced apart
  clean := by
    intro fragment member
    rcases List.mem_append.mp member with inFront | inBack
    · exact frontTidy.clean fragment inFront
    · exact backTidy.clean fragment inBack

theorem append_of_opens (frontTidy : Tidy quote front) (backTidy : Tidy quote back)
    (opens : Opens back) : Tidy quote (front ++ back) :=
  frontTidy.append backTidy fun _ _ first isFirst => .inr (opens first isFirst)

theorem append_of_closes (frontTidy : Tidy quote front) (backTidy : Tidy quote back)
    (closes : Closes front) : Tidy quote (front ++ back) :=
  frontTidy.append backTidy fun last isLast _ _ => .inl (closes last isLast)

theorem lead (tidy : Tidy quote fragments) (text : String) (isLead : leads text) :
    Tidy quote (.fixed text :: fragments) := by
  rw [leads, Bool.and_eq_true] at isLead
  exact (fixed isLead.2).append_of_closes tidy (closes_fixed isLead.1 [])

theorem trail (tidy : Tidy quote fragments) (text : String) (isTrail : trails text) :
    Tidy quote (fragments ++ [.fixed text]) := by
  rw [trails, Bool.and_eq_true] at isTrail
  exact tidy.append_of_opens (fixed isTrail.2) (opens_fixed isTrail.1 [])

theorem link (frontTidy : Tidy quote front) (text : String) (backTidy : Tidy quote back)
    (isLink : links text) : Tidy quote (front ++ .fixed text :: back) := by
  have isTrail := trails_of_links isLink
  rw [trails, Bool.and_eq_true] at isTrail
  exact frontTidy.append_of_opens (backTidy.lead text (leads_of_links isLink))
    (opens_fixed isTrail.1 back)

theorem separated (text : String) {parts : List (List Fragment)}
    (tidy : ∀ part ∈ parts, Tidy quote part) (isLink : links text) :
    Tidy quote (Fragment.separated text parts) := by
  induction parts with
  | nil => exact .nil
  | cons part rest ih =>
      have partTidy := tidy part List.mem_cons_self
      cases rest with
      | nil => exact partTidy
      | cons next rest =>
          exact partTidy.link text
            (ih fun other member => tidy other (List.mem_cons_of_mem part member)) isLink

end Tidy

end Fragment

open Fragment

theorem ColumnRef.tidy (quote : Char) (ref : ColumnRef) : Tidy quote ref.fragments :=
  (Tidy.quoted ref.qualifier).link "." (Tidy.quoted ref.column) (by decide)

theorem tidy_tableFragments (quote : Char) (dialect : Dialect) (table : String) :
    Tidy quote (tableFragments dialect table) := by
  unfold tableFragments
  split
  · exact (Tidy.quoted _).link "." (Tidy.quoted table) (by decide)
  · exact Tidy.quoted table

theorem tidy_aliasedTable (quote : Char) (dialect : Dialect) (table qualifier : String) :
    Tidy quote (aliasedTable dialect table qualifier) :=
  (tidy_tableFragments quote dialect table).link " AS " (Tidy.quoted qualifier) (by decide)

end QuerySql.Sql

namespace QuerySql

open Sql Sql.Fragment

variable (quote : Char) (dialect : Dialect)

theorem Column.tidy (column : Column) (folded : Bool) :
    Tidy quote (column.fragments folded) := by
  unfold Column.fragments
  split
  · exact ((column.ref.tidy quote).lead "LOWER(" (by decide)).trail ")" (by decide)
  · exact column.ref.tidy quote

namespace Condition

theorem links_relation (relation : Relation) : links (" " ++ relation.sql ++ " ") := by
  cases relation with
  | equal => decide
  | notEqual => decide
  | order comparison => cases comparison <;> decide

theorem links_patternComparator (folded foldsCase : Bool) :
    links (" " ++ patternComparator folded foldsCase ++ " ") := by
  cases folded <;> cases foldsCase <;> decide

theorem tidy (condition : Condition) : Tidy quote (condition.fragments dialect) := by
  cases condition with
  | constant holds => exact Tidy.fixed (by cases holds <;> decide)
  | null column negated =>
      exact (column.tidy quote false).trail _ (by cases negated <;> decide)
  | compare column relation operand =>
      exact (column.tidy quote _).link _ (Tidy.operand _) (links_relation relation)
  | member column negated operands =>
      have operandsTidy (folded : Bool) :
          Tidy quote (Fragment.separated "," (operands.map fun operand =>
            [operandFragment folded operand])) := by
        refine Tidy.separated "," ?_ (by decide)
        intro part isPart
        obtain ⟨operand, _, rfl⟩ := List.mem_map.mp isPart
        exact Tidy.operand _
      let folded := column.isFolded dialect (operands.any Value.isString)
      have listTidy := (operandsTidy folded).trail ")" (by decide)
      have linked := (column.tidy quote folded).link (if negated then " NOT IN (" else " IN (")
        listTidy (by cases negated <;> decide)
      simpa [Condition.fragments, folded] using linked
  | textMatch column kind text =>
      exact (column.tidy quote _).link _ (Tidy.pattern kind _)
        (links_patternComparator _ dialect.foldsCase)

end Condition

namespace Predicate

theorem tidy_parenthesized {fragments : List Fragment} (tidy : Tidy quote fragments) :
    Tidy quote (parenthesized fragments) :=
  (tidy.lead "(" (by decide)).trail ")" (by decide)

theorem links_joiner (connective : Connective) : links connective.joiner := by
  cases connective <;> decide

mutual

theorem tidy (predicate : Predicate) : Tidy quote (predicate.fragments dialect) := by
  cases predicate with
  | condition single => exact single.tidy quote dialect
  | every parts => exact Tidy.separated _ (tidy_parts parts) (by decide)
  | group connective elements =>
      exact tidy_parenthesized quote
        (Tidy.separated _ (tidy_elements elements) (links_joiner connective))
termination_by structural predicate

theorem tidy_parts (parts : List Predicate) :
    ∀ part ∈ partsFragments dialect parts, Tidy quote part := by
  cases parts with
  | nil => simp [partsFragments]
  | cons part rest =>
      intro fragments member
      rcases List.mem_cons.mp member with rfl | inRest
      · exact tidy part
      · exact tidy_parts rest fragments inRest
termination_by structural parts

theorem tidy_elements (elements : List (List Predicate)) :
    ∀ element ∈ elementsFragments dialect elements, Tidy quote element := by
  cases elements with
  | nil => simp [elementsFragments]
  | cons element rest =>
      intro fragments member
      rcases List.mem_cons.mp member with rfl | inRest
      · exact tidy_parenthesized quote (Tidy.separated _ (tidy_parts element) (by decide))
      · exact tidy_elements rest fragments inRest
termination_by structural elements

end

theorem tidy_conjunction (predicates : List Predicate) :
    Tidy quote (conjunction (predicates.map (fragments dialect))) := by
  apply Tidy.separated " AND " _ (by decide)
  intro part member
  obtain ⟨predicate, _, rfl⟩ := List.mem_map.mp member
  exact predicate.tidy quote dialect

end Predicate

end QuerySql

import QuerySql.Proofs.Sql.Token

namespace QuerySql.Sql

namespace Fragment

section Every

variable {holds : Fragment → Prop} {front back : List Fragment} {text : String}

def Every (holds : Fragment → Prop) (fragments : List Fragment) : Prop :=
  ∀ fragment ∈ fragments, holds fragment

namespace Every

theorem nil : Every holds [] :=
  List.forall_mem_nil _

theorem cons {fragment : Fragment} (first : holds fragment) (second : Every holds back) :
    Every holds (fragment :: back) :=
  List.forall_mem_cons.mpr ⟨first, second⟩

theorem append (first : Every holds front) (second : Every holds back) :
    Every holds (front ++ back) :=
  List.forall_mem_append.mpr ⟨first, second⟩

theorem link (first : Every holds front) (word : holds (.fixed text)) (second : Every holds back) :
    Every holds (front ++ .fixed text :: back) :=
  first.append (cons word second)

theorem lead (word : holds (.fixed text)) (second : Every holds back) :
    Every holds (.fixed text :: back) :=
  cons word second

theorem trail (first : Every holds front) (word : holds (.fixed text)) :
    Every holds (front ++ [.fixed text]) :=
  first.link word nil

theorem separated {parts : List (List Fragment)} (word : holds (.fixed text))
    (each : ∀ part ∈ parts, Every holds part) : Every holds (Fragment.separated text parts) := by
  induction parts with
  | nil => exact nil
  | cons part rest ih =>
      obtain ⟨first, others⟩ := List.forall_mem_cons.mp each
      cases rest with
      | nil => exact first
      | cons next rest => exact first.link word (ih others)

theorem ref {ref : ColumnRef} (qualifier : holds (.quoted ref.qualifier))
    (point : holds (.fixed ".")) (column : holds (.quoted ref.column)) :
    Every holds ref.fragments :=
  cons qualifier (lead point (cons column nil))

end Every

end Every

/-- The fragment is a name, a value or one of the words. -/
def Speaks (words : List String) : Fragment → Prop
  | .fixed text => text ∈ words
  | .verbatim _ | .parentKey => False
  | .quoted _ | .operand _ | .pattern _ _ => True

instance (words : List String) : DecidablePred (Speaks words)
  | .fixed _ => inferInstanceAs (Decidable (_ ∈ words))
  | .verbatim _ | .parentKey => inferInstanceAs (Decidable False)
  | .quoted _ | .operand _ | .pattern _ _ => inferInstanceAs (Decidable True)

abbrev Speak (words : List String) (fragments : List Fragment) : Prop :=
  Every (Speaks words) fragments

namespace Speak

variable {words : List String} {fragments : List Fragment}

theorem tokens {holds : Token → Prop} (names : ∀ name, holds (.name name))
    (placeholders : ∀ number, holds (.placeholder number))
    (spoken : ∀ word ∈ words, ∀ token ∈ Token.ofText word, holds token)
    (speak : Speak words fragments) (next : Nat) :
    ∀ token ∈ tokens next fragments, holds token := by
  induction fragments generalizing next with
  | nil => exact List.forall_mem_nil _
  | cons fragment rest ih =>
      obtain ⟨first, others⟩ := List.forall_mem_cons.mp speak
      cases fragment with
      | fixed text => exact List.forall_mem_append.mpr ⟨spoken text first, ih others next⟩
      | quoted name => exact List.forall_mem_cons.mpr ⟨names name, ih others next⟩
      | operand value => exact List.forall_mem_cons.mpr ⟨placeholders next, ih others _⟩
      | pattern kind text => exact List.forall_mem_cons.mpr ⟨placeholders next, ih others _⟩
      | verbatim text => exact first.elim
      | parentKey => exact first.elim

end Speak

end Fragment

end QuerySql.Sql

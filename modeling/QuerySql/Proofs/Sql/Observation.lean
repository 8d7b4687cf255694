import Mathlib.Data.List.Basic
import QuerySql.Sql.Fragment

/-!
What is seen of fragments.  An observation that passes over the words and signs between the parts of
a statement sees of the whole what it sees of the parts; the qualifiers of columns are one.
-/

namespace QuerySql.Sql

namespace Fragment

section Observation

variable {β : Type} {observe : List Fragment → List β}

/-- The observation passes over words and signs, apart from the point within a reference. -/
structure SeesThrough (observe : List Fragment → List β) : Prop where
  nil : observe [] = []
  link : ∀ front text back, text ≠ "." →
    observe (front ++ .fixed text :: back) = observe front ++ observe back

namespace SeesThrough

theorem filterMap {pick : Fragment → Option β} (passes : ∀ text, pick (.fixed text) = none) :
    SeesThrough (List.filterMap pick) where
  nil := rfl
  link front text back _ := by
    rw [List.filterMap_append, List.filterMap_cons_none (passes text)]

theorem fixed (sees : SeesThrough observe) {text : String} (notPoint : text ≠ ".")
    (back : List Fragment) : observe (.fixed text :: back) = observe back := by
  have linked := sees.link [] text back notPoint
  rwa [sees.nil] at linked

theorem trailing (sees : SeesThrough observe) {text : String} (notPoint : text ≠ ".")
    (front : List Fragment) : observe (front ++ [.fixed text]) = observe front := by
  rw [sees.link front text [] notPoint, sees.nil, List.append_nil]

theorem separated (sees : SeesThrough observe) {separator : String} (notPoint : separator ≠ ".")
    (parts : List (List Fragment)) :
    observe (Fragment.separated separator parts) = parts.flatMap observe := by
  induction parts with
  | nil => exact sees.nil
  | cons part rest ih =>
      cases rest with
      | nil => rw [Fragment.separated, List.flatMap_singleton]
      | cons next rest =>
          rw [Fragment.separated, sees.link _ _ _ notPoint, ih]
          rfl

end SeesThrough

end Observation

def qualifier? : Fragment → Option Fragment → Option String
  | .quoted name, some (.fixed text) => if text = "." then some name else none
  | _, _ => none

/-- The names in front of a point: what the columns in a text are qualified with. -/
def qualifiers : List Fragment → List String
  | [] => []
  | fragment :: rest => (fragment.qualifier? rest.head?).toList ++ qualifiers rest

theorem qualifiers_fixed (text : String) (rest : List Fragment) :
    qualifiers (.fixed text :: rest) = qualifiers rest := rfl

theorem qualifier?_of_ne {text : String} (notPoint : text ≠ ".") (fragment : Fragment) :
    fragment.qualifier? (some (.fixed text)) = fragment.qualifier? none := by
  cases fragment <;> simp [qualifier?, notPoint]

theorem sees_qualifiers : SeesThrough qualifiers where
  nil := rfl
  link front text back notPoint := by
    induction front with
    | nil => exact qualifiers_fixed text back
    | cons fragment rest ih =>
        rw [List.cons_append, qualifiers, qualifiers, ih]
        cases rest with
        | nil => simp [qualifier?_of_ne notPoint, qualifiers]
        | cons next rest => simp

end Fragment

@[simp] theorem ColumnRef.qualifiers_fragments (ref : ColumnRef) :
    Fragment.qualifiers ref.fragments = [ref.qualifier] := by
  simp [ColumnRef.fragments, Fragment.qualifiers, Fragment.qualifier?]

end QuerySql.Sql

import QuerySql.Proofs.Sql.Inlined

namespace QuerySql.Sql

variable {dialect : Dialect} {bindings : Bindings}

/-- The next placeholder has the number behind those of the values.  Where values are not bound,
there are none and the first number is still to come. -/
def Bindings.Numbered (dialect : Dialect) (bindings : Bindings) : Prop :=
  if dialect.parameterized then bindings.next = bindings.values.length + 1
  else bindings.values = [] ∧ bindings.next = 1

namespace Fragment

theorem emitAll_fixed (word : String) (rest : List Fragment) :
    emitAll dialect bindings (.fixed word :: rest) =
      (word ++ (emitAll dialect bindings rest).1, (emitAll dialect bindings rest).2) := rfl

theorem emitAll_singleton (fragment : Fragment) :
    emitAll dialect bindings [fragment] = fragment.emit dialect bindings := by
  rw [emitAll_cons, emitAll_nil, String.append_empty]

theorem emit_of_inline (inline : dialect.parameterized = false) (bindings : Bindings)
    (fragment : Fragment) :
    fragment.emit dialect bindings = ((fragment.emit dialect {}).1, bindings) := by
  cases fragment <;> simp [emit, inline]

theorem emitAll_bindings_of_inline (inline : dialect.parameterized = false)
    (fragments : List Fragment) : (emitAll dialect bindings fragments).2 = bindings := by
  induction fragments with
  | nil => rfl
  | cons fragment rest ih => rw [emitAll_cons, emit_of_inline inline, ih]

theorem emitAll_values (dialect : Dialect) (bindings : Bindings) (fragments : List Fragment) :
    (emitAll dialect bindings fragments).2.values =
      bindings.values ++ if dialect.parameterized then bound fragments else [] := by
  cases parameterized : dialect.parameterized with
  | true => rw [emitAll_bound parameterized, if_pos rfl]
  | false =>
      rw [emitAll_bindings_of_inline parameterized, if_neg Bool.false_ne_true, List.append_nil]

theorem prefix_emitAll (fragments : List Fragment) :
    bindings.values <+: (emitAll dialect bindings fragments).2.values := by
  rw [emitAll_values]
  exact List.prefix_append _ _

theorem numbered_emitAll (numbered : bindings.Numbered dialect) (fragments : List Fragment) :
    (emitAll dialect bindings fragments).2.Numbered dialect := by
  cases parameterized : dialect.parameterized with
  | true =>
      rw [Bindings.Numbered, if_pos parameterized] at numbered ⊢
      simp only [emitAll_bound parameterized, List.length_append]
      omega
  | false =>
      rw [emitAll_bindings_of_inline parameterized]
      exact numbered

/-- Emits parts from left to right, each to a text of its own. -/
def emitParts (dialect : Dialect) (bindings : Bindings) :
    List (List Fragment) → List String × Bindings
  | [] => ([], bindings)
  | part :: rest =>
      let (text, bindings) := emitAll dialect bindings part
      let (texts, bindings) := emitParts dialect bindings rest
      (text :: texts, bindings)

theorem emitParts_cons (part : List Fragment) (rest : List (List Fragment)) :
    emitParts dialect bindings (part :: rest) =
      ((emitAll dialect bindings part).1
          :: (emitParts dialect (emitAll dialect bindings part).2 rest).1,
        (emitParts dialect (emitAll dialect bindings part).2 rest).2) := rfl

theorem emitAll_separated (separator : String) (parts : List (List Fragment)) :
    emitAll dialect bindings (separated separator parts) =
      (String.intercalate separator (emitParts dialect bindings parts).1,
        (emitParts dialect bindings parts).2) := by
  induction parts generalizing bindings with
  | nil => rfl
  | cons part rest ih =>
      cases rest with
      | nil =>
          rw [emitParts_cons, emitParts, String.intercalate_singleton]
          rfl
      | cons next rest =>
          have filled (bindings : Bindings) :
              (emitParts dialect bindings (next :: rest)).1 ≠ [] := nofun
          rw [emitParts_cons part (next :: rest), String.intercalate_cons_of_ne_nil (filled _),
            separated, emitAll_append, emitAll_cons, emit, ih, String.append_assoc]

/-! Fragments that bind nothing. -/

theorem text_append {front : List Fragment} (bindsNothing : bound front = [])
    (back : List Fragment) :
    text dialect (front ++ back) = text dialect front ++ text dialect back := by
  rw [text, emitAll_append, emitAll_of_bound_eq_nil rfl bindsNothing]
  rfl

theorem text_fixed (word : String) (rest : List Fragment) :
    text dialect (.fixed word :: rest) = word ++ text dialect rest := rfl

theorem emitParts_of_bound_eq_nil {parts : List (List Fragment)}
    (bindNothing : ∀ part ∈ parts, bound part = []) (bindings : Bindings) :
    (emitParts dialect bindings parts).1 = parts.map (text dialect) := by
  induction parts with
  | nil => rfl
  | cons part rest ih =>
      obtain ⟨first, others⟩ := List.forall_mem_cons.mp bindNothing
      rw [emitParts_cons, emitAll_of_bound_eq_nil rfl first, ih others, List.map_cons]

theorem text_separated {separator : String} {parts : List (List Fragment)}
    (bindNothing : ∀ part ∈ parts, bound part = []) :
    text dialect (separated separator parts) =
      String.intercalate separator (parts.map (text dialect)) := by
  rw [text, emitAll_separated, emitParts_of_bound_eq_nil bindNothing]

theorem text_separated_append {separator : String} {parts : List (List Fragment)}
    (notPoint : separator ≠ ".") (bindNothing : ∀ part ∈ parts, bound part = [])
    (back : List Fragment) :
    text dialect (separated separator parts ++ back) =
      String.intercalate separator (parts.map (text dialect)) ++ text dialect back := by
  have list : bound (separated separator parts) = [] := by
    rw [sees_bound.separated notPoint, List.flatMap_eq_nil_iff]
    exact bindNothing
  rw [text_append list, text_separated bindNothing]

end Fragment

def ColumnRef.text (quote : Char) (ref : ColumnRef) : String :=
  identifier quote ref.qualifier ++ "." ++ identifier quote ref.column

theorem ColumnRef.text_fragments (ref : ColumnRef) :
    Fragment.text dialect ref.fragments = ref.text dialect.quote := by
  simp [Fragment.text, fragments, Fragment.emitAll_cons, Fragment.emit, text, String.append_assoc]

end QuerySql.Sql

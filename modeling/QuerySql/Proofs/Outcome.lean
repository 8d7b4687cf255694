import Mathlib.Data.List.Forall2

namespace QuerySql

variable {ε α β γ δ : Type}

theorem exists_of_bind_eq_ok {step : Except ε α} {next : α → Except ε β} {result : β}
    (succeeds : step.bind next = .ok result) :
    ∃ value, step = .ok value ∧ next value = .ok result := by
  cases step with
  | error error => cases succeeds
  | ok value => exact ⟨value, rfl, succeeds⟩

theorem exists_of_map_eq_ok {step : Except ε α} {finish : α → β} {result : β}
    (succeeds : step.map finish = .ok result) :
    ∃ value, step = .ok value ∧ finish value = result := by
  cases step with
  | error error => cases succeeds
  | ok value => exact ⟨value, rfl, Except.ok.inj succeeds⟩

theorem foldlM_append_eq_ok {step : β → α → Except ε β} {front back : List α}
    {state next last : β} (first : front.foldlM step state = .ok next)
    (second : back.foldlM step next = .ok last) :
    (front ++ back).foldlM step state = .ok last := by
  rw [List.foldlM_append, first]
  exact second

theorem invariant_of_foldlM {step : β → α → Except ε β} {holds : β → Prop} {items : List α}
    (preserved : ∀ item ∈ items, ∀ state next,
      holds state → step state item = .ok next → holds next)
    {state last : β} (start : holds state) (run : items.foldlM step state = .ok last) :
    holds last := by
  induction items generalizing state with
  | nil =>
      cases run
      exact start
  | cons item rest ih =>
      obtain ⟨first, others⟩ := List.forall_mem_cons.mp preserved
      rw [List.foldlM_cons] at run
      obtain ⟨next, stepped, runRest⟩ := exists_of_bind_eq_ok run
      exact ih others (first state next start stepped) runRest

theorem map_map (step : Except ε α) (first : α → β) (second : β → γ) :
    (step.map first).map second = step.map fun value => second (first value) := by
  cases step <;> rfl

theorem error_or_ok_of_map_eq {step step' : Except ε α} {view : α → γ}
    (same : step.map view = step'.map view) :
    (∃ error, step = .error error ∧ step' = .error error) ∨
      ∃ value value', step = .ok value ∧ step' = .ok value' ∧ view value = view value' := by
  cases step with
  | error error =>
      cases step' with
      | error error' =>
          cases same
          exact .inl ⟨error, rfl, rfl⟩
      | ok value' => cases same
  | ok value =>
      cases step' with
      | error error' => cases same
      | ok value' => exact .inr ⟨value, value', rfl, rfl, Except.ok.inj same⟩

theorem map_bind_congr {step step' : Except ε α} {next next' : α → Except ε β} {view : α → γ}
    {finalView : β → δ} (sameStep : step.map view = step'.map view)
    (sameNext : ∀ value value', view value = view value' →
      (next value).map finalView = (next' value').map finalView) :
    (step.bind next).map finalView = (step'.bind next').map finalView := by
  rcases error_or_ok_of_map_eq sameStep with ⟨error, rfl, rfl⟩ | ⟨value, value', rfl, rfl, same⟩
  · rfl
  · exact sameNext value value' same

theorem map_map_congr {step step' : Except ε α} {next next' : α → β} {view : α → γ}
    {finalView : β → δ} (sameStep : step.map view = step'.map view)
    (sameNext : ∀ value value', view value = view value' →
      finalView (next value) = finalView (next' value')) :
    (step.map next).map finalView = (step'.map next').map finalView :=
  show (step.bind fun value => .ok (next value)).map finalView =
      (step'.bind fun value => .ok (next' value)).map finalView from
    map_bind_congr sameStep fun value value' same => congrArg Except.ok (sameNext value value' same)

theorem map_eq_of_map_eq {step step' : Except ε α} {view : α → γ} {finalView : α → δ}
    (same : step.map view = step'.map view)
    (coarser : ∀ value value', view value = view value' → finalView value = finalView value') :
    step.map finalView = step'.map finalView := by
  rcases error_or_ok_of_map_eq same with ⟨error, rfl, rfl⟩ | ⟨value, value', rfl, rfl, sameView⟩
  · rfl
  · exact congrArg Except.ok (coarser value value' sameView)

section

variable {step : β → α → Except ε β} {view : β → γ}
  (congr : ∀ item state state', view state = view state' →
    (step state item).map view = (step state' item).map view)
  {state state' : β}

include congr

theorem map_foldlM_congr (same : view state = view state') (items : List α) :
    (items.foldlM step state).map view = (items.foldlM step state').map view := by
  induction items generalizing state state' with
  | nil => exact congrArg Except.ok same
  | cons item rest ih => exact map_bind_congr (congr item _ _ same) fun _ _ => ih

theorem map_foldlM_replace {item item' : α}
    (alike : ∀ state state', view state = view state' →
      (step state item).map view = (step state' item').map view)
    (same : view state = view state') (front back : List α) :
    ((front ++ item :: back).foldlM step state).map view =
      ((front ++ item' :: back).foldlM step state').map view := by
  rw [List.foldlM_append, List.foldlM_append]
  refine map_bind_congr (map_foldlM_congr congr same front) fun next next' sameNext => ?_
  exact map_bind_congr (alike next next' sameNext) fun _ _ sameLast =>
    map_foldlM_congr congr sameLast back

end

theorem map_toList_append_congr {first first' : Option α} {rest rest' : List α} {view : α → γ}
    (sameFirst : first.map view = first'.map view) (sameRest : rest.map view = rest'.map view) :
    (first.toList ++ rest).map view = (first'.toList ++ rest').map view := by
  have sameList := congrArg Option.toList sameFirst
  rw [Option.toList_map, Option.toList_map] at sameList
  rw [List.map_append, List.map_append, sameList, sameRest]

theorem isEmpty_eq_of_map_eq {items items' : List α} {view : α → γ}
    (same : items.map view = items'.map view) : items.isEmpty = items'.isEmpty := by
  rw [← List.isEmpty_map, same, List.isEmpty_map]

theorem map_eq_of_forall₂ {relation : α → α → Prop} {view : α → γ}
    {items items' : List α} (related : List.Forall₂ relation items items')
    (same : ∀ item item', relation item item' → view item' = view item) :
    items'.map view = items.map view := by
  induction related with
  | nil => rfl
  | cons first _ ih => rw [List.map_cons, List.map_cons, same _ _ first, ih]

@[simp] theorem isOk_map (step : Except ε α) (finish : α → β) :
    (step.map finish).isOk = step.isOk := by
  cases step <;> rfl

/-- What the one step succeeds with, the other succeeds with as well. -/
def Keeps (step step' : Except ε α) : Prop :=
  ∀ value, step = .ok value → step' = .ok value

namespace Keeps

variable {step step' : Except ε α}

theorem refl (step : Except ε α) : Keeps step step :=
  fun _ succeeds => succeeds

theorem bind {next next' : α → Except ε β} (first : Keeps step step')
    (following : ∀ value, Keeps (next value) (next' value)) :
    Keeps (step.bind next) (step'.bind next') := by
  intro result succeeds
  obtain ⟨value, done, goesOn⟩ := exists_of_bind_eq_ok succeeds
  rw [first value done]
  exact following value result goesOn

theorem map (keeps : Keeps step step') (finish : α → β) :
    Keeps (step.map finish) (step'.map finish) := by
  intro result succeeds
  obtain ⟨value, done, rfl⟩ := exists_of_map_eq_ok succeeds
  rw [keeps value done]
  rfl

end Keeps

def failure? : Except ε α → Option ε
  | .error error => some error
  | .ok _ => none

@[simp] theorem failure?_ok (value : α) : failure? (.ok value : Except ε α) = none := rfl

@[simp] theorem failure?_map (step : Except ε α) (finish : α → β) :
    failure? (step.map finish) = failure? step := by
  cases step <;> rfl

theorem failure?_eq_none_iff {step : Except ε α} :
    failure? step = none ↔ ∃ value, step = .ok value := by
  cases step with
  | error error => simp [failure?]
  | ok value => simp

theorem Keeps.eq_of_failure? {step step' : Except ε α} (keeps : Keeps step step')
    (sameFailure : failure? step' = failure? step) : step' = step := by
  cases step with
  | ok value => exact keeps value rfl
  | error error =>
      cases step' with
      | ok value => cases sameFailure
      | error error' => exact congrArg Except.error (Option.some.inj sameFailure)

theorem failure?_bind {step : Except ε α} {next : α → Except ε β} {later : Option ε}
    (following : ∀ value, failure? (next value) = later) :
    failure? (step.bind next) = (failure? step).or later := by
  cases step with
  | error error => rfl
  | ok value => exact following value

end QuerySql

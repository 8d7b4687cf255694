import QuerySql.Proofs.Json.RoundTrip

namespace QuerySql.Json

mutual

/-- How many arrays and objects stand inside one another. -/
def depth : Json → Nat
  | .array items => depthIn items + 1
  | .object fields => depthUnder fields + 1
  | _ => 0
termination_by structural json => json

def depthIn : List Json → Nat
  | [] => 0
  | item :: rest => max item.depth (depthIn rest)
termination_by structural items => items

def depthUnder : List (String × Json) → Nat
  | [] => 0
  | (_, value) :: rest => max value.depth (depthUnder rest)
termination_by structural fields => fields

end

theorem depthIn_le_iff {items : List Json} {bound : Nat} :
    depthIn items ≤ bound ↔ ∀ item ∈ items, item.depth ≤ bound := by
  induction items with
  | nil => simp [depthIn]
  | cons item rest ih => rw [depthIn, Nat.max_le, ih, List.forall_mem_cons]

theorem depthUnder_le_iff {fields : List (String × Json)} {bound : Nat} :
    depthUnder fields ≤ bound ↔ ∀ field ∈ fields, field.2.depth ≤ bound := by
  induction fields with
  | nil => simp [depthUnder]
  | cons field rest ih => rw [depthUnder, Nat.max_le, ih, List.forall_mem_cons]

theorem inherited_depth_le : Inherited fun depth json => json.depth ≤ depth where
  null := Nat.zero_le
  bool depth _ := Nat.zero_le depth
  number depth _ := Nat.zero_le depth
  string depth _ := Nat.zero_le depth
  array each := Nat.succ_le_succ (depthIn_le_iff.mpr each)
  object _ each := Nat.succ_le_succ (depthUnder_le_iff.mpr each)

theorem depth_le_of_parse? {text : String} {json : Json} (reads : parse? text = some json) :
    json.depth ≤ Parser.maxDepth :=
  inherited_depth_le.of_parse? reads

theorem Plain.depth_le {bound : Nat} {json : Json} (plain : Plain bound json) :
    json.depth ≤ bound := by
  induction plain with
  | null | bool | string => exact Nat.zero_le _
  | array plain ih => exact Nat.succ_le_succ (depthIn_le_iff.mpr ih)
  | object nodup plain ih => exact Nat.succ_le_succ (depthUnder_le_iff.mpr ih)

namespace Parser

/-- What the three readers return with a given fuel they return with one level more. -/
structure Deepens (fuel : Nat) : Prop where
  value : ∀ {depth : Nat} {text : List Char} {read : Json × List Char},
    value? fuel depth text = some read → value? fuel (depth + 1) text = some read
  items : ∀ {depth : Nat} {text : List Char} {read : List Json × List Char},
    items? fuel depth text = some read → items? fuel (depth + 1) text = some read
  fields : ∀ {depth : Nat} {text : List Char} {read : Fields Json × List Char},
    fields? fuel depth text = some read → fields? fuel (depth + 1) text = some read

section

variable {fuel depth : Nat} {text : List Char}

theorem Deepens.value_succ (below : Deepens fuel) {read : Json × List Char}
    (reads : value? (fuel + 1) depth text = some read) :
    value? (fuel + 1) (depth + 1) text = some read := by
  cases depth with
  | zero =>
      rw [value?] at reads ⊢
      split at reads
      · exact reads
      · cases reads
      · cases reads
      all_goals exact reads
  | succ depth =>
      rw [value?] at reads ⊢
      split at reads
      · exact reads
      · rw [if_neg (Nat.succ_ne_zero _)] at reads ⊢
        split at reads
        · exact reads
        · obtain ⟨items, readsItems, same⟩ := Option.map_eq_some_iff.mp reads
          exact Option.map_eq_some_iff.mpr ⟨items, below.items readsItems, same⟩
      · rw [if_neg (Nat.succ_ne_zero _)] at reads ⊢
        split at reads
        · exact reads
        · obtain ⟨fields, readsFields, same⟩ := Option.map_eq_some_iff.mp reads
          exact Option.map_eq_some_iff.mpr ⟨fields, below.fields readsFields, same⟩
      all_goals exact reads

theorem Deepens.items_succ (below : Deepens fuel) {read : List Json × List Char}
    (reads : items? (fuel + 1) depth text = some read) :
    items? (fuel + 1) (depth + 1) text = some read := by
  rw [items?] at reads ⊢
  obtain ⟨⟨item, afterItem⟩, readsItem, reads⟩ := Option.bind_eq_some_iff.mp reads
  refine Option.bind_eq_some_iff.mpr ⟨(item, afterItem), below.value readsItem, ?_⟩
  dsimp only at reads ⊢
  split at reads
  · exact reads
  · obtain ⟨others, readsOthers, same⟩ := Option.bind_eq_some_iff.mp reads
    exact Option.bind_eq_some_iff.mpr ⟨others, below.items readsOthers, same⟩
  · cases reads

theorem Deepens.fields_succ (below : Deepens fuel) {read : Fields Json × List Char}
    (reads : fields? (fuel + 1) depth text = some read) :
    fields? (fuel + 1) (depth + 1) text = some read := by
  rw [fields?] at reads ⊢
  obtain ⟨named, readsName, reads⟩ := Option.bind_eq_some_iff.mp reads
  obtain ⟨afterColon, readsColon, reads⟩ := Option.bind_eq_some_iff.mp reads
  obtain ⟨⟨value, afterValue⟩, readsValue, reads⟩ := Option.bind_eq_some_iff.mp reads
  refine Option.bind_eq_some_iff.mpr ⟨named, readsName, ?_⟩
  refine Option.bind_eq_some_iff.mpr ⟨afterColon, readsColon, ?_⟩
  refine Option.bind_eq_some_iff.mpr ⟨(value, afterValue), below.value readsValue, ?_⟩
  dsimp only at reads ⊢
  split at reads
  · exact reads
  · obtain ⟨others, readsOthers, same⟩ := Option.bind_eq_some_iff.mp reads
    exact Option.bind_eq_some_iff.mpr ⟨others, below.fields readsOthers, same⟩
  · cases reads

end

theorem deepens (fuel : Nat) : Deepens fuel := by
  induction fuel with
  | zero => exact ⟨nofun, nofun, nofun⟩
  | succ fuel below => exact ⟨below.value_succ, below.items_succ, below.fields_succ⟩

theorem value?_of_le {fuel shallow deep : Nat} (le : shallow ≤ deep) {text : List Char}
    {read : Json × List Char} (reads : value? fuel shallow text = some read) :
    value? fuel deep text = some read := by
  induction le with
  | refl => exact reads
  | step le ih => exact (deepens fuel).value ih

end Parser

theorem parse?_render_eq_none {bound : Nat} {json : Json} (plain : Plain bound json)
    (deep : Parser.maxDepth < json.depth) : parse? json.render = none := by
  cases reads : parse? json.render with
  | none => rfl
  | some other =>
      have shallow := depth_le_of_parse? reads
      rw [parse?] at reads
      obtain ⟨⟨value, rest⟩, readsValue, reads⟩ := Option.bind_eq_some_iff.mp reads
      have more := Parser.value?_of_le (Nat.le_trans (Nat.le_of_lt deep) plain.depth_le) readsValue
      have whole := Parser.readsAt_of_plain plain (2 * json.render.toList.length + 2) []
        (by rw [String.length_toList]; omega)
      rw [List.append_nil, more] at whole
      dsimp only at reads
      split at reads
      · cases reads
        cases whole
        omega
      · cases reads

end QuerySql.Json

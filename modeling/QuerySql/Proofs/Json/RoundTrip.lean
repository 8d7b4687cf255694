import QuerySql.Json.Parser
import QuerySql.Json.Printer
import QuerySql.Proofs.Json.Distinct

namespace QuerySql.Json

/-- Documents without numbers in which no object gives a name twice, with at most `depth` levels of
arrays and objects. -/
inductive Plain : Nat → Json → Prop where
  | null {depth : Nat} : Plain depth .null
  | bool {depth : Nat} (value : Bool) : Plain depth (.bool value)
  | string {depth : Nat} (value : String) : Plain depth (.string value)
  | array {depth : Nat} {items : List Json} :
      (∀ item ∈ items, Plain depth item) → Plain (depth + 1) (.array items)
  | object {depth : Nat} {fields : Fields Json} :
      fields.names.Nodup → (∀ field ∈ fields, Plain depth field.2) →
        Plain (depth + 1) (.object fields)

namespace Parser

theorem skipBlanks_cons {char : Char} (visible : isBlank char = false) (rest : List Char) :
    skipBlanks (char :: rest) = char :: rest := by
  rw [skipBlanks, List.dropWhile_cons_of_neg (by rw [visible]; exact Bool.false_ne_true)]

theorem hex_lt_space : ∀ number < 0x20, (Text.hex 4 number).toList.length = 4 ∧
    Text.valueInBase? 16 (Text.hex 4 number).toList = some number := by
  decide

theorem escapedUnit?_hex {char : Char} (control : char.toNat < 0x20) (rest : List Char) :
    escapedUnit? ((Text.hex 4 char.toNat).toList ++ rest) = some (char, rest) := by
  obtain ⟨length, value⟩ := hex_lt_space char.toNat control
  obtain ⟨a, b, c, d, digits⟩ := List.length_eq_four.mp length
  rw [digits] at value ⊢
  have unit : codeUnit? (a :: b :: c :: d :: rest) = some (char.toNat, rest) := by
    rw [codeUnit?, value]
    rfl
  have low : ¬(0xDC00 ≤ char.toNat ∧ char.toNat < 0xE000) := by omega
  have high : ¬(0xD800 ≤ char.toNat ∧ char.toNat < 0xDC00) := by omega
  simp only [List.cons_append, List.nil_append, escapedUnit?, unit, Option.bind_eq_bind,
    Option.bind_some, if_neg low, if_neg high, Char.ofNat_toNat]

theorem quotedRest?_cons {char : Char} (notQuote : char ≠ '"') (notEscape : char ≠ '\\')
    (visible : 0x20 ≤ char.toNat) (taken : List Char) (fuel : Nat) (rest : List Char) :
    quotedRest? taken (fuel + 1) (char :: rest) = quotedRest? (char :: taken) fuel rest := by
  rw [quotedRest?]
  · have kept : ¬(decide (char.toNat < 0x20) || decide (char = '\\')) = true := by
      simp [notEscape, visible]
    rw [if_neg kept]
  · exact notQuote
  · exact fun _ same => absurd same notEscape
  · exact fun _ _ same => absurd same notEscape

theorem quotedRest?_escapeChar (char : Char) (taken : List Char) (fuel : Nat) (rest : List Char) :
    quotedRest? taken (fuel + 1) (escapeChar char ++ rest) =
      quotedRest? (char :: taken) fuel rest := by
  unfold escapeChar
  split_ifs with quote backslash newline carriage tab backspace feed control
  · subst char
    rfl
  · subst char
    rfl
  · subst char
    rfl
  · subst char
    rfl
  · subst char
    rfl
  · rw [← Char.ofNat_toNat char, backspace]
    rfl
  · rw [← Char.ofNat_toNat char, feed]
    rfl
  · rw [List.cons_append, List.cons_append, quotedRest?, escapedUnit?_hex control]
    rfl
  · exact quotedRest?_cons quote backslash (Nat.le_of_not_lt control) taken fuel rest

theorem quotedRest?_escaped (text taken : List Char) {fuel : Nat} (enough : text.length < fuel)
    (rest : List Char) :
    quotedRest? taken fuel (text.flatMap escapeChar ++ '"' :: rest) =
      some (String.ofList (taken.reverse ++ text), rest) := by
  induction text generalizing taken fuel with
  | nil =>
      obtain ⟨fuel, rfl⟩ := Nat.exists_eq_add_of_lt enough
      rw [List.append_nil]
      rfl
  | cons char text ih =>
      obtain ⟨fuel, rfl⟩ := Nat.exists_eq_add_of_lt enough
      rw [List.flatMap_cons, List.append_assoc, quotedRest?_escapeChar, ih _ (by simp; omega),
        List.reverse_cons, List.append_assoc]
      rfl

theorem length_le_flatMap_escapeChar (text : List Char) :
    text.length ≤ (text.flatMap escapeChar).length := by
  induction text with
  | nil => exact Nat.le_refl _
  | cons char text ih =>
      have written : 1 ≤ (escapeChar char).length := by
        unfold escapeChar
        split_ifs <;> simp
      rw [List.flatMap_cons, List.length_append, List.length_cons]
      omega

theorem toList_quoted (text : String) :
    (Json.quoted text).toList = '"' :: (text.toList.flatMap escapeChar ++ ['"']) := by
  simp [Json.quoted]

theorem quoted?_quoted (text : String) (rest : List Char) :
    quoted? ((Json.quoted text).toList ++ rest) = some (text, rest) := by
  have long := length_le_flatMap_escapeChar text.toList
  rw [toList_quoted, List.cons_append, List.append_assoc, List.singleton_append]
  change quotedRest? [] _ _ = _
  rw [quotedRest?_escaped _ _ (by simp only [List.length_append, List.length_cons]; omega)]
  simp

theorem word?_append (word : String) (json : Json) (rest : List Char) :
    word? word json (word.toList ++ rest) = some (json, rest) := by
  rw [word?, if_pos (by simp), ← String.length_toList, List.drop_left]

theorem value?_array {char : Char} (visible : isBlank char = false) (notEnd : char ≠ ']')
    (fuel depth : Nat) (rest : List Char) :
    value? (fuel + 1) (depth + 1) ('[' :: char :: rest) =
      (items? fuel depth (char :: rest)).map fun (items, rest) => (.array items, rest) := by
  rw [value?, skipBlanks_cons (by decide)]
  simp only [skipBlanks_cons visible, Nat.add_one_ne_zero, if_false, Nat.add_sub_cancel]
  split
  · rename_i same
    exact absurd (List.cons.inj same).1 notEnd
  · rfl

theorem value?_object {char : Char} (visible : isBlank char = false) (notEnd : char ≠ '\x7d')
    (fuel depth : Nat) (rest : List Char) :
    value? (fuel + 1) (depth + 1) ('\x7b' :: char :: rest) =
      (fields? fuel depth (char :: rest)).map fun (fields, rest) =>
        (.object (Fields.collect fields), rest) := by
  rw [value?, skipBlanks_cons (by decide)]
  simp only [skipBlanks_cons visible, Nat.add_one_ne_zero, if_false, Nat.add_sub_cancel]
  split
  · rename_i same
    exact absurd (List.cons.inj same).1 notEnd
  · rfl

theorem toList_render_array (items : List Json) :
    (Json.array items).render.toList =
      '[' :: ((String.intercalate "," (renderItems items)).toList ++ [']']) := by
  rw [render, String.toList_append, String.toList_append]
  rfl

theorem toList_render_object (fields : Fields Json) :
    (Json.object fields).render.toList =
      '\x7b' :: ((String.intercalate "," (renderFields fields)).toList ++ ['\x7d']) := by
  rw [render, String.toList_append, String.toList_append]
  rfl

theorem exists_toList_render {depth : Nat} {json : Json} (plain : Plain depth json) :
    ∃ char rest, json.render.toList = char :: rest ∧ isBlank char = false ∧ char ≠ ']' := by
  cases plain with
  | null => exact ⟨'n', ['u', 'l', 'l'], rfl, rfl, by decide⟩
  | bool value =>
      cases value
      · exact ⟨'f', ['a', 'l', 's', 'e'], rfl, rfl, by decide⟩
      · exact ⟨'t', ['r', 'u', 'e'], rfl, rfl, by decide⟩
  | string value => exact ⟨'"', _, toList_quoted value, rfl, by decide⟩
  | array each => exact ⟨'[', _, toList_render_array _, rfl, by decide⟩
  | object nodup each => exact ⟨'\x7b', _, toList_render_object _, rfl, by decide⟩

/-- A document whose text, whatever follows it, is read as the document. -/
def ReadsAt (depth : Nat) (json : Json) : Prop :=
  ∀ (fuel : Nat) (rest : List Char), json.render.length ≤ fuel →
    value? fuel depth (json.render.toList ++ rest) = some (json, rest)

section

variable {fuel depth : Nat} {text more rest afterName : List Char} {item value : Json}
  {name : String}

theorem items?_last (reads : value? fuel depth text = some (item, ']' :: rest)) :
    items? (fuel + 1) depth text = some ([item], rest) := by
  rw [items?, reads]
  rfl

theorem items?_more (reads : value? fuel depth text = some (item, ',' :: more)) :
    items? (fuel + 1) depth text =
      (items? fuel depth more).map fun (items, rest) => (item :: items, rest) := by
  rw [items?, reads]
  change (items? fuel depth more).bind _ = _
  cases items? fuel depth more <;> rfl

theorem fields?_last (readsName : quoted? (skipBlanks text) = some (name, ':' :: afterName))
    (reads : value? fuel depth afterName = some (value, '\x7d' :: rest)) :
    fields? (fuel + 1) depth text = some ([(name, value)], rest) := by
  rw [fields?, readsName]
  change (value? fuel depth afterName).bind _ = _
  rw [reads]
  rfl

theorem fields?_more (readsName : quoted? (skipBlanks text) = some (name, ':' :: afterName))
    (reads : value? fuel depth afterName = some (value, ',' :: more)) :
    fields? (fuel + 1) depth text =
      (fields? fuel depth more).map fun (fields, rest) => ((name, value) :: fields, rest) := by
  rw [fields?, readsName]
  change (value? fuel depth afterName).bind _ = _
  rw [reads]
  change (fields? fuel depth more).bind _ = _
  cases fields? fuel depth more <;> rfl

end

theorem items?_render {depth : Nat} {items : List Json} (filled : items ≠ [])
    (reads : ∀ item ∈ items, ReadsAt depth item) {fuel : Nat}
    (enough : (String.intercalate "," (renderItems items)).length < fuel) (rest : List Char) :
    items? fuel depth ((String.intercalate "," (renderItems items)).toList ++ ']' :: rest) =
      some (items, rest) := by
  induction items generalizing fuel with
  | nil => exact absurd rfl filled
  | cons item others ih =>
      obtain ⟨fuel, rfl⟩ : ∃ less, fuel = less + 1 := ⟨fuel - 1, by omega⟩
      obtain ⟨readsItem, readsOthers⟩ := List.forall_mem_cons.mp reads
      cases others with
      | nil =>
          rw [renderItems, renderItems, String.intercalate_singleton] at enough ⊢
          exact items?_last (readsItem _ _ (by omega))
      | cons next others =>
          have text : String.intercalate "," (renderItems (item :: next :: others)) =
              item.render ++ "," ++ String.intercalate "," (renderItems (next :: others)) :=
            String.intercalate_cons_cons
          have comma : ",".length = 1 := rfl
          rw [text, String.length_append, String.length_append, comma] at enough
          rw [text, String.toList_append, String.toList_append, List.append_assoc,
            List.append_assoc]
          refine (items?_more (readsItem fuel _ (by omega))).trans ?_
          exact congrArg (Option.map _) (ih (List.cons_ne_nil _ _) readsOthers (by omega))

theorem quoted?_name (name : String) (rest : List Char) :
    quoted? (skipBlanks ((Json.quoted name).toList ++ rest)) = some (name, rest) := by
  rw [← quoted?_quoted name rest, toList_quoted, List.cons_append, skipBlanks_cons (by decide)]

theorem fields?_render {depth : Nat} {fields : Fields Json} (filled : fields ≠ [])
    (reads : ∀ field ∈ fields, ReadsAt depth field.2) {fuel : Nat}
    (enough : (String.intercalate "," (renderFields fields)).length < fuel) (rest : List Char) :
    fields? fuel depth ((String.intercalate "," (renderFields fields)).toList ++ '\x7d' :: rest) =
      some (fields, rest) := by
  induction fields generalizing fuel with
  | nil => exact absurd rfl filled
  | cons field others ih =>
      obtain ⟨name, value⟩ := field
      obtain ⟨fuel, rfl⟩ : ∃ less, fuel = less + 1 := ⟨fuel - 1, by omega⟩
      obtain ⟨readsField, readsOthers⟩ := List.forall_mem_cons.mp reads
      have readsValue : ReadsAt depth value := readsField
      cases others with
      | nil =>
          rw [renderFields, renderFields, String.intercalate_singleton] at enough ⊢
          rw [String.length_append] at enough
          rw [String.toList_append, String.toList_append, List.append_assoc, List.append_assoc]
          exact fields?_last (quoted?_name name _) (readsValue fuel _ (by omega))
      | cons next others =>
          have text : String.intercalate "," (renderFields ((name, value) :: next :: others)) =
              Json.quoted name ++ ":" ++ value.render ++ "," ++
                String.intercalate "," (renderFields (next :: others)) :=
            String.intercalate_cons_cons
          have comma : ",".length = 1 := rfl
          rw [text, String.length_append, String.length_append, String.length_append, comma]
            at enough
          simp only [text, String.toList_append, List.append_assoc]
          refine (fields?_more (quoted?_name name _) (readsValue fuel _ (by omega))).trans ?_
          exact congrArg (Option.map _) (ih (List.cons_ne_nil _ _) readsOthers (by omega))

theorem length_render_pos {depth : Nat} {json : Json} (plain : Plain depth json) :
    0 < json.render.length := by
  obtain ⟨char, rest, text, -⟩ := exists_toList_render plain
  rw [← String.length_toList, text]
  exact Nat.succ_pos _

theorem exists_toList_intercalate (text : String) (texts : List String) :
    ∃ more, (String.intercalate "," (text :: texts)).toList = text.toList ++ more := by
  cases texts with
  | nil => exact ⟨[], by rw [String.intercalate_singleton, List.append_nil]⟩
  | cons next texts =>
      rw [String.intercalate_cons_cons, String.toList_append, String.toList_append,
        List.append_assoc]
      exact ⟨_, rfl⟩

theorem readsAt_array {depth : Nat} {items : List Json} (plain : ∀ item ∈ items, Plain depth item)
    (reads : ∀ item ∈ items, ReadsAt depth item) : ReadsAt (depth + 1) (.array items) := by
  intro fuel rest enough
  have text := toList_render_array items
  have length := congrArg List.length text
  simp only [String.length_toList, List.length_cons, List.length_append, List.length_nil] at length
  obtain ⟨fuel, rfl⟩ : ∃ less, fuel = less + 1 := ⟨fuel - 1, by omega⟩
  rw [text, List.cons_append, List.append_assoc, List.singleton_append]
  cases items with
  | nil => rfl
  | cons item others =>
      have read := items?_render (List.cons_ne_nil _ _) reads (by omega : _ < fuel) rest
      obtain ⟨char, tail, first, visible, notEnd⟩ :=
        exists_toList_render (plain item (List.mem_cons_self ..))
      obtain ⟨more, whole⟩ := exists_toList_intercalate item.render (renderItems others)
      rw [renderItems, whole, first] at read ⊢
      exact (value?_array visible notEnd fuel depth _).trans (congrArg (Option.map _) read)

theorem readsAt_object {depth : Nat} {fields : Fields Json} (nodup : fields.names.Nodup)
    (reads : ∀ field ∈ fields, ReadsAt depth field.2) : ReadsAt (depth + 1) (.object fields) := by
  intro fuel rest enough
  have text := toList_render_object fields
  have length := congrArg List.length text
  simp only [String.length_toList, List.length_cons, List.length_append, List.length_nil] at length
  obtain ⟨fuel, rfl⟩ : ∃ less, fuel = less + 1 := ⟨fuel - 1, by omega⟩
  rw [text, List.cons_append, List.append_assoc, List.singleton_append]
  cases fields with
  | nil => rfl
  | cons field others =>
      obtain ⟨name, value⟩ := field
      have read := fields?_render (List.cons_ne_nil _ _) reads (by omega : _ < fuel) rest
      obtain ⟨more, whole⟩ :=
        exists_toList_intercalate (Json.quoted name ++ ":" ++ value.render) (renderFields others)
      rw [renderFields, whole, String.toList_append, String.toList_append, toList_quoted] at read ⊢
      refine (@value?_object '"' (by decide) (by decide) fuel depth _).trans ?_
      refine (congrArg (Option.map _) read).trans ?_
      exact congrArg (fun fields => some (Json.object fields, rest)) (Fields.collect_eq_self nodup)

theorem readsAt_of_plain {depth : Nat} {json : Json} (plain : Plain depth json) :
    ReadsAt depth json := by
  induction plain with
  | null =>
      intro fuel rest enough
      obtain ⟨fuel, rfl⟩ := Nat.exists_eq_add_of_le' enough
      exact word?_append "null" .null rest
  | bool value =>
      intro fuel rest enough
      obtain ⟨fuel, rfl⟩ := Nat.exists_eq_add_of_le' enough
      cases value
      · exact word?_append "false" (.bool false) rest
      · exact word?_append "true" (.bool true) rest
  | string value =>
      intro fuel rest enough
      obtain ⟨fuel, rfl⟩ : ∃ less, fuel = less + 1 := ⟨fuel - 1, by
        have := length_render_pos (@Plain.string 0 value)
        omega⟩
      have read := quoted?_quoted value rest
      rw [render]
      rw [toList_quoted] at read ⊢
      exact congrArg (Option.map _) read
  | array plain reads => exact readsAt_array plain reads
  | object nodup plain reads => exact readsAt_object nodup reads

end Parser

theorem parse?_render {json : Json} (plain : Plain Parser.maxDepth json) :
    parse? json.render = some json := by
  have read := Parser.readsAt_of_plain plain (2 * json.render.toList.length + 2) []
    (by rw [String.length_toList]; omega)
  rw [List.append_nil] at read
  rw [parse?, read]
  rfl

/-- What holds of scalars at any depth, and of arrays and objects if it holds of their parts one
level further down. -/
structure Inherited (holds : Nat → Json → Prop) : Prop where
  null : ∀ depth, holds depth .null
  bool : ∀ depth value, holds depth (.bool value)
  number : ∀ depth value, holds depth (.number value)
  string : ∀ depth value, holds depth (.string value)
  array : ∀ {depth items}, (∀ item ∈ items, holds depth item) → holds (depth + 1) (.array items)
  object : ∀ {depth fields}, (Fields.names fields).Nodup → (∀ field ∈ fields, holds depth field.2) →
    holds (depth + 1) (.object fields)

namespace Parser

variable {holds : Nat → Json → Prop}

structure Reads (holds : Nat → Json → Prop) (fuel : Nat) : Prop where
  value : ∀ {depth : Nat} {text rest : List Char} {json : Json},
    value? fuel depth text = some (json, rest) → holds depth json
  items : ∀ {depth : Nat} {text rest : List Char} {items : List Json},
    items? fuel depth text = some (items, rest) → ∀ item ∈ items, holds depth item
  fields : ∀ {depth : Nat} {text rest : List Char} {fields : Fields Json},
    fields? fuel depth text = some (fields, rest) → ∀ field ∈ fields, holds depth field.2

section

variable {fuel depth : Nat} {text rest : List Char}

theorem holds_of_word? {word : String} {json read : Json} (scalar : holds depth json)
    (reads : word? word json text = some (read, rest)) : holds depth read := by
  rw [word?] at reads
  split at reads
  · cases reads
    exact scalar
  · cases reads

theorem Reads.value_succ (inherited : Inherited holds) (below : Reads holds fuel) {json : Json}
    (reads : value? (fuel + 1) depth text = some (json, rest)) : holds depth json := by
  rw [value?] at reads
  split at reads
  · obtain ⟨_, -, same⟩ := Option.map_eq_some_iff.mp reads
    cases same
    exact inherited.string depth _
  · split at reads
    · cases reads
    obtain ⟨depth, rfl⟩ := Nat.exists_eq_succ_of_ne_zero ‹depth ≠ 0›
    split at reads
    · cases reads
      exact inherited.array (List.forall_mem_nil _)
    · obtain ⟨_, readsItems, same⟩ := Option.map_eq_some_iff.mp reads
      cases same
      exact inherited.array (below.items readsItems)
  · split at reads
    · cases reads
    obtain ⟨depth, rfl⟩ := Nat.exists_eq_succ_of_ne_zero ‹depth ≠ 0›
    split at reads
    · cases reads
      exact inherited.object List.nodup_nil (List.forall_mem_nil _)
    · obtain ⟨_, readsFields, same⟩ := Option.map_eq_some_iff.mp reads
      cases same
      refine inherited.object (Fields.nodup_collect _) fun field member => ?_
      exact below.fields readsFields field (Fields.mem_of_mem_collect member)
  · exact holds_of_word? (inherited.null depth) reads
  · exact holds_of_word? (inherited.bool depth true) reads
  · exact holds_of_word? (inherited.bool depth false) reads
  · obtain ⟨_, -, same⟩ := Option.map_eq_some_iff.mp reads
    cases same
    exact inherited.number depth _

theorem Reads.items_succ (below : Reads holds fuel) {items : List Json}
    (reads : items? (fuel + 1) depth text = some (items, rest)) :
    ∀ item ∈ items, holds depth item := by
  rw [items?] at reads
  obtain ⟨⟨item, afterItem⟩, readsItem, reads⟩ := Option.bind_eq_some_iff.mp reads
  have first := below.value readsItem
  dsimp only at reads
  split at reads
  · cases reads
    exact List.forall_mem_singleton.mpr first
  · obtain ⟨⟨others, afterOthers⟩, readsOthers, same⟩ := Option.bind_eq_some_iff.mp reads
    cases same
    exact List.forall_mem_cons.mpr ⟨first, below.items readsOthers⟩
  · cases reads

theorem Reads.fields_succ (below : Reads holds fuel) {fields : Fields Json}
    (reads : fields? (fuel + 1) depth text = some (fields, rest)) :
    ∀ field ∈ fields, holds depth field.2 := by
  rw [fields?] at reads
  obtain ⟨⟨name, afterName⟩, -, reads⟩ := Option.bind_eq_some_iff.mp reads
  obtain ⟨afterColon, -, reads⟩ := Option.bind_eq_some_iff.mp reads
  obtain ⟨⟨value, afterValue⟩, readsValue, reads⟩ := Option.bind_eq_some_iff.mp reads
  have first := below.value readsValue
  dsimp only at reads
  split at reads
  · cases reads
    exact List.forall_mem_singleton.mpr first
  · obtain ⟨⟨others, afterOthers⟩, readsOthers, same⟩ := Option.bind_eq_some_iff.mp reads
    cases same
    exact List.forall_mem_cons.mpr ⟨first, below.fields readsOthers⟩
  · cases reads

end

theorem reads (inherited : Inherited holds) (fuel : Nat) : Reads holds fuel := by
  induction fuel with
  | zero => exact ⟨nofun, nofun, nofun⟩
  | succ fuel below => exact ⟨Reads.value_succ inherited below, below.items_succ, below.fields_succ⟩

end Parser

theorem Inherited.of_parse? {holds : Nat → Json → Prop} (inherited : Inherited holds)
    {text : String} {json : Json} (reads : parse? text = some json) : holds Parser.maxDepth json := by
  rw [parse?] at reads
  obtain ⟨⟨value, rest⟩, readsValue, reads⟩ := Option.bind_eq_some_iff.mp reads
  dsimp only at reads
  split at reads
  · cases reads
    exact (Parser.reads inherited _).value readsValue
  · cases reads

theorem inherited_isDistinct : Inherited fun _ json => json.isDistinct = true where
  null _ := rfl
  bool _ _ := rfl
  number _ _ := rfl
  string _ _ := rfl
  array each := (isDistinct_array _).mpr each
  object nodup each := (isDistinct_object _).mpr ⟨nodup, each⟩

/-- A document that is read gives each name once. -/
theorem isDistinct_of_parse? {text : String} {json : Json} (reads : parse? text = some json) :
    json.isDistinct = true :=
  inherited_isDistinct.of_parse? reads

end QuerySql.Json

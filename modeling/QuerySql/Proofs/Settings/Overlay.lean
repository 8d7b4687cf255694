import QuerySql.Proofs.Json.Order
import QuerySql.Settings.Document

/-!
A file laid over defaults.  A field of the file is found under any of its spellings, and what a
record is read from holds the file's value in the place of the default.
-/

namespace QuerySql

namespace Json

def object? : Json → Option (Fields Json)
  | .object fields => some fields
  | _ => none

end Json

namespace Settings

theorem canonicalName_notMem (name : String) :
    canonicalName name ∉ spellings.map Prod.fst := by
  have apart : ∀ spelling ∈ spellings, spelling.2 ∉ spellings.map Prod.fst := by decide
  rw [canonicalName]
  cases found : spellings.lookup name with
  | none => exact Fields.notMem_of_get?_eq_none found
  | some known => exact apart _ (Fields.mem_of_get? found)

theorem canonicalName_eq_iff {name given : String} (canonical : name ∉ spellings.map Prod.fst) :
    canonicalName given = name ↔ given = name ∨ (given, name) ∈ spellings := by
  have nodup : (Fields.names spellings).Nodup := by decide
  rw [← Fields.get?_eq_some_iff nodup, canonicalName, Fields.get?]
  cases found : spellings.lookup given with
  | none => simp
  | some known =>
      have isSpelling := Fields.mem_of_get? found
      have differs : given ≠ name := by
        rintro rfl
        exact canonical (List.mem_map_of_mem isSpelling)
      simp [differs]

def Spells (name : String) (spelled : List String) : Prop :=
  name ∉ spellings.map Prod.fst ∧
    spelled = name :: (spellings.filter fun spelling => spelling.2 == name).map Prod.fst

instance (name : String) (spelled : List String) : Decidable (Spells name spelled) :=
  inferInstanceAs (Decidable (_ ∧ _))

theorem Spells.mem_iff {name given : String} {spelled : List String}
    (spells : Spells name spelled) : given ∈ spelled ↔ canonicalName given = name := by
  rw [canonicalName_eq_iff spells.1, spells.2, List.mem_cons]
  simp

/-- The value that is given under one of the spellings of a field. -/
def given (file : Fields Json) (spelled : List String) : Option Json :=
  spelled.findSome? file.get?

def part (file : Fields Json) (spelled : List String) : Fields Json :=
  ((given file spelled).map Json.fields).getD []

def SpelledOnce (file : Fields Json) (spelled : List String) : Prop :=
  ∀ first ∈ spelled, ∀ second ∈ spelled,
    first ∈ file.names → second ∈ file.names → first = second

theorem given_eq_some_iff {file : Fields Json} {spelled : List String} {json : Json}
    (nodup : file.names.Nodup) (once : SpelledOnce file spelled) :
    given file spelled = some json ↔ ∃ spelling ∈ spelled, (spelling, json) ∈ file := by
  simp only [← Fields.get?_eq_some_iff nodup]
  refine ⟨List.exists_of_findSome?_eq_some, ?_⟩
  rintro ⟨spelling, isSpelled, inFile⟩
  cases found : given file spelled with
  | none =>
      rw [List.findSome?_eq_none_iff.mp found spelling isSpelled] at inFile
      cases inFile
  | some other =>
      obtain ⟨spelling', isSpelled', inFile'⟩ := List.exists_of_findSome?_eq_some found
      obtain rfl := once spelling isSpelled spelling' isSpelled'
        (List.mem_map_of_mem (Fields.mem_of_get? inFile))
        (List.mem_map_of_mem (Fields.mem_of_get? inFile'))
      rw [← inFile, ← inFile']

theorem mem_canonicalFields_iff {file : Fields Json} {name : String} {json : Json} :
    (name, json) ∈ canonicalFields file ↔
      ∃ spelling value, (spelling, value) ∈ file ∧ canonicalName spelling = name ∧
        canonicalValue name value = json := by
  induction file with
  | nil => simp [canonicalFields]
  | cons field rest ih =>
      obtain ⟨spelling, value⟩ := field
      rw [canonicalFields, List.mem_cons, ih]
      constructor
      · rintro (same | ⟨other, value, member, isName, isValue⟩)
        · obtain ⟨rfl, rfl⟩ := Prod.mk.inj same
          exact ⟨spelling, value, List.mem_cons_self .., rfl, rfl⟩
        · exact ⟨other, value, List.mem_cons_of_mem _ member, isName, isValue⟩
      · rintro ⟨other, found, member, rfl, rfl⟩
        rcases List.mem_cons.mp member with same | later
        · obtain ⟨rfl, rfl⟩ := Prod.mk.inj same
          exact .inl rfl
        · exact .inr ⟨other, found, later, rfl, rfl⟩

theorem get?_canonicalFields {file : Fields Json} {name : String} {spelled : List String}
    (nodup : file.names.Nodup) (spells : Spells name spelled) (once : SpelledOnce file spelled) :
    (Fields.collect (canonicalFields file)).get? name =
      (given file spelled).map (canonicalValue name) := by
  rw [Fields.get?_collect]
  cases found : given file spelled with
  | none =>
      refine Fields.get?_eq_none fun member => ?_
      obtain ⟨⟨_, json⟩, inReverse, rfl⟩ := List.mem_map.mp member
      obtain ⟨spelling, value, inFile, isName, -⟩ :=
        mem_canonicalFields_iff.mp (List.mem_reverse.mp inReverse)
      have absent := List.findSome?_eq_none_iff.mp found spelling (spells.mem_iff.mpr isName)
      rw [(Fields.get?_eq_some_iff nodup).mpr inFile] at absent
      cases absent
  | some json =>
      obtain ⟨spelling, isSpelled, inFile⟩ := (given_eq_some_iff nodup once).mp found
      have isName := spells.mem_iff.mp isSpelled
      refine Fields.get?_of_unique (List.mem_reverse.mpr
        (mem_canonicalFields_iff.mpr ⟨spelling, json, inFile, isName, rfl⟩)) fun other another => ?_
      obtain ⟨spelling', value, inFile', isName', rfl⟩ :=
        mem_canonicalFields_iff.mp (List.mem_reverse.mp another)
      obtain rfl := once spelling isSpelled spelling' (spells.mem_iff.mpr isName')
        (List.mem_map_of_mem inFile) (List.mem_map_of_mem inFile')
      rw [Fields.unique_of_nodup nodup inFile inFile']

def overlaid (base file : Fields Json) : Fields Json :=
  Json.mergeFields base (Fields.collect (canonicalFields file))

variable {base file : Fields Json} {name : String} {spelled : List String}

theorem get?_overlaid (nodupBase : base.names.Nodup) (nodup : file.names.Nodup)
    (spells : Spells name spelled) (once : SpelledOnce file spelled) :
    (overlaid base file).get? name =
      ((given file spelled).map fun json =>
        Json.layOver (base.get? name) (canonicalValue name json)).or (base.get? name) := by
  rw [overlaid, Json.get?_mergeFields nodupBase (Fields.nodup_collect _),
    get?_canonicalFields nodup spells once, Option.map_map]
  rfl

/-- Defaults under the own names of a record, whose other spellings are all brought into canonical
form. -/
structure Defaults (names : Json.FieldNames) (base : Fields Json) : Prop where
  nodup : base.names.Nodup
  canonical : ∀ name ∈ base.names, name ∉ spellings.map Prod.fst
  spelled : ∀ name ∈ names, ∀ spelling ∈ name.2, spelling ∈ spellings.map Prod.fst

theorem Defaults.exists_record {names : Json.FieldNames} (defaults : Defaults names base)
    (file : Fields Json) :
    ∃ kept, Json.record? names (.object (overlaid base file)) = some kept ∧
      ∀ name, names.resolve? name = some name →
        kept.get? name = (overlaid base file).get? name := by
  have own : ∀ name ∈ (overlaid base file).names, ∀ known,
      names.resolve? name = some known → known = name := by
    intro name member known resolved
    have canonical : name ∉ spellings.map Prod.fst := by
      rcases (Json.mem_names_mergeFields defaults.nodup _ name).mp member with inBase | inFile
      · exact defaults.canonical name inBase
      · obtain ⟨⟨_, json⟩, inCollected, rfl⟩ := List.mem_map.mp inFile
        obtain ⟨spelling, _, _, rfl, _⟩ :=
          mem_canonicalFields_iff.mp (Fields.mem_of_mem_collect inCollected)
        exact canonicalName_notMem spelling
    obtain ⟨entry, found, rfl⟩ := Option.map_eq_some_iff.mp resolved
    have isEntry := List.find?_some found
    rw [Bool.or_eq_true, beq_iff_eq, List.contains_iff_mem] at isEntry
    exact isEntry.resolve_right fun isSpelling =>
      canonical (defaults.spelled entry (List.mem_of_find?_eq_some found) name isSpelling)
  have renamed := Json.FieldNames.rename?_eq_filter (Json.nodup_mergeFields defaults.nodup _) own
  refine ⟨_, renamed, fun name isOwn => Fields.get?_filter (fun _ => ?_) _⟩
  rw [isOwn, Option.isSome_some]

structure Readable {α : Type} (read : Json → Option α) (file : Fields Json)
    (spelled : List String) : Prop where
  once : SpelledOnce file spelled
  typed : ∀ json ∈ given file spelled, (read json).isSome

instance {α : Type} (read : Json → Option α) (file : Fields Json) (spelled : List String) :
    Decidable (Readable read file spelled) :=
  decidable_of_iff
    ((∀ first ∈ spelled, ∀ second ∈ spelled,
      first ∈ file.names → second ∈ file.names → first = second) ∧
        ∀ json ∈ given file spelled, (read json).isSome)
    ⟨fun parts => ⟨parts.1, parts.2⟩, fun readable => ⟨readable.once, readable.typed⟩⟩

theorem canonicalValue_of_not_object {json : Json} (scalar : Json.object? json = none)
    (name : String) : canonicalValue name json = json := by
  cases json with
  | object => cases scalar
  | null | bool | number | string | array => rfl

theorem layOver_of_not_object {json : Json} (scalar : Json.object? json = none)
    (under : Option Json) : Json.layOver under json = json := by
  cases json with
  | object => cases scalar
  | null | bool | number | string | array => cases under <;> rfl

variable {α : Type} {read : Json → Option α} {kept : Fields Json}

theorem fieldOr_of_bind {fields : Fields Json} {value : α} (fallback : α)
    (reads : (fields.get? name).bind read = some value) :
    Json.fieldOr fields name fallback read = some value := by
  rw [Json.fieldOr]
  cases found : fields.get? name with
  | none =>
      rw [found] at reads
      cases reads
  | some json =>
      rw [found] at reads
      exact reads

theorem fieldOr_scalar {value fallback : α} (nodupBase : base.names.Nodup)
    (nodup : file.names.Nodup) (spells : Spells name spelled)
    (scalar : ∀ fields, read (.object fields) = none)
    (inBase : (base.get? name).bind read = some value) (readable : Readable read file spelled)
    (isKept : kept.get? name = (overlaid base file).get? name) :
    Json.fieldOr kept name fallback read = some (((given file spelled).bind read).getD value) := by
  rw [Json.fieldOr, isKept, get?_overlaid nodupBase nodup spells readable.once]
  cases found : given file spelled with
  | none =>
      rw [Option.map_none, Option.none_or, Option.bind_none, Option.getD_none]
      exact fieldOr_of_bind fallback inBase
  | some json =>
      obtain ⟨result, reads⟩ := Option.isSome_iff_exists.mp (readable.typed json found)
      have notObject : Json.object? json = none := by
        cases json with
        | object fields =>
            rw [scalar] at reads
            cases reads
        | null | bool | number | string | array => rfl
      rw [Option.map_some, Option.some_or, canonicalValue_of_not_object notObject,
        layOver_of_not_object notObject, Option.bind_some, reads, Option.getD_some]
      exact reads

theorem get?_overlaid_object {inner : Fields Json} (nodupBase : base.names.Nodup)
    (nodup : file.names.Nodup) (spells : Spells name spelled)
    (isObject : name = "dialect" ∨ name = "wl_next")
    (inBase : base.get? name = some (.object inner))
    (readable : Readable Json.object? file spelled) :
    (overlaid base file).get? name = some (.object (overlaid inner (part file spelled))) := by
  rw [get?_overlaid nodupBase nodup spells readable.once, inBase, part]
  cases found : given file spelled with
  | none => rfl
  | some json =>
      have typed := readable.typed json found
      cases json with
      | object fields =>
          rw [Option.map_some, Option.some_or, canonicalValue, if_pos isObject]
          rfl
      | null | bool | number | string | array => cases typed

theorem get?_overlaid_map (nodupBase : base.names.Nodup) (nodup : file.names.Nodup)
    (spells : Spells name spelled) (notRenamed : ¬(name = "dialect" ∨ name = "wl_next"))
    (inBase : base.get? name = some (.object [])) (readable : Readable Json.object? file spelled)
    (nodupPart : (part file spelled).names.Nodup) :
    (overlaid base file).get? name = some (.object (part file spelled)) := by
  rw [get?_overlaid nodupBase nodup spells readable.once, inBase]
  rw [part] at nodupPart ⊢
  cases found : given file spelled with
  | none => rfl
  | some json =>
      have typed := readable.typed json found
      rw [found] at nodupPart
      cases json with
      | object fields =>
          rw [Option.map_some, Option.some_or, canonicalValue, if_neg notRenamed]
          exact congrArg (fun fields => some (Json.object fields))
            (Json.mergeFields_of_nodup nodupPart)
      | null | bool | number | string | array => cases typed

end Settings

end QuerySql

import QuerySql.Proofs.Sql.Unquoted
import QuerySql.Proofs.Statement.Items

namespace QuerySql.Sql

def behindDot? : List Char → Option (List Char)
  | [] => none
  | char :: rest => if char = '.' then some rest else none

def readColumn? (quote : Char) (text : List Char) : Option (ColumnRef × List Char) := do
  let (qualifier, rest) ← readName? quote text
  let rest ← behindDot? rest
  let (column, behind) ← readName? quote rest
  return (⟨String.ofList qualifier, String.ofList column⟩, behind)

def readTable? (quote : Char) (text : List Char) :
    Option ((Option String × String) × List Char) := do
  let (name, rest) ← readName? quote text
  match behindDot? rest with
  | none => return ((none, String.ofList name), rest)
  | some inner =>
      let (table, behind) ← readName? quote inner
      return ((some (String.ofList name), String.ofList table), behind)

section Reading

variable {quote : Char} {behind : List Char}

theorem behindDot?_dot (rest : List Char) : behindDot? ('.' :: rest) = some rest := by
  rw [behindDot?, if_pos rfl]

theorem behindDot?_eq_none (noDot : behind.head? ≠ some '.') : behindDot? behind = none := by
  cases behind with
  | nil => rfl
  | cons char rest => exact if_neg fun isDot => noDot (congrArg some isDot)

theorem readName?_qualified (notDot : quote ≠ '.') (first second : String) :
    readName? quote ((identifier quote first ++ "." ++ identifier quote second).toList ++ behind) =
      some (first.toList, '.' :: ((identifier quote second).toList ++ behind)) := by
  have apart : ('.' :: ((identifier quote second).toList ++ behind)).head? ≠ some quote :=
    fun same => notDot (Option.some_inj.mp same).symm
  rw [← readName?_identifier apart first]
  simp

theorem readColumn?_text (notDot : quote ≠ '.') (apart : behind.head? ≠ some quote)
    (ref : ColumnRef) :
    readColumn? quote ((ref.text quote).toList ++ behind) = some (ref, behind) := by
  rw [readColumn?, ColumnRef.text, readName?_qualified notDot]
  simp [behindDot?_dot, readName?_identifier apart]

theorem ColumnRef.eq_of_text_eq (notDot : quote ≠ '.') {ref other : ColumnRef}
    (same : ref.text quote = other.text quote) : ref = other := by
  have apart : ([] : List Char).head? ≠ some quote := nofun
  have read := readColumn?_text notDot apart ref
  rw [same, readColumn?_text notDot apart other, Option.some_inj] at read
  exact (Prod.mk.inj read).1.symm

end Reading

variable {dialect : Dialect} {behind : List Char}

theorem readTable?_text (notDot : dialect.quote ≠ '.')
    (apart : behind.head? ≠ some dialect.quote) (noDot : behind.head? ≠ some '.')
    (table : String) :
    readTable? dialect.quote
        ((Fragment.text dialect (tableFragments dialect table)).toList ++ behind) =
      some ((dialect.qualifiers.lookup table, table), behind) := by
  rw [readTable?, tableFragments]
  cases dialect.qualifiers.lookup table with
  | none =>
      have text : Fragment.text dialect [.quoted table] = identifier dialect.quote table := by
        simp [Fragment.text, Fragment.emitAll_cons, Fragment.emit]
      simp [text, readName?_identifier apart, behindDot?_eq_none noDot]
  | some schema =>
      have text : Fragment.text dialect [.quoted schema, .fixed ".", .quoted table] =
          identifier dialect.quote schema ++ "." ++ identifier dialect.quote table :=
        ColumnRef.text_fragments ⟨schema, table⟩
      rw [text, readName?_qualified notDot]
      simp [behindDot?_dot, readName?_identifier apart]

/-- Names are read back whatever they hold, and what stands behind them is left, if that does not go
on with a quote, or with a dot where a table may stand behind its schema. -/
theorem read_references (notDot : dialect.quote ≠ '.')
    (apart : behind.head? ≠ some dialect.quote) :
    (∀ name, readName? dialect.quote ((identifier dialect.quote name).toList ++ behind) =
      some (name.toList, behind)) ∧
    (∀ column : Column,
      readColumn? dialect.quote
          ((Fragment.text dialect (column.fragments false)).toList ++ behind) =
        some (column.ref, behind)) ∧
    (∀ column other : Column,
      Fragment.text dialect (column.fragments false) =
          Fragment.text dialect (other.fragments false) →
        column.ref = other.ref) ∧
    (behind.head? ≠ some '.' → ∀ table,
      readTable? dialect.quote
          ((Fragment.text dialect (tableFragments dialect table)).toList ++ behind) =
        some ((dialect.qualifiers.lookup table, table), behind)) := by
  have text (column : Column) : Fragment.text dialect (column.fragments false) =
      column.ref.text dialect.quote := column.ref.text_fragments
  refine ⟨readName?_identifier apart, fun column => ?_, fun column other same => ?_,
    fun noDot table => readTable?_text notDot apart noDot table⟩
  · rw [text]
    exact readColumn?_text notDot apart column.ref
  · rw [text, text] at same
    exact ColumnRef.eq_of_text_eq notDot same

theorem read_references_bordering :
    readName? '`' ((identifier '`' "``.").toList ++ ".`".toList) =
      some ("``.".toList, ".`".toList) ∧
    Fragment.text .mysql (Column.fragments ⟨⟨"a`.`b", "c"⟩, true⟩ false) = "`a``.``b`.`c`" ∧
    readColumn? '`' ("`a``.``b`.`c`".toList ++ ".`".toList) = some (⟨"a`.`b", "c"⟩, ".`".toList) ∧
    Fragment.text .mysql (Column.fragments ⟨⟨"a`.`b", "c"⟩, true⟩ false) ≠
      Fragment.text .mysql (Column.fragments ⟨⟨"a", "b`.`c"⟩, true⟩ false) ∧
    readTable? '`' ((Fragment.text (Dialect.mysql.withQualifier "" "`.`")
        (tableFragments (Dialect.mysql.withQualifier "" "`.`") "")).toList ++ " AS ".toList) =
      some ((some "`.`", ""), " AS ".toList) ∧
    readTable? '`' ((Fragment.text (Dialect.mysql.withQualifier "" "`.`")
        (tableFragments (Dialect.mysql.withQualifier "" "`.`") "`.`")).toList ++ " AS ".toList) =
      some ((none, "`.`"), " AS ".toList) := by
  obtain ⟨names, columns, injective, -⟩ :=
    @read_references .mysql ".`".toList (by decide) (by decide)
  obtain ⟨-, -, -, tables⟩ :=
    @read_references (Dialect.mysql.withQualifier "" "`.`") " AS ".toList (by decide) (by decide)
  have written : Fragment.text .mysql (Column.fragments ⟨⟨"a`.`b", "c"⟩, true⟩ false) =
      "`a``.``b`.`c`" := by decide
  refine ⟨names "``.", written, ?_, ?_, tables (by decide) "", tables (by decide) "`.`"⟩
  · rw [← written]
    exact columns ⟨⟨"a`.`b", "c"⟩, true⟩
  · intro same
    exact absurd (injective _ _ same) (by decide)

end QuerySql.Sql

import QuerySql.Proofs.Compiler.Realization
import QuerySql.Proofs.Statement.Placeholders

namespace QuerySql

open Sql Sql.Fragment Compile

namespace Compiler

/-- The state between two keys: the next placeholder has the number behind those of the values, of
which there are none if values are not bound. -/
def Numbered (compiler : Compiler) : Prop :=
  compiler.bindings.Numbered compiler.dialect

variable {compiler : Compiler}

theorem numbered_written (numbered : compiler.Numbered) (predicate : Predicate) :
    (compiler.binding (compiler.written predicate).2).Numbered :=
  numbered_emitAll numbered _

theorem prefix_written (predicate : Predicate) :
    compiler.bindings.values <+: (compiler.written predicate).2.values :=
  prefix_emitAll _

/-- Compiling a key changes nothing but the bindings, whether it returns or fails.  It adds values
behind those that are bound and numbers them on, but leaves everything as it is for a key that
constrains nothing. -/
theorem numbered_expand (numbered : compiler.Numbered) (key : String) (filter : Filter) :
    match (expand key filter).runFrom compiler with
    | (.ok predicate, after) =>
        after.Numbered ∧ after = { compiler with bindings := after.bindings } ∧
          compiler.bindings.values <+: after.bindings.values ∧
          (predicate = none → after = compiler)
    | (.error _, after) => after = { compiler with bindings := after.bindings } := by
  have realizes := realizes_expand key filter compiler
  cases expanded : compiler.scope.expand key filter with
  | error error =>
      rw [expanded] at realizes
      obtain ⟨bindings, fails⟩ := realizes
      rw [fails]
      rfl
  | ok planned =>
      rw [expanded] at realizes
      rw [realizes.run_eq]
      cases planned with
      | none => exact ⟨numbered, rfl, List.prefix_rfl, fun _ => rfl⟩
      | some predicate =>
          exact ⟨numbered_written numbered predicate, rfl, prefix_written predicate, nofun⟩

def sampleCompiler : Compiler where
  schema := Statement.sampleSchema
  table := { name := "user", attributes := [("team", Attribute.withForeignKey {} "team" "id")] }
  dialect := {}
  bindings := { values := [.int 7], next := 2 }

def labelled (groups : Criteria) : Filter :=
  .object (("label", .value (.string "A")) :: groups)

def sampleAlternatives : Filter :=
  .list [.object [("team", labelled [])], .object []]

theorem numbered_expand_sample :
    sampleCompiler.Numbered ∧
      (∃ after, (expand "team" (labelled [])).runFrom sampleCompiler =
          (.ok (some "LOWER(\"__team\".\"label\") = $2"), after) ∧
        after.Numbered ∧ after = { sampleCompiler with bindings := after.bindings } ∧
        [.int 7] <+: after.bindings.values) ∧
      (expand "or" sampleAlternatives).runFrom sampleCompiler = (.ok none, sampleCompiler) ∧
      ∃ after, (expand "team" (labelled [("and", .list [])])).runFrom sampleCompiler =
          (.error (.malformed (.emptyGroup .conjunction)), after) ∧
        after = { sampleCompiler with bindings := after.bindings } := by
  have numbered : sampleCompiler.Numbered := rfl
  refine ⟨numbered, ?_, ?_, ?_⟩
  · have kept := numbered_expand numbered "team" (labelled [])
    have result : ((expand "team" (labelled [])).runFrom sampleCompiler).1 =
      .ok (some "LOWER(\"__team\".\"label\") = $2") := by decide
    rcases runs : (expand "team" (labelled [])).runFrom sampleCompiler with ⟨_, after⟩
    rw [runs] at kept result
    cases result
    obtain ⟨numberedAfter, same, added, -⟩ := kept
    exact ⟨after, rfl, numberedAfter, same, added⟩
  · have kept := numbered_expand numbered "or" sampleAlternatives
    have result : ((expand "or" sampleAlternatives).runFrom sampleCompiler).1 = .ok none := by
      decide
    rcases runs : (expand "or" sampleAlternatives).runFrom sampleCompiler with ⟨_, after⟩
    rw [runs] at kept result
    cases result
    obtain ⟨-, -, -, unchanged⟩ := kept
    rw [unchanged rfl]
  · have kept := numbered_expand numbered "team" (labelled [("and", .list [])])
    have result : ((expand "team" (labelled [("and", .list [])])).runFrom sampleCompiler).1 =
      .error (.malformed (.emptyGroup .conjunction)) := by decide
    rcases runs : (expand "team" (labelled [("and", .list [])])).runFrom sampleCompiler
      with ⟨_, after⟩
    rw [runs] at kept result
    cases result
    exact ⟨after, rfl, kept⟩

end Compiler

end QuerySql

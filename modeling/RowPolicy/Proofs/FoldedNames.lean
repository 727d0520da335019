import RowPolicy.Proofs.Occurrences
import RowPolicy.Sql.Batch

/-!
# Folded names

PostgreSQL does not distinguish the case of unquoted identifiers: it knows them by their lower-case
form, and a quoted identifier by its spelling. So `Foo` and `"foo"` name the same thing, while `Foo`
and `"Foo"` do not. `Ident.same` compares two unquoted identifiers in this way and two quoted ones
too; a quoted one and an unquoted one it compares by their spellings.

Main statements:

* `Sql.Ident.hides_iff`, `Sql.Ident.misses_iff`: the two ways in which the comparison differs from
  that of folded names need a quoted identifier, an unquoted one, and capital letters;
* `skipped_iff_folded_iff`: when exactly a name is taken for that of a subquery just as PostgreSQL
  takes it.
-/

namespace RowPolicy

open Sql

/-! ## Lower case -/

theorem Text.toLower_eq_self_iff {c : Char} : c.toLower = c ↔ c.isUpper = false := by
  have hupper : c.isUpper = true ↔ 'A'.val ≤ c.val ∧ c.val ≤ 'Z'.val := by
    unfold Char.isUpper
    simp
  rw [← Bool.not_eq_true, hupper]
  unfold Char.toLower
  split
  next h =>
    refine ⟨fun heq => ?_, fun hn => absurd h hn⟩
    have hval : (c.val + 32).toNat = c.val.toNat := congrArg (UInt32.toNat ∘ Char.val) heq
    have hlt := c.val.toNat_lt
    rw [UInt32.toNat_add, show (32 : UInt32).toNat = 32 from rfl] at hval
    omega
  next h => exact ⟨fun _ => h, fun _ => rfl⟩

theorem Text.toLower_text_eq_self_iff {s : String} :
    s.toLower = s ↔ ∀ c ∈ s.toList, c.isUpper = false := by
  have hmap : s.toList.map Char.toLower = s.toList.map id ↔ ∀ c ∈ s.toList, c.toLower = id c :=
    List.map_inj_left
  rw [List.map_id] at hmap
  rw [← String.toList_inj]
  unfold String.toLower
  rw [String.toList_map, hmap]
  simp only [id, toLower_eq_self_iff]

theorem Text.eqIgnoringAsciiCase_iff {s t : String} :
    eqIgnoringAsciiCase s t = true ↔ s.toLower = t.toLower := by
  unfold String.toLower
  rw [eqIgnoringAsciiCase, beq_iff_eq, ← String.toList_inj, String.toList_map, String.toList_map]

/-! ## Identifiers -/

namespace Sql.Ident

/-- The name by which PostgreSQL knows an identifier. -/
def folded (ident : Ident) : String :=
  match ident.quote with
  | none => ident.value.toLower
  | some _ => ident.value

/-- One of two identifiers is quoted and the other is not. -/
def Mixed (a b : Ident) : Prop := a.quote.isSome ≠ b.quote.isSome

/-- A named subquery that is taken for a name which is not its own: both are spelled alike, with
capital letters, and one of them is quoted. -/
def Hides (cte name : Ident) : Prop :=
  cte.Mixed name ∧ cte.value = name.value ∧ ∃ c ∈ name.value.toList, c.isUpper = true

/-- A named subquery that is not recognized by its own name: one of them is quoted, the other has
capital letters. -/
def Misses (cte name : Ident) : Prop :=
  cte.Mixed name ∧ cte.folded = name.folded ∧ cte.value ≠ name.value

theorem same_iff_of_not_mixed {a b : Ident} (h : ¬a.Mixed b) :
    a.same b = true ↔ a.folded = b.folded := by
  obtain ⟨value, quote⟩ := a
  obtain ⟨value', quote'⟩ := b
  cases quote with
  | none =>
    cases quote' with
    | none => exact Text.eqIgnoringAsciiCase_iff
    | some q => exact absurd Bool.noConfusion h
  | some q =>
    cases quote' with
    | none => exact absurd Bool.noConfusion h
    | some q' => exact beq_iff_eq

theorem same_iff_of_mixed {a b : Ident} (h : a.Mixed b) : a.same b = true ↔ a.value = b.value := by
  obtain ⟨value, quote⟩ := a
  obtain ⟨value', quote'⟩ := b
  cases quote with
  | none =>
    cases quote' with
    | none => exact absurd rfl h
    | some q => exact beq_iff_eq
  | some q => exact beq_iff_eq

/-- Of two identifiers with one spelling, the quoted and the unquoted one have the same folded name
if the spelling has no capital letter. -/
theorem folded_eq_iff_of_mixed {a b : Ident} (h : a.Mixed b) (hvalue : a.value = b.value) :
    a.folded = b.folded ↔ ∀ c ∈ b.value.toList, c.isUpper = false := by
  obtain ⟨value, quote⟩ := a
  obtain ⟨value', quote'⟩ := b
  obtain rfl : value = value' := hvalue
  cases quote with
  | none =>
    cases quote' with
    | none => exact absurd rfl h
    | some q => exact Text.toLower_text_eq_self_iff
  | some q =>
    cases quote' with
    | none => exact eq_comm.trans Text.toLower_text_eq_self_iff
    | some q' => exact absurd rfl h

theorem hides_iff {cte name : Ident} :
    cte.Hides name ↔ cte.same name = true ∧ cte.folded ≠ name.folded := by
  constructor
  · rintro ⟨hmixed, hvalue, c, hc, hupper⟩
    refine ⟨(same_iff_of_mixed hmixed).mpr hvalue, fun hfolded => ?_⟩
    have := (folded_eq_iff_of_mixed hmixed hvalue).mp hfolded c hc
    rw [hupper] at this
    cases this
  · rintro ⟨hsame, hfolded⟩
    by_cases hmixed : cte.Mixed name
    · have hvalue := (same_iff_of_mixed hmixed).mp hsame
      rw [Ne, folded_eq_iff_of_mixed hmixed hvalue] at hfolded
      refine ⟨hmixed, hvalue, ?_⟩
      simpa using hfolded
    · exact absurd ((same_iff_of_not_mixed hmixed).mp hsame) hfolded

theorem misses_iff {cte name : Ident} :
    cte.Misses name ↔ cte.same name = false ∧ cte.folded = name.folded := by
  rw [← Bool.not_eq_true]
  constructor
  · rintro ⟨hmixed, hfolded, hvalue⟩
    exact ⟨fun hsame => hvalue ((same_iff_of_mixed hmixed).mp hsame), hfolded⟩
  · rintro ⟨hsame, hfolded⟩
    by_cases hmixed : cte.Mixed name
    · exact ⟨hmixed, hfolded, fun hvalue => hsame ((same_iff_of_mixed hmixed).mpr hvalue)⟩
    · exact absurd ((same_iff_of_not_mixed hmixed).mpr hfolded) hsame

/-- Whether some of the names that can be referred to is recognized in an identifier just as
PostgreSQL recognizes it. -/
theorem any_same_iff_folded_iff (bound : List Ident) (ident : Ident) :
    (((bound.any fun cte => cte.same ident) = true ↔ ∃ cte ∈ bound, cte.folded = ident.folded) ↔
      ((∃ cte ∈ bound, cte.Hides ident) → ∃ cte ∈ bound, cte.folded = ident.folded) ∧
      ((∃ cte ∈ bound, cte.Misses ident) → ∃ cte ∈ bound, cte.same ident = true)) := by
  rw [List.any_eq_true]
  constructor
  · intro h
    refine ⟨fun ⟨cte, hmem, hhides⟩ => h.mp ⟨cte, hmem, (hides_iff.mp hhides).1⟩,
      fun ⟨cte, hmem, hmisses⟩ => h.mpr ⟨cte, hmem, (misses_iff.mp hmisses).2⟩⟩
  · rintro ⟨hhidden, hmissed⟩
    constructor
    · rintro ⟨cte, hmem, hsame⟩
      by_cases hfolded : cte.folded = ident.folded
      · exact ⟨cte, hmem, hfolded⟩
      · exact hhidden ⟨cte, hmem, hides_iff.mpr ⟨hsame, hfolded⟩⟩
    · rintro ⟨cte, hmem, hfolded⟩
      cases hsame : cte.same ident with
      | true => exact ⟨cte, hmem, hsame⟩
      | false => exact hmissed ⟨cte, hmem, misses_iff.mpr ⟨hsame, hfolded⟩⟩

end Sql.Ident

/-! ## Tables behind named subqueries -/

/-- An unqualified name in an accepted statement is taken for a named subquery exactly when one with
its folded name can be referred to, unless a subquery of another name hides it or the subqueries of
its name are all missed. -/
theorem skipped_iff_folded_iff {statement : Statement} {tables : List TableReference}
    (h : references statement = .ok tables) :
    tables = (statement.occurrences.filter fun occurrence => !occurrence.isBound).map
        (·.reference statement.operation) ∧
      ∀ occurrence ∈ statement.occurrences, ∀ ident, occurrence.name = [ident] →
        ((occurrence.isBound = true ↔
            ∃ cte ∈ occurrence.scope.bound, cte.folded = ident.folded) ↔
          ((∃ cte ∈ occurrence.scope.bound, cte.Hides ident) →
            ∃ cte ∈ occurrence.scope.bound, cte.folded = ident.folded) ∧
          ((∃ cte ∈ occurrence.scope.bound, cte.Misses ident) →
            ∃ cte ∈ occurrence.scope.bound, cte.same ident = true)) := by
  refine ⟨references_eq_stored h, fun occurrence _ ident hname => ?_⟩
  rw [Occurrence.isBound, hname]
  exact Ident.any_same_iff_folded_iff occurrence.scope.bound ident

/-- `WITH Foo AS (SELECT 1) SELECT * FROM` a table. -/
def behindFoo (table : Ident) : Statement :=
  .query {
    ctes := [{
      name := { value := "Foo" }
      query := { body := .select ⟨[.words " 1"], [], none, []⟩ } }]
    body := .select ⟨[.words " *"], [⟨.table [table] none "" none "", []⟩], none, []⟩ }

theorem occurrences_behindFoo (table : Ident) :
    (behindFoo table).occurrences = [⟨[table], none, ⟨[{ value := "Foo" }], true⟩⟩] := by
  simp [behindFoo, Statement.occurrences, Fragment.occurrences_eq, Fragment.below,
    Fragment.ownOccurrences, Scope.ctes, Scope.queries, Scope.items, Scope.joins, Scope.inside,
    cteNames, queriesOfPieces, Piece.queries, queriesOfFilter, queriesOfArguments]

theorem skipped_iff_folded_iff_behindFoo :
    references (behindFoo { value := "foo", quote := '"' }) =
        .ok [.ofName [{ value := "foo", quote := '"' }] none .select] ∧
      ⟨[{ value := "foo", quote := '"' }], none, ⟨[{ value := "Foo" }], true⟩⟩ ∈
        (behindFoo { value := "foo", quote := '"' }).occurrences ∧
      ¬(Filters.isBound [{ value := "Foo" }] [{ value := "foo", quote := '"' }] = true ↔
        ∃ cte ∈ [({ value := "Foo" } : Ident)],
          cte.folded = ({ value := "foo", quote := '"' } : Ident).folded) := by
  have h : references (behindFoo { value := "foo", quote := '"' }) = .ok _ := rfl
  have hmem : (⟨[{ value := "foo", quote := '"' }], none, ⟨[{ value := "Foo" }], true⟩⟩ :
      Occurrence) ∈ (behindFoo { value := "foo", quote := '"' }).occurrences := by
    rw [occurrences_behindFoo]
    exact List.mem_singleton.mpr rfl
  refine ⟨h, hmem, fun hclaim => ?_⟩
  obtain ⟨-, hmissed⟩ := ((skipped_iff_folded_iff h).2 _ hmem _ rfl).mp hclaim
  obtain ⟨cte, hcte, hsame⟩ := hmissed ⟨{ value := "Foo" }, List.mem_singleton.mpr rfl,
    Bool.noConfusion, by decide +kernel, by decide⟩
  rw [List.mem_singleton.mp hcte] at hsame
  cases hsame

/-- The table `"Foo"` is taken for the subquery `Foo`, whose name is `foo`. -/
theorem quoted_table_hidden :
    ((readBatch .postgres "WITH Foo AS (SELECT 1) SELECT * FROM \"Foo\"").toOption.map
        fun batch => batch.map fun statement => (references statement).toOption) = some [some []] ∧
      references (behindFoo { value := "Foo", quote := '"' }) = .ok [] ∧
      ∃ occurrence ∈ (behindFoo { value := "Foo", quote := '"' }).occurrences,
        occurrence.name = [{ value := "Foo", quote := '"' }] ∧ occurrence.isBound = true ∧
        ¬∃ cte ∈ occurrence.scope.bound,
          cte.folded = ({ value := "Foo", quote := '"' } : Ident).folded := by
  refine ⟨by decide +kernel, rfl,
    ⟨[{ value := "Foo", quote := '"' }], none, ⟨[{ value := "Foo" }], true⟩⟩, ?_, rfl, rfl,
    by decide +kernel⟩
  rw [occurrences_behindFoo]
  exact List.mem_singleton.mpr rfl

end RowPolicy

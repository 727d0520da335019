import RowPolicy.Rewrite

/-!
# Composing predicates for the tables of a statement

`composeAll` asks the registry once for each way in which a table is referred to, one after another
in one session. `AskedInTurn` says that a list of answers came about in this way.

Main statements: `composeAll_ok`, and `Composed.lookup_filters`, by which the filters that are put
into a statement are the predicates that were answered.
-/

namespace RowPolicy

open Sql

/-- A computation that succeeds goes through its first step. -/
theorem Asking.bind_ok {α β : Type} {first : Asking α} {next : α → Asking β} {b : β}
    {session last : Session} (h : (first >>= next).run.run session = (.ok b, last)) :
    ∃ a middle, first.run.run session = (.ok a, middle) ∧
      (next a).run.run middle = (.ok b, last) := by
  rw [ExceptT.run_bind, StateT.run_bind] at h
  generalize first.run.run session = outcome at h ⊢
  obtain ⟨result, middle⟩ := outcome
  cases result with
  | error e => cases congrArg Prod.fst h
  | ok a => exact ⟨a, middle, rfl, h⟩

section

variable {α β : Type} {first : Asking α} {next : α → Asking β} {session last : Session}

theorem Asking.bind_ok_iff {b : β} : (first >>= next).run.run session = (.ok b, last) ↔
    ∃ a middle, first.run.run session = (.ok a, middle) ∧
      (next a).run.run middle = (.ok b, last) := by
  refine ⟨bind_ok, ?_⟩
  rintro ⟨a, middle, hfirst, hnext⟩
  rw [run_bind, hfirst]
  exact hnext

/-- A computation fails at its first step or behind it. -/
theorem Asking.bind_error_iff {e : RewriteError} :
    (first >>= next).run.run session = (.error e, last) ↔
      first.run.run session = (.error e, last) ∨ ∃ a middle,
        first.run.run session = (.ok a, middle) ∧ (next a).run.run middle = (.error e, last) := by
  rw [run_bind]
  cases hfirst : first.run.run session with
  | mk outcome reached =>
    cases outcome with
    | error e' =>
      constructor
      · intro h
        obtain ⟨herror, rfl⟩ := Prod.mk.inj h
        obtain rfl := Except.error.inj herror
        exact Or.inl rfl
      · rintro (h | ⟨_, _, h, -⟩)
        · obtain ⟨herror, rfl⟩ := Prod.mk.inj h
          obtain rfl := Except.error.inj herror
          rfl
        · cases congrArg Prod.fst h
    | ok a =>
      constructor
      · exact fun h => Or.inr ⟨a, reached, rfl, h⟩
      · rintro (h | ⟨_, _, h, hnext⟩)
        · cases congrArg Prod.fst h
        · obtain ⟨hok, rfl⟩ := Prod.mk.inj h
          obtain rfl := Except.ok.inj hok
          exact hnext

end

/-- The answers of a registry to tables that it was asked about one after another. -/
inductive AskedInTurn (registry : Registry) : Session → Composed → Session → Prop where
  | nil (session : Session) : AskedInTurn registry session [] session
  | cons {session next last : Session} {table : TableReference} {answer : Option Predicate}
      {composed : Composed}
      (asked : (registry.compose table).run.run session = (.ok answer, next))
      (others : AskedInTurn registry next composed last) :
      AskedInTurn registry session ((table, answer) :: composed) last

namespace Composed

/-- The predicate that was composed for the references with a key. -/
def predicateFor (composed : Composed) (key : String × Option Ident) : Option Predicate :=
  (composed.answerFor? key).join

/-- The keys that were asked for. -/
def keys (composed : Composed) : List (String × Option Ident) :=
  composed.map fun entry => entry.1.key

@[simp] theorem answerFor?_nil (key : String × Option Ident) : answerFor? [] key = none := rfl

theorem answerFor?_cons (entry : TableReference × Option Predicate) (composed : Composed)
    (key : String × Option Ident) :
    answerFor? (entry :: composed) key =
      if entry.1.key = key then some entry.2 else answerFor? composed key := by
  rw [answerFor?, List.find?_cons]
  split
  next h => rw [if_pos (eq_of_beq h)]; rfl
  next h => rw [if_neg (ne_of_beq_false h)]; rfl

theorem answerFor?_eq_none {composed : Composed} {key : String × Option Ident} :
    composed.answerFor? key = none ↔ key ∉ composed.keys := by
  induction composed with
  | nil => simp [keys]
  | cons entry composed ih =>
    rw [answerFor?_cons, keys, List.map_cons, List.mem_cons, ← keys]
    split
    next h => simp [h]
    next h => rw [ih]; simp [Ne.symm h]

theorem exists_of_mem_keys {composed : Composed} {key : String × Option Ident}
    (h : key ∈ composed.keys) : ∃ table answer, (table, answer) ∈ composed ∧ table.key = key ∧
      composed.answerFor? key = some answer := by
  cases hanswer : composed.answerFor? key with
  | none => exact absurd h (answerFor?_eq_none.mp hanswer)
  | some answer =>
    obtain ⟨⟨table, _⟩, hfound, rfl⟩ := Option.map_eq_some_iff.mp hanswer
    have hkey : table.key = key := by simpa using List.find?_some hfound
    exact ⟨table, _, List.mem_of_find?_eq_some hfound, hkey, rfl⟩

/-- What is put into a statement for a table is what was composed for it. -/
theorem lookup_filters {composed : Composed} (hkeys : composed.keys.Nodup)
    (key : String × Option Ident) :
    List.lookup key composed.filters = composed.predicateFor key := by
  induction composed with
  | nil => rfl
  | cons entry composed ih =>
    obtain ⟨table, answer⟩ := entry
    obtain ⟨hnew, hrest⟩ := List.nodup_cons.mp hkeys
    rw [predicateFor, answerFor?_cons]
    cases answer with
    | none =>
      rw [show filters ((table, none) :: composed) = filters composed from rfl, ih hrest]
      split
      next h =>
        subst h
        rw [predicateFor, answerFor?_eq_none.mpr hnew]
        rfl
      next => rfl
    | some p =>
      rw [show filters ((table, some p) :: composed) = (table.key, p) :: filters composed from rfl,
        List.lookup_cons]
      split
      next h => rw [if_pos (eq_of_beq h).symm]; rfl
      next h => rw [if_neg (ne_of_beq_false h ∘ Eq.symm), ih hrest]; rfl

end Composed

/-- Composing for tables answers each of their keys once. -/
theorem composeAll_ok {registry : Registry} : ∀ {tables : List TableReference}
    {composed result : Composed} {session last : Session},
    (composeAll registry composed tables).run.run session = (.ok result, last) →
    ∃ more, result = composed ++ more ∧ AskedInTurn registry session more last ∧
      (composed.keys.Nodup → result.keys.Nodup) ∧
      (∀ table ∈ tables, table.key ∈ result.keys) := by
  intro tables
  induction tables with
  | nil =>
    intro composed result session last h
    obtain ⟨hresult, rfl⟩ := Prod.mk.inj h
    obtain rfl := Except.ok.inj hresult
    exact ⟨[], (List.append_nil _).symm, .nil _, id, nofun⟩
  | cons table tables ih =>
    intro composed result session last h
    rw [composeAll] at h
    cases hanswer : composed.answerFor? table.key with
    | some answer =>
      rw [hanswer] at h
      obtain ⟨more, rfl, hasked, hnodup, hall⟩ := ih h
      refine ⟨more, rfl, hasked, hnodup, List.forall_mem_cons.mpr ⟨?_, hall⟩⟩
      rw [Composed.keys, List.map_append]
      refine List.mem_append_left _ (Classical.byContradiction fun hno => ?_)
      rw [Composed.answerFor?_eq_none.mpr hno] at hanswer
      cases hanswer
    | none =>
      rw [hanswer] at h
      obtain ⟨answer, middle, hasked, h⟩ := Asking.bind_ok h
      obtain ⟨more, rfl, hothers, hnodup, hall⟩ := ih h
      refine ⟨(table, answer) :: more, by simp, .cons hasked hothers, fun hk => hnodup ?_,
        List.forall_mem_cons.mpr ⟨?_, hall⟩⟩
      · have hnew := Composed.answerFor?_eq_none.mp hanswer
        rw [Composed.keys, List.map_append, List.nodup_append]
        refine ⟨hk, List.pairwise_singleton _ _, fun a ha b hb heq => hnew ?_⟩
        have htable : b = table.key := List.mem_singleton.mp hb
        rw [← htable, ← heq]
        exact ha
      · simp [Composed.keys]

/-- Composing asks about the tables that it is given. -/
theorem composeAll_tables {registry : Registry} : ∀ {tables : List TableReference}
    {composed result : Composed} {session last : Session},
    (composeAll registry composed tables).run.run session = (.ok result, last) →
    ∀ entry ∈ result, entry ∈ composed ∨ entry.1 ∈ tables
  | [], composed, result, session, last, h => by
    obtain rfl := Except.ok.inj (congrArg Prod.fst h)
    exact fun _ hmem => Or.inl hmem
  | table :: tables, composed, result, session, last, h => by
    intro entry hmem
    rw [composeAll] at h
    cases hanswer : composed.answerFor? table.key with
    | some answer =>
      rw [hanswer] at h
      exact (composeAll_tables h entry hmem).imp_right (List.mem_cons_of_mem _)
    | none =>
      rw [hanswer] at h
      obtain ⟨answer, middle, -, h⟩ := Asking.bind_ok h
      rcases composeAll_tables h entry hmem with hbefore | hlater
      · rcases List.mem_append.mp hbefore with hknown | hnew
        · exact Or.inl hknown
        · rw [List.mem_singleton.mp hnew]
          exact Or.inr List.mem_cons_self
      · exact Or.inr (List.mem_cons_of_mem _ hlater)

/-- Composing for tables fails only where the registry fails for one of them. -/
theorem composeAll_error {registry : Registry} {e : RewriteError} {last : Session} :
    ∀ {tables : List TableReference} {composed : Composed} {session : Session},
    (composeAll registry composed tables).run.run session = (.error e, last) →
    ∃ table ∈ tables, ∃ earlier, (registry.compose table).run.run earlier = (.error e, last)
  | [], _, _, h => by cases congrArg Prod.fst h
  | table :: tables, composed, session, h => by
    rw [composeAll] at h
    cases hanswer : composed.answerFor? table.key with
    | some answer =>
      rw [hanswer] at h
      obtain ⟨other, hmem, hfailed⟩ := composeAll_error h
      exact ⟨other, List.mem_cons_of_mem _ hmem, hfailed⟩
    | none =>
      rw [hanswer] at h
      dsimp only at h
      rw [Asking.run_bind] at h
      split at h
      next =>
        obtain ⟨other, hmem, hfailed⟩ := composeAll_error h
        exact ⟨other, List.mem_cons_of_mem _ hmem, hfailed⟩
      next e' middle hfailed =>
        obtain ⟨herror, rfl⟩ := Prod.mk.inj h
        obtain rfl := Except.error.inj herror
        exact ⟨table, List.mem_cons_self, session, hfailed⟩

end RowPolicy

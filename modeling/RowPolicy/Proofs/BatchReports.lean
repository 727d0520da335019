import Mathlib.Data.List.Nodup
import RowPolicy.Engine
import RowPolicy.Proofs.Occurrences
import RowPolicy.Proofs.PlacedFilters

/-!
# What is reported about a batch

The statements of a batch are rewritten in order, each in the session that the one before it left,
and the first that fails ends the batch. For each statement the rules are asked once for every key
among its tables, where the key occurs first. An answer is kept for later references with the key,
also the answer that nothing is restricted, so no rule is asked about a key again.

Lists that are kept without repeats are told apart from the items they are made of by what they
hold, `ListsFirst`: each key once, in the order in which the keys occur first, and under each key
the first item that has it. That leaves no choice (`ListsFirst.unique`).

Main statements:

* `composeAll_tables_eq`: which tables the rules are asked about;
* `askedOnce_of_rewrite`: what a statement receives;
* `batch_reported`: when a batch is rewritten, what is reported about it, and which error it is
  otherwise.
-/

namespace RowPolicy

open Sql

/-! ## First occurrences -/

section

variable {α κ : Type} [DecidableEq κ] {keyOf : α → κ} {items listed : List α}

/-- Of the items with one key the first is listed, and they are listed in the order of the items. -/
structure ListsFirst (keyOf : α → κ) (items listed : List α) : Prop where
  keys : ∀ key, key ∈ listed.map keyOf ↔ key ∈ items.map keyOf
  first : ∀ item ∈ listed, items.find? (fun other => keyOf other = keyOf item) = some item
  order : (listed.map keyOf).Pairwise fun key later =>
    (items.map keyOf).idxOf key < (items.map keyOf).idxOf later

namespace ListsFirst

theorem nodup (h : ListsFirst keyOf items listed) : (listed.map keyOf).Nodup := by
  refine h.order.imp ?_
  rintro key _ hlt rfl
  exact Nat.lt_irrefl _ hlt

/-- What is listed can be read off the keys. -/
theorem eq_filterMap (h : ListsFirst keyOf items listed) :
    listed =
      (listed.map keyOf).filterMap fun key => items.find? fun other => keyOf other = key := by
  have hfirst : ∀ item ∈ listed, items.find? (fun other => keyOf other = keyOf item) = some item :=
    h.first
  clear h
  induction listed with
  | nil => rfl
  | cons item listed ih =>
    obtain ⟨hitem, hrest⟩ := List.forall_mem_cons.mp hfirst
    rw [List.map_cons, List.filterMap_cons_some (by exact hitem), ← ih hrest]

/-- Nothing else lists the same items. -/
theorem unique {other : List α} (h : ListsFirst keyOf items listed)
    (h' : ListsFirst keyOf items other) : listed = other := by
  have hperm : (listed.map keyOf).Perm (other.map keyOf) :=
    (List.perm_ext_iff_of_nodup h.nodup h'.nodup).mpr fun key =>
      (h.keys key).trans (h'.keys key).symm
  have hkeys : listed.map keyOf = other.map keyOf :=
    hperm.eq_of_pairwise (fun _ _ _ _ hlt hgt => absurd hlt (Nat.lt_asymm hgt)) h.order h'.order
  rw [h.eq_filterMap, h'.eq_filterMap, hkeys]

end ListsFirst

/-- The items whose keys have not been seen, each key once. -/
def newcomers (keyOf : α → κ) : List κ → List α → List α
  | _, [] => []
  | seen, item :: items =>
    if keyOf item ∈ seen then newcomers keyOf seen items
    else item :: newcomers keyOf (seen ++ [keyOf item]) items

theorem mem_keys_newcomers {key : κ} : ∀ {items : List α} {seen : List κ},
    key ∈ (newcomers keyOf seen items).map keyOf ↔ key ∉ seen ∧ key ∈ items.map keyOf
  | [], _ => by simp [newcomers]
  | item :: items, seen => by
    rw [newcomers]
    split
    next hseen =>
      rw [mem_keys_newcomers, List.map_cons, List.mem_cons]
      constructor
      · exact fun ⟨hnew, hmem⟩ => ⟨hnew, Or.inr hmem⟩
      · rintro ⟨hnew, rfl | hmem⟩
        · exact absurd hseen hnew
        · exact ⟨hnew, hmem⟩
    next hnew =>
      rw [List.map_cons, List.mem_cons, mem_keys_newcomers, List.map_cons, List.mem_cons,
        List.mem_append, List.mem_singleton]
      constructor
      · rintro (rfl | ⟨hunseen, hmem⟩)
        · exact ⟨hnew, Or.inl rfl⟩
        · exact ⟨fun hseen => hunseen (Or.inl hseen), Or.inr hmem⟩
      · rintro ⟨hunseen, rfl | hmem⟩
        · exact Or.inl rfl
        · by_cases heq : key = keyOf item
          · exact Or.inl heq
          · exact Or.inr ⟨not_or.mpr ⟨hunseen, heq⟩, hmem⟩

/-- A newcomer is not behind an item with the same key. -/
theorem find?_of_mem_newcomers {item : α} : ∀ {items : List α} {seen : List κ},
    item ∈ newcomers keyOf seen items →
      items.find? (fun other => keyOf other = keyOf item) = some item
  | [], _, h => nomatch h
  | other :: items, seen, h => by
    have hkey : keyOf item ∈ (newcomers keyOf seen (other :: items)).map keyOf :=
      List.mem_map_of_mem h
    rw [mem_keys_newcomers] at hkey
    rw [newcomers] at h
    split at h
    next hseen =>
      rw [List.find?_cons_of_neg, find?_of_mem_newcomers h]
      rw [decide_eq_true_eq]
      exact fun heq => hkey.1 (heq ▸ hseen)
    next =>
      rcases List.mem_cons.mp h with rfl | hlater
      · exact List.find?_cons_of_pos (decide_eq_true rfl)
      · have hnew := (mem_keys_newcomers.mp (List.mem_map_of_mem hlater)).1
        rw [List.find?_cons_of_neg, find?_of_mem_newcomers hlater]
        rw [decide_eq_true_eq]
        exact fun heq => hnew (List.mem_append_right _ (List.mem_singleton.mpr heq.symm))

theorem pairwise_newcomers : ∀ {items : List α} {seen : List κ},
    ((newcomers keyOf seen items).map keyOf).Pairwise fun key later =>
      (items.map keyOf).idxOf key < (items.map keyOf).idxOf later
  | [], _ => List.Pairwise.nil
  | item :: items, seen => by
    -- Behind the first item all keys are found one place later.
    have hbehind : ∀ {seen}, keyOf item ∈ seen →
        ((newcomers keyOf seen items).map keyOf).Pairwise fun key later =>
          ((item :: items).map keyOf).idxOf key < ((item :: items).map keyOf).idxOf later := by
      intro seen hseen
      have hordered : ((newcomers keyOf seen items).map keyOf).Pairwise fun key later =>
          (items.map keyOf).idxOf key < (items.map keyOf).idxOf later := pairwise_newcomers
      refine hordered.imp_of_mem fun {key later} hkey hlater hlt => ?_
      have hne : ∀ {k}, k ∈ (newcomers keyOf seen items).map keyOf → keyOf item ≠ k := by
        rintro k hk rfl
        exact (mem_keys_newcomers.mp hk).1 hseen
      rw [List.map_cons, List.idxOf_cons_ne _ (hne hkey), List.idxOf_cons_ne _ (hne hlater)]
      omega
    rw [newcomers]
    split
    next hseen => exact hbehind hseen
    next =>
      refine List.pairwise_cons.mpr ⟨fun later hlater => ?_, hbehind (by simp)⟩
      have hne : keyOf item ≠ later := by
        rintro rfl
        exact (mem_keys_newcomers.mp hlater).1 (by simp)
      rw [List.map_cons, List.idxOf_cons_self, List.idxOf_cons_ne _ hne]
      omega

theorem listsFirst_newcomers (items : List α) :
    ListsFirst keyOf items (newcomers keyOf [] items) where
  keys _ := mem_keys_newcomers.trans (and_iff_right List.not_mem_nil)
  first _ hmem := find?_of_mem_newcomers hmem
  order := pairwise_newcomers

end

theorem Engine.firstOccurrences_eq (names : List String) :
    Engine.firstOccurrences names = newcomers id [] names := by
  have hgo : ∀ seen : List String,
      names.foldl (fun seen name => if seen.contains name then seen else seen ++ [name]) seen =
        seen ++ newcomers id seen names := by
    induction names with
    | nil => exact fun seen => (List.append_nil seen).symm
    | cons name names ih =>
      intro seen
      rw [List.foldl_cons, ih, newcomers]
      by_cases hseen : name ∈ seen
      · rw [if_pos (List.contains_iff_mem.mpr hseen), if_pos (show id name ∈ seen from hseen)]
      · rw [if_neg (mt List.contains_iff_mem.mp hseen), if_neg (show id name ∉ seen from hseen),
          List.append_assoc]
        rfl
  exact hgo []

/-! ## One statement -/

/-- The rules are asked about the tables whose keys are new. -/
theorem composeAll_tables_eq {registry : Registry} : ∀ {tables : List TableReference}
    {composed result : Composed} {session last : Session},
    (composeAll registry composed tables).run.run session = (.ok result, last) →
    result.map Prod.fst =
      composed.map Prod.fst ++ newcomers TableReference.key composed.keys tables
  | [], composed, result, session, last, h => by
    obtain rfl := Except.ok.inj (congrArg Prod.fst h)
    exact (List.append_nil _).symm
  | table :: tables, composed, result, session, last, h => by
    rw [composeAll] at h
    rw [newcomers]
    cases hanswer : composed.answerFor? table.key with
    | some answer =>
      rw [hanswer] at h
      have hseen : table.key ∈ composed.keys := by
        by_contra hno
        rw [Composed.answerFor?_eq_none.mpr hno] at hanswer
        cases hanswer
      rw [if_pos hseen, composeAll_tables_eq h]
    | none =>
      rw [hanswer] at h
      obtain ⟨answer, middle, -, h⟩ := Asking.bind_ok h
      rw [if_neg (Composed.answerFor?_eq_none.mp hanswer), composeAll_tables_eq h, Composed.keys,
        List.map_append, List.map_append, List.append_assoc]
      rfl

/-- The rules were asked about a statement in this session: about each key among its tables once,
where the key occurs first; and the tables that received a predicate are those for which one was
composed. -/
structure AskedOnce (registry : Registry) (statement : Statement) (before : Session)
    (composed : Composed) (result : Rewritten) (after : Session) : Prop where
  asked : AskedInTurn registry before composed after
  tables : ListsFirst TableReference.key (stored statement.operation statement.occurrences)
    (composed.map Prod.fst)
  received :
    result.tables.map (fun scopedTable => (scopedTable.table, some scopedTable.predicate)) =
      composed.filter fun entry => entry.2.isSome

theorem Composed.tables_rewritten (composed : Composed) (statement : Statement) :
    (composed.rewritten statement).tables = composed.scopedTables := by
  rw [rewritten]
  split
  next hempty =>
    -- without a filter there is no scoped table either
    have hlength : composed.scopedTables.length = composed.filters.length := by
      rw [scopedTables, filters, List.length_filterMap_eq_countP, List.length_filterMap_eq_countP]
      simp only [Option.isSome_map]
    rw [List.isEmpty_iff.mp hempty] at hlength
    exact (List.eq_nil_of_length_eq_zero hlength).symm
  next => rfl

theorem Composed.map_scopedTables (composed : Composed) :
    composed.scopedTables.map
        (fun scopedTable => (scopedTable.table, some scopedTable.predicate)) =
      composed.filter fun entry => entry.2.isSome := by
  induction composed with
  | nil => rfl
  | cons entry composed ih =>
    obtain ⟨table, _ | predicate⟩ := entry
    · exact ih
    · exact congrArg ((table, some predicate) :: ·) ih

/-- A statement that was rewritten asked the rules once for each key among its tables. -/
theorem askedOnce_of_rewrite {registry : Registry} {statement : Statement} {session last : Session}
    {result : Rewritten}
    (h : (rewrite registry statement).run.run session = (.ok result, last)) :
    ∃ composed, AskedOnce registry statement session composed result last := by
  obtain ⟨tables, composed, hrefusal, htables, hcomposed, -⟩ := rewrite_ok h
  have hlisted := composeAll_tables_eq hcomposed
  obtain ⟨_, rfl, hasked, -, -⟩ := composeAll_ok hcomposed
  have hresult : result = composed.rewritten statement := by
    rw [rewrite_run_eq hrefusal htables, hcomposed] at h
    exact (Except.ok.inj (congrArg Prod.fst h)).symm
  refine ⟨_, hasked, ?_, ?_⟩
  · rw [← references_eq_stored htables, hlisted]
    exact listsFirst_newcomers tables
  · rw [hresult, Composed.tables_rewritten]
    exact Composed.map_scopedTables _

/-! ## All statements -/

/-- Statements are rewritten one after another, each in the session that the one before it left. -/
inductive RewrittenInTurn (registry : Registry) :
    Session → List Statement → List Rewritten → Session → Prop where
  | nil (session : Session) : RewrittenInTurn registry session [] [] session
  | cons {session middle last : Session} {statement : Statement} {result : Rewritten}
      {statements : List Statement} {results : List Rewritten}
      (first : (rewrite registry statement).run.run session = (.ok result, middle))
      (others : RewrittenInTurn registry middle statements results last) :
      RewrittenInTurn registry session (statement :: statements) (result :: results) last

section

variable {registry : Registry}

theorem mapM_rewrite_ok_iff : ∀ {statements : List Statement} {results : List Rewritten}
    {session last : Session},
    (statements.mapM (rewrite registry)).run.run session = (.ok results, last) ↔
      RewrittenInTurn registry session statements results last
  | [], results, session, last => by
    rw [List.mapM_nil]
    constructor
    · intro h
      obtain ⟨hresults, rfl⟩ := Prod.mk.inj h
      obtain rfl := Except.ok.inj hresults
      exact .nil session
    · rintro ⟨⟩
      rfl
  | statement :: statements, results, session, last => by
    rw [List.mapM_cons, Asking.bind_ok_iff]
    constructor
    · rintro ⟨result, middle, hfirst, h⟩
      obtain ⟨others, final, hothers, h⟩ := Asking.bind_ok_iff.mp h
      obtain ⟨hresults, rfl⟩ := Prod.mk.inj h
      obtain rfl := Except.ok.inj hresults
      exact .cons hfirst (mapM_rewrite_ok_iff.mp hothers)
    · intro h
      cases h with
      | cons hfirst hothers =>
        exact ⟨_, _, hfirst,
          Asking.bind_ok_iff.mpr ⟨_, last, mapM_rewrite_ok_iff.mpr hothers, rfl⟩⟩

/-- A statement fails after those in front of it were rewritten. -/
def FailsInTurn (registry : Registry) (session : Session) (statements : List Statement)
    (e : RewriteError) (last : Session) : Prop :=
  ∃ done failing rest results middle, statements = done ++ failing :: rest ∧
    RewrittenInTurn registry session done results middle ∧
    (rewrite registry failing).run.run middle = (.error e, last)

variable {e : RewriteError} {session last : Session} {statements : List Statement}

theorem not_failsInTurn_nil : ¬FailsInTurn registry session [] e last := by
  rintro ⟨done, failing, rest, -, -, heq, -⟩
  exact absurd heq.symm (List.append_ne_nil_of_right_ne_nil _ (List.cons_ne_nil _ _))

theorem failsInTurn_cons_iff {statement : Statement} :
    FailsInTurn registry session (statement :: statements) e last ↔
      (rewrite registry statement).run.run session = (.error e, last) ∨
        ∃ result middle, (rewrite registry statement).run.run session = (.ok result, middle) ∧
          FailsInTurn registry middle statements e last := by
  constructor
  · rintro ⟨done, failing, rest, results, middle, heq, hdone, hfailed⟩
    cases hdone with
    | nil =>
      obtain ⟨rfl, -⟩ := List.cons.inj heq
      exact Or.inl hfailed
    | cons hfirst hothers =>
      obtain ⟨rfl, hrest⟩ := List.cons.inj heq
      exact Or.inr ⟨_, _, hfirst, _, failing, rest, _, middle, hrest, hothers, hfailed⟩
  · rintro (hfailed | ⟨result, next, hfirst, done, failing, rest, results, middle, rfl, hdone,
      hfailed⟩)
    · exact ⟨[], statement, statements, [], session, rfl, .nil session, hfailed⟩
    · exact ⟨statement :: done, failing, rest, result :: results, middle, rfl, .cons hfirst hdone,
        hfailed⟩

theorem mapM_rewrite_error_iff : (statements.mapM (rewrite registry)).run.run session =
    (.error e, last) ↔ FailsInTurn registry session statements e last := by
  induction statements generalizing session with
  | nil =>
    rw [List.mapM_nil]
    exact iff_of_false nofun not_failsInTurn_nil
  | cons statement statements ih =>
    rw [List.mapM_cons, Asking.bind_error_iff, failsInTurn_cons_iff]
    refine or_congr_right (exists_congr fun result => exists_congr fun middle => ?_)
    rw [Asking.bind_error_iff, ih]
    -- what is done with the results behind them cannot fail
    exact and_congr_right fun _ => or_iff_left nofun

end

/-! ## The report -/

/-- A report on a batch tells what became of its statements. -/
structure Reports (sql : String) (results : List Rewritten) (report : Report) : Prop where
  original : report.originalSql = sql
  rewritten : report.rewrittenSql =
    if results = [] then sql
    else "; ".intercalate (results.map fun result => result.statement.print)
  predicates : report.predicatesAdded = results.flatMap fun result =>
    result.tables.map fun scopedTable => scopedTable.predicate.toExpr.print
  tables : ListsFirst id
    (results.flatMap fun result => result.tables.map fun scopedTable => scopedTable.table.table)
    report.tablesScoped

theorem Engine.reports_iff {sql : String} {results : List Rewritten} {report : Report} :
    Reports sql results report ↔ report = Engine.report sql results := by
  have hreports : Reports sql results (Engine.report sql results) := by
    refine ⟨rfl, ?_, ?_, ?_⟩
    · rw [Engine.report]
      simp only [List.isEmpty_iff]
    · exact List.map_flatMap ..
    · rw [Engine.report, firstOccurrences_eq, List.map_flatMap]
      exact listsFirst_newcomers _
  constructor
  · intro h
    obtain ⟨originalSql, rewrittenSql, tablesScoped, predicatesAdded⟩ := report
    exact (Report.mk.injEq ..).mpr ⟨h.original, h.rewritten.trans hreports.rewritten.symm,
      h.tables.unique hreports.tables, h.predicates.trans hreports.predicates.symm⟩
  · rintro rfl
    exact hreports

/-- A batch that cannot be read is an error. Otherwise it is rewritten just if its statements are,
one after another, and then the report tells what became of them; and it fails with the error of the
first statement that fails. A statement that is rewritten asks the rules once for each key among its
tables. -/
theorem batch_reported (engine : Engine) (sql : String) (session : Session) :
    (∀ e, engine.read sql = .error e → (engine.inject sql).run.run session = (.error e, session)) ∧
    (∀ statements, engine.read sql = .ok statements →
      (∀ report last, (engine.inject sql).run.run session = (.ok report, last) ↔
        ∃ results, RewrittenInTurn engine.registry session statements results last ∧
          Reports sql results report) ∧
      ∀ e last, (engine.inject sql).run.run session = (.error e, last) ↔
        FailsInTurn engine.registry session statements e last) ∧
    ∀ statement before result after,
      (rewrite engine.registry statement).run.run before = (.ok result, after) →
        ∃ composed, AskedOnce engine.registry statement before composed result after := by
  refine ⟨fun e hread => ?_, fun statements hread => ?_, fun _ _ _ _ => askedOnce_of_rewrite⟩
  · rw [Engine.inject, Asking.run_bind_ofExcept, hread]
  · rw [Engine.inject, Asking.run_bind_ofExcept, hread]
    dsimp only
    refine ⟨fun report last => ?_, fun e last => ?_⟩
    · simp only [Asking.bind_ok_iff, mapM_rewrite_ok_iff, Engine.reports_iff]
      constructor
      · rintro ⟨results, middle, hresults, h⟩
        obtain ⟨hreport, rfl⟩ := Prod.mk.inj h
        exact ⟨results, hresults, (Except.ok.inj hreport).symm⟩
      · rintro ⟨results, hresults, rfl⟩
        exact ⟨results, last, hresults, rfl⟩
    · rw [Asking.bind_error_iff, mapM_rewrite_error_iff]
      exact or_iff_left nofun

/-- Orders belong to tenants. -/
def tenantsEngine : Engine where
  registry := { rules := [.constant "tenant" ["t_order"] (.ok (some ownRows))] }

/-- A batch that refers to orders three times, twice in the same way. -/
def ordersThrice : String :=
  "SELECT a FROM t_order WHERE a IN (SELECT b FROM t_order); SELECT a FROM T_Order AS o"

/-- A batch with a statement that is refused. -/
def ordersThenDrop : String := "SELECT a FROM t_order; DROP TABLE t_order"

theorem batch_reported_ordersThrice :
    (∃ report last statements results, tenantsEngine.read ordersThrice = .ok statements ∧
      (tenantsEngine.inject ordersThrice).run.run {} = (.ok report, last) ∧
      report.tablesScoped = ["t_order"] ∧
      report.predicatesAdded = ["tenant_id = 'a'", "tenant_id = 'a'"] ∧
      last.journal.asked = [0, 0] ∧
      RewrittenInTurn tenantsEngine.registry {} statements results last ∧
      Reports ordersThrice results report ∧
      ∃ statement ∈ statements, ∃ before composed result after,
        AskedOnce tenantsEngine.registry statement before composed result after) ∧
    ∃ last statements, tenantsEngine.read ordersThenDrop = .ok statements ∧
      FailsInTurn tenantsEngine.registry {} statements (.definition "DROP TABLE t_order") last := by
  constructor
  · have hreport : ((tenantsEngine.inject ordersThrice).run.run {}).1.toOption.map
        (fun report => (report.tablesScoped, report.predicatesAdded)) =
          some (["t_order"], ["tenant_id = 'a'", "tenant_id = 'a'"]) ∧
        ((tenantsEngine.inject ordersThrice).run.run {}).2.journal.asked = [0, 0] := by
      decide +kernel
    obtain ⟨hunreadable, hread, hasks⟩ := batch_reported tenantsEngine ordersThrice {}
    cases hstatements : tenantsEngine.read ordersThrice with
    | error e =>
      rw [hunreadable e hstatements] at hreport
      cases hreport.1
    | ok statements =>
      obtain ⟨hok, -⟩ := hread statements hstatements
      cases hrun : (tenantsEngine.inject ordersThrice).run.run {} with
      | mk outcome last =>
        rw [hrun] at hreport
        obtain ⟨hlists, hasked⟩ := hreport
        cases outcome with
        | error e => cases hlists
        | ok report =>
          obtain ⟨htables, hpredicates⟩ := Prod.mk.inj (Option.some.inj hlists)
          obtain ⟨results, hrewritten, hreports⟩ := (hok report last).mp hrun
          refine ⟨report, last, statements, results, rfl, rfl, htables, hpredicates, hasked,
            hrewritten, hreports, ?_⟩
          cases hrewritten with
          | nil =>
            have hnone := hreports.predicates
            rw [hpredicates] at hnone
            cases hnone
          | cons hfirst _ =>
            obtain ⟨composed, honce⟩ := hasks _ _ _ _ hfirst
            exact ⟨_, List.mem_cons_self, _, composed, _, _, honce⟩
  · have hfailed : ((tenantsEngine.inject ordersThenDrop).run.run {}).1 =
        .error (.definition "DROP TABLE t_order") := by
      decide +kernel
    have hreadable : (tenantsEngine.read ordersThenDrop).isOk = true := by
      decide +kernel
    obtain ⟨-, hread, -⟩ := batch_reported tenantsEngine ordersThenDrop {}
    cases hstatements : tenantsEngine.read ordersThenDrop with
    | error e =>
      rw [hstatements] at hreadable
      cases hreadable
    | ok statements =>
      obtain ⟨-, herror⟩ := hread statements hstatements
      cases hrun : (tenantsEngine.inject ordersThenDrop).run.run {} with
      | mk outcome last =>
        rw [hrun] at hfailed
        obtain rfl : outcome = _ := hfailed
        exact ⟨last, statements, rfl, (herror _ last).mp hrun⟩

end RowPolicy

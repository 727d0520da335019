import RowPolicy.Proofs.Places
import RowPolicy.References

/-!
# What the collector finds

The collector walks through a statement once and keeps, for each open query, how many of its named
subqueries are visible. `Fragment.references` says the same without any state: a table is listed
where it stands, unless its name is bound in the scope that `Fragment.below` gives to that place.

Main statements:

* `Fragment.collects`: a walk over a fragment that is not stopped adds exactly the references of the
  fragment, and leaves everything else as it was;
* `references_eq`: the references of an accepted statement are those of its scopes, and no statement
  stands inside it.
-/

namespace RowPolicy

open Sql

/-! ## References by scope -/

/-- The reference that a fragment is, if it is a table and no named subquery. -/
def Fragment.ownReferences (operation : Operation) (scope : Scope) : Fragment → List TableReference
  | .factor (.table name _ _ knownAs _) =>
    if Filters.isBound scope.bound name then []
    else
      [TableReference.ofName name (knownAs.map Alias.name)
        (if scope.inQuery then .select else operation)]
  | _ => []

/-- The references to tables in a fragment, in the order of a walk. -/
def Fragment.references (operation : Operation) (scope : Scope) (fragment : Fragment) :
    List TableReference :=
  fragment.ownReferences operation scope ++
    (fragment.below scope).attach.flatMap fun ⟨place, _⟩ => place.2.references operation place.1
termination_by sizeOf fragment
decreasing_by exact Fragment.sizeOf_lt_of_mem_below ‹_›

theorem Fragment.references_eq (operation : Operation) (scope : Scope) (fragment : Fragment) :
    fragment.references operation scope = fragment.ownReferences operation scope ++
      (fragment.below scope).flatMap fun place => place.2.references operation place.1 := by
  rw [Fragment.references,
    List.flatMap_subtype (g := fun place => place.2.references operation place.1)
    fun _ _ => rfl, List.unattach_attach]

/-! ## Walks by fragment -/

/-- What is met in a fragment. -/
def Fragment.walk : Fragment → List Visit
  | .query q => q.walk
  | .body b => b.walk
  | .select s => s.walk
  | .item i => i.walk
  | .join j => j.walk
  | .factor f => f.walk
  | .statement s => s.walk

mutual

theorem Sql.Expr.walk_eq : ∀ e : Expr, e.walk = e.queries.flatMap Query.walk
  | .column _ => rfl
  | .literal _ => rfl
  | .prefixed _ operand => operand.walk_eq
  | .suffixed operand _ => operand.walk_eq
  | .infixed left _ right => by
    rw [Expr.walk, Expr.queries, List.flatMap_append, left.walk_eq, right.walk_eq]
  | .between operand _ low high => by
    rw [Expr.walk, Expr.queries, List.flatMap_append, List.flatMap_append, operand.walk_eq,
      low.walk_eq, high.walk_eq]
  | .among operand _ items => by
    rw [Expr.walk, Expr.queries, List.flatMap_append, operand.walk_eq, walkExprs_eq items]
  | .nested inner => inner.walk_eq
  | .subquery query => (List.append_nil query.walk).symm
  | .phrase pieces => walkPieces_eq pieces

theorem walkExprs_eq : ∀ es : List Expr, walkExprs es = (queriesOfExprs es).flatMap Query.walk
  | [] => rfl
  | e :: es => by
    rw [walkExprs, queriesOfExprs, List.flatMap_append, e.walk_eq, walkExprs_eq es]

theorem Sql.Piece.walk_eq : ∀ p : Piece, p.walk = p.queries.flatMap Query.walk
  | .words _ => rfl
  | .expr e => e.walk_eq
  | .query q => (List.append_nil q.walk).symm

theorem walkPieces_eq : ∀ ps : List Piece, walkPieces ps = (queriesOfPieces ps).flatMap Query.walk
  | [] => rfl
  | p :: ps => by
    rw [walkPieces, queriesOfPieces, List.flatMap_append, p.walk_eq, walkPieces_eq ps]

end

theorem walkFilter_eq :
    ∀ filter : Option Expr, walkFilter filter = (queriesOfFilter filter).flatMap Query.walk
  | none => rfl
  | some e => e.walk_eq

theorem Sql.JoinConstraint.walk_eq :
    ∀ constraint : JoinConstraint, constraint.walk = constraint.queries.flatMap Query.walk
  | .none => rfl
  | .natural => rfl
  | .columns _ => rfl
  | .on condition => condition.walk_eq

theorem walkArguments_eq : ∀ arguments : Option (List Piece),
    walkArguments arguments = (queriesOfArguments arguments).flatMap Query.walk
  | none => rfl
  | some pieces => walkPieces_eq pieces

theorem walkSource_eq (source : Option Query) :
    walkSource source = source.toList.flatMap Query.walk := by
  cases source with
  | none => rfl
  | some query => exact (List.append_nil query.walk).symm

theorem walkFromItems_eq (items : List FromItem) :
    walkFromItems items = items.flatMap FromItem.walk := by
  induction items with
  | nil => rfl
  | cons item items ih => rw [walkFromItems, ih, List.flatMap_cons]

theorem walkJoins_eq (joins : List Join) : walkJoins joins = joins.flatMap Join.walk := by
  induction joins with
  | nil => rfl
  | cons join joins ih => rw [walkJoins, ih, List.flatMap_cons]

/-- What is met in places, one after another. -/
def walkPlaces (places : List Place) : List Visit := places.flatMap fun place => place.2.walk

@[simp] theorem walkPlaces_nil : walkPlaces [] = [] := rfl

@[simp] theorem walkPlaces_cons (place : Place) (places : List Place) :
    walkPlaces (place :: places) = place.2.walk ++ walkPlaces places := List.flatMap_cons

@[simp] theorem walkPlaces_append (xs ys : List Place) :
    walkPlaces (xs ++ ys) = walkPlaces xs ++ walkPlaces ys := List.flatMap_append

@[simp] theorem walkPlaces_queries (scope : Scope) (qs : List Query) :
    walkPlaces (scope.queries qs) = qs.flatMap Query.walk := by
  rw [walkPlaces, Scope.queries, List.flatMap_map]
  rfl

@[simp] theorem walkPlaces_items (scope : Scope) (items : List FromItem) :
    walkPlaces (scope.items items) = items.flatMap FromItem.walk := by
  rw [walkPlaces, Scope.items, List.flatMap_map]
  rfl

@[simp] theorem walkPlaces_joins (scope : Scope) (joins : List Join) :
    walkPlaces (scope.joins joins) = joins.flatMap Join.walk := by
  rw [walkPlaces, Scope.joins, List.flatMap_map]
  rfl

/-- What a fragment other than a query opens in front of what is below it, and closes behind it. -/
def Fragment.marks : Fragment → List Visit × List Visit
  | .factor f => ([.factor f], [])
  | .statement _ => ([.openStatement], [.closeStatement])
  | _ => ([], [])

/-- A walk over a fragment is a walk over the places below it, between the marks of the fragment. A
query marks its named subqueries as well. -/
theorem Fragment.walk_eq (scope : Scope) (fragment : Fragment) (h : ∀ q, fragment ≠ .query q) :
    fragment.walk = fragment.marks.1 ++ walkPlaces (fragment.below scope) ++ fragment.marks.2 := by
  match fragment, h with
  | .query q, h => exact absurd rfl (h q)
  | .body content, _ => cases content <;> simp [walk, Body.walk, marks, below, walkPieces_eq]
  | .select ⟨projection, sources, filter, tail⟩, _ =>
    simp [walk, Select.walk, marks, below, walkPieces_eq, walkFilter_eq, walkFromItems_eq]
  | .item ⟨relation, joins⟩, _ => simp [walk, FromItem.walk, marks, below, walkJoins_eq]
  | .join ⟨kind, relation, constraint⟩, _ =>
    simp [walk, Join.walk, marks, below, JoinConstraint.walk_eq]
  | .factor relation, _ =>
    cases relation <;> simp [walk, Factor.walk, marks, below, walkPieces_eq, walkArguments_eq]
  | .statement stmt, _ =>
    cases stmt <;> simp [walk, Statement.walk, marks, below, walkPieces_eq, walkFilter_eq,
      walkFromItems_eq, walkSource_eq]

/-! ## The collector, fragment by fragment -/

namespace CteFrame

theorem reveal_reveal (frame : CteFrame) (i j : Nat) : (frame.reveal i).reveal j = frame.reveal j :=
  rfl

/-- Revealing one more name binds that name, and otherwise what was bound before. -/
theorem binds_reveal_succ {frame : CteFrame} {i : Nat} {name : Ident}
    (h : frame.names[i]? = some name) (ident : Ident) :
    (frame.reveal (i + 1)).binds ident = (name.same ident || (frame.reveal i).binds ident) := by
  unfold binds reveal
  cases hr : frame.recursive with
  | false =>
    simp only [Bool.false_eq_true, if_false]
    rw [List.take_add_one, h, List.any_append, Bool.or_comm]
    simp
  | true =>
    -- a recursive WITH has all names visible already, this one among them
    have hmem := List.mem_of_getElem? h
    simp only [if_true, List.take_length]
    cases hname : name.same ident with
    | false => rfl
    | true => exact List.any_eq_true.mpr ⟨name, hmem, hname⟩

/-- With all names revealed a frame binds every one of them. -/
theorem binds_reveal_length (frame : CteFrame) (ident : Ident) :
    (frame.reveal frame.names.length).binds ident = frame.names.any fun cte => cte.same ident := by
  simp [binds, reveal]

end CteFrame

/-- The frames bind what is bound in the scope. -/
def Scope.ShownBy (scope : Scope) (frames : List CteFrame) : Prop :=
  ∀ ident, (frames.any fun frame => frame.binds ident) = scope.bound.any fun cte => cte.same ident

namespace Scope.ShownBy

variable {scope : Scope} {frames : List CteFrame}

/-- Once one more name is revealed, the frames show the scope in which it is bound. -/
theorem bind {frame : CteFrame} {i : Nat} {name : Ident}
    (h : scope.ShownBy (frame.reveal i :: frames)) (hn : frame.names[i]? = some name) :
    (scope.bind name).ShownBy (frame.reveal (i + 1) :: frames) := by
  intro ident
  have hb := h ident
  rw [List.any_cons] at hb
  rw [List.any_cons, CteFrame.binds_reveal_succ hn, Bool.or_assoc, hb]
  rfl

/-- With the frame of a query opened, the scope of its first subquery is shown. -/
theorem openQuery (h : scope.ShownBy frames) (query : Query) :
    (if query.recursive then scope.inside query.ctes
      else { scope with inQuery := true }).ShownBy (CteFrame.ofQuery query :: frames) := by
  intro ident
  rw [List.any_cons, h ident]
  cases hr : query.recursive with
  | false => simp [CteFrame.ofQuery, CteFrame.binds, hr]
  | true => simp [CteFrame.ofQuery, CteFrame.binds, hr, inside, cteNames, List.take_of_length_le]

/-- With all subqueries of a query revealed, the scope of its body is shown. -/
theorem inside (h : scope.ShownBy frames) (query : Query) :
    (scope.inside query.ctes).ShownBy
      ((CteFrame.ofQuery query).reveal query.ctes.length :: frames) := by
  intro ident
  have hn : query.ctes.length = (CteFrame.ofQuery query).names.length := by
    simp [CteFrame.ofQuery]
  rw [List.any_cons, h ident, hn, CteFrame.binds_reveal_length]
  simp [CteFrame.ofQuery, Scope.inside, cteNames]

end Scope.ShownBy

namespace Collector

/-- The collector after it has taken in what is met on a walk. -/
def run (collector : Collector) (visits : List Visit) : Except Obstacle Collector :=
  visits.foldlM Collector.step collector

/-- The collector with more references. -/
def add (collector : Collector) (references : List TableReference) : Collector :=
  { collector with found := collector.found ++ references }

theorem run_append_ok {c c' : Collector} {xs ys : List Visit} (h : c.run (xs ++ ys) = .ok c') :
    ∃ d, c.run xs = .ok d ∧ d.run ys = .ok c' := by
  rw [run, List.foldlM_append] at h
  cases hx : List.foldlM step c xs with
  | error obstacle => rw [hx] at h; cases h
  | ok d => rw [hx] at h; exact ⟨d, hx, h⟩

theorem run_cons_ok {c c' : Collector} {v : Visit} {vs : List Visit}
    (h : c.run (v :: vs) = .ok c') :
    ∃ d, c.step v = .ok d ∧ d.run vs = .ok c' := by
  rw [run, List.foldlM_cons] at h
  cases hv : c.step v with
  | error obstacle => rw [hv] at h; cases h
  | ok d => rw [hv] at h; exact ⟨d, rfl, h⟩

theorem eq_of_run_nil {c c' : Collector} (h : c.run [] = .ok c') : c' = c := by
  injection h with h
  exact h.symm

theorem reveal_eq {c : Collector} {frame : CteFrame} {frames : List CteFrame}
    (h : c.frames = frame :: frames) (count : Nat) :
    c.reveal count = { c with frames := frame.reveal count :: frames } := by
  rw [reveal, h]

/-- The collector's frames bind what is bound in a scope. -/
structure Sees (collector : Collector) (scope : Scope) : Prop where
  bound : scope.ShownBy collector.frames
  inQuery : collector.frames.isEmpty = !scope.inQuery

theorem Sees.add {c : Collector} {scope : Scope} (h : c.Sees scope) (refs : List TableReference) :
    (c.add refs).Sees scope := ⟨h.bound, h.inQuery⟩

/-- Once one more name is revealed, the collector sees the scope in which it is bound. -/
theorem Sees.bind {c : Collector} {scope : Scope} {frame : CteFrame} {frames : List CteFrame}
    {i : Nat} {name : Ident} {refs : List TableReference} (h : c.Sees scope)
    (hf : c.frames = frame.reveal i :: frames) (hn : frame.names[i]? = some name) :
    Sees { c.add refs with frames := frame.reveal (i + 1) :: frames } (scope.bind name) := by
  obtain ⟨hb, hq⟩ := h
  rw [hf] at hb hq
  exact ⟨hb.bind hn, hq⟩

theorem refersToCte_eq {c : Collector} {scope : Scope} (h : scope.ShownBy c.frames) (name : Name) :
    c.refersToCte name = Filters.isBound scope.bound name := by
  match name with
  | [] => rfl
  | [ident] => exact h ident
  | _ :: _ :: _ => rfl

end Collector

/-! ## The walk over a fragment -/

/-- No statement stands at or below the fragment. -/
def Fragment.Plain (scope : Scope) (fragment : Fragment) : Prop :=
  ∀ path place, fragment.at? scope path = some place → ∀ stmt, place.2 ≠ .statement stmt

theorem Fragment.plain_of_below {scope : Scope} {fragment : Fragment}
    (h : ∀ stmt, fragment ≠ .statement stmt)
    (hb : ∀ place ∈ fragment.below scope, place.2.Plain place.1) : fragment.Plain scope := by
  intro path place hat
  cases path with
  | nil =>
    injection hat with hat
    rw [← hat]
    exact h
  | cons i path =>
    rw [Fragment.at?] at hat
    cases hi : (fragment.below scope)[i]? with
    | none => rw [hi] at hat; cases hat
    | some child =>
      rw [hi] at hat
      exact hb child (List.mem_of_getElem? hi) path place hat

theorem Fragment.Plain.of_mem_below {scope : Scope} {fragment : Fragment}
    (h : fragment.Plain scope) :
    ∀ place ∈ fragment.below scope, place.2.Plain place.1 := by
  intro place hmem path found hat
  obtain ⟨i, hi⟩ := List.mem_iff_getElem?.mp hmem
  refine h (i :: path) found ?_
  rw [Fragment.at?, hi]
  exact hat

/-- What a walk over a fragment does to a collector that sees the fragment's scope. -/
def Fragment.Collects (scope : Scope) (fragment : Fragment) : Prop :=
  ∀ c c' : Collector, c.Sees scope → c.run fragment.walk = .ok c' →
    c' = c.add (fragment.references c.operation scope) ∧ (c.statements = 1 → fragment.Plain scope)

/-- The references in places, one after another. -/
def referencesOf (operation : Operation) (places : List Place) : List TableReference :=
  places.flatMap fun place => place.2.references operation place.1

namespace Collector

theorem add_add (c : Collector) (xs ys : List TableReference) :
    (c.add xs).add ys = c.add (xs ++ ys) := by
  simp [add, List.append_assoc]

theorem run_walkPlaces : ∀ {places : List Place} {c c' : Collector},
    (∀ place ∈ places, place.2.Collects place.1) → (∀ place ∈ places, c.Sees place.1) →
    c.run (walkPlaces places) = .ok c' →
    c' = c.add (referencesOf c.operation places) ∧
      (c.statements = 1 → ∀ place ∈ places, place.2.Plain place.1) := by
  intro places
  induction places with
  | nil =>
    intro c c' _ _ h
    refine ⟨?_, fun _ place hp => by cases hp⟩
    rw [eq_of_run_nil h]
    simp [add, referencesOf]
  | cons place places ih =>
    intro c c' hw hs h
    obtain ⟨d, hd, h⟩ := run_append_ok h
    obtain ⟨rfl, hplain⟩ := hw place List.mem_cons_self _ _ (hs place List.mem_cons_self) hd
    obtain ⟨rfl, hplains⟩ := ih (fun p hp => hw p (List.mem_cons_of_mem _ hp))
      (fun p hp => (hs p (List.mem_cons_of_mem _ hp)).add _) h
    refine ⟨add_add c _ _, fun hst p hp => ?_⟩
    rcases List.mem_cons.mp hp with rfl | hp
    · exact hplain hst
    · exact hplains hst p hp

/-- A walk over the named subqueries from position `i` on. The frame of the WITH always shows the
subqueries in front of the one that is walked, which is what their scopes bind. -/
theorem run_walkCtes {frame : CteFrame} {frames : List CteFrame} :
    ∀ {cs : List Cte} {i : Nat} {scope : Scope} {c c' : Collector},
    (∀ place ∈ scope.ctes cs, place.2.Collects place.1) →
    frame.names.drop i = cteNames cs → c.frames = frame.reveal i :: frames → c.Sees scope →
    c.run (walkCtes i cs) = .ok c' →
    c' = { c.add (referencesOf c.operation (scope.ctes cs)) with
      frames := frame.reveal (i + cs.length) :: frames } ∧
      (c.statements = 1 → ∀ place ∈ scope.ctes cs, place.2.Plain place.1) := by
  intro cs
  induction cs with
  | nil =>
    intro i scope c c' _ _ hf _ h
    refine ⟨?_, fun _ place hp => by cases hp⟩
    rw [eq_of_run_nil h]
    obtain ⟨operation, statements, frames', found⟩ := c
    obtain rfl : frames' = _ := hf
    simp [add, referencesOf, Scope.ctes]
  | cons cte cs ih =>
    obtain ⟨name, columns, hint, query⟩ := cte
    intro i scope c c' hw hn hf hs h
    obtain ⟨d, hd, h⟩ := run_cons_ok h
    -- Position `i` is shown already, so showing it again changes nothing.
    obtain rfl : c = d := by
      injection hd with hd
      rw [← hd, reveal_eq hf, CteFrame.reveal_reveal, ← hf]
    obtain ⟨d, hd, h⟩ := run_append_ok h
    obtain ⟨rfl, hplain⟩ := hw (scope, .query query) List.mem_cons_self _ _ hs hd
    obtain ⟨d, hd, h⟩ := run_cons_ok h
    obtain rfl : { c.add ((Fragment.query query).references c.operation scope) with
        frames := frame.reveal (i + 1) :: frames } = d := by
      injection hd with hd
      rw [← hd]
      exact (reveal_eq (c := c.add _) hf _).symm
    -- What is shown now is the name that the scope of the next subquery binds.
    obtain ⟨hname, hrest⟩ : frame.names[i]? = some name ∧
        frame.names.drop (i + 1) = cteNames cs := by
      rw [← List.head?_drop, ← List.tail_drop, hn]
      exact ⟨rfl, rfl⟩
    obtain ⟨rfl, hplains⟩ := ih (fun p hp => hw p (List.mem_cons_of_mem _ hp)) hrest rfl
      (hs.bind hf hname) h
    refine ⟨?_, fun hst p hp => ?_⟩
    · simp [add, referencesOf, Scope.ctes, Nat.add_assoc, Nat.add_comm 1]
    · rcases List.mem_cons.mp hp with rfl | hp
      · exact hplain hst
      · exact hplains hst p hp

end Collector

/-- A walk over a query, cut at its named subqueries. -/
theorem Fragment.walk_query (scope : Scope) (recursive : Bool) (ctes : List Cte) (content : Body)
    (tail : List Piece) :
    (Fragment.query ⟨recursive, ctes, content, tail⟩).walk =
      .openQuery ⟨recursive, ctes, content, tail⟩ :: (walkCtes 0 ctes ++
        (walkPlaces ((scope, .body content) :: scope.queries (queriesOfPieces tail)) ++
          [.closeQuery])) := by
  rw [walkPlaces_cons, walkPlaces_queries, ← walkPieces_eq]
  show _ :: (walkCtes 0 ctes ++ content.walk ++ walkPieces tail ++ [Visit.closeQuery]) = _
  simp only [List.append_assoc]
  rfl

namespace Collector

/-- With the frame of a query opened, the collector sees the scope of its first subquery. -/
theorem Sees.openQuery {c : Collector} {scope : Scope} (h : c.Sees scope) (query : Query) :
    Sees { c with frames := CteFrame.ofQuery query :: c.frames }
      (if query.recursive then scope.inside query.ctes else { scope with inQuery := true }) := by
  refine ⟨h.bound.openQuery query, ?_⟩
  cases query.recursive <;> rfl

/-- With all subqueries of a query revealed, the collector sees the scope of its body. -/
theorem Sees.inside {c : Collector} {scope : Scope} (h : c.Sees scope) (query : Query)
    (refs : List TableReference) :
    Sees { c.add refs with
      frames := (CteFrame.ofQuery query).reveal query.ctes.length :: c.frames }
      (scope.inside query.ctes) :=
  ⟨h.bound.inside query, rfl⟩

end Collector

/-- The scope of all that stands in a query behind its named subqueries. -/
theorem Scope.eq_inside_of_mem {scope : Scope} {ctes : List Cte} {content : Body}
    {queries : List Query} {place : Place}
    (h : place ∈ (scope.inside ctes, .body content) :: (scope.inside ctes).queries queries) :
    place.1 = scope.inside ctes := by
  rcases List.mem_cons.mp h with rfl | h
  · rfl
  · obtain ⟨_, _, rfl⟩ := List.mem_map.mp h
    rfl

/-- A walk over a query: its frame is opened, shows the named subqueries one after another, shows
all of them to the body and to the tail, and is dropped. -/
theorem Fragment.collects_query {scope : Scope} {query : Query}
    (ih : ∀ place ∈ (Fragment.query query).below scope, place.2.Collects place.1) :
    (Fragment.query query).Collects scope := by
  obtain ⟨recursive, ctes, content, tail⟩ := query
  intro c c' hs h
  rw [Fragment.walk_query (scope.inside ctes)] at h
  obtain ⟨d, hd, h⟩ := Collector.run_cons_ok h
  -- The query was let in, so its frame is what was opened.
  obtain rfl : { c with
      frames := CteFrame.ofQuery ⟨recursive, ctes, content, tail⟩ :: c.frames } = d := by
    rw [Collector.step] at hd
    split at hd
    next => cases hd
    next => injection hd
  obtain ⟨d, hd, h⟩ := Collector.run_append_ok h
  obtain ⟨rfl, hplainCtes⟩ := Collector.run_walkCtes (fun p hp => ih p (List.mem_append_left _ hp))
    rfl (show _ = (CteFrame.ofQuery ⟨recursive, ctes, content, tail⟩).reveal 0 :: c.frames from rfl)
    (hs.openQuery ⟨recursive, ctes, content, tail⟩) hd
  obtain ⟨d, hd, h⟩ := Collector.run_append_ok h
  rw [Nat.zero_add] at hd
  obtain ⟨rfl, hplainRest⟩ := Collector.run_walkPlaces
    (fun p hp => ih p (List.mem_append_right _ hp))
    (fun p hp => by
      rw [Scope.eq_inside_of_mem hp]
      exact hs.inside ⟨recursive, ctes, content, tail⟩ _) hd
  obtain ⟨d, hd, h⟩ := Collector.run_cons_ok h
  rw [Collector.eq_of_run_nil h]
  refine ⟨?_, fun hst => Fragment.plain_of_below (fun _ => nofun) fun p hp => ?_⟩
  · injection hd with hd
    rw [← hd, Fragment.references_eq]
    simp [Collector.add, Fragment.ownReferences, Fragment.below, referencesOf]
  · rcases List.mem_append.mp hp with hp | hp
    · exact hplainCtes hst p hp
    · exact hplainRest hst p hp

/-- Only a query changes what can be referred to. -/
theorem Fragment.scope_of_mem_below {scope : Scope} {fragment : Fragment} {place : Place}
    (hq : ∀ q, fragment ≠ .query q) (h : place ∈ fragment.below scope) : place.1 = scope := by
  have hqueries : ∀ {qs}, place ∈ scope.queries qs → place.1 = scope := fun hp => by
    obtain ⟨_, _, rfl⟩ := List.mem_map.mp hp
    rfl
  have hitems : ∀ {is}, place ∈ scope.items is → place.1 = scope := fun hp => by
    obtain ⟨_, _, rfl⟩ := List.mem_map.mp hp
    rfl
  have hjoins : ∀ {js}, place ∈ scope.joins js → place.1 = scope := fun hp => by
    obtain ⟨_, _, rfl⟩ := List.mem_map.mp hp
    rfl
  match fragment, hq, h with
  | .query q, hq, _ => exact absurd rfl (hq q)
  | .body content, _, h => cases content <;> simp [below] at h <;> grind
  | .select ⟨projection, sources, filter, tail⟩, _, h =>
    simp only [below, List.mem_append] at h
    grind
  | .item ⟨relation, joins⟩, _, h =>
    simp only [below, List.mem_cons] at h
    grind
  | .join ⟨kind, relation, constraint⟩, _, h =>
    simp only [below, List.mem_cons] at h
    grind
  | .factor relation, _, h => cases relation <;> simp [below] at h <;> grind
  | .statement stmt, _, h => cases stmt <;> simp [below] at h <;> grind

/-- A walk over places with one scope, from a collector that sees it. -/
theorem Collector.run_below {scope : Scope} {fragment : Fragment} {c c' : Collector}
    (hq : ∀ q, fragment ≠ .query q) (hf : ∀ stmt, fragment ≠ .statement stmt)
    (ih : ∀ place ∈ fragment.below scope, place.2.Collects place.1) (hs : c.Sees scope)
    (h : c.run (walkPlaces (fragment.below scope)) = .ok c') :
    c' = c.add (referencesOf c.operation (fragment.below scope)) ∧
      (c.statements = 1 → fragment.Plain scope) := by
  obtain ⟨hc', hplain⟩ := run_walkPlaces ih
    (fun p hp => by rw [Fragment.scope_of_mem_below hq hp]; exact hs) h
  exact ⟨hc', fun hst => Fragment.plain_of_below hf (hplain hst)⟩

theorem Fragment.collects_factor {scope : Scope} {relation : Factor}
    (ih : ∀ place ∈ (Fragment.factor relation).below scope, place.2.Collects place.1) :
    (Fragment.factor relation).Collects scope := by
  intro c c' hs h
  rw [Fragment.walk_eq scope (.factor relation) nofun] at h
  obtain ⟨d, hd, h⟩ := Collector.run_cons_ok h
  obtain ⟨d', hd', h⟩ := Collector.run_append_ok h
  rw [Collector.eq_of_run_nil h]
  have hstep : d = c.add ((Fragment.factor relation).ownReferences c.operation scope) := by
    cases relation with
    | table name arguments details knownAs hints =>
      cases arguments with
      | some pieces => cases hd
      | none =>
        rw [Collector.step, Collector.addFactor, Collector.refersToCte_eq hs.bound] at hd
        rw [Fragment.ownReferences]
        split at hd
        next hb =>
          rw [if_pos hb]
          injection hd with hd
          rw [← hd]
          simp [Collector.add]
        next hb =>
          rw [if_neg hb]
          injection hd with hd
          rw [← hd, hs.inQuery]
          cases scope.inQuery <;> rfl
    | derived lateral query knownAs =>
      injection hd with hd
      rw [← hd]
      simp [Collector.add, Fragment.ownReferences]
    | nested item knownAs =>
      injection hd with hd
      rw [← hd]
      simp [Collector.add, Fragment.ownReferences]
    | source pieces => cases hd
  subst hstep
  obtain ⟨rfl, hplain⟩ := Collector.run_below (by nofun) (by nofun) ih (hs.add _) hd'
  refine ⟨?_, hplain⟩
  rw [Collector.add_add, Fragment.references_eq]
  rfl

/-- A walk over a statement: none may be open before, and none stands inside it. -/
theorem Collector.run_statement {scope : Scope} {stmt : Statement} {c c' : Collector}
    (ih : ∀ place ∈ (Fragment.statement stmt).below scope, place.2.Collects place.1)
    (hs : c.Sees scope) (h : c.run (Fragment.statement stmt).walk = .ok c') :
    c.statements = 0 ∧
      c' = c.add ((Fragment.statement stmt).references c.operation scope) ∧
      ∀ place ∈ (Fragment.statement stmt).below scope, place.2.Plain place.1 := by
  rw [Fragment.walk_eq scope (.statement stmt) nofun] at h
  obtain ⟨d, hd, h⟩ := run_cons_ok h
  rw [step] at hd
  split at hd
  next hzero =>
    injection hd with hd
    subst hd
    obtain ⟨d', hd', h⟩ := run_append_ok h
    obtain ⟨rfl, hplain⟩ := run_walkPlaces ih (fun p hp => by
      rw [Fragment.scope_of_mem_below (by nofun) hp]
      exact ⟨hs.bound, hs.inQuery⟩) hd'
    obtain ⟨d, hd, h⟩ := run_cons_ok h
    refine ⟨hzero, ?_, hplain rfl⟩
    injection hd with hd
    rw [eq_of_run_nil h, ← hd, Fragment.references_eq]
    obtain ⟨operation, statements, frames, found⟩ := c
    obtain rfl : statements = 0 := hzero
    rfl
  next => cases hd

theorem Fragment.collects_statement {scope : Scope} {stmt : Statement}
    (ih : ∀ place ∈ (Fragment.statement stmt).below scope, place.2.Collects place.1) :
    (Fragment.statement stmt).Collects scope := by
  intro c c' hs h
  obtain ⟨hst, hc', -⟩ := Collector.run_statement ih hs h
  -- Inside a statement no further one is let in.
  exact ⟨hc', fun hone => absurd (hst.symm.trans hone) (by decide)⟩

/-- A walk over a fragment that is not stopped adds the fragment's references and nothing else. -/
theorem Fragment.collects (scope : Scope) (fragment : Fragment) : fragment.Collects scope := by
  refine Fragment.below_induction (motive := Fragment.Collects) (fun scope fragment ih => ?_) scope
    fragment
  -- Fragments that open nothing and name no table themselves are walks over what is below them.
  have hplain (hq : ∀ q, fragment ≠ .query q) (hf : ∀ stmt, fragment ≠ .statement stmt)
      (hm : fragment.marks = ([], [])) (ho : ∀ op, fragment.ownReferences op scope = []) :
      fragment.Collects scope := by
    intro c c' hs h
    rw [Fragment.walk_eq scope fragment hq, hm] at h
    rw [List.nil_append, List.append_nil] at h
    rw [Fragment.references_eq, ho, List.nil_append]
    exact Collector.run_below hq hf ih hs h
  cases fragment with
  | query q => exact Fragment.collects_query ih
  | factor relation => exact Fragment.collects_factor ih
  | statement stmt => exact Fragment.collects_statement ih
  | body content => exact hplain nofun nofun rfl fun _ => rfl
  | select block => exact hplain nofun nofun rfl fun _ => rfl
  | item item => exact hplain nofun nofun rfl fun _ => rfl
  | join join => exact hplain nofun nofun rfl fun _ => rfl

/-- A statement is accepted when the collector gets through it, and its references are what the
collector has found by then. -/
theorem references_ok_iff {statement : Statement} {tables : List TableReference} :
    references statement = .ok tables ↔ ∃ last : Collector,
      Collector.run { operation := statement.operation } statement.walk = .ok last ∧
        last.found = tables := by
  unfold references Collector.run
  cases statement.walk.foldlM Collector.step { operation := statement.operation } with
  | error obstacle =>
    constructor
    · intro h
      cases h
    · intro h
      obtain ⟨last, hrun, -⟩ := h
      cases hrun
  | ok collector =>
    constructor
    · intro h
      exact ⟨collector, rfl, Except.ok.inj h⟩
    · intro h
      obtain ⟨last, hrun, hfound⟩ := h
      obtain rfl := Except.ok.inj hrun
      exact congrArg Except.ok hfound

/-- The references of an accepted statement are those that its scopes give, and no statement stands
inside it. -/
theorem references_eq {statement : Statement} {tables : List TableReference}
    (h : references statement = .ok tables) :
    tables = (Fragment.statement statement).references statement.operation {} ∧
      ∀ place ∈ (Fragment.statement statement).below {}, place.2.Plain place.1 := by
  obtain ⟨last, hrun, hfound⟩ := references_ok_iff.mp h
  obtain ⟨-, rfl, hplain⟩ := Collector.run_statement
    (fun place _ => Fragment.collects place.1 place.2)
    (show Collector.Sees { operation := statement.operation } {} from ⟨fun _ => rfl, rfl⟩) hrun
  exact ⟨hfound.symm.trans (List.nil_append _), hplain⟩

end RowPolicy

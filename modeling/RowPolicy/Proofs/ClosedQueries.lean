import RowPolicy.Proofs.Collection
import RowPolicy.Proofs.RestrictedPlaces

/-!
# Names at the close of a query

What a name refers to is asked of the frames that are open on a walk, and whoever puts filters into a
query on such a walk asks at its close, when all that stands in it is done. `restrict` knows no such
moment: it takes the names that are bound along on its way down. Here the frames are followed from
place to place, and both read names alike: at the close of a query the frames bind exactly the names
with which `restrict` goes into its body.

Main statements:

* `Fragment.restores`: a walk over a fragment leaves the frames as they were;
* `Fragment.reaches`: when a walk has come to a place, the frames show the scope of that place;
* `Fragment.shown_at_close`: when it has come to the close of a query, they show the scope of its
  body;
* `names_at_close` and `names_at_end`: so the collector and `restrict` agree on every name there, and
  at the end of a statement too.
-/

namespace RowPolicy

open Sql

/-! ## The frames on a walk -/

/-- The open frames after one more visit. -/
def Sql.Visit.reframe (frames : List CteFrame) : Visit → List CteFrame
  | .openQuery query => .ofQuery query :: frames
  | .closeQuery => frames.drop 1
  | .openCte index => frames.modifyHead fun frame => frame.reveal index
  | .closeCte index => frames.modifyHead fun frame => frame.reveal (index + 1)
  | .openStatement => frames
  | .closeStatement => frames
  | .factor _ => frames

/-- The open frames after what is met on a walk. -/
def reframed (frames : List CteFrame) (visits : List Visit) : List CteFrame :=
  visits.foldl Visit.reframe frames

theorem reframed_cons (frames : List CteFrame) (visit : Visit) (visits : List Visit) :
    reframed frames (visit :: visits) = reframed (visit.reframe frames) visits := rfl

theorem reframed_append (frames : List CteFrame) (xs ys : List Visit) :
    reframed frames (xs ++ ys) = reframed (reframed frames xs) ys := List.foldl_append

namespace Collector

theorem frames_reveal (c : Collector) (count : Nat) :
    (c.reveal count).frames = c.frames.modifyHead fun frame => frame.reveal count := by
  unfold reveal
  cases hf : c.frames with
  | nil => exact hf
  | cons frame frames => rfl

/-- The frames of the collector follow the walk and nothing else. -/
theorem frames_of_step {c c' : Collector} {visit : Visit} (h : c.step visit = .ok c') :
    c'.frames = visit.reframe c.frames := by
  cases visit with
  | openQuery query =>
    rw [step] at h
    split at h
    next => cases h
    next => cases h; rfl
  | closeQuery => cases h; rfl
  | openCte index => cases h; exact c.frames_reveal index
  | closeCte index => cases h; exact c.frames_reveal (index + 1)
  | openStatement =>
    rw [step] at h
    split at h
    next => cases h; rfl
    next => cases h
  | closeStatement => cases h; rfl
  | factor relation =>
    rw [step] at h
    unfold addFactor at h
    split at h
    next => cases h
    next =>
      split at h
      next => cases h; rfl
      next => cases h; rfl
    next => cases h; rfl
    next => cases h; rfl
    next => cases h

theorem frames_of_run {visits : List Visit} : ∀ {c c' : Collector}, c.run visits = .ok c' →
    c'.frames = reframed c.frames visits := by
  induction visits with
  | nil =>
    intro c c' h
    rw [eq_of_run_nil h]
    rfl
  | cons visit visits ih =>
    intro c c' h
    obtain ⟨d, hd, h⟩ := run_cons_ok h
    rw [ih h, frames_of_step hd]
    rfl

end Collector

/-! ## What a walk leaves behind -/

/-- A walk over the fragment leaves the frames as they were. -/
def Fragment.Restores (fragment : Fragment) : Prop :=
  ∀ frames, reframed frames fragment.walk = frames

theorem reframed_walkPlaces {places : List Place} (h : ∀ place ∈ places, place.2.Restores)
    (frames : List CteFrame) : reframed frames (walkPlaces places) = frames := by
  induction places with
  | nil => rfl
  | cons place places ih =>
    rw [walkPlaces_cons, reframed_append, h place List.mem_cons_self,
      ih fun p hp => h p (List.mem_cons_of_mem _ hp)]

/-- Each named subquery of a WITH that has been walked is one more that the frame shows. -/
theorem reframed_walkCtes (frame : CteFrame) (frames : List CteFrame) (cs : List Cte) :
    ∀ (i : Nat) (scope : Scope), (∀ place ∈ scope.ctes cs, place.2.Restores) →
      reframed (frame.reveal i :: frames) (walkCtes i cs) =
        frame.reveal (i + cs.length) :: frames := by
  induction cs with
  | nil =>
    intro i scope _
    rfl
  | cons cte cs ih =>
    obtain ⟨name, columns, hint, query⟩ := cte
    intro i scope h
    have hquery : reframed (frame.reveal i :: frames) query.walk = frame.reveal i :: frames :=
      h (scope, .query query) List.mem_cons_self _
    have hrest : reframed (frame.reveal (i + 1) :: frames) (walkCtes (i + 1) cs) =
        frame.reveal (i + 1 + cs.length) :: frames :=
      ih (i + 1) (scope.bind name) fun p hp => h p (List.mem_cons_of_mem _ hp)
    show reframed (frame.reveal i :: frames) (query.walk ++ .closeCte i :: walkCtes (i + 1) cs) = _
    rw [reframed_append, hquery]
    refine hrest.trans ?_
    rw [List.length_cons, Nat.add_assoc, Nat.add_comm 1]

/-- A query is walked up to its close with its frame open, and there the frame shows all names. -/
theorem Fragment.exists_walk_eq {query : Query} (scope : Scope)
    (h : ∀ place ∈ (Fragment.query query).below scope, place.2.Restores) :
    ∃ inside, query.walk = inside ++ [.closeQuery] ∧ ∀ frames,
      reframed frames inside =
        (CteFrame.ofQuery query).reveal query.ctes.length :: frames := by
  obtain ⟨recursive, ctes, content, tail⟩ := query
  refine ⟨.openQuery ⟨recursive, ctes, content, tail⟩ :: (walkCtes 0 ctes ++
    walkPlaces ((scope.inside ctes, .body content) ::
      (scope.inside ctes).queries (queriesOfPieces tail))), ?_, ?_⟩
  · have hwalk := walk_query (scope.inside ctes) recursive ctes content tail
    rw [← List.append_assoc] at hwalk
    exact hwalk
  · intro frames
    have hctes := reframed_walkCtes (.ofQuery ⟨recursive, ctes, content, tail⟩) frames ctes 0 _
      fun p hp => h p (List.mem_append_left _ hp)
    have hrest := reframed_walkPlaces fun p hp => h p (List.mem_append_right _ hp)
    rw [reframed_cons, reframed_append]
    refine (congrArg (reframed · _) hctes).trans ?_
    rw [hrest, Nat.zero_add]

theorem Fragment.reframed_marks (fragment : Fragment) (frames : List CteFrame) :
    reframed frames fragment.marks.1 = frames ∧ reframed frames fragment.marks.2 = frames := by
  cases fragment <;> exact ⟨rfl, rfl⟩

theorem Fragment.restores (scope : Scope) (fragment : Fragment) : fragment.Restores := by
  refine below_induction (motive := fun _ fragment => fragment.Restores) (fun scope fragment ih => ?_)
    scope fragment
  by_cases hquery : ∃ query, fragment = .query query
  · obtain ⟨query, rfl⟩ := hquery
    obtain ⟨inside, hwalk, hinside⟩ := exists_walk_eq scope ih
    intro frames
    show reframed frames query.walk = frames
    rw [hwalk, reframed_append, hinside]
    rfl
  · intro frames
    rw [walk_eq scope fragment fun q h => hquery ⟨q, h⟩, reframed_append, reframed_append,
      (reframed_marks fragment frames).1, reframed_walkPlaces ih, (reframed_marks fragment frames).2]

/-! ## On the way to a place -/

/-- A walk over the fragment comes to a walk over the place, and when it has come there, frames that
showed the scope of the fragment show the scope of the place. -/
def Fragment.Reaches (scope : Scope) (fragment : Fragment) (place : Place) : Prop :=
  ∃ before after, fragment.walk = before ++ place.2.walk ++ after ∧
    ∀ frames, scope.ShownBy frames → place.1.ShownBy (reframed frames before)

theorem exists_walkPlaces_eq {places : List Place} {place : Place} (h : place ∈ places) :
    ∃ before after, walkPlaces places = before ++ place.2.walk ++ after ∧
      ∀ frames, reframed frames before = frames := by
  obtain ⟨xs, ys, rfl⟩ := List.append_of_mem h
  refine ⟨walkPlaces xs, walkPlaces ys, ?_, fun frames => ?_⟩
  · rw [walkPlaces_append, walkPlaces_cons, List.append_assoc]
  · exact reframed_walkPlaces (fun p _ => Fragment.restores p.1 p.2) frames

/-- What is walked of a WITH before one of its subqueries reveals the names in front of it. -/
theorem exists_walkCtes_eq (frame : CteFrame) {place : Place} {cs : List Cte} :
    ∀ (i : Nat) {scope : Scope}, place ∈ scope.ctes cs → frame.names.drop i = cteNames cs →
      ∃ before after, walkCtes i cs = before ++ place.2.walk ++ after ∧
        ∀ frames, scope.ShownBy (frame.reveal i :: frames) →
          place.1.ShownBy (reframed (frame.reveal i :: frames) before) := by
  induction cs with
  | nil =>
    intro i scope h
    cases h
  | cons cte cs ih =>
    obtain ⟨name, columns, hint, query⟩ := cte
    intro i scope h hnames
    rcases List.mem_cons.mp h with rfl | h
    · -- Position `i` is shown already, and the walk over its subquery comes next.
      refine ⟨[.openCte i], .closeCte i :: walkCtes (i + 1) cs, rfl, ?_⟩
      intro frames hshown
      exact hshown
    · -- The name of this subquery is bound in the scopes of all that stand behind it.
      obtain ⟨hname, hrest⟩ : frame.names[i]? = some name ∧
          frame.names.drop (i + 1) = cteNames cs := by
        rw [← List.head?_drop, ← List.tail_drop, hnames]
        exact ⟨rfl, rfl⟩
      obtain ⟨before, after, hwalk, hbefore⟩ := ih (i + 1) h hrest
      refine ⟨.openCte i :: (query.walk ++ .closeCte i :: before), after, ?_, ?_⟩
      · show _ :: (query.walk ++ _ :: walkCtes (i + 1) cs) = _
        rw [hwalk]
        simp only [List.cons_append, List.append_assoc]
      · intro frames hshown
        have hquery : reframed (frame.reveal i :: frames) query.walk = frame.reveal i :: frames :=
          Fragment.restores scope (.query query) _
        show place.1.ShownBy (reframed (frame.reveal i :: frames) (query.walk ++ _))
        rw [reframed_append, hquery]
        exact hbefore frames (hshown.bind hname)

theorem Fragment.reaches_below_query {scope : Scope} {query : Query} {place : Place}
    (h : place ∈ (Fragment.query query).below scope) :
    (Fragment.query query).Reaches scope place := by
  obtain ⟨recursive, ctes, content, tail⟩ := query
  have hwhole := walk_query (scope.inside ctes) recursive ctes content tail
  rcases List.mem_append.mp h with hcte | hrest
  · obtain ⟨before, after, hwalk, hbefore⟩ :=
      exists_walkCtes_eq (.ofQuery ⟨recursive, ctes, content, tail⟩) 0 hcte rfl
    refine ⟨.openQuery ⟨recursive, ctes, content, tail⟩ :: before, after ++ (walkPlaces
      ((scope.inside ctes, .body content) :: (scope.inside ctes).queries (queriesOfPieces tail)) ++
        [.closeQuery]), ?_, ?_⟩
    · rw [hwhole, hwalk]
      simp only [List.cons_append, List.append_assoc]
    · intro frames hshown
      exact hbefore frames (hshown.openQuery ⟨recursive, ctes, content, tail⟩)
  · obtain ⟨before, after, hwalk, hbefore⟩ := exists_walkPlaces_eq hrest
    refine ⟨.openQuery ⟨recursive, ctes, content, tail⟩ :: (walkCtes 0 ctes ++ before),
      after ++ [.closeQuery], ?_, ?_⟩
    · rw [hwhole, hwalk]
      simp only [List.cons_append, List.append_assoc]
    · -- Behind the last of its named subqueries all of them are shown.
      intro frames hshown
      have hctes := reframed_walkCtes (.ofQuery ⟨recursive, ctes, content, tail⟩) frames ctes 0
        scope fun p _ => restores p.1 p.2
      rw [Scope.eq_inside_of_mem hrest, reframed_cons, reframed_append, hbefore]
      refine (congrArg (Scope.ShownBy _) hctes).mpr ?_
      rw [Nat.zero_add]
      exact hshown.inside ⟨recursive, ctes, content, tail⟩

theorem Fragment.reaches_below {scope : Scope} {fragment : Fragment} {place : Place}
    (h : place ∈ fragment.below scope) : fragment.Reaches scope place := by
  by_cases hquery : ∃ query, fragment = .query query
  · obtain ⟨query, rfl⟩ := hquery
    exact reaches_below_query h
  · -- Nothing but a query changes the frames on the way to what is below.
    have hplain : ∀ q, fragment ≠ .query q := fun q hq => hquery ⟨q, hq⟩
    obtain ⟨before, after, hwalk, hbefore⟩ := exists_walkPlaces_eq h
    refine ⟨fragment.marks.1 ++ before, after ++ fragment.marks.2, ?_, ?_⟩
    · rw [walk_eq scope fragment hplain, hwalk]
      simp only [List.append_assoc]
    · intro frames hshown
      rw [scope_of_mem_below hplain h, reframed_append, (reframed_marks fragment frames).1,
        hbefore]
      exact hshown

/-- The walk comes to every place of a fragment, and then the frames show the scope of that place. -/
theorem Fragment.reaches {site : List Nat} {place : Place} : ∀ {scope : Scope} {fragment : Fragment},
    fragment.at? scope site = some place → fragment.Reaches scope place := by
  induction site with
  | nil =>
    intro scope fragment h
    obtain rfl := Option.some.inj h
    exact ⟨[], [], (List.append_nil _).symm, fun _ hshown => hshown⟩
  | cons i site ih =>
    intro scope fragment h
    rw [at?] at h
    cases hi : (fragment.below scope)[i]? with
    | none =>
      rw [hi] at h
      cases h
    | some child =>
      rw [hi] at h
      obtain ⟨before, after, hwalk, hbefore⟩ := reaches_below (List.mem_of_getElem? hi)
      obtain ⟨before', after', hwalk', hbefore'⟩ := ih h
      refine ⟨before ++ before', after' ++ after, ?_, ?_⟩
      · rw [hwalk, hwalk']
        simp only [List.append_assoc]
      · intro frames hshown
        rw [reframed_append]
        exact hbefore' _ (hbefore frames hshown)

/-! ## At the close of a query -/

/-- When a walk has come to the close of a query, the frames show the scope of the body. -/
theorem Fragment.shown_at_close {scope inner : Scope} {fragment : Fragment} {site : List Nat}
    {query : Query} (hat : fragment.at? scope site = some (inner, .query query)) :
    ∃ before inside after, query.walk = inside ++ [.closeQuery] ∧
      fragment.walk = before ++ inside ++ .closeQuery :: after ∧
      ∀ frames, scope.ShownBy frames →
        (inner.inside query.ctes).ShownBy (reframed frames (before ++ inside)) := by
  obtain ⟨before, after, hwalk, hbefore⟩ := reaches hat
  obtain ⟨inside, hquery, hinside⟩ := exists_walk_eq inner fun p _ => restores p.1 p.2
  refine ⟨before, inside, after, hquery, ?_, ?_⟩
  · rw [hwalk]
    show before ++ query.walk ++ after = _
    rw [hquery]
    simp only [List.append_assoc, List.singleton_append]
  · intro frames hshown
    rw [reframed_append, hinside]
    exact (hbefore frames hshown).inside query

/-- A collector that walks through an accepted statement comes to the close of each of its queries.
A name refers to a named subquery for it there just if it does so for `restrict`, which takes these
very names into the body of the query. -/
theorem names_at_close {statement : Statement} {tables : List TableReference} {site : List Nat}
    {scope : Scope} {query : Query} (htables : references statement = .ok tables)
    (hat : (Fragment.statement statement).at? {} site = some (scope, .query query)) :
    ∃ before inside after collector, query.walk = inside ++ [.closeQuery] ∧
      statement.walk = before ++ inside ++ .closeQuery :: after ∧
      Collector.run { operation := statement.operation } (before ++ inside) = .ok collector ∧
      (∀ name, collector.refersToCte name =
        Filters.isBound ((cteNames query.ctes).reverse ++ scope.bound) name) ∧
      ∀ filters, ∃ restricted,
        (Fragment.statement (statement.restrict filters [])).at? {} site =
          some (scope, .query restricted) ∧
        restricted.body =
          query.body.restrict filters ((cteNames query.ctes).reverse ++ scope.bound) := by
  obtain ⟨before, inside, after, hquery, hwalk, hshown⟩ := Fragment.shown_at_close hat
  have hstatement : statement.walk = before ++ inside ++ .closeQuery :: after := hwalk
  obtain ⟨last, hlast, -⟩ := references_ok_iff.mp htables
  rw [hstatement] at hlast
  obtain ⟨collector, hrun, -⟩ := Collector.run_append_ok hlast
  refine ⟨before, inside, after, collector, hquery, hstatement, hrun, ?_, ?_⟩
  · -- A statement starts without frames and without names that are bound.
    have hframes : (scope.inside query.ctes).ShownBy collector.frames := by
      rw [Collector.frames_of_run hrun]
      exact hshown [] fun _ => rfl
    intro name
    exact Collector.refersToCte_eq hframes name
  · intro filters
    refine ⟨query.restrict filters scope.bound, ?_, ?_⟩
    · have hrestricted := Fragment.at?_restrict filters site {} (.statement statement)
      rw [hat] at hrestricted
      exact hrestricted
    · obtain ⟨recursive, ctes, content, tail⟩ := query
      rfl

/-- At the close of an accepted statement no query is open any more, and `restrict` starts there with
no name that is bound. -/
theorem names_at_end {statement : Statement} {tables : List TableReference}
    (htables : references statement = .ok tables) :
    ∃ last, Collector.run { operation := statement.operation } statement.walk = .ok last ∧
      ∀ name, last.refersToCte name = Filters.isBound [] name := by
  obtain ⟨last, hrun, -⟩ := references_ok_iff.mp htables
  have hshown : Scope.ShownBy {} last.frames := by
    intro ident
    rw [Collector.frames_of_run hrun]
    show ((reframed [] (Fragment.statement statement).walk).any fun frame => frame.binds ident) = _
    rw [Fragment.restores {} (.statement statement) []]
    rfl
  exact ⟨last, hrun, fun name => Collector.refersToCte_eq hshown name⟩

end RowPolicy

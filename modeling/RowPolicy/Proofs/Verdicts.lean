import Mathlib.Data.List.Dedup
import RowPolicy.Registry

/-!
# What the answers of rules come to

The rules that are registered for a table and that the innermost marker lets apply are asked one
after another, each in the session that the one before it left. An error and the answer that no row
may be seen settle the matter, whatever other rules would answer, so asking ends there; if no answer
settles it, a row has to be admitted by all predicates that were answered.

`Verdict` says what a list of answers comes to, `answers` and `sessionAfter` what rules answer and
leave behind when all of them are asked. Main statements:

* `Registry.registered_rulesFor`: which rules are found for a table, in which order and how often;
* `Registry.course_composeFrom`: asking goes on up to the first answer that settles the matter;
* `compose_conjoins`: the two together, for a registry of any rules.
-/

namespace RowPolicy

open Sql (chained)

/-! ## Answers -/

/-- What a rule answers. -/
abbrev Answer := Except RewriteError (Option Predicate)

/-- Whether an answer settles the matter, whatever other rules answer. -/
def Answer.Settles (answer : Answer) : Prop :=
  (∃ e, answer = .error e) ∨ answer = .ok (some .alwaysFalse)

/-- The predicate in an answer. -/
def Answer.predicate? : Answer → Option Predicate
  | .ok answer => answer
  | .error _ => none

/-- The predicates that are answered, in order. -/
def predicatesIn (answers : List Answer) : List Predicate := answers.filterMap Answer.predicate?

/-- What the answers of rules come to. -/
inductive Verdict (answers : List Answer) : Answer → Prop where
  /-- The first error, if no answer in front of it is that no row may be seen. -/
  | failed {before after : List Answer} {e : RewriteError}
    (split : answers = before ++ .error e :: after) (unsettled : ∀ answer ∈ before, ¬answer.Settles) :
    Verdict answers (.error e)
  /-- No row may be seen if that is answered in front of any error. -/
  | denied {before after : List Answer}
    (split : answers = before ++ .ok (some .alwaysFalse) :: after)
    (unsettled : ∀ answer ∈ before, ¬answer.Settles) : Verdict answers (.ok (some .alwaysFalse))
  /-- Nothing is restricted if nothing is answered. -/
  | unrestricted (silent : ∀ answer ∈ answers, answer = .ok none) : Verdict answers (.ok none)
  /-- Otherwise a row has to be admitted by every predicate, and the conditions of the predicates
  are joined in their order. -/
  | conjoined {p : Predicate} (unsettled : ∀ answer ∈ answers, ¬answer.Settles)
    (rows : ∀ row, p.admits row = true ↔ ∀ part ∈ predicatesIn answers, part.admits row = true)
    (condition : some p.toExpr = chained .and ((predicatesIn answers).map Predicate.toExpr)) :
    Verdict answers (.ok (some p))

theorem Answer.not_settles_none : ¬Answer.Settles (.ok none) := by
  rintro (⟨_, h⟩ | h) <;> cases h

theorem Answer.not_settles_some {p : Predicate} (h : p.isAlwaysFalse = false) :
    ¬Answer.Settles (.ok (some p)) := by
  rintro (⟨_, heq⟩ | heq)
  · cases heq
  · cases heq
    cases h

theorem predicatesIn_concat (answers : List Answer) (answer : Option Predicate) :
    predicatesIn (answers ++ [.ok answer]) = predicatesIn answers ++ answer.toList := by
  rw [predicatesIn, List.filterMap_append, ← predicatesIn]
  cases answer <;> rfl

theorem isAlwaysFalse_of_mem_predicatesIn {answers : List Answer}
    (h : ∀ answer ∈ answers, ¬answer.Settles) {p : Predicate} (hmem : p ∈ predicatesIn answers) :
    p.isAlwaysFalse = false := by
  obtain ⟨answer, hanswer, hp⟩ := List.mem_filterMap.mp hmem
  cases answer with
  | error e => cases hp
  | ok found =>
    obtain rfl : found = some p := hp
    cases p with
    | alwaysFalse => exact absurd (Or.inr rfl) (h _ hanswer)
    | _ => rfl

/-- Predicates put together admit what all of them admit, and their conditions are joined. -/
theorem Predicate.all_eq {parts : List Predicate} (hparts : parts ≠ [])
    (h : ∀ p ∈ parts, p.isAlwaysFalse = false) : ∃ p, Predicate.all parts = some p ∧
      (∀ row, p.admits row = true ↔ ∀ part ∈ parts, part.admits row = true) ∧
      some p.toExpr = chained .and (parts.map toExpr) := by
  have hnone : parts.any isAlwaysFalse = false := by
    rw [List.any_eq_false]
    intro p hp
    simp [h p hp]
  unfold Predicate.all
  rw [hnone, if_neg Bool.false_ne_true]
  cases parts with
  | nil => exact absurd rfl hparts
  | cons first rest =>
    cases rest with
    | nil => exact ⟨first, rfl, fun row => by simp, rfl⟩
    | cons second rest =>
      refine ⟨.every (first :: second :: rest), rfl, fun row => ?_, ?_⟩
      · rw [admits, allAdmit_eq_all, List.all_eq_true]
      · rw [toExpr, toExprs_eq_map]
        rfl

/-- What answers come to none of which settles the matter. -/
theorem verdict_all {answers : List Answer} (h : ∀ answer ∈ answers, ¬answer.Settles) :
    Verdict answers (.ok (Predicate.all (predicatesIn answers))) := by
  by_cases hparts : predicatesIn answers = []
  · rw [hparts]
    refine .unrestricted fun answer hmem => ?_
    cases answer with
    | error e => exact absurd (Or.inl ⟨e, rfl⟩) (h _ hmem)
    | ok found =>
      have hnone : Answer.predicate? (.ok found) = none :=
        List.forall_none_of_filterMap_eq_nil hparts _ hmem
      exact congrArg Except.ok hnone
  · obtain ⟨p, hall, hrows, hcondition⟩ :=
      Predicate.all_eq hparts fun p hp => isAlwaysFalse_of_mem_predicatesIn h hp
    rw [hall]
    exact .conjoined h hrows hcondition

/-! ## Asking in turn -/

namespace Registry

/-- What rules answer if all of them are asked, each in the session that the one before it left. -/
def answers (table : TableReference) : Session → List (Nat × Rule) → List Answer
  | _, [] => []
  | session, (position, rule) :: rest =>
    let (answer, next) := (ask position rule table).run.run session
    answer :: answers table next rest

/-- The session that rules leave if all of them are asked. -/
def sessionAfter (table : TableReference) : Session → List (Nat × Rule) → Session
  | session, [] => session
  | session, (position, rule) :: rest =>
    sessionAfter table ((ask position rule table).run.run session).2 rest

/-- What becomes of asking rules: they are asked up to the first answer that settles the matter, or
all of them if no answer does, and the outcome is what the answers come to together with earlier
ones. -/
structure Course (table : TableReference) (earlier : List Answer) (session : Session)
    (rules : List (Nat × Rule)) (outcome : Answer × Session) (asked spared : List (Nat × Rule)) :
    Prop where
  split : rules = asked ++ spared
  verdict : Verdict (earlier ++ answers table session rules) outcome.1
  leaves : outcome.2 = sessionAfter table session asked
  /-- None but the last of those that are asked settles the matter. -/
  unsettled : ∀ before last, asked = before ++ [last] →
    ∀ answer ∈ answers table session before, ¬answer.Settles
  settled : spared ≠ [] → ∃ answer ∈ answers table session asked, answer.Settles

section Course

variable {table : TableReference} {session middle : Session} {position : Nat} {rule : Rule}
  {rules asked spared : List (Nat × Rule)} {earlier : List Answer} {answer : Answer}

theorem answers_cons (h : (ask position rule table).run.run session = (answer, middle)) :
    answers table session ((position, rule) :: rules) = answer :: answers table middle rules := by
  rw [answers, h]

theorem sessionAfter_cons (h : (ask position rule table).run.run session = (answer, middle)) :
    sessionAfter table session ((position, rule) :: rules) = sessionAfter table middle rules := by
  rw [sessionAfter, h]

theorem Course.nil (hearlier : ∀ answer ∈ earlier, ¬answer.Settles) :
    Course table earlier session [] (.ok (Predicate.all (predicatesIn earlier)), session) [] [] where
  split := rfl
  verdict := by
    rw [answers, List.append_nil]
    exact verdict_all hearlier
  leaves := rfl
  unsettled before last hsplit := by simp at hsplit
  settled h := absurd rfl h

/-- An answer that settles the matter is the last one. -/
theorem Course.settle (hask : (ask position rule table).run.run session = (answer, middle))
    (hverdict : ∀ after, Verdict (earlier ++ answer :: after) answer) (hsettles : answer.Settles) :
    Course table earlier session ((position, rule) :: rules) (answer, middle) [(position, rule)]
      rules where
  split := rfl
  verdict := by
    rw [answers_cons hask]
    exact hverdict _
  leaves := by
    rw [sessionAfter_cons hask, sessionAfter]
  unsettled before last hsplit := by
    obtain rfl : before = [] := by
      cases before with
      | nil => rfl
      | cons => simp at hsplit
    exact fun _ hmem => nomatch hmem
  settled _ := ⟨answer, by rw [answers_cons hask]; exact List.mem_cons_self, hsettles⟩

/-- An answer that leaves the matter open joins the earlier ones, and asking goes on. -/
theorem Course.cons {outcome : Answer × Session}
    (hask : (ask position rule table).run.run session = (answer, middle))
    (hopen : ¬answer.Settles)
    (h : Course table (earlier ++ [answer]) middle rules outcome asked spared) :
    Course table earlier session ((position, rule) :: rules) outcome ((position, rule) :: asked)
      spared where
  split := by rw [h.split, List.cons_append]
  verdict := by
    rw [answers_cons hask, List.append_cons]
    exact h.verdict
  leaves := by rw [sessionAfter_cons hask, h.leaves]
  unsettled before last hsplit := by
    cases before with
    | nil => exact fun _ hmem => nomatch hmem
    | cons first before =>
      obtain ⟨rfl, hbefore⟩ := List.cons.inj hsplit
      rw [answers_cons hask]
      exact List.forall_mem_cons.mpr ⟨hopen, h.unsettled before last hbefore⟩
  settled hspared := by
    obtain ⟨found, hmem, hsettles⟩ := h.settled hspared
    exact ⟨found, by rw [answers_cons hask]; exact List.mem_cons_of_mem _ hmem, hsettles⟩

end Course

/-- The rules are asked in turn, with what was answered before taken along. -/
theorem course_composeFrom (marker : Option Marker) (table : TableReference) :
    ∀ (rules : List (Nat × Rule)) (earlier : List Answer) (parts : List Predicate)
      (session : Session), (∀ answer ∈ earlier, ¬answer.Settles) →
      parts.reverse = predicatesIn earlier →
      ∃ asked spared, Course table earlier session
        (rules.filter fun entry => marker.all (·.appliesTo entry.2.name))
        ((composeFrom marker table parts rules).run.run session) asked spared
  | [], earlier, parts, session, hearlier, hparts => by
    refine ⟨[], [], ?_⟩
    rw [composeFrom_nil_run, hparts]
    exact .nil hearlier
  | (position, rule) :: rules, earlier, parts, session, hearlier, hparts => by
    rw [composeFrom_cons_run, List.filter_cons, ← ask_run]
    split
    next happlies =>
      cases hask : (ask position rule table).run.run session with
      | mk answer middle =>
        -- an answer that leaves the matter open joins the earlier ones, with its predicate
        have hopen (answer : Option Predicate) (parts : List Predicate)
            (hanswer : ¬Answer.Settles (.ok answer))
            (hparts : parts.reverse = predicatesIn earlier ++ answer.toList) :=
          course_composeFrom marker table rules (earlier ++ [.ok answer]) parts middle
            (List.forall_mem_append.mpr ⟨hearlier, List.forall_mem_singleton.mpr hanswer⟩)
            (hparts.trans (predicatesIn_concat earlier answer).symm)
        match answer with
        | .error e => exact ⟨_, _, .settle hask (fun _ => .failed rfl hearlier) (Or.inl ⟨e, rfl⟩)⟩
        | .ok none =>
          obtain ⟨asked, spared, h⟩ := hopen none parts Answer.not_settles_none (by simp [hparts])
          exact ⟨_, _, h.cons hask Answer.not_settles_none⟩
        | .ok (some p) =>
          have hgoes (hp : p.isAlwaysFalse = false) : ∃ asked spared, Course table earlier session
              ((position, rule) :: rules.filter fun entry => marker.all (·.appliesTo entry.2.name))
              ((composeFrom marker table (p :: parts) rules).run.run middle) asked spared := by
            obtain ⟨asked, spared, h⟩ :=
              hopen (some p) (p :: parts) (Answer.not_settles_some hp) (by simp [hparts])
            exact ⟨_, _, h.cons hask (Answer.not_settles_some hp)⟩
          cases p with
          | alwaysFalse =>
            exact ⟨_, _, .settle hask (fun _ => .denied rfl hearlier) (Or.inr rfl)⟩
          | _ => exact hgoes rfl
    next => exact course_composeFrom marker table rules earlier parts session hearlier hparts

/-! ## Registered rules -/

/-- The rules that are registered for a table: in the order of registration, and each once for every
spelling of the table's name among the tables that the rule names. -/
structure Registered (registry : Registry) (name : String) (entries : List (Nat × Rule)) :
    Prop where
  inOrder : entries.Pairwise fun entry later => entry.1 ≤ later.1
  registered : ∀ entry ∈ entries, registry.rules[entry.1]? = some entry.2
  times : ∀ position rule, registry.rules[position]? = some rule →
    entries.countP (fun entry => entry.1 = position) =
      rule.tables.dedup.countP fun table => normalizeTableName table = normalizeTableName name

theorem countP_ordered (p : String → Bool) (tables : List String) :
    (ordered tables).countP p = tables.dedup.countP p := by
  have hperm : (ordered tables).Perm tables.dedup :=
    (List.perm_ext_iff_of_nodup (nodup_ordered tables) tables.nodup_dedup).mpr fun table =>
      mem_ordered.trans List.mem_dedup.symm
  exact hperm.countP_eq p

/-- Of rules that are numbered from some number on, each is listed as often as the list for it
says. -/
theorem countP_flatMap_zipIdx (times : Rule → Nat) :
    ∀ (rules : List Rule) (start place : Nat) (rule : Rule), rules[place]? = some rule →
    ((rules.zipIdx start).flatMap fun (rule, position) =>
      List.replicate (times rule) (position, rule)).countP
        (fun entry => entry.1 = start + place) = times rule
  | [], _, _, _, h => by cases h
  | first :: rules, start, 0, rule, h => by
    obtain rfl : first = rule := Option.some.inj h
    have hrest : ((rules.zipIdx (start + 1)).flatMap fun (rule, position) =>
        List.replicate (times rule) (position, rule)).countP
          (fun entry => entry.1 = start + 0) = 0 := by
      rw [List.countP_eq_zero]
      intro entry hmem heq
      obtain ⟨⟨other, position⟩, hother, hentry⟩ := List.mem_flatMap.mp hmem
      obtain rfl := List.eq_of_mem_replicate hentry
      have hle := List.le_snd_of_mem_zipIdx hother
      simp only [decide_eq_true_eq] at heq
      omega
    rw [List.zipIdx_cons, List.flatMap_cons, List.countP_append, hrest]
    simp [List.countP_replicate]
  | first :: rules, start, place + 1, rule, h => by
    have hrest := countP_flatMap_zipIdx times rules (start + 1) place rule h
    rw [List.zipIdx_cons, List.flatMap_cons, List.countP_append, ← Nat.add_assoc,
      Nat.add_right_comm, hrest]
    simp [List.countP_replicate]
    omega

/-- The rules of a table, with how often each of them is listed. -/
theorem rulesFor_eq_replicate (registry : Registry) (name : String) :
    registry.rulesFor name = registry.rules.zipIdx.flatMap fun (rule, position) =>
      List.replicate (rule.tables.dedup.countP fun table =>
        normalizeTableName table = normalizeTableName name) (position, rule) := by
  rw [rulesFor_eq]
  refine congrArg (List.flatMap · _) (funext fun entry => ?_)
  obtain ⟨rule, position⟩ := entry
  dsimp only
  rw [List.map_const', ← List.countP_eq_length_filter, countP_ordered]
  rfl

theorem registered_rulesFor (registry : Registry) (name : String) :
    registry.Registered name (registry.rulesFor name) where
  inOrder := by
    rw [rulesFor_eq_replicate, List.pairwise_flatMap]
    constructor
    · intro entry _
      exact List.pairwise_replicate.mpr (Or.inr (Nat.le_refl entry.2))
    · have hpositions : (registry.rules.zipIdx.map Prod.snd).Pairwise (· < ·) := by
        rw [List.zipIdx_map_snd]
        exact List.pairwise_lt_range' 1
      refine (List.pairwise_map.mp hpositions).imp fun {entry later} hlt x hx y hy => ?_
      rw [List.eq_of_mem_replicate hx, List.eq_of_mem_replicate hy]
      exact Nat.le_of_lt hlt
  registered entry hmem := (mem_rulesFor_iff.mp hmem).1
  times position rule hrule := by
    have hcount := countP_flatMap_zipIdx (fun rule => rule.tables.dedup.countP fun table =>
      normalizeTableName table = normalizeTableName name) registry.rules 0 position rule hrule
    rw [Nat.zero_add] at hcount
    rw [rulesFor_eq_replicate]
    exact hcount

end Registry

/-! ## Composing -/

namespace Context

/-- The innermost marker switches the rules off. -/
def SwitchedOff (context : Context) : Prop :=
  ∃ marker, context.markers.innermost? = some marker ∧ marker.enabled = false

/-- The innermost marker lets a rule apply, if there is a marker at all. -/
def LetsApply (context : Context) (rule : Rule) : Prop :=
  ∀ marker, context.markers.innermost? = some marker → marker.enabled = true ∧
    (marker.allowed = [] ∨ rule.name ∈ marker.allowed) ∧ rule.name ∉ marker.barred

variable {context : Context} {rule : Rule}

theorem switchedOff_iff : context.SwitchedOff ↔ context.rulesDisabled = true := by
  rw [SwitchedOff, rulesDisabled, MarkerStack.disabled]
  cases context.markers.innermost? <;> simp

theorem letsApply_iff :
    context.LetsApply rule ↔ context.markers.innermost?.all (·.appliesTo rule.name) = true := by
  rw [LetsApply]
  cases context.markers.innermost? <;> simp [Marker.appliesTo, and_assoc]

instance : Decidable (context.LetsApply rule) := decidable_of_iff' _ letsApply_iff

end Context

/-- The rule does not touch the record of which rules were asked. -/
def Rule.LeavesRecord (rule : Rule) : Prop := ∀ table session,
  ((rule.answer table).run.run session).2.journal.asked = session.journal.asked

theorem Registry.asked_sessionAfter {table : TableReference} :
    ∀ {rules : List (Nat × Rule)} {session : Session}, (∀ entry ∈ rules, entry.2.LeavesRecord) →
    (sessionAfter table session rules).journal.asked =
      session.journal.asked ++ rules.map Prod.fst
  | [], session, _ => (List.append_nil _).symm
  | (position, rule) :: rules, session, h => by
    obtain ⟨hrule, hrest⟩ := List.forall_mem_cons.mp h
    rw [sessionAfter, asked_sessionAfter hrest, ask_run, hrule]
    simp [Journal.ask]

/-- Whatever the rules of a registry answer, composing asks those that are registered for the table
and that the innermost marker lets apply, in the order of registration and up to the first answer
that settles the matter, and yields what their answers come to. None is asked when the innermost
marker switches the rules off. -/
theorem compose_conjoins (registry : Registry) (table : TableReference) (session : Session) :
    registry.Registered table.name (registry.rulesFor table.name) ∧
    (session.context.SwitchedOff →
      (registry.compose table).run.run session = (.ok none, session)) ∧
    (¬session.context.SwitchedOff → ∃ asked spared,
      Registry.Course table [] session
        ((registry.rulesFor table.name).filter fun entry => session.context.LetsApply entry.2)
        ((registry.compose table).run.run session) asked spared ∧
      ((∀ rule ∈ registry.rules, rule.LeavesRecord) →
        ((registry.compose table).run.run session).2.journal.asked =
          session.journal.asked ++ asked.map Prod.fst)) := by
  refine ⟨registry.registered_rulesFor table.name, fun hoff => ?_, fun hon => ?_⟩
  · rw [Registry.compose_run, if_pos (Context.switchedOff_iff.mp hoff)]
  · have hrun : (registry.compose table).run.run session =
        (Registry.composeFrom session.context.markers.innermost? table []
          (registry.rulesFor table.name)).run.run session := by
      rw [Registry.compose_run, if_neg (mt Context.switchedOff_iff.mpr hon)]
    obtain ⟨asked, spared, hcourse⟩ := Registry.course_composeFrom
      session.context.markers.innermost? table (registry.rulesFor table.name) [] [] session
      (fun _ hmem => nomatch hmem) rfl
    have happlicable : ((registry.rulesFor table.name).filter fun entry =>
        session.context.LetsApply entry.2) = (registry.rulesFor table.name).filter fun entry =>
          session.context.markers.innermost?.all (·.appliesTo entry.2.name) := by
      refine List.filter_congr fun entry _ => ?_
      exact Bool.eq_iff_iff.mpr (decide_eq_true_iff.trans Context.letsApply_iff)
    rw [hrun, happlicable]
    refine ⟨asked, spared, hcourse, fun hrecord => ?_⟩
    rw [hcourse.leaves]
    refine Registry.asked_sessionAfter fun entry hmem => hrecord entry.2 ?_
    have hlisted : entry ∈ registry.rulesFor table.name := by
      refine List.mem_of_mem_filter (p := fun entry =>
        session.context.markers.innermost?.all (·.appliesTo entry.2.name)) ?_
      rw [hcourse.split]
      exact List.mem_append_left spared hmem
    exact List.mem_of_getElem? (Registry.mem_rulesFor_iff.mp hlisted).1

/-- A rule that answers nothing, one that names the table in two spellings, one that a marker bars,
one that admits no row, and one behind it. -/
def deniedOrders : Registry where
  rules :=
    [.constant "audit" ["t_order"] (.ok none),
     .constant "region" ["t_order", "public.T_Order"]
       (.ok (some (.equals { name := { value := "region" } } (.text "north")))),
     .constant "quota" ["t_order"] (.error (.internal "no quota")),
     .constant "closed" ["t_order"] (.ok (some .alwaysFalse)),
     .constant "late" ["t_order"] (.error (.internal "too late"))]

/-- A session in which a marker bars one of the rules. -/
def withoutQuota : Session where
  context := { markers := ⟨[{ barred := ["quota"] }]⟩ }

theorem compose_conjoins_deniedOrders :
    ¬withoutQuota.context.SwitchedOff ∧ (∀ rule ∈ deniedOrders.rules, rule.LeavesRecord) ∧
    ∃ asked spared, Registry.Course (.ofText "sales.T_ORDER" none) [] withoutQuota
        ((deniedOrders.rulesFor "sales.T_ORDER").filter fun entry =>
          withoutQuota.context.LetsApply entry.2)
        ((deniedOrders.compose (.ofText "sales.T_ORDER" none)).run.run withoutQuota) asked spared ∧
      asked.map Prod.fst = [0, 1, 1, 3] := by
  have hon : ¬withoutQuota.context.SwitchedOff := by
    rw [Context.switchedOff_iff]
    decide
  have hrecord : ∀ rule ∈ deniedOrders.rules, rule.LeavesRecord := by
    simp only [deniedOrders, List.forall_mem_cons]
    exact ⟨fun _ _ => rfl, fun _ _ => rfl, fun _ _ => rfl, fun _ _ => rfl, fun _ _ => rfl, nofun⟩
  obtain ⟨-, -, hcomposed⟩ :=
    compose_conjoins deniedOrders (.ofText "sales.T_ORDER" none) withoutQuota
  obtain ⟨asked, spared, hcourse, hasked⟩ := hcomposed hon
  refine ⟨hon, hrecord, asked, spared, hcourse, ?_⟩
  have hlast : ((deniedOrders.compose (.ofText "sales.T_ORDER" none)).run.run
      withoutQuota).2.journal.asked = [0, 1, 1, 3] := by decide +kernel
  exact (hasked hrecord).symm.trans hlast

end RowPolicy

import RowPolicy.Obstacle
import RowPolicy.Sql.Visit
import RowPolicy.Table

/-!
# The tables of a statement

`references` lists every place where a statement names a stored table, in the order of a walk
through the statement, or says why the statement cannot be scoped.

A name may refer to a named subquery instead. The collector keeps a frame for each open query with
the names of its subqueries and how many of them are visible at the moment: while the subquery at
position `i` is walked these are the `i` before it, or all of them in a recursive WITH; in the rest
of the query all are visible. A qualified name never refers to a named subquery.
-/

namespace RowPolicy

open Sql

/-- The named subqueries of an open query. -/
structure CteFrame where
  names : List Ident
  recursive : Bool
  /-- How many of the names, from the first on, can be referred to. -/
  visible : Nat
deriving Repr

namespace CteFrame

/-- The frame of a query whose parts have not been walked yet. -/
def ofQuery (query : Query) : CteFrame :=
  let names := query.ctes.map Cte.name
  { names, recursive := query.recursive, visible := if query.recursive then names.length else 0 }

/-- The frame with the first `count` names visible, or all of them in a recursive WITH. -/
def reveal (frame : CteFrame) (count : Nat) : CteFrame :=
  { frame with visible := if frame.recursive then frame.names.length else count }

/-- Whether an identifier refers to a visible subquery of the frame. -/
def binds (frame : CteFrame) (ident : Ident) : Bool :=
  (frame.names.take frame.visible).any fun cte => cte.same ident

end CteFrame

/-- The first part of a body whose rows do not come from a FROM list or a list of rows. -/
def Sql.Body.opaquePart? : Body → Option Body
  | .select _ => none
  | .query _ => none
  | .values _ => none
  | .combined left _ right => left.opaquePart?.orElse fun _ => right.opaquePart?
  | .table words => some (.table words)
  | .statement inner => some (.statement inner)

/-- What has been found on a walk so far. -/
structure Collector where
  /-- What the outermost statement does. -/
  operation : Operation
  /-- How many statements are open. -/
  statements : Nat := 0
  /-- The open queries, innermost first. -/
  frames : List CteFrame := []
  found : List TableReference := []

namespace Collector

/-- Whether a name refers to a named subquery. -/
def refersToCte (collector : Collector) (name : Name) : Bool :=
  match name with
  | [ident] => collector.frames.any fun frame => frame.binds ident
  | _ => false

/-- The collector with another view of the innermost frame. -/
def reveal (collector : Collector) (count : Nat) : Collector :=
  match collector.frames with
  | [] => collector
  | frame :: frames => { collector with frames := frame.reveal count :: frames }

/-- Takes a relation in. Inside a query a table is only read, whatever the statement does. -/
def addFactor (collector : Collector) (factor : Factor) : Except Obstacle Collector :=
  match factor with
  | .table _ (some _) _ _ _ => .error (.tableFunction factor.print)
  | .table name none _ knownAs _ =>
    if collector.refersToCte name then .ok collector
    else
      let operation := if collector.frames.isEmpty then collector.operation else .select
      let reference := TableReference.ofName name (knownAs.map Alias.name) operation
      .ok { collector with found := collector.found ++ [reference] }
  | .derived .. => .ok collector
  | .nested .. => .ok collector
  | .source _ => .error (.tableSource factor.print)

/-- Takes in what is met on a walk. -/
def step (collector : Collector) (visit : Visit) : Except Obstacle Collector :=
  match visit with
  | .openStatement =>
    if collector.statements = 0 then .ok { collector with statements := 1 }
    else .error .nestedStatement
  | .closeStatement => .ok { collector with statements := collector.statements - 1 }
  | .openQuery query =>
    match query.body.opaquePart? with
    | some part => .error (.queryBody part.print)
    | none => .ok { collector with frames := .ofQuery query :: collector.frames }
  | .closeQuery => .ok { collector with frames := collector.frames.drop 1 }
  | .openCte index => .ok (collector.reveal index)
  | .closeCte index => .ok (collector.reveal (index + 1))
  | .factor factor => collector.addFactor factor

end Collector

/-- Every place where a statement names a stored table. -/
def references (statement : Statement) : Except Obstacle (List TableReference) := do
  let collector ← statement.walk.foldlM Collector.step { operation := statement.operation }
  return collector.found

end RowPolicy

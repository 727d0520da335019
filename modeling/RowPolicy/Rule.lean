import RowPolicy.Predicate
import RowPolicy.Session
import RowPolicy.Table

/-!
# Rules

A rule is a unit of row policy: it names the tables it governs and answers, for a reference to one
of them, which rows may be seen. No predicate means that the rule restricts nothing.
-/

namespace RowPolicy

/-- A unit of row policy. -/
structure Rule where
  /-- The name by which markers allow or bar the rule. -/
  name : String
  /-- The tables the rule governs. -/
  tables : List String
  /-- The rows of a table that may be seen. -/
  answer : TableReference → Asking (Option Predicate)

namespace Rule

/-- The rule that always gives the same answer. -/
def constant (name : String) (tables : List String)
    (answer : Except RewriteError (Option Predicate)) : Rule where
  name
  tables
  answer := fun _ => ExceptT.mk (pure answer)

end Rule

end RowPolicy

import RowPolicy.Sql.Precedence
import RowPolicy.Sql.Print

/-!
# Reading by precedence

The text of an expression is a row of symbols: operands, operators, and parentheses with a row of
their own inside (`Expr.print_eq`). `Reads` tells what tree such a row is read as: an operand, and
then what follows it as long as it binds more tightly than the level asked for, where the right
operand of an operator is read at the level of the operator. A row is read in one way only
(`Reads.unique`). How a text falls apart into symbols is left to the lexer.

A tree need not be what its own text is read as. `Expr.Grouped` describes the trees that are, but
for chains of AND, which are read as grouped to the left: `Expr.Grouped.readsAs`.
-/

namespace RowPolicy.Sql

/-! ## Symbols -/

/-- A symbol of an expression. Those that hold an expression are read as a whole. -/
inductive Symbol where
  /-- An expression that has no operator outside of its own parentheses. -/
  | operand (e : Expr)
  | prefixed (op : PrefixOp)
  | infixed (op : Operator)
  | suffixed (suffix : Suffix)
  | between (negated : Bool)
  | among (negated : Bool) (items : List Expr)
  | enclosed (inner : List Symbol)

/-- The symbols of an expression, in the order of its text. -/
def Expr.symbols : Expr → List Symbol
  | .prefixed op operand => .prefixed op :: operand.symbols
  | .suffixed operand suffix => operand.symbols ++ [.suffixed suffix]
  | .infixed left op right => left.symbols ++ .infixed op :: right.symbols
  | .between operand negated low high =>
    operand.symbols ++ .between negated :: (low.symbols ++ .infixed .and :: high.symbols)
  | .among operand negated items => operand.symbols ++ [.among negated items]
  | .nested inner => [.enclosed inner.symbols]
  | .column name => [.operand (.column name)]
  | .literal value => [.operand (.literal value)]
  | .subquery query => [.operand (.subquery query)]
  | .phrase pieces => [.operand (.phrase pieces)]

mutual

/-- The text of a symbol, with the spaces around it. -/
def Symbol.print : Symbol → String
  | .operand e => e.print
  | .prefixed op => op.print
  | .infixed op => " " ++ op.print ++ " "
  | .suffixed suffix => suffix.print
  | .between negated => printNegation negated ++ " BETWEEN "
  | .among negated items => printNegation negated ++ " IN (" ++ listed (printExprs items) ++ ")"
  | .enclosed inner => "(" ++ printSymbols inner ++ ")"

/-- The text of a row of symbols. -/
def printSymbols : List Symbol → String
  | [] => ""
  | s :: symbols => s.print ++ printSymbols symbols

end

theorem printSymbols_append (xs ys : List Symbol) :
    printSymbols (xs ++ ys) = printSymbols xs ++ printSymbols ys := by
  induction xs with
  | nil => rw [List.nil_append, printSymbols, String.empty_append]
  | cons x xs ih => rw [List.cons_append, printSymbols, ih, printSymbols, String.append_assoc]

/-- The text of an expression is the text of its symbols. -/
theorem Expr.print_eq : ∀ e : Expr, e.print = printSymbols e.symbols
  | .prefixed op operand => by rw [Expr.print, operand.print_eq]; rfl
  | .suffixed operand suffix => by
    simp [Expr.print, operand.print_eq, symbols, printSymbols_append, printSymbols, Symbol.print]
  | .infixed left op right => by
    simp [Expr.print, left.print_eq, right.print_eq, symbols, printSymbols_append, printSymbols,
      Symbol.print, String.append_assoc]
  | .between operand negated low high => by
    simp [Expr.print, operand.print_eq, low.print_eq, high.print_eq, symbols, printSymbols_append,
      printSymbols, Symbol.print, Operator.print, String.append_assoc]
  | .among operand negated items => by
    simp [Expr.print, operand.print_eq, symbols, printSymbols_append, printSymbols, Symbol.print,
      String.append_assoc]
  | .nested inner => by simp [Expr.print, inner.print_eq, symbols, printSymbols, Symbol.print]
  | .column _ | .literal _ | .subquery _ | .phrase _ => by
    simp [symbols, printSymbols, Symbol.print]

/-! ## Levels -/

/-- How tightly operators bind, by the ranks that a dialect sorts them into. -/
structure Precedence where
  dialect : Dialect
  level : Rank → Nat
  pos : ∀ rank, 0 < level rank
  or_lt_and : level .or < level .and
  /-- Only disjunctions bind more loosely than AND. -/
  and_le : ∀ rank, rank ≠ .or → rank ≠ .xor → level .and ≤ level rank
  /-- Nothing else binds as loosely as AND. -/
  eq_and : ∀ rank, level rank = level .and → rank = .and
  lt_closed : ∀ rank, rank ≠ .closed → level rank < level .closed

/-- The precedence by which statements of a dialect are read. -/
def Dialect.precedence (dialect : Dialect) : Precedence where
  dialect
  level := dialect.level
  pos rank := by cases dialect <;> cases rank <;> decide
  or_lt_and := by cases dialect <;> decide
  and_le rank hor _ := by
    cases dialect <;> cases rank <;> first | exact absurd rfl hor | decide
  eq_and rank h := by cases dialect <;> cases rank <;> first | rfl | exact absurd h (by decide)
  lt_closed rank h := by
    cases dialect <;> cases rank <;> first | exact absurd rfl h | decide

/-- How tightly the operator on top of an expression binds. -/
def Precedence.levelOf (order : Precedence) (e : Expr) : Nat :=
  order.level (e.rank order.dialect)

theorem Dialect.symbolRank_ne (dialect : Dialect) (symbol : String) :
    dialect.symbolRank symbol ≠ .or ∧ dialect.symbolRank symbol ≠ .and ∧
      dialect.symbolRank symbol ≠ .xor := by
  unfold symbolRank
  split <;> first | decide | (cases dialect <;> decide)

theorem PrefixOp.and_le (order : Precedence) (op : PrefixOp) :
    order.level .and ≤ order.level op.rank := by
  cases op <;> exact order.and_le _ nofun nofun

theorem Precedence.and_le_range (order : Precedence) : order.level .and ≤ order.level .range :=
  order.and_le .range nofun nofun

/-- How tightly a symbol binds that stands behind an operand. -/
def Symbol.level? (order : Precedence) : Symbol → Option Nat
  | .infixed op => some (order.level (op.rank order.dialect))
  | .suffixed suffix => some (order.level suffix.rank)
  | .between _ => some (order.level .range)
  | .among _ _ => some (order.level .range)
  | .operand _ => none
  | .prefixed _ => none
  | .enclosed _ => none

/-! ## Reading -/

/-- What is read: an operand, an expression, or the rest of one behind its first part. -/
inductive Aim where
  | operand
  | whole (least : Nat)
  | behind (least : Nat) (left : Expr)

/-- An expression ends in front of these symbols when it is read at a level. -/
def Stops (order : Precedence) (least : Nat) (symbols : List Symbol) : Prop :=
  ∀ symbol rest level, symbols = symbol :: rest → symbol.level? order = some level → level ≤ least

/-- An expression is read from the front of a row of symbols, and some are left over. -/
inductive Reads (order : Precedence) : Aim → List Symbol → Expr → List Symbol → Prop where
  | operand {e rest} : Reads order .operand (.operand e :: rest) e rest
  | enclosed {inner e rest} : Reads order (.whole 0) inner e [] →
      Reads order .operand (.enclosed inner :: rest) (.nested e) rest
  | prefixed {op symbols e rest} : Reads order (.whole (order.level op.rank)) symbols e rest →
      Reads order .operand (.prefixed op :: symbols) (.prefixed op e) rest
  | whole {least symbols first middle e rest} : Reads order .operand symbols first middle →
      Reads order (.behind least first) middle e rest → Reads order (.whole least) symbols e rest
  | stop {least left symbols} : Stops order least symbols →
      Reads order (.behind least left) symbols left symbols
  | infixed {least left op symbols right middle e rest} :
      least < order.level (op.rank order.dialect) →
      Reads order (.whole (order.level (op.rank order.dialect))) symbols right middle →
      Reads order (.behind least (.infixed left op right)) middle e rest →
      Reads order (.behind least left) (.infixed op :: symbols) e rest
  | suffixed {least left suffix symbols e rest} : least < order.level suffix.rank →
      Reads order (.behind least (.suffixed left suffix)) symbols e rest →
      Reads order (.behind least left) (.suffixed suffix :: symbols) e rest
  | between {least left negated symbols low middle high last e rest} :
      least < order.level .range →
      Reads order (.whole (order.level .range)) symbols low (.infixed .and :: middle) →
      Reads order (.whole (order.level .range)) middle high last →
      Reads order (.behind least (.between left negated low high)) last e rest →
      Reads order (.behind least left) (.between negated :: symbols) e rest
  | among {least left negated items symbols e rest} : least < order.level .range →
      Reads order (.behind least (.among left negated items)) symbols e rest →
      Reads order (.behind least left) (.among negated items :: symbols) e rest

/-- The text of the first expression is read as the second one. -/
def Expr.ReadsAs (order : Precedence) (e found : Expr) : Prop :=
  Reads order (.whole 0) e.symbols found []

section

variable {order : Precedence}

theorem Stops.mono {low high : Nat} {symbols : List Symbol} (h : Stops order low symbols)
    (hle : low ≤ high) : Stops order high symbols :=
  fun symbol rest level hsymbols hlevel => Nat.le_trans (h symbol rest level hsymbols hlevel) hle

theorem stops_nil {least : Nat} : Stops order least [] := nofun

theorem stops_cons {least level : Nat} {symbol : Symbol} {rest : List Symbol}
    (hlevel : symbol.level? order = some level) (hle : level ≤ least) :
    Stops order least (symbol :: rest) := by
  rintro _ _ other ⟨⟩ hother
  exact Option.some.inj (hlevel.symm.trans hother) ▸ hle

/-- No expression ends in front of a symbol that binds more tightly. -/
theorem Stops.le {least level : Nat} {symbol : Symbol} {rest : List Symbol}
    (h : Stops order least (symbol :: rest)) (hlevel : symbol.level? order = some level) :
    level ≤ least := h symbol rest level rfl hlevel

/-- A row of symbols is read in one way only. -/
theorem Reads.unique {aim : Aim} {symbols rest rest' : List Symbol} {e e' : Expr}
    (h : Reads order aim symbols e rest) (h' : Reads order aim symbols e' rest') :
    e = e' ∧ rest = rest' := by
  induction h generalizing e' rest' with
  | operand => cases h'; exact ⟨rfl, rfl⟩
  | enclosed _ ih =>
    cases h' with
    | enclosed hinner => exact ⟨congrArg _ (ih hinner).1, rfl⟩
  | prefixed _ ih =>
    cases h' with
    | prefixed hoperand =>
      obtain ⟨rfl, rfl⟩ := ih hoperand
      exact ⟨rfl, rfl⟩
  | whole _ _ ihfirst ihrest =>
    cases h' with
    | whole hfirst hrest =>
      obtain ⟨rfl, rfl⟩ := ihfirst hfirst
      exact ihrest hrest
  | stop hstops =>
    cases h' with
    | stop => exact ⟨rfl, rfl⟩
    | infixed hlevel => exact absurd (hstops.le rfl) (Nat.not_le.mpr hlevel)
    | suffixed hlevel => exact absurd (hstops.le rfl) (Nat.not_le.mpr hlevel)
    | between hlevel => exact absurd (hstops.le rfl) (Nat.not_le.mpr hlevel)
    | among hlevel => exact absurd (hstops.le rfl) (Nat.not_le.mpr hlevel)
  | infixed hlevel _ _ ihright ihrest =>
    cases h' with
    | stop hstops => exact absurd (hstops.le rfl) (Nat.not_le.mpr hlevel)
    | infixed _ hright hrest =>
      obtain ⟨rfl, rfl⟩ := ihright hright
      exact ihrest hrest
  | suffixed hlevel _ ihrest =>
    cases h' with
    | stop hstops => exact absurd (hstops.le rfl) (Nat.not_le.mpr hlevel)
    | suffixed _ hrest => exact ihrest hrest
  | between hlevel _ _ _ ihlow ihhigh ihrest =>
    cases h' with
    | stop hstops => exact absurd (hstops.le rfl) (Nat.not_le.mpr hlevel)
    | between _ hlow hhigh hrest =>
      obtain ⟨rfl, hmiddle⟩ := ihlow hlow
      obtain rfl := (List.cons.inj hmiddle).2
      obtain ⟨rfl, rfl⟩ := ihhigh hhigh
      exact ihrest hrest
  | among hlevel _ ihrest =>
    cases h' with
    | stop hstops => exact absurd (hstops.le rfl) (Nat.not_le.mpr hlevel)
    | among _ hrest => exact ihrest hrest

/-! ## Trees that are read back -/

/-- Every operand binds at least as tightly as its operator; the operand behind its operator fits
the level of the operator. -/
inductive Expr.Built (order : Precedence) (fits : Nat → Expr → Prop) : Expr → Prop where
  | column {name} : Built order fits (.column name)
  | literal {value} : Built order fits (.literal value)
  | subquery {query} : Built order fits (.subquery query)
  | phrase {pieces} : Built order fits (.phrase pieces)
  | nested {inner} : Built order fits inner → Built order fits (.nested inner)
  | prefixed {op operand} : fits (order.level op.rank) operand →
      Built order fits operand → Built order fits (.prefixed op operand)
  | suffixed {operand suffix} : order.level suffix.rank ≤ order.levelOf operand →
      Built order fits operand → Built order fits (.suffixed operand suffix)
  | infixed {left op right} : order.level (op.rank order.dialect) ≤ order.levelOf left →
      fits (order.level (op.rank order.dialect)) right → Built order fits left →
      Built order fits right → Built order fits (.infixed left op right)
  | between {operand negated low high} : order.level .range ≤ order.levelOf operand →
      fits (order.level .range) low → fits (order.level .range) high →
      Built order fits operand → Built order fits low → Built order fits high →
      Built order fits (.between operand negated low high)
  | among {operand negated items} : order.level .range ≤ order.levelOf operand →
      Built order fits operand → Built order fits (.among operand negated items)

/-- No operand binds more loosely than its operator. -/
abbrev Expr.Proper (order : Precedence) : Expr → Prop :=
  Built order fun level e => level ≤ order.levelOf e

/-- Whether an operator stands in front. -/
def Expr.isPrefixed : Expr → Bool
  | .prefixed _ _ => true
  | _ => false

/-- An operand binds more tightly than the operator in front of it. It may bind as tightly where it
starts with an operator itself and in chains of AND. -/
def Expr.FitsBehind (order : Precedence) (level : Nat) (e : Expr) : Prop :=
  level < order.levelOf e ∨
    level = order.levelOf e ∧ (e.isPrefixed = true ∨ level = order.level .and)

theorem Expr.FitsBehind.le {level : Nat} {e : Expr} (h : e.FitsBehind order level) :
    level ≤ order.levelOf e := by
  rcases h with hlt | ⟨heq, -⟩
  · exact Nat.le_of_lt hlt
  · exact Nat.le_of_eq heq

/-- Every operator is read with its own operands, but for chains of AND. -/
abbrev Expr.Grouped (order : Precedence) : Expr → Prop := Built order (FitsBehind order)

/-- `left AND e`, grouped to the left. -/
def Expr.andThen (left : Expr) : Expr → Expr
  | .infixed first .and last => .infixed (left.andThen first) .and last
  | e => .infixed left .and e

/-- An expression with all chains of AND grouped to the left. -/
def Expr.regrouped : Expr → Expr
  | .prefixed op operand => .prefixed op operand.regrouped
  | .suffixed operand suffix => .suffixed operand.regrouped suffix
  | .infixed left .and right => left.regrouped.andThen right.regrouped
  | .infixed left op right => .infixed left.regrouped op right.regrouped
  | .between operand negated low high =>
    .between operand.regrouped negated low.regrouped high.regrouped
  | .among operand negated items => .among operand.regrouped negated items
  | .nested inner => .nested inner.regrouped
  | .column name => .column name
  | .literal value => .literal value
  | .subquery query => .subquery query
  | .phrase pieces => .phrase pieces

theorem Expr.andThen_of_ne {left e : Expr} (h : ∀ first last, e ≠ .infixed first .and last) :
    left.andThen e = .infixed left .and e := by
  unfold andThen
  split
  next first last => exact absurd rfl (h first last)
  next => rfl

theorem Expr.andThen_assoc (first second third : Expr) :
    first.andThen (second.andThen third) = (first.andThen second).andThen third := by
  fun_induction second.andThen third with
  | case1 left last ih => rw [andThen, andThen, ih]
  | case2 e hne => rw [andThen, andThen_of_ne hne]

theorem Expr.regrouped_infixed {left right : Expr} {op : Operator} (h : op ≠ .and) :
    (Expr.infixed left op right).regrouped = .infixed left.regrouped op right.regrouped := by
  cases op <;> first | rfl | exact absurd rfl h

theorem Expr.regrouped_ne {e : Expr} (h : ∀ left right, e ≠ .infixed left .and right)
    (left right : Expr) : e.regrouped ≠ .infixed left .and right := by
  cases e with
  | infixed first op last =>
    have hop : op ≠ .and := fun hop => h first last (hop ▸ rfl)
    rw [regrouped_infixed hop]
    exact fun heq => hop (Expr.infixed.inj heq).2.1
  | _ => nofun

theorem Operator.eq_and_of_rank {dialect : Dialect} {op : Operator} (h : op.rank dialect = .and) :
    op = .and := by
  cases op with
  | and => rfl
  | symbol text => exact absurd h (dialect.symbolRank_ne text).2.1
  | _ => cases h

/-- Only a chain of AND binds as loosely as AND. -/
theorem Expr.level_ne_and {e : Expr} (h : ∀ left right, e ≠ .infixed left .and right) :
    order.levelOf e ≠ order.level .and := by
  intro hlevel
  have hrank : e.rank order.dialect = .and := order.eq_and _ hlevel
  cases e with
  | infixed left op right => exact h left right (Operator.eq_and_of_rank hrank ▸ rfl)
  | prefixed op _ => cases op <;> cases hrank
  | suffixed _ suffix => cases suffix <;> cases hrank
  | _ => cases hrank

/-! ## Reading back -/

/-- How the symbols of an expression are read where others stand behind them. -/
structure Expr.Readable (order : Precedence) (x : Expr) : Prop where
  whole : ∀ {least rest e last}, least < order.levelOf x ∨ x.isPrefixed = true →
    Stops order (order.levelOf x) rest → Reads order (.behind least x.regrouped) rest e last →
    Reads order (.whole least) (x.symbols ++ rest) e last
  conjunct : ∀ {least left rest e last}, order.level .and ≤ order.levelOf x →
    least < order.level .and → Stops order (order.level .and) rest →
    Reads order (.behind least (left.andThen x.regrouped)) rest e last →
    Reads order (.behind least left) (.infixed .and :: (x.symbols ++ rest)) e last

/-- What is no chain of AND is a single conjunct. -/
theorem Expr.Readable.of_whole {x : Expr} (hne : ∀ left right, x ≠ .infixed left .and right)
    (h : ∀ {least rest e last}, least < order.levelOf x ∨ x.isPrefixed = true →
      Stops order (order.levelOf x) rest → Reads order (.behind least x.regrouped) rest e last →
      Reads order (.whole least) (x.symbols ++ rest) e last) : x.Readable order where
  whole := h
  conjunct hle hleast hstops hrest := by
    have hlt : order.level .and < order.levelOf x :=
      Nat.lt_of_le_of_ne hle (level_ne_and hne).symm
    rw [andThen_of_ne (regrouped_ne hne)] at hrest
    exact .infixed hleast (h (Or.inl hlt) (hstops.mono hle) (.stop hstops)) hrest

theorem Expr.Readable.operand {x : Expr} {level : Nat} {rest : List Symbol}
    (hx : x.Readable order) (hfits : x.FitsBehind order level)
    (hne : level ≠ order.level .and) (hstops : Stops order level rest) :
    Reads order (.whole level) (x.symbols ++ rest) x.regrouped rest := by
  rcases hfits with hlt | ⟨heq, hprefixed | hand⟩
  · exact hx.whole (Or.inl hlt) (hstops.mono (Nat.le_of_lt hlt)) (.stop hstops)
  · exact hx.whole (Or.inr hprefixed) (hstops.mono (Nat.le_of_eq heq)) (.stop hstops)
  · exact absurd hand hne

theorem Expr.Readable.of_operand {x : Expr} (hne : ∀ left right, x ≠ .infixed left .and right)
    (h : ∀ rest, Stops order (order.levelOf x) rest →
      Reads order .operand (x.symbols ++ rest) x.regrouped rest) : x.Readable order :=
  .of_whole hne fun _ hstops hrest => .whole (h _ hstops) hrest

theorem Expr.Readable.readsAs {x : Expr} (hx : x.Readable order) :
    x.ReadsAs order x.regrouped := by
  rw [ReadsAs, ← List.append_nil x.symbols]
  exact hx.whole (Or.inl (order.pos _)) stops_nil (.stop stops_nil)

/-- A grouped tree is read back, but for its chains of AND. -/
theorem Expr.Grouped.readable {x : Expr} (h : x.Grouped order) : x.Readable order := by
  induction h with
  | column => exact .of_operand nofun fun _ _ => .operand
  | literal => exact .of_operand nofun fun _ _ => .operand
  | subquery => exact .of_operand nofun fun _ _ => .operand
  | phrase => exact .of_operand nofun fun _ _ => .operand
  | nested _ ih => exact .of_operand nofun fun _ _ => .enclosed ih.readsAs
  | @prefixed op operand hfits _ ih =>
    refine .of_operand nofun fun _ hstops => .prefixed (ih.operand hfits (fun h => ?_) hstops)
    cases op <;> cases order.eq_and _ h
  | @suffixed operand suffix hle _ ih =>
    refine .of_whole nofun fun hleast _ hrest => ?_
    have hlt := hleast.resolve_right nofun
    rw [symbols, List.append_assoc]
    exact ih.whole (Or.inl (Nat.lt_of_lt_of_le hlt hle)) (stops_cons rfl hle) (.suffixed hlt hrest)
  | @infixed left op right hle hfits _ _ ihleft ihright =>
    have hsplit : ∀ rest : List Symbol, (Expr.infixed left op right).symbols ++ rest =
        left.symbols ++ (.infixed op :: (right.symbols ++ rest)) := by simp [symbols]
    by_cases hop : op = .and
    · subst hop
      have hright := hfits.le
      refine ⟨fun hleast hstops hrest => ?_, fun _ hleast hstops hrest => ?_⟩
      · have hlt := hleast.resolve_right nofun
        rw [hsplit]
        exact ihleft.whole (Or.inl (Nat.lt_of_lt_of_le hlt hle)) (stops_cons rfl hle)
          (ihright.conjunct hright hlt hstops hrest)
      · rw [regrouped, andThen_assoc] at hrest
        rw [hsplit]
        exact ihleft.conjunct hle hleast (stops_cons rfl (Nat.le_refl _))
          (ihright.conjunct hright hleast hstops hrest)
    · have hlevel : order.level (op.rank order.dialect) ≠ order.level .and :=
        fun h => hop (Operator.eq_and_of_rank (order.eq_and _ h))
      refine .of_whole (fun _ _ heq => hop (Expr.infixed.inj heq).2.1) fun hleast hstops hrest => ?_
      have hlt := hleast.resolve_right nofun
      rw [regrouped_infixed hop] at hrest
      rw [hsplit]
      exact ihleft.whole (Or.inl (Nat.lt_of_lt_of_le hlt hle)) (stops_cons rfl hle)
        (.infixed hlt (ihright.operand hfits hlevel hstops) hrest)
  | @between operand negated low high hle hlow hhigh _ _ _ ihoperand ihlow ihhigh =>
    refine .of_whole nofun fun {_ rest _ _} hleast hstops hrest => ?_
    have hlt := hleast.resolve_right nofun
    have hand : order.level .range ≠ order.level .and :=
      fun h => nomatch order.eq_and _ h
    have hsplit : (Expr.between operand negated low high).symbols ++ rest = operand.symbols ++
        (.between negated :: (low.symbols ++ (.infixed .and :: (high.symbols ++ rest)))) := by
      simp [symbols]
    rw [hsplit]
    -- The lower bound ends in front of the AND that belongs to BETWEEN.
    refine ihoperand.whole (Or.inl (Nat.lt_of_lt_of_le hlt hle)) (stops_cons rfl hle) ?_
    refine .between hlt (ihlow.operand hlow hand ?_) (ihhigh.operand hhigh hand hstops) hrest
    exact stops_cons rfl order.and_le_range
  | @among operand negated items hle _ ih =>
    refine .of_whole nofun fun hleast _ hrest => ?_
    have hlt := hleast.resolve_right nofun
    rw [symbols, List.append_assoc]
    exact ih.whole (Or.inl (Nat.lt_of_lt_of_le hlt hle)) (stops_cons rfl hle) (.among hlt hrest)

/-- The text of a grouped tree is read as the tree with its chains of AND grouped to the left. -/
theorem Expr.Grouped.readsAs {x : Expr} (h : x.Grouped order) :
    x.ReadsAs order x.regrouped := h.readable.readsAs

/-! ## What is read in front of AND -/

/-- What is read ends in front of AND. -/
def Aim.EndsAtAnd (order : Precedence) : Aim → Prop
  | .operand => True
  | .whole least => order.level .and ≤ least
  | .behind least _ => order.level .and ≤ least

/-- A reading that would end in front of AND is the same where AND follows. -/
theorem Reads.extend {aim : Aim} {symbols rest : List Symbol} {e : Expr}
    (h : Reads order aim symbols e rest) (hends : aim.EndsAtAnd order) (tail : List Symbol) :
    Reads order aim (symbols ++ .infixed .and :: tail) e (rest ++ .infixed .and :: tail) := by
  induction h with
  | operand => exact .operand
  | enclosed hinner => exact .enclosed hinner
  | @prefixed op _ _ _ _ ih => exact .prefixed (ih (op.and_le order))
  | whole _ _ ihfirst ihrest => exact .whole (ihfirst trivial) (ihrest hends)
  | @stop least left symbols hstops =>
    refine .stop ?_
    cases symbols with
    | nil => exact stops_cons rfl hends
    | cons symbol symbols =>
      rintro _ _ level ⟨⟩ hlevel
      exact hstops.le hlevel
  | infixed hlevel _ _ ihright ihrest =>
    exact .infixed hlevel (ihright (Nat.le_of_lt (Nat.lt_of_le_of_lt hends hlevel))) (ihrest hends)
  | suffixed hlevel _ ihrest => exact .suffixed hlevel (ihrest hends)
  | between hlevel _ _ _ ihlow ihhigh ihrest =>
    have hrange := Nat.le_of_lt (Nat.lt_of_le_of_lt hends hlevel)
    exact .between hlevel (ihlow hrange) (ihhigh hrange) (ihrest hends)
  | among hlevel _ ihrest => exact .among hlevel (ihrest hends)

/-- The symbols that are left over are the last ones. -/
theorem Reads.isSuffix {aim : Aim} {symbols rest : List Symbol} {e : Expr}
    (h : Reads order aim symbols e rest) : rest <:+ symbols := by
  induction h with
  | operand => exact List.suffix_cons _ _
  | enclosed => exact List.suffix_cons _ _
  | prefixed _ ih => exact ih.trans (List.suffix_cons _ _)
  | whole _ _ ihfirst ihrest => exact ihrest.trans ihfirst
  | stop => exact List.suffix_rfl
  | infixed _ _ _ ihright ihrest => exact (ihrest.trans ihright).trans (List.suffix_cons _ _)
  | suffixed _ _ ih => exact ih.trans (List.suffix_cons _ _)
  | between _ _ _ _ ihlow ihhigh ihrest =>
    have hmiddle := (List.suffix_cons _ _).trans ihlow
    exact ((ihrest.trans ihhigh).trans hmiddle).trans (List.suffix_cons _ _)
  | among _ _ ih => exact ih.trans (List.suffix_cons _ _)

/-- No symbol binds more loosely than AND. -/
def AboveOr (order : Precedence) (symbols : List Symbol) : Prop :=
  ∀ symbol ∈ symbols, ∀ level, symbol.level? order = some level → order.level .and ≤ level

theorem AboveOr.of_suffix {symbols rest : List Symbol} (h : AboveOr order symbols)
    (hsuffix : rest <:+ symbols) : AboveOr order rest :=
  fun symbol hmem => h symbol (hsuffix.subset hmem)

/-- Where AND follows, reading goes on with what was read in front of it. -/
theorem Reads.followed {least : Nat} {left e found : Expr} {symbols tail last : List Symbol}
    (h : Reads order (.behind least left) symbols e []) (habove : AboveOr order symbols)
    (hrest : Reads order (.behind least e) (.infixed .and :: tail) found last) :
    Reads order (.behind least left) (symbols ++ .infixed .and :: tail) found last := by
  generalize haim : Aim.behind least left = aim at h
  generalize hnil : [] = rest at h
  induction h generalizing left with
  | operand => cases haim
  | enclosed => cases haim
  | prefixed => cases haim
  | whole => cases haim
  | stop =>
    cases haim
    cases hnil
    exact hrest
  | infixed hlevel hright hbehind _ ih =>
    cases haim
    have hop := habove _ List.mem_cons_self _ rfl
    have hmiddle := (habove.of_suffix (List.suffix_cons _ _)).of_suffix hright.isSuffix
    exact .infixed hlevel (hright.extend hop tail) (ih hmiddle hrest rfl hnil)
  | suffixed hlevel _ ih =>
    cases haim
    exact .suffixed hlevel (ih (habove.of_suffix (List.suffix_cons _ _)) hrest rfl hnil)
  | between hlevel hlow hhigh _ _ _ ih =>
    cases haim
    have hrange := habove _ List.mem_cons_self _ rfl
    have hmiddle := (habove.of_suffix (List.suffix_cons _ _)).of_suffix hlow.isSuffix
    have hbehind := (hmiddle.of_suffix (List.suffix_cons _ _)).of_suffix hhigh.isSuffix
    exact .between hlevel (hlow.extend hrange tail) (hhigh.extend hrange tail)
      (ih hbehind hrest rfl hnil)
  | among hlevel _ ih =>
    cases haim
    exact .among hlevel (ih (habove.of_suffix (List.suffix_cons _ _)) hrest rfl hnil)

/-- A whole expression goes on where AND follows. -/
theorem Reads.whole_followed {least : Nat} {e found : Expr} {symbols tail last : List Symbol}
    (h : Reads order (.whole least) symbols e []) (habove : AboveOr order symbols)
    (hrest : Reads order (.behind least e) (.infixed .and :: tail) found last) :
    Reads order (.whole least) (symbols ++ .infixed .and :: tail) found last := by
  cases h with
  | whole hfirst hbehind =>
    exact .whole (hfirst.extend trivial tail)
      (hbehind.followed (habove.of_suffix hfirst.isSuffix) hrest)

theorem AboveOr.nil : AboveOr order [] := nofun

theorem AboveOr.cons {symbol : Symbol} {symbols : List Symbol}
    (hfirst : ∀ level, symbol.level? order = some level → order.level .and ≤ level)
    (hrest : AboveOr order symbols) : AboveOr order (symbol :: symbols) :=
  List.forall_mem_cons.mpr ⟨hfirst, hrest⟩

theorem AboveOr.append {xs ys : List Symbol} (hxs : AboveOr order xs) (hys : AboveOr order ys) :
    AboveOr order (xs ++ ys) := List.forall_mem_append.mpr ⟨hxs, hys⟩

/-- A tree that binds no more loosely than AND shows no symbol that does. -/
theorem Expr.Proper.aboveOr {e : Expr} (h : e.Proper order)
    (hle : order.level .and ≤ order.levelOf e) : AboveOr order e.symbols := by
  have hknown : ∀ {level : Nat}, order.level .and ≤ level →
      ∀ other, some level = some other → order.level .and ≤ other := by
    rintro level hle _ ⟨⟩
    exact hle
  induction h with
  | column => exact .cons nofun .nil
  | literal => exact .cons nofun .nil
  | subquery => exact .cons nofun .nil
  | phrase => exact .cons nofun .nil
  | nested => exact .cons nofun .nil
  | prefixed hfits _ ih => exact .cons nofun (ih (Nat.le_trans hle hfits))
  | suffixed hoperand _ ih =>
    exact (ih (Nat.le_trans hle hoperand)).append (.cons (hknown hle) .nil)
  | infixed hleft hright _ _ ihleft ihright =>
    exact (ihleft (Nat.le_trans hle hleft)).append
      (.cons (hknown hle) (ihright (Nat.le_trans hle hright)))
  | between hoperand hlow hhigh _ _ _ ihoperand ihlow ihhigh =>
    refine (ihoperand (Nat.le_trans hle hoperand)).append (.cons (hknown hle) ?_)
    exact (ihlow (Nat.le_trans hle hlow)).append
      (.cons (hknown (Nat.le_refl _)) (ihhigh (Nat.le_trans hle hhigh)))
  | among hoperand _ ih => exact (ih (Nat.le_trans hle hoperand)).append (.cons (hknown hle) .nil)

end

end RowPolicy.Sql

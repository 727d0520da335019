import RowPolicy.Proofs.PrecedenceReading

/-!
# The loosest operator

How the text of an expression is read by any precedence, also one that it was not written for.

An expression without BETWEEN is read as some tree, since its symbols are operands with operators
between them whatever the precedence makes of these (`Expr.Unranged.exists_readsAs`). If only one
operator of the text binds more loosely than AND, it ends up on top of that tree, and what follows
the text behind an AND goes to its last operand (`Reads.loosest`).
-/

namespace RowPolicy.Sql

section

variable {order : Precedence}

/-! ## What is left over -/

/-- Nothing is read that binds no more tightly than a level. -/
def Aim.KeepsOff (level : Nat) : Aim → Prop
  | .operand => True
  | .whole least => level ≤ least
  | .behind least _ => level ≤ least

/-- An operator that binds more loosely than AND and no more tightly than what is asked for is left
over. -/
theorem Reads.mem_rest {aim : Aim} {symbols rest : List Symbol} {e : Expr} {symbol : Symbol}
    {level : Nat} (h : Reads order aim symbols e rest) (hlevel : symbol.level? order = some level)
    (hloose : level < order.level .and) (haim : aim.KeepsOff level) (hmem : symbol ∈ symbols) :
    symbol ∈ rest := by
  have hbehind {first : Symbol} {others : List Symbol} {least other : Nat}
      (hfirst : first.level? order = some other) (hother : least < other) (hleast : level ≤ least)
      (hmem : symbol ∈ first :: others) : symbol ∈ others := by
    rcases List.mem_cons.mp hmem with rfl | hmem
    · obtain rfl := Option.some.inj (hlevel.symm.trans hfirst)
      omega
    · exact hmem
  induction h with
  | operand =>
    rcases List.mem_cons.mp hmem with rfl | hmem
    · cases hlevel
    · exact hmem
  | enclosed =>
    rcases List.mem_cons.mp hmem with rfl | hmem
    · cases hlevel
    · exact hmem
  | @prefixed op _ _ _ _ ih =>
    rcases List.mem_cons.mp hmem with rfl | hmem
    · cases hlevel
    · exact ih (Nat.le_trans (Nat.le_of_lt hloose) (op.and_le order)) hmem
  | whole _ _ ihfirst ihrest => exact ihrest haim (ihfirst trivial hmem)
  | stop => exact hmem
  | infixed hlt _ _ ihright ihrest =>
    exact ihrest haim
      (ihright (Nat.le_of_lt (Nat.lt_of_le_of_lt haim hlt)) (hbehind rfl hlt haim hmem))
  | suffixed hlt _ ih => exact ih haim (hbehind rfl hlt haim hmem)
  | between hlt _ _ _ ihlow ihhigh ihrest =>
    have hrange := Nat.le_of_lt (Nat.lt_of_le_of_lt haim hlt)
    have hmiddle := hbehind rfl hloose (Nat.le_refl level)
      (ihlow hrange (hbehind rfl hlt haim hmem))
    exact ihrest haim (ihhigh hrange hmiddle)
  | among hlt _ ih => exact ih haim (hbehind rfl hlt haim hmem)

/-- What is read stays the same where something is left over and more follows. -/
theorem Reads.append {aim : Aim} {symbols rest : List Symbol} {e : Expr}
    (h : Reads order aim symbols e rest) (hne : rest ≠ []) (tail : List Symbol) :
    Reads order aim (symbols ++ tail) e (rest ++ tail) := by
  induction h with
  | operand => exact .operand
  | enclosed hinner => exact .enclosed hinner
  | prefixed _ ih => exact .prefixed (ih hne)
  | whole _ hrest ihfirst ihrest =>
    exact .whole (ihfirst (hrest.isSuffix.ne_nil hne)) (ihrest hne)
  | @stop least left symbols hstops =>
    obtain ⟨symbol, others, rfl⟩ := List.exists_cons_of_ne_nil hne
    refine .stop ?_
    rintro _ _ level ⟨⟩ hlevel
    exact hstops.le hlevel
  | infixed hlt _ hrest ihright ihrest =>
    exact .infixed hlt (ihright (hrest.isSuffix.ne_nil hne)) (ihrest hne)
  | suffixed hlt _ ih => exact .suffixed hlt (ih hne)
  | between hlt _ _ hrest ihlow ihhigh ihrest =>
    exact .between hlt (ihlow (List.cons_ne_nil _ _)) (ihhigh (hrest.isSuffix.ne_nil hne))
      (ihrest hne)
  | among hlt _ ih => exact .among hlt (ih hne)

/-- What is left over starts with nothing that could still be read. -/
def Aim.Ended (order : Precedence) (rest : List Symbol) : Aim → Prop
  | .operand => True
  | .whole least => Stops order least rest
  | .behind least _ => Stops order least rest

theorem Reads.ended {aim : Aim} {symbols rest : List Symbol} {e : Expr}
    (h : Reads order aim symbols e rest) : aim.Ended order rest := by
  induction h with
  | operand | enclosed | prefixed => exact trivial
  | stop hstops => exact hstops
  | whole _ _ _ ih => exact ih
  | infixed _ _ _ _ ih => exact ih
  | suffixed _ _ ih => exact ih
  | between _ _ _ _ _ _ ih => exact ih
  | among _ _ ih => exact ih

/-- Behind an operand only what has a level can be read. -/
theorem Reads.exists_level {least : Nat} {left e : Expr} {symbol : Symbol} {symbols : List Symbol}
    (h : Reads order (.behind least left) (symbol :: symbols) e []) :
    ∃ level, symbol.level? order = some level := by
  cases h <;> exact ⟨_, rfl⟩

/-! ## One loose operator -/

/-- No operator but this one binds more loosely than AND. -/
def OnlyLoose (order : Precedence) (op : Operator) (symbols : List Symbol) : Prop :=
  ∀ symbol ∈ symbols, ∀ level, symbol.level? order = some level → level < order.level .and →
    symbol = .infixed op

theorem OnlyLoose.of_suffix {op : Operator} {symbols rest : List Symbol}
    (h : OnlyLoose order op symbols) (hsuffix : rest <:+ symbols) : OnlyLoose order op rest :=
  fun symbol hmem => h symbol (hsuffix.subset hmem)

theorem OnlyLoose.level_le {op other : Operator} {symbols : List Symbol}
    (h : OnlyLoose order op symbols) (hloose : order.level (op.rank order.dialect) < order.level .and)
    (hmem : .infixed other ∈ symbols) :
    order.level (op.rank order.dialect) ≤ order.level (other.rank order.dialect) := by
  rcases Nat.lt_or_ge (order.level (other.rank order.dialect)) (order.level .and) with hlt | hge
  · have heq : other = op := Symbol.infixed.inj (h _ hmem _ rfl hlt)
    exact heq ▸ Nat.le_refl _
  · exact Nat.le_trans (Nat.le_of_lt hloose) hge

/-- An operand of the loosest operator that stops in front of something else is the last one. -/
theorem OnlyLoose.eq_nil {op : Operator} {least : Nat} {left e : Expr} {symbols : List Symbol}
    (h : OnlyLoose order op symbols) (hloose : order.level (op.rank order.dialect) < order.level .and)
    (hnone : .infixed op ∉ symbols)
    (hstops : Stops order (order.level (op.rank order.dialect)) symbols)
    (hread : Reads order (.behind least left) symbols e []) : symbols = [] := by
  cases symbols with
  | nil => rfl
  | cons symbol others =>
    obtain ⟨level, hlevel⟩ := hread.exists_level
    have hlt := Nat.lt_of_le_of_lt (hstops.le hlevel) hloose
    exact absurd (h symbol List.mem_cons_self level hlevel hlt ▸ List.mem_cons_self) hnone

theorem OnlyLoose.aboveOr {op : Operator} {symbols : List Symbol} (h : OnlyLoose order op symbols)
    (hnone : .infixed op ∉ symbols) : AboveOr order symbols :=
  fun symbol hmem level hlevel => Decidable.byContradiction fun hloose =>
    hnone (h symbol hmem level hlevel (Nat.lt_of_not_le hloose) ▸ hmem)

section Loosest

variable {op : Operator} (hloose : order.level (op.rank order.dialect) < order.level .and)
include hloose

theorem Reads.loosest_behind {least : Nat} {left e : Expr} {symbols : List Symbol}
    (h : Reads order (.behind least left) symbols e [])
    (honly : OnlyLoose order op symbols) (hmem : .infixed op ∈ symbols) :
    ∃ first last, e = .infixed first op last ∧ ∀ tail found,
      Reads order (.behind (order.level (op.rank order.dialect)) last) (.infixed .and :: tail)
        found [] →
      Reads order (.behind least left) (symbols ++ .infixed .and :: tail)
        (.infixed first op found) [] := by
  generalize haim : Aim.behind least left = aim at h
  generalize hnil : [] = rest at h
  induction h generalizing left with
  | operand => cases haim
  | enclosed => cases haim
  | prefixed => cases haim
  | whole => cases haim
  | stop =>
    subst hnil
    cases hmem
  | @infixed _ _ _ symbols right middle _ _ hlt hright hbehind _ ih =>
    cases haim
    subst hnil
    have hothers := honly.of_suffix (List.suffix_cons _ _)
    have honlyMiddle := hothers.of_suffix hright.isSuffix
    by_cases hagain : .infixed op ∈ middle
    · -- the operator comes once more, and what follows goes to that place
      obtain ⟨first, last, rfl, hfollowed⟩ := ih honlyMiddle hagain rfl rfl
      exact ⟨first, last, rfl, fun tail found hfound =>
        .infixed hlt (hright.append (List.ne_nil_of_mem hagain) _) (hfollowed tail found hfound)⟩
    · rcases List.mem_cons.mp hmem with heq | hlater
      · obtain rfl := Symbol.infixed.inj heq
        obtain rfl := honlyMiddle.eq_nil hloose hagain hright.ended hbehind
        have hnone : .infixed op ∉ symbols := fun hlater =>
          nomatch hright.mem_rest rfl hloose (Nat.le_refl _) hlater
        cases hbehind with
        | stop => exact ⟨_, right, rfl, fun tail found hfound => .infixed hlt
            (hright.whole_followed (hothers.aboveOr hnone) hfound) (.stop stops_nil)⟩
      · have hle := honly.level_le hloose List.mem_cons_self
        exact absurd (hright.mem_rest rfl hloose hle hlater) hagain
  | suffixed hlt _ ih =>
    cases haim
    subst hnil
    have hmem := (List.mem_cons.mp hmem).resolve_left nofun
    obtain ⟨first, last, rfl, hfollowed⟩ :=
      ih (honly.of_suffix (List.suffix_cons _ _)) hmem rfl rfl
    exact ⟨first, last, rfl, fun tail found hfound => .suffixed hlt (hfollowed tail found hfound)⟩
  | between hlt hlow hhigh _ _ _ ih =>
    cases haim
    subst hnil
    have hrange : order.level (op.rank order.dialect) ≤ order.level .range :=
      Nat.le_trans (Nat.le_of_lt hloose) order.and_le_range
    have hand : Symbol.infixed op ≠ .infixed .and := by
      rintro ⟨⟩
      exact Nat.lt_irrefl _ hloose
    have hmem := (List.mem_cons.mp hmem).resolve_left nofun
    have hmiddle := (List.mem_cons.mp (hlow.mem_rest rfl hloose hrange hmem)).resolve_left hand
    have hlast := hhigh.mem_rest rfl hloose hrange hmiddle
    have honlyBounds := (honly.of_suffix (List.suffix_cons _ _)).of_suffix hlow.isSuffix
    have honlyLast := (honlyBounds.of_suffix (List.suffix_cons _ _)).of_suffix hhigh.isSuffix
    obtain ⟨first, final, rfl, hfollowed⟩ := ih honlyLast hlast rfl rfl
    exact ⟨first, final, rfl, fun tail found hfound =>
      .between hlt (hlow.append (List.cons_ne_nil _ _) _)
        (hhigh.append (List.ne_nil_of_mem hlast) _) (hfollowed tail found hfound)⟩
  | among hlt _ ih =>
    cases haim
    subst hnil
    have hmem := (List.mem_cons.mp hmem).resolve_left nofun
    obtain ⟨first, last, rfl, hfollowed⟩ :=
      ih (honly.of_suffix (List.suffix_cons _ _)) hmem rfl rfl
    exact ⟨first, last, rfl, fun tail found hfound => .among hlt (hfollowed tail found hfound)⟩

/-- The only operator that binds more loosely than AND ends up on top. Where AND follows, its last
operand goes on. -/
theorem Reads.loosest {least : Nat} {e : Expr} {symbols : List Symbol}
    (h : Reads order (.whole least) symbols e [])
    (honly : OnlyLoose order op symbols) (hmem : .infixed op ∈ symbols) :
    ∃ first last, e = .infixed first op last ∧ ∀ tail found,
      Reads order (.behind (order.level (op.rank order.dialect)) last) (.infixed .and :: tail)
        found [] →
      Reads order (.whole least) (symbols ++ .infixed .and :: tail)
        (.infixed first op found) [] := by
  cases h with
  | whole hfirst hbehind =>
    have hmiddle := hfirst.mem_rest rfl hloose trivial hmem
    obtain ⟨first, last, rfl, hfollowed⟩ :=
      hbehind.loosest_behind hloose (honly.of_suffix hfirst.isSuffix) hmiddle
    exact ⟨first, last, rfl, fun tail found hfound =>
      .whole (hfirst.append (List.ne_nil_of_mem hmiddle) _) (hfollowed tail found hfound)⟩

end Loosest

/-! ## Rows that are read -/

/-- What comes next in a row of symbols. -/
inductive Slot where
  | operand
  | operator

/-- Operands, with operators in front of them, behind them and between them. -/
inductive Fits (order : Precedence) : Slot → List Symbol → Prop where
  | operand {e rest} : Fits order .operator rest → Fits order .operand (.operand e :: rest)
  | enclosed {inner e rest} : Reads order (.whole 0) inner e [] → Fits order .operator rest →
      Fits order .operand (.enclosed inner :: rest)
  | prefixed {op rest} : Fits order .operand rest → Fits order .operand (.prefixed op :: rest)
  | done : Fits order .operator []
  | infixed {op rest} : Fits order .operand rest → Fits order .operator (.infixed op :: rest)
  | suffixed {suffix rest} : Fits order .operator rest →
      Fits order .operator (.suffixed suffix :: rest)
  | among {negated items rest} : Fits order .operator rest →
      Fits order .operator (.among negated items :: rest)

mutual

theorem Fits.exists_whole {symbols : List Symbol} (h : Fits order .operand symbols) (least : Nat) :
    ∃ e rest, Reads order (.whole least) symbols e rest ∧ Fits order .operator rest := by
  match symbols, h with
  | .operand first :: _, .operand hrest =>
    obtain ⟨e, rest, hreads, hfits⟩ := hrest.exists_behind least first
    exact ⟨e, rest, .whole .operand hreads, hfits⟩
  | .enclosed _ :: _, .enclosed hinner hrest =>
    obtain ⟨e, rest, hreads, hfits⟩ := hrest.exists_behind least (.nested _)
    exact ⟨e, rest, .whole (.enclosed hinner) hreads, hfits⟩
  | .prefixed op :: symbols, .prefixed hoperand =>
    obtain ⟨operand, middle, hread, hmiddle⟩ := hoperand.exists_whole (order.level op.rank)
    have hshorter := hread.isSuffix.length_le
    obtain ⟨e, rest, hreads, hfits⟩ := hmiddle.exists_behind least (.prefixed op operand)
    exact ⟨e, rest, .whole (.prefixed hread) hreads, hfits⟩
termination_by symbols.length

theorem Fits.exists_behind {symbols : List Symbol} (h : Fits order .operator symbols)
    (least : Nat) (left : Expr) :
    ∃ e rest, Reads order (.behind least left) symbols e rest ∧ Fits order .operator rest := by
  match symbols, h with
  | [], .done => exact ⟨left, [], .stop stops_nil, .done⟩
  | .infixed op :: symbols, .infixed hoperand =>
    by_cases hlt : least < order.level (op.rank order.dialect)
    · obtain ⟨right, middle, hread, hmiddle⟩ :=
        hoperand.exists_whole (order.level (op.rank order.dialect))
      have hshorter := hread.isSuffix.length_le
      obtain ⟨e, rest, hreads, hfits⟩ := hmiddle.exists_behind least (.infixed left op right)
      exact ⟨e, rest, .infixed hlt hread hreads, hfits⟩
    · exact ⟨left, _, .stop (stops_cons rfl (Nat.le_of_not_lt hlt)), .infixed hoperand⟩
  | .suffixed suffix :: symbols, .suffixed hrest =>
    by_cases hlt : least < order.level suffix.rank
    · obtain ⟨e, rest, hreads, hfits⟩ := hrest.exists_behind least (.suffixed left suffix)
      exact ⟨e, rest, .suffixed hlt hreads, hfits⟩
    · exact ⟨left, _, .stop (stops_cons rfl (Nat.le_of_not_lt hlt)), .suffixed hrest⟩
  | .among negated items :: symbols, .among hrest =>
    by_cases hlt : least < order.level .range
    · obtain ⟨e, rest, hreads, hfits⟩ := hrest.exists_behind least (.among left negated items)
      exact ⟨e, rest, .among hlt hreads, hfits⟩
    · exact ⟨left, _, .stop (stops_cons rfl (Nat.le_of_not_lt hlt)), .among hrest⟩
termination_by symbols.length

end

/-- Where every level is asked for, nothing is left over. -/
theorem Fits.exists_reads {symbols : List Symbol} (h : Fits order .operand symbols) :
    ∃ e, Reads order (.whole 0) symbols e [] := by
  obtain ⟨e, rest, hreads, hfits⟩ := h.exists_whole 0
  have hstops : Stops order 0 rest := hreads.ended
  cases hfits with
  | done => exact ⟨e, hreads⟩
  | infixed => exact absurd (hstops.le rfl) (Nat.not_le.mpr (order.pos _))
  | suffixed => exact absurd (hstops.le rfl) (Nat.not_le.mpr (order.pos _))
  | among => exact absurd (hstops.le rfl) (Nat.not_le.mpr (order.pos _))

/-- No BETWEEN is in an expression, unless inside of a query or a call. -/
inductive Expr.Unranged : Expr → Prop where
  | column {name} : Unranged (.column name)
  | literal {value} : Unranged (.literal value)
  | subquery {query} : Unranged (.subquery query)
  | phrase {pieces} : Unranged (.phrase pieces)
  | nested {inner} : Unranged inner → Unranged (.nested inner)
  | prefixed {op operand} : Unranged operand → Unranged (.prefixed op operand)
  | suffixed {operand suffix} : Unranged operand → Unranged (.suffixed operand suffix)
  | infixed {left op right} : Unranged left → Unranged right → Unranged (.infixed left op right)
  | among {operand negated items} : Unranged operand → Unranged (.among operand negated items)

theorem Expr.Unranged.fits {e : Expr} (h : e.Unranged) : ∀ {rest : List Symbol},
    Fits order .operator rest → Fits order .operand (e.symbols ++ rest) := by
  induction h with
  | column | literal | subquery | phrase => exact fun hrest => .operand hrest
  | nested _ ih =>
    intro rest hrest
    have hinner := ih .done
    rw [List.append_nil] at hinner
    obtain ⟨found, hfound⟩ := hinner.exists_reads
    exact .enclosed hfound hrest
  | prefixed _ ih => exact fun hrest => .prefixed (ih hrest)
  | suffixed _ ih =>
    intro rest hrest
    rw [symbols, List.append_assoc]
    exact ih (.suffixed hrest)
  | infixed _ _ ihleft ihright =>
    intro rest hrest
    rw [symbols, List.append_assoc]
    exact ihleft (.infixed (ihright hrest))
  | among _ ih =>
    intro rest hrest
    rw [symbols, List.append_assoc]
    exact ih (.among hrest)

/-- An expression without BETWEEN is read as some tree, by any precedence. -/
theorem Expr.Unranged.exists_readsAs {e : Expr} (h : e.Unranged) (order : Precedence) :
    ∃ found, e.ReadsAs order found := by
  have hfits : Fits order .operand (e.symbols ++ []) := h.fits .done
  rw [List.append_nil] at hfits
  exact hfits.exists_reads

end

end RowPolicy.Sql

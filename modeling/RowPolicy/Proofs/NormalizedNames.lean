import Mathlib.Data.List.DropRight
import RowPolicy.Table

/-!
# Normalizing names twice

Names of tables are normalized wherever they come together: when a rule is built, when it is asked
which tables it governs, and when a statement refers to one. All of these agree because a normalized
name is its own normal form.

The reason is twofold. No character comes out of lower-casing that would be lowered again; the runs
of the case table lead out of all runs (`loweringRuns_lead_out`). And lower-casing makes no dot and
no quote that was not there, so there is nothing new to cut at or to strip.

Main statements: `Text.lowerCase_lowerCase` and `normalizeTableName_normalizeTableName`.
-/

namespace RowPolicy

namespace Text

/-! ## Lower case -/

/-- Whether a code point is one of those that a run lowers. -/
def inRun (n : Nat) (run : Nat × Nat × Nat × Int) : Bool :=
  decide (run.1 ≤ n) && decide (n ≤ run.2.1) && (n - run.1) % run.2.2.1 == 0

/-- Whether the code points from `first` to `last` avoid a run: they end before it, begin behind it,
or, when they come in steps of two like the run, fall between its members. -/
def avoids (first last : Nat) (stepped : Bool) (run : Nat × Nat × Nat × Int) : Bool :=
  Nat.blt last run.1 || Nat.blt run.2.1 first ||
    (stepped && run.2.2.1 == 2 && (run.1 + first) % 2 == 1)

/-- Whether the forms that a run lowers to are characters behind the ASCII capitals and avoid all
runs, and the one character that is lowered without a run. -/
def leadsOut (run : Nat × Nat × Nat × Int) : Bool :=
  let first := (run.1 + run.2.2.2).toNat
  let last := (run.2.1 + run.2.2.2).toNat
  Nat.blt 96 first &&
    (Nat.blt last 0xD800 || Nat.blt 0xDFFF first && Nat.blt last 0x110000) &&
    ((0x130, 0x130, 1, 0) :: loweringRuns).all
      (avoids first last (run.2.2.1 == 2 || run.1 == run.2.1))

theorem loweringRuns_lead_out : loweringRuns.all leadsOut = true := by decide +kernel

/-- Lower-casing leaves the character alone, wherever it stands. -/
def IsLowered (c : Char) : Prop := c ≠ 'Σ' ∧ lowerChar c = [c]

theorem not_inRun_of_avoids {n first last : Nat} {stepped : Bool} {run : Nat × Nat × Nat × Int}
    (h : avoids first last stepped run = true) (hfirst : first ≤ n) (hlast : n ≤ last)
    (hstep : stepped = true → (n - first) % 2 = 0) : inRun n run = false := by
  obtain ⟨lo, hi, step, shift⟩ := run
  simp only [avoids, Bool.or_eq_true, Bool.and_eq_true, Nat.blt_eq, beq_iff_eq] at h
  simp only [inRun, Bool.and_eq_false_iff, decide_eq_false_iff_not, beq_eq_false_iff_ne]
  rcases h with (hbefore | hbehind) | ⟨⟨hstepped, rfl⟩, hodd⟩
  · omega
  · omega
  · have := hstep hstepped
    omega

theorem toNat_ofNat {n : Nat} (h : n.isValidChar) : (Char.ofNat n).toNat = n := by
  rw [Char.ofNat, dif_pos h]
  rfl

theorem toLower_of_le {c : Char} (h : 97 ≤ c.toNat) : c.toLower = c := by
  unfold Char.toLower
  split
  next hupper =>
    have hle : c.toNat ≤ 90 := hupper.2
    omega
  next => rfl

theorem toLower_toLower (c : Char) : c.toLower.toLower = c.toLower := by
  by_cases h : c.toLower.toNat < 97
  · -- What stands before the small letters was not lowered.
    exact congrArg Char.toLower (eq_of_toLower_eq rfl h).symm
  · exact toLower_of_le (by omega)

theorem toNat_toLower_lt {c : Char} (h : c.toNat < 128) : c.toLower.toNat < 128 := by
  unfold Char.toLower
  split
  next hupper =>
    have hle : c.val.toNat ≤ 90 := hupper.2
    show (c.val + 32).toNat < 128
    rw [UInt32.toNat_add, show (32 : UInt32).toNat = 32 from rfl]
    omega
  next => exact h

theorem isLowered_of_lt {c : Char} (h : c.toNat < 128) (hlower : c.toLower = c) : IsLowered c := by
  refine ⟨fun heq => ?_, ?_⟩
  · rw [heq] at h
    exact absurd h (by decide)
  · rw [lowerChar, if_pos h, hlower]

theorem isLowered_of_avoids {c : Char} (h97 : 97 ≤ c.toNat)
    (h : ∀ run ∈ (0x130, 0x130, 1, 0) :: loweringRuns, inRun c.toNat run = false) :
    IsLowered c := by
  obtain ⟨h130, hruns⟩ := List.forall_mem_cons.mp h
  refine ⟨?_, ?_⟩
  · rintro rfl
    exact absurd (hruns (931, 939, 1, 32) (by decide)) (by decide)
  · rw [lowerChar]
    split
    · rw [toLower_of_le h97]
    · split
      next heq =>
        rw [heq] at h130
        exact absurd h130 (by decide)
      next =>
        split
        next run hfound =>
          have hrun : inRun c.toNat run = true := List.find?_some hfound
          rw [hruns run (List.mem_of_find?_eq_some hfound)] at hrun
          cases hrun
        next => rfl

/-- A run leads its characters behind the ASCII capitals and out of all runs. -/
theorem avoids_of_inRun {n : Nat} {run : Nat × Nat × Nat × Int} (hmem : run ∈ loweringRuns)
    (hrun : inRun n run = true) :
    97 ≤ (Char.ofNat ((n : Int) + run.2.2.2).toNat).toNat ∧
      ∀ other ∈ (0x130, 0x130, 1, 0) :: loweringRuns,
        inRun (Char.ofNat ((n : Int) + run.2.2.2).toNat).toNat other = false := by
  have hlead := List.all_eq_true.mp loweringRuns_lead_out run hmem
  obtain ⟨lo, hi, step, shift⟩ := run
  simp only [leadsOut, Bool.and_eq_true, Bool.or_eq_true, Nat.blt_eq] at hlead
  obtain ⟨⟨hsmall, hvalid⟩, havoids⟩ := hlead
  simp only [inRun, Bool.and_eq_true, decide_eq_true_eq, beq_iff_eq] at hrun
  obtain ⟨⟨hlo, hhi⟩, hstep⟩ := hrun
  have hchar : ((n : Int) + shift).toNat.isValidChar := by
    unfold Nat.isValidChar
    omega
  rw [toNat_ofNat hchar]
  refine ⟨by omega, fun other hother => ?_⟩
  refine not_inRun_of_avoids (List.all_eq_true.mp havoids other hother) (by omega) (by omega)
    fun hstepped => ?_
  simp only [Bool.or_eq_true, beq_iff_eq] at hstepped
  rcases hstepped with rfl | rfl
  · omega
  · -- A run of one character has no second step.
    omega

theorem isLowered_of_mem_lowerChar {c d : Char} (hc : c ≠ 'Σ') (h : d ∈ lowerChar c) :
    IsLowered d := by
  rw [lowerChar] at h
  split at h
  next hlt =>
    rw [List.mem_singleton.mp h]
    exact isLowered_of_lt (toNat_toLower_lt hlt) (toLower_toLower c)
  next hge =>
    split at h
    next =>
      simp only [List.mem_cons, List.not_mem_nil, or_false] at h
      rcases h with rfl | rfl
      · exact ⟨by decide, rfl⟩
      · exact ⟨by decide, rfl⟩
    next hne =>
      split at h
      next run hfind =>
        rw [List.mem_singleton.mp h]
        obtain ⟨h97, havoids⟩ := avoids_of_inRun (List.mem_of_find?_eq_some hfind)
          (List.find?_some (p := inRun c.toNat) hfind)
        exact isLowered_of_avoids h97 havoids
      next hnone =>
        rw [List.mem_singleton.mp h]
        refine ⟨hc, ?_⟩
        rw [lowerChar, if_neg hge, if_neg hne, hnone]

/-- What a character becomes where it stands. -/
def lowered (seen : List Char) (c : Char) (rest : List Char) : List Char :=
  if c = 'Σ' then [if meetsCased seen && !meetsCased rest then 'ς' else 'σ'] else lowerChar c

theorem lowerFrom_cons (seen : List Char) (c : Char) (rest : List Char) :
    lowerFrom seen (c :: rest) = lowered seen c rest ++ lowerFrom (c :: seen) rest := rfl

theorem isLowered_of_mem_lowered {seen rest : List Char} {c d : Char}
    (h : d ∈ lowered seen c rest) : IsLowered d := by
  rw [lowered] at h
  split at h
  next =>
    rw [List.mem_singleton.mp h]
    split
    · exact ⟨by decide, rfl⟩
    · exact ⟨by decide, rfl⟩
  next hc => exact isLowered_of_mem_lowerChar hc h

theorem isLowered_of_mem_lowerFrom {cs seen : List Char} {d : Char} (h : d ∈ lowerFrom seen cs) :
    IsLowered d := by
  induction cs generalizing seen with
  | nil => cases h
  | cons c rest ih =>
    rw [lowerFrom_cons, List.mem_append] at h
    rcases h with h | h
    · exact isLowered_of_mem_lowered h
    · exact ih h

theorem lowerFrom_of_isLowered {cs seen : List Char} (h : ∀ c ∈ cs, IsLowered c) :
    lowerFrom seen cs = cs := by
  induction cs generalizing seen with
  | nil => rfl
  | cons c rest ih =>
    obtain ⟨⟨hsigma, hlower⟩, hrest⟩ := List.forall_mem_cons.mp h
    rw [lowerFrom_cons, lowered, if_neg hsigma, hlower, ih hrest]
    rfl

theorem lowerCase_lowerCase (s : String) : lowerCase (lowerCase s) = lowerCase s := by
  rw [lowerCase, lowerCase, String.toList_ofList,
    lowerFrom_of_isLowered fun c hc => isLowered_of_mem_lowerFrom hc]

/-! ## Marks in lower case -/

/-- What stands in front of the small letters does not come out of lower-casing anything else. -/
theorem eq_of_mem_lowerChar {c d : Char} (h : d ∈ lowerChar c) (hd : d.toNat < 97) : c = d := by
  rw [lowerChar] at h
  split at h
  next => exact eq_of_toLower_eq (List.mem_singleton.mp h).symm hd
  next hge =>
    split at h
    next =>
      simp only [List.mem_cons, List.not_mem_nil, or_false] at h
      rcases h with rfl | rfl
      · exact absurd hd (by decide)
      · exact absurd hd (by decide)
    next =>
      split at h
      next run hfind =>
        have h97 := (avoids_of_inRun (List.mem_of_find?_eq_some hfind)
          (List.find?_some (p := inRun c.toNat) hfind)).1
        rw [← List.mem_singleton.mp h] at h97
        omega
      next => exact (List.mem_singleton.mp h).symm

theorem eq_of_mem_lowered {seen rest : List Char} {c d : Char} (h : d ∈ lowered seen c rest)
    (hd : d.toNat < 97) : c = d := by
  rw [lowered] at h
  split at h
  next =>
    rw [List.mem_singleton.mp h] at hd
    split at hd
    · exact absurd hd (by decide)
    · exact absurd hd (by decide)
  next => exact eq_of_mem_lowerChar h hd

theorem lowered_ne_nil (seen : List Char) (c : Char) (rest : List Char) :
    lowered seen c rest ≠ [] := by
  unfold lowered lowerChar
  split
  · exact List.cons_ne_nil _ _
  · split
    · exact List.cons_ne_nil _ _
    · split
      · exact List.cons_ne_nil _ _
      · split
        · exact List.cons_ne_nil _ _
        · exact List.cons_ne_nil _ _

theorem lowerFrom_ne_nil {seen cs : List Char} (h : cs ≠ []) : lowerFrom seen cs ≠ [] := by
  cases cs with
  | nil => exact absurd rfl h
  | cons c rest => exact List.append_ne_nil_of_left_ne_nil (lowered_ne_nil seen c rest) _

theorem mem_of_mem_lowerFrom {seen cs : List Char} {d : Char} (h : d ∈ lowerFrom seen cs)
    (hd : d.toNat < 97) : d ∈ cs := by
  induction cs generalizing seen with
  | nil => cases h
  | cons c rest ih =>
    rw [lowerFrom_cons, List.mem_append] at h
    rcases h with h | h
    · rw [eq_of_mem_lowered h hd]
      exact List.mem_cons_self
    · exact List.mem_cons_of_mem _ (ih h)

theorem head?_of_head?_lowerFrom {seen cs : List Char} {d : Char}
    (h : (lowerFrom seen cs).head? = some d) (hd : d.toNat < 97) : cs.head? = some d := by
  cases cs with
  | nil => cases h
  | cons c rest =>
    rw [lowerFrom_cons, List.head?_append_of_ne_nil _ (lowered_ne_nil seen c rest)] at h
    rw [List.head?_cons, eq_of_mem_lowered (List.mem_of_head? h) hd]

theorem getLast?_of_getLast?_lowerFrom {seen cs : List Char} {d : Char}
    (h : (lowerFrom seen cs).getLast? = some d) (hd : d.toNat < 97) : cs.getLast? = some d := by
  induction cs generalizing seen with
  | nil => cases h
  | cons c rest ih =>
    rw [lowerFrom_cons] at h
    by_cases hrest : rest = []
    · subst hrest
      rw [show lowerFrom (c :: seen) [] = [] from rfl, List.append_nil] at h
      rw [eq_of_mem_lowered (List.mem_of_getLast? h) hd]
      rfl
    · rw [List.getLast?_append_of_ne_nil _ (lowerFrom_ne_nil hrest)] at h
      rw [← ih h, ← List.singleton_append, List.getLast?_append_of_ne_nil _ hrest]

/-- A character that is lowered to itself stays where it is. -/
theorem lowered_of_isLowered {c : Char} (h : IsLowered c) (seen rest : List Char) :
    lowered seen c rest = [c] := by
  rw [lowered, if_neg h.1, h.2]

theorem count_lowerFrom {d : Char} (h : IsLowered d) (hd : d.toNat < 97) (seen cs : List Char) :
    (lowerFrom seen cs).count d = cs.count d := by
  induction cs generalizing seen with
  | nil => rfl
  | cons c rest ih =>
    rw [lowerFrom_cons, List.count_append, ih]
    by_cases hc : c = d
    · subst hc
      rw [lowered_of_isLowered h, ← List.count_append, List.singleton_append]
    · have hno : d ∉ lowered seen c rest := fun hmem => hc (eq_of_mem_lowered hmem hd)
      rw [List.count_eq_zero_of_not_mem hno, Nat.zero_add, List.count_cons_of_ne hc]

theorem head?_lowerFrom_iff {d : Char} (h : IsLowered d) (hd : d.toNat < 97)
    {seen cs : List Char} : (lowerFrom seen cs).head? = some d ↔ cs.head? = some d := by
  refine ⟨fun hhead => head?_of_head?_lowerFrom hhead hd, fun hhead => ?_⟩
  cases cs with
  | nil => cases hhead
  | cons c rest =>
    rw [List.head?_cons, Option.some_inj] at hhead
    rw [lowerFrom_cons, hhead, lowered_of_isLowered h]
    rfl

theorem getLast?_lowerFrom_iff {d : Char} (h : IsLowered d) (hd : d.toNat < 97)
    {seen cs : List Char} : (lowerFrom seen cs).getLast? = some d ↔ cs.getLast? = some d := by
  refine ⟨fun hlast => getLast?_of_getLast?_lowerFrom hlast hd, fun hlast => ?_⟩
  induction cs generalizing seen with
  | nil => cases hlast
  | cons c rest ih =>
    rw [lowerFrom_cons]
    by_cases hrest : rest = []
    · subst hrest
      rw [List.getLast?_singleton, Option.some_inj] at hlast
      rw [hlast, lowered_of_isLowered h]
      rfl
    · rw [List.getLast?_append_of_ne_nil _ (lowerFrom_ne_nil hrest)]
      rw [← List.singleton_append, List.getLast?_append_of_ne_nil _ hrest] at hlast
      exact ih hlast

/-! ## Cutting and stripping -/

theorem not_mem_afterLast (sep : Char) (cs : List Char) : sep ∉ afterLast sep cs := by
  intro h
  have := List.mem_takeWhile_imp (List.mem_reverse.mp h)
  simp at this

theorem afterLast_of_not_mem {sep : Char} {cs : List Char} (h : sep ∉ cs) :
    afterLast sep cs = cs := by
  rw [afterLast, List.takeWhile_eq_self_iff.mpr, List.reverse_reverse]
  intro c hc
  simp only [bne_iff_ne, ne_eq]
  rintro rfl
  exact h (List.mem_reverse.mp hc)

/-- No character of a class stands at either end. -/
def Bare (p : Char → Bool) (cs : List Char) : Prop :=
  (∀ c, cs.head? = some c → p c = false) ∧ ∀ c, cs.getLast? = some c → p c = false

theorem Bare.of_forall {p : Char → Bool} {cs : List Char} (h : ∀ c ∈ cs, p c = false) :
    Bare p cs :=
  ⟨fun c hc => h c (List.mem_of_head? hc), fun c hc => h c (List.mem_of_getLast? hc)⟩

theorem bare_iff {p : Char → Bool} {cs : List Char} :
    Bare p cs ↔ ∀ c, p c = true → ¬cs.head? = some c ∧ ¬cs.getLast? = some c := by
  constructor
  · intro h c hc
    constructor
    · intro hhead
      exact Bool.false_ne_true ((h.1 c hhead).symm.trans hc)
    · intro hlast
      exact Bool.false_ne_true ((h.2 c hlast).symm.trans hc)
  · intro h
    constructor
    · exact fun c hhead => eq_false_of_ne_true fun hc => (h c hc).1 hhead
    · exact fun c hlast => eq_false_of_ne_true fun hc => (h c hc).2 hlast

theorem trimLeft_of_head? {p : Char → Bool} {cs : List Char}
    (h : ∀ c, cs.head? = some c → p c = false) : trimLeft p cs = cs := by
  cases cs with
  | nil => rfl
  | cons c rest => exact List.dropWhile_cons_of_neg (by simp [h c rfl])

theorem Bare.trim_eq {p : Char → Bool} {cs : List Char} (h : Bare p cs) :
    trimRight p (trimLeft p cs) = cs := by
  have hlast : trimLeft p cs.reverse = cs.reverse :=
    trimLeft_of_head? fun c hc => h.2 c (List.head?_reverse ▸ hc)
  rw [trimLeft_of_head? h.1, trimRight, ← trimLeft, hlast, List.reverse_reverse]

theorem bare_trim (p : Char → Bool) (cs : List Char) : Bare p (trimRight p (trimLeft p cs)) := by
  constructor
  · intro c hc
    obtain ⟨dropped, hsplit⟩ := List.rdropWhile_prefix p (trimLeft p cs)
    have hhead : (trimLeft p cs).head? = some c := by
      rw [← hsplit, List.head?_append]
      exact congrArg (Option.or · _) hc
    exact head_trimLeft hhead
  · intro c hc
    rw [trimRight, List.getLast?_reverse] at hc
    exact head_trimLeft hc

end Text

/-! ## Names of tables -/

theorem toNat_lt_of_isNameQuote {c : Char} (h : isNameQuote c = true) : c.toNat < 97 := by
  simp only [isNameQuote, Bool.or_eq_true, beq_iff_eq] at h
  rcases h with ((rfl | rfl) | rfl) | rfl <;> decide

theorem isLowered_of_isNameQuote {c : Char} (h : isNameQuote c = true) : Text.IsLowered c := by
  simp only [isNameQuote, Bool.or_eq_true, beq_iff_eq] at h
  rcases h with ((rfl | rfl) | rfl) | rfl <;> exact Text.isLowered_of_lt (by decide) (by decide)

/-- Lower-casing neither brings a quote to the end of a name nor takes one away. -/
theorem bare_lowerFrom_iff {seen cs : List Char} :
    Text.Bare isNameQuote (Text.lowerFrom seen cs) ↔ Text.Bare isNameQuote cs := by
  rw [Text.bare_iff, Text.bare_iff]
  refine forall_congr' fun c => imp_congr_right fun hquote => ?_
  have hsmall := toNat_lt_of_isNameQuote hquote
  have hlowered := isLowered_of_isNameQuote hquote
  exact and_congr (not_congr (Text.head?_lowerFrom_iff hlowered hsmall))
    (not_congr (Text.getLast?_lowerFrom_iff hlowered hsmall))

/-- What is cut out of a name and stripped, before it is lowered. -/
def bareName (cs : List Char) : List Char :=
  Text.trimRight isNameQuote (Text.trimLeft isNameQuote (Text.afterLast '.' cs))

theorem dot_not_mem_bareName (cs : List Char) : '.' ∉ bareName cs := by
  intro h
  have hleft : '.' ∈ Text.trimLeft isNameQuote (Text.afterLast '.' cs) :=
    (List.rdropWhile_prefix _ _).subset h
  exact Text.not_mem_afterLast '.' _ ((List.dropWhile_suffix _).subset hleft)

theorem bare_bareName (cs : List Char) : Text.Bare isNameQuote (bareName cs) :=
  Text.bare_trim isNameQuote _

/-- Where there is nothing to cut and nothing to strip, a name is left as it is. -/
theorem bareName_eq_self {cs : List Char} (hdot : '.' ∉ cs) (hbare : Text.Bare isNameQuote cs) :
    bareName cs = cs := by
  rw [bareName, Text.afterLast_of_not_mem hdot, hbare.trim_eq]

theorem toList_normalizeTableName (name : String) :
    (normalizeTableName name).toList = Text.lowerFrom [] (bareName name.toList) := by
  rw [normalizeTableName, Text.lowerCase, String.toList_ofList, Text.trimBy, String.toList_ofList,
    String.toList_ofList, bareName]

/-- A normalized name is its own normal form. -/
theorem normalizeTableName_normalizeTableName (name : String) :
    normalizeTableName (normalizeTableName name) = normalizeTableName name := by
  have hdot : '.' ∉ (normalizeTableName name).toList := by
    rw [toList_normalizeTableName]
    exact fun h => dot_not_mem_bareName _ (Text.mem_of_mem_lowerFrom h (by decide))
  have hbare : Text.Bare isNameQuote (normalizeTableName name).toList := by
    rw [toList_normalizeTableName]
    exact bare_lowerFrom_iff.mpr (bare_bareName _)
  have hlowered : ∀ c ∈ (normalizeTableName name).toList, Text.IsLowered c := by
    rw [toList_normalizeTableName]
    exact fun c => Text.isLowered_of_mem_lowerFrom
  apply String.toList_injective
  rw [toList_normalizeTableName, bareName_eq_self hdot hbare, Text.lowerFrom_of_isLowered hlowered]

end RowPolicy

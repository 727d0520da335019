import RowPolicy.Proofs.NormalizedNames
import RowPolicy.Registry

/-!
# The key that a printed name is looked up under

A statement refers to a table by a name, a list of identifiers, and the rules of the table are looked
up under a key that is cut out of the printed name: what follows the last dot, less the quotes at its
ends, in lower case. The identifiers themselves are not consulted.

So the key is the value of the last identifier, in lower case, as long as the value can be told from
the text around it (`Ident.Legible`). An identifier that is not quoted always can. In a quoted one
there may be no dot, or the key starts behind it; no quote of any kind at the ends, or it is stripped
with the quotes of the identifier; and no quote that is written twice in print, or the key has it
twice. Single quotes are not stripped at all.

Main statements: `key_names_table_iff` says this for the key, for the rules that are found under it,
and for the names that share it. `quoted_names_misread` are two names that are looked up under a key
that is not theirs.
-/

namespace RowPolicy

/-! ## Texts between quotes -/

namespace Sql

variable {quote : Char}

theorem mem_of_mem_escapeFrom {backslash : Bool} {text : List Char} {c : Char}
    (h : c ∈ escapeFrom quote backslash text) : c ∈ text := by
  fun_induction escapeFrom quote backslash text with
  | case1 => exact h
  | case2 rest ih => exact List.mem_cons.mpr ((List.mem_cons.mp h).imp_right ih)
  | case3 => simpa using h
  | case4 backslash hb rest ih =>
    rcases List.mem_cons.mp h with rfl | h
    · exact List.mem_cons_self
    · rcases List.mem_cons.mp h with rfl | h
      · exact List.mem_cons_self
      · exact List.mem_cons_of_mem _ (List.mem_cons_of_mem _ (ih h))
  | case5 backslash hb d rest hd ih =>
    rcases List.mem_cons.mp h with rfl | h
    · exact List.mem_cons_self
    · exact List.mem_cons.mpr ((List.mem_cons.mp h).imp_right ih)
  | case6 backslash c rest hc ih => exact List.mem_cons.mpr ((List.mem_cons.mp h).imp_right ih)

theorem head?_escape (text : List Char) : (escape quote text).head? = text.head? := by
  rw [escape]
  fun_cases escapeFrom quote false text with
  | case1 => rfl
  | case2 => rfl
  | case3 => rfl
  | case4 => rfl
  | case5 => rfl
  | case6 => rfl

theorem getLast?_escapeFrom (backslash : Bool) (text : List Char) :
    (escapeFrom quote backslash text).getLast? = text.getLast? := by
  fun_induction escapeFrom quote backslash text with
  | case1 => rfl
  | case2 rest ih => rw [List.getLast?_cons, List.getLast?_cons, ih]
  | case3 => rfl
  | case4 backslash hb rest ih => simp only [List.getLast?_cons, ih]
  | case5 backslash hb d rest hd ih => simp only [List.getLast?_cons, ih, Option.getD_some]
  | case6 backslash c rest hc ih => rw [List.getLast?_cons, List.getLast?_cons, ih]

/-- A text is written as it is, or with more quotes than it has. -/
theorem escapeFrom_eq_self_or (backslash : Bool) (text : List Char) :
    escapeFrom quote backslash text = text ∨
      text.count quote < (escapeFrom quote backslash text).count quote := by
  fun_induction escapeFrom quote backslash text with
  | case1 => exact Or.inl rfl
  | case2 rest ih =>
    simp only [List.count_cons_self, Nat.add_lt_add_iff_right]
    exact ih.imp_left (congrArg _)
  | case3 => simp
  | case4 backslash hb rest ih =>
    simp only [List.count_cons_self, Nat.add_lt_add_iff_right]
    exact ih.imp_left fun h => by rw [h]
  | case5 backslash hb d rest hd ih =>
    -- the lone quote is written twice, whatever becomes of the rest
    have hle : (d :: rest).count quote ≤ (escapeFrom quote false (d :: rest)).count quote := by
      rcases ih with heq | hlt
      · rw [heq]
      · exact Nat.le_of_lt hlt
    simp only [List.count_cons_self]
    exact Or.inr (by omega)
  | case6 backslash c rest hc ih =>
    simp only [List.count_cons_of_ne hc]
    exact ih.imp_left (congrArg _)

theorem bare_escape {p : Char → Bool} {text : List Char} :
    Text.Bare p (escape quote text) ↔ Text.Bare p text := by
  rw [Text.Bare, head?_escape, escape, getLast?_escapeFrom]
  rfl

end Sql

open Sql (Ident Name)

/-! ## Printed identifiers -/

namespace Sql.Ident

/-- What identifiers in statements are like: without quotes they hold no dot and no quote, between
quotes they hold anything. -/
def Parsed (ident : Ident) : Prop :=
  match ident.quote with
  | none => ∀ c ∈ ident.value.toList, c ≠ '.' ∧ isNameQuote c = false
  | some quote => quote ∈ ['"', '`', '[', '\'']

/-- The characters between the quotes of a printed identifier. Between brackets nothing is written
twice. -/
def written (quote : Char) (text : List Char) : List Char :=
  if quote = '[' then text else escape quote text

/-- The quote that ends what the quote begins. -/
def closing (quote : Char) : Char := if quote = '[' then ']' else quote

/-- The value of a quoted identifier can be told from the printed text. -/
structure LegibleIn (quote : Char) (text : List Char) : Prop where
  stripped : isNameQuote quote = true
  undotted : '.' ∉ text
  bare : Text.Bare isNameQuote text
  plain : written quote text = text

/-- The value of the identifier can be told from the printed text. -/
def Legible (ident : Ident) : Prop :=
  match ident.quote with
  | none => True
  | some quote => LegibleIn quote ident.value.toList

theorem mem_of_mem_written {quote : Char} {text : List Char} {c : Char}
    (h : c ∈ written quote text) : c ∈ text := by
  rw [written] at h
  split at h
  · exact h
  · exact mem_of_mem_escapeFrom h

theorem bare_written {p : Char → Bool} {quote : Char} {text : List Char} :
    Text.Bare p (written quote text) ↔ Text.Bare p text := by
  rw [written]
  split
  · rfl
  · exact bare_escape

theorem written_eq_self_or (quote : Char) (text : List Char) :
    written quote text = text ∨ text.count quote < (written quote text).count quote := by
  rw [written]
  split
  · exact Or.inl rfl
  · exact escapeFrom_eq_self_or false text

theorem toList_print {ident : Ident} {quote : Char} (h : ident.quote = some quote) :
    ident.print.toList = quote :: (written quote ident.value.toList ++ [closing quote]) := by
  obtain ⟨value, _⟩ := ident
  subst h
  rw [print, written, closing]
  split
  next heq => cases heq
  next heq =>
    cases heq
    rw [if_pos rfl, if_pos rfl, String.toList_append, String.toList_append]
    rfl
  next other hne heq =>
    cases heq
    rw [if_neg hne, if_neg hne, quoted, String.toList_ofList]
    rfl

end Sql.Ident

/-! ## Cutting the printed name -/

theorem Text.afterLast_append_cons (sep : Char) (xs ys : List Char) :
    afterLast sep (xs ++ sep :: ys) = afterLast sep ys := by
  rw [afterLast, List.reverse_append, List.reverse_cons, List.append_assoc, List.takeWhile_append]
  split
  next hall =>
    rw [List.singleton_append, List.takeWhile_cons_of_neg (by simp), List.append_nil, afterLast,
      (List.takeWhile_prefix _).eq_of_length hall]
  next => rfl

/-- Of a printed name only the last identifier matters. -/
theorem bareName_print (qualifiers : Name) (last : Ident) :
    bareName (Name.print (qualifiers ++ [last])).toList = bareName last.print.toList := by
  rw [bareName, bareName]
  suffices h : Text.afterLast '.' (Name.print (qualifiers ++ [last])).toList =
      Text.afterLast '.' last.print.toList by rw [h]
  induction qualifiers with
  | nil => rfl
  | cons qualifier rest ih =>
    have hrest : (rest ++ [last]).map Ident.print ≠ [] := by simp
    rw [Name.print, List.cons_append, List.map_cons, String.intercalate_cons_of_ne_nil hrest,
      ← Name.print, String.toList_append, String.toList_append, List.append_assoc, ← ih]
    exact Text.afterLast_append_cons '.' _ _

namespace Sql.Ident

variable {ident : Ident} {quote : Char}

theorem Parsed.quotes (h : ident.Parsed) (hq : ident.quote = some quote) :
    quote = '"' ∨ quote = '`' ∨ quote = '[' ∨ quote = '\'' := by
  rw [Parsed, hq] at h
  simpa using h

theorem Parsed.isLowered (h : ident.Parsed) (hq : ident.quote = some quote) :
    quote.toNat < 97 ∧ Text.IsLowered quote := by
  rcases h.quotes hq with rfl | rfl | rfl | rfl <;>
    exact ⟨by decide, Text.isLowered_of_lt (by decide) (by decide)⟩

theorem dot_not_mem_print (h : ident.Parsed) (hq : ident.quote = some quote)
    (hdot : '.' ∉ ident.value.toList) : '.' ∉ ident.print.toList := by
  have hquotes : quote ≠ '.' ∧ closing quote ≠ '.' := by
    rcases h.quotes hq with rfl | rfl | rfl | rfl <;> decide
  rw [toList_print hq, List.mem_cons, List.mem_append, List.mem_singleton]
  rintro (heq | hmem | heq)
  · exact hquotes.1 heq.symm
  · exact hdot (mem_of_mem_written hmem)
  · exact hquotes.2 heq.symm

/-- Quotes of a kind that is stripped leave what is between them. -/
theorem bareName_print_of_stripped (h : ident.Parsed) (hq : ident.quote = some quote)
    (hstripped : isNameQuote quote = true) (hdot : '.' ∉ ident.value.toList)
    (hbare : Text.Bare isNameQuote ident.value.toList) :
    bareName ident.print.toList = written quote ident.value.toList := by
  have hclosing : isNameQuote (closing quote) = true := by
    rw [closing]
    split
    · rfl
    · exact hstripped
  rw [bareName, Text.afterLast_of_not_mem (dot_not_mem_print h hq hdot), toList_print hq,
    ← List.singleton_append, ← List.append_assoc,
    Text.trim_between (by simpa using hstripped) (by simpa using hclosing),
    (bare_written.mpr hbare).trim_eq]

theorem bareName_print_of_legible (h : ident.Parsed) (hlegible : ident.Legible) :
    bareName ident.print.toList = ident.value.toList := by
  cases hq : ident.quote with
  | none =>
    rw [Parsed, hq] at h
    have hprint : ident.print = ident.value := by rw [print, hq]
    rw [hprint]
    exact bareName_eq_self (fun hmem => (h _ hmem).1 rfl) (.of_forall fun c hc => (h c hc).2)
  | some quote =>
    rw [Legible, hq] at hlegible
    rw [bareName_print_of_stripped h hq hlegible.stripped hlegible.undotted hlegible.bare,
      hlegible.plain]

/-- A quote that is not stripped stands around the key, which then has more quotes than the value. -/
theorem isNameQuote_of_count_eq (h : ident.Parsed) (hq : ident.quote = some quote)
    (hdot : '.' ∉ ident.value.toList)
    (hcount : (bareName ident.print.toList).count quote = ident.value.toList.count quote) :
    isNameQuote quote = true := by
  by_contra hno
  have hclosing : closing quote = quote := by
    rw [closing, if_neg]
    rintro rfl
    exact hno rfl
  have hends : Text.Bare isNameQuote ident.print.toList := by
    rw [toList_print hq, hclosing]
    constructor
    · rintro c ⟨⟩
      exact eq_false_of_ne_true hno
    · intro c hc
      rw [← List.cons_append, List.getLast?_concat, Option.some_inj] at hc
      rw [← hc]
      exact eq_false_of_ne_true hno
  rw [bareName_eq_self (dot_not_mem_print h hq hdot) hends, toList_print hq, hclosing,
    List.count_cons_self, List.count_append, List.count_singleton_self] at hcount
  rcases written_eq_self_or quote ident.value.toList with heq | hmore
  · rw [heq] at hcount
    omega
  · omega

/-- Where lower case does not tell the key from the value, the value can be told from the printed
text: a key has no dot, no quote at its ends, and as many quotes inside as are written. -/
theorem legible_of_lowerFrom_eq (h : ident.Parsed)
    (hkey : Text.lowerFrom [] (bareName ident.print.toList) =
      Text.lowerFrom [] ident.value.toList) : ident.Legible := by
  rw [Legible]
  cases hq : ident.quote with
  | none => trivial
  | some quote =>
    have hcount {c : Char} (hc : c.toNat < 97) (hlowered : Text.IsLowered c) :
        (bareName ident.print.toList).count c = ident.value.toList.count c := by
      rw [← Text.count_lowerFrom hlowered hc [], hkey, Text.count_lowerFrom hlowered hc []]
    have hundotted : '.' ∉ ident.value.toList := by
      rw [← List.count_eq_zero, ← hcount (by decide) (Text.isLowered_of_lt (by decide) (by decide)),
        List.count_eq_zero]
      exact dot_not_mem_bareName _
    have hbare : Text.Bare isNameQuote ident.value.toList := by
      have hlower : Text.Bare isNameQuote (Text.lowerFrom [] (bareName ident.print.toList)) :=
        bare_lowerFrom_iff.mpr (bare_bareName _)
      rw [hkey] at hlower
      exact bare_lowerFrom_iff.mp hlower
    have hquotes := hcount (h.isLowered hq).1 (h.isLowered hq).2
    have hstripped := isNameQuote_of_count_eq h hq hundotted hquotes
    refine ⟨hstripped, hundotted, hbare, ?_⟩
    rw [bareName_print_of_stripped h hq hstripped hundotted hbare] at hquotes
    exact (written_eq_self_or quote _).resolve_right fun hmore => by omega

end Sql.Ident

/-! ## Keys -/

theorem normalizeTableName_print_eq_iff (qualifiers : Name) {last : Ident} (h : last.Parsed) :
    normalizeTableName (Name.print (qualifiers ++ [last])) = Text.lowerCase last.value ↔
      last.Legible := by
  rw [← String.toList_inj, toList_normalizeTableName, bareName_print, Text.lowerCase,
    String.toList_ofList]
  constructor
  · exact last.legible_of_lowerFrom_eq h
  · intro hlegible
    rw [last.bareName_print_of_legible h hlegible]

/-- An identifier in brackets whose value is the key of a name. -/
theorem exists_legible_with_key (name : String) : ∃ other : Ident, other.Parsed ∧ other.Legible ∧
    Text.lowerCase other.value = normalizeTableName name := by
  refine ⟨{ value := String.ofList (bareName name.toList), quote := some '[' }, ?_, ?_, ?_⟩
  · show '[' ∈ _
    decide
  · show Ident.LegibleIn '[' _
    rw [String.toList_ofList]
    exact ⟨rfl, dot_not_mem_bareName _, bare_bareName _, if_pos rfl⟩
  · rw [← String.toList_inj, toList_normalizeTableName, Text.lowerCase, String.toList_ofList,
      String.toList_ofList]

/-- Exactly if the value of its last identifier can be told from print, a name is looked up under this
value, finds the rules that are registered for it, and shares its key, among the names whose values
can be told, only with those of the same value. -/
theorem key_names_table_iff (qualifiers : Name) {last : Ident} (h : last.Parsed) :
    (normalizeTableName (Name.print (qualifiers ++ [last])) = Text.lowerCase last.value ↔
      last.Legible) ∧
    ((∀ (registry : Registry) (position : Nat) (rule : Rule),
        (position, rule) ∈ registry.rulesFor (Name.print (qualifiers ++ [last])) ↔
          registry.rules[position]? = some rule ∧
            ∃ table ∈ rule.tables, normalizeTableName table = Text.lowerCase last.value) ↔
      last.Legible) ∧
    ((∀ (others : Name) (other : Ident), other.Parsed → other.Legible →
        (normalizeTableName (Name.print (others ++ [other])) =
            normalizeTableName (Name.print (qualifiers ++ [last])) ↔
          Text.lowerCase other.value = Text.lowerCase last.value)) ↔
      last.Legible) := by
  have hkey := normalizeTableName_print_eq_iff qualifiers h
  refine ⟨hkey, ⟨fun hrules => hkey.mp ?_, fun hlegible registry position rule => ?_⟩,
    ⟨fun hshared => hkey.mp ?_, fun hlegible others other hother hlegible' => ?_⟩⟩
  · -- a rule that is registered for the name as it is printed is found
    have hfound := (hrules { rules := [Rule.constant "printed" [Name.print (qualifiers ++ [last])]
      (.ok none)] } 0 _).mp (Registry.mem_rulesFor_iff.mpr ⟨rfl, _, List.mem_singleton_self _, rfl⟩)
    obtain ⟨-, table, htable, hname⟩ := hfound
    rwa [List.mem_singleton.mp htable] at hname
  · rw [Registry.mem_rulesFor_iff, hkey.mpr hlegible]
  · obtain ⟨other, hother, hlegible', hvalue⟩ :=
      exists_legible_with_key (Name.print (qualifiers ++ [last]))
    have hprinted := (normalizeTableName_print_eq_iff [] hother).mpr hlegible'
    rw [← hvalue]
    exact (hshared [] other hother hlegible').mp (hprinted.trans hvalue)
  · rw [hkey.mpr hlegible, (normalizeTableName_print_eq_iff others hother).mpr hlegible']

theorem key_names_table_iff_quotedUser :
    Ident.Parsed { value := "T_User", quote := some '"' } ∧
      Ident.Legible { value := "T_User", quote := some '"' } ∧
      normalizeTableName
        (Name.print [{ value := "sales" }, { value := "T_User", quote := some '"' }]) = "t_user" := by
  have hparsed : Ident.Parsed { value := "T_User", quote := some '"' } := by
    show '"' ∈ _
    decide
  have hlegible : Ident.Legible { value := "T_User", quote := some '"' } := by
    refine ⟨rfl, by decide +kernel, ⟨?_, ?_⟩, by decide +kernel⟩
    · rintro c ⟨⟩
      rfl
    · rintro c ⟨⟩
      rfl
  refine ⟨hparsed, hlegible, ?_⟩
  exact ((key_names_table_iff [{ value := "sales" }] hparsed).1.mpr hlegible).trans
    (by decide +kernel)

/-- A table whose own name has a dot is looked up as the table that is named behind the dot, and one
whose name has a quote is not found under the name that it was registered with. -/
theorem quoted_names_misread :
    Ident.Parsed { value := "archive.t_user", quote := some '"' } ∧
      Ident.Parsed { value := "t_user" } ∧
      normalizeTableName (Name.print [{ value := "archive.t_user", quote := some '"' }]) ≠
        Text.lowerCase "archive.t_user" ∧
      normalizeTableName (Name.print [{ value := "archive.t_user", quote := some '"' }]) =
        normalizeTableName (Name.print [{ value := "t_user" }]) ∧
      Text.lowerCase "archive.t_user" ≠ Text.lowerCase "t_user" ∧
      normalizeTableName "a\"b" = Text.lowerCase "a\"b" ∧
      Registry.governs { rules := [Rule.constant "quoted" ["a\"b"] (.ok none)] }
        (Name.print [{ value := "a\"b", quote := some '"' }]) = false := by
  refine ⟨?_, ?_, by decide +kernel, by decide +kernel, by decide +kernel, by decide +kernel,
    by decide +kernel⟩
  · show '"' ∈ _
    decide
  · simp [Ident.Parsed, isNameQuote]

end RowPolicy

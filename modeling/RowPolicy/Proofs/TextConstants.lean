import Mathlib.Data.List.Chain
import RowPolicy.Predicate
import RowPolicy.Proofs.UuidSpellings
import RowPolicy.Sql.Lexer
import RowPolicy.Sql.Print
import RowPolicy.Tenant

/-!
# Texts as constants

A text goes into a statement between quotes, and the lexer of the database takes it out again. What
stands between the quotes is written by `escape`, which leaves a quote behind a backslash alone and
takes two adjacent quotes for one that is doubled already; reading knows nothing of this. So a text
in which a quote follows a backslash or another quote comes back changed, or ends its constant and
goes on as SQL. Where backslashes escape, a backslash comes back only in front of a wildcard.

Main statements:

* `Sql.takeQuoted_escape_iff`: which texts are read back from between the quotes;
* `text_tokens_iff`: which texts are a single token when they are written as a constant, and what a
  comparison with such a text consists of;
* `TenantKind.holds_of_parse_uuid`: tenant ids that are UUIDs are among them.
-/

namespace RowPolicy

open Sql

namespace Sql

/-- A wildcard of pattern matching, which keeps the backslash in front of it. -/
def IsWildcard (c : Char) : Prop := c = '%' ∨ c = '_'

/-- A quote means itself behind a backslash. -/
structure IsQuote (quote : Char) : Prop where
  ne_backslash : quote ≠ '\\'
  not_wildcard : ¬IsWildcard quote

variable {quote : Char}

theorem IsWildcard.ne_quote {c : Char} (h : IsWildcard c) (hq : IsQuote quote) : c ≠ quote :=
  fun heq => hq.not_wildcard (heq ▸ h)

theorem IsWildcard.ne_backslash {c : Char} (h : IsWildcard c) : c ≠ '\\' := by
  rcases h with rfl | rfl <;> decide

theorem IsWildcard.escapeMeaning_eq {c : Char} (h : IsWildcard c) :
    escapeMeaning c = ['\\', c] := by
  rcases h with rfl | rfl <;> rfl

/-- Only a backslash stands for a backslash alone. -/
theorem escapedChar_ne_backslash {c : Char} (h : c ≠ '\\') : escapedChar c ≠ '\\' := by
  unfold escapedChar
  split
  all_goals first | exact h | decide

/-- A backslash in front of anything but a wildcard is lost. -/
theorem count_escapeMeaning_lt {c : Char} (h : ¬IsWildcard c) :
    (escapeMeaning c).count '\\' < ['\\', c].count '\\' := by
  rw [escapeMeaning, if_neg (by simpa [IsWildcard] using h), List.count_cons_self]
  by_cases hc : c = '\\'
  · subst hc
    decide
  · rw [List.count_cons_of_ne (escapedChar_ne_backslash hc)]
    simp

theorem count_escapeMeaning_le (c : Char) :
    (escapeMeaning c).count '\\' ≤ ['\\', c].count '\\' := by
  by_cases h : IsWildcard c
  · rw [h.escapeMeaning_eq]
  · exact Nat.le_of_lt (count_escapeMeaning_lt h)

/-! ## Writing -/

/-- A text with each quote written twice. -/
def doubled (quote : Char) (text : List Char) : List Char :=
  text.flatMap fun c => if c = quote then [c, c] else [c]

@[simp] theorem doubled_cons_self (rest : List Char) :
    doubled quote (quote :: rest) = quote :: quote :: doubled quote rest := by
  simp [doubled]

theorem doubled_cons_of_ne {c : Char} (h : c ≠ quote) (rest : List Char) :
    doubled quote (c :: rest) = c :: doubled quote rest := by
  simp [doubled, h]

/-- No quote stands behind a backslash or another quote. -/
def QuotesApart (quote : Char) (text : List Char) : Prop :=
  text.IsChain fun c d => d = quote → c ≠ '\\' ∧ c ≠ quote

theorem length_escapeFrom_le (quote : Char) (backslash : Bool) (text : List Char) :
    (escapeFrom quote backslash text).length ≤ (doubled quote text).length := by
  fun_induction escapeFrom quote backslash text with
  | case1 => exact Nat.le_refl _
  | case2 rest ih =>
    simp only [doubled_cons_self, List.length_cons]
    omega
  | case3 => exact Nat.le_of_eq (by rw [doubled_cons_self]; rfl)
  | case4 backslash hb rest ih =>
    simp only [doubled_cons_self, List.length_cons]
    omega
  | case5 backslash hb d rest hd ih =>
    rw [doubled_cons_self]
    simp only [List.length_cons]
    omega
  | case6 backslash c rest hc ih =>
    rw [doubled_cons_of_ne hc]
    simp only [List.length_cons]
    omega

/-- Writing doubles all quotes exactly if it takes none of them for one that is doubled or escaped
already: where it does, what it writes is too short. -/
theorem escapeFrom_eq_doubled_iff {backslash : Bool} {text : List Char} :
    escapeFrom quote backslash text = doubled quote text ↔
      (backslash = true → text.head? ≠ some quote) ∧ QuotesApart quote text := by
  fun_induction escapeFrom quote backslash text with
  | case1 => exact ⟨fun _ => ⟨fun _ => nofun, .nil⟩, fun _ => rfl⟩
  | case2 rest ih =>
    refine ⟨fun h => ?_, fun h => absurd rfl (h.1 rfl)⟩
    have hlen := congrArg List.length h
    have := length_escapeFrom_le quote true rest
    simp only [doubled_cons_self, List.length_cons] at hlen
    omega
  | case3 backslash hb =>
    exact ⟨fun _ => ⟨fun hb' => absurd hb' hb, .singleton _⟩, fun _ => (doubled_cons_self []).symm⟩
  | case4 backslash hb rest ih =>
    refine ⟨fun h => ?_, fun h => absurd rfl ((List.isChain_cons_cons.mp h.2).1 rfl).2⟩
    have hlen := congrArg List.length h
    have := length_escapeFrom_le quote false rest
    simp only [doubled_cons_self, List.length_cons] at hlen
    omega
  | case5 backslash hb d rest hd ih =>
    rw [doubled_cons_self, List.cons_inj_right, List.cons_inj_right, ih]
    constructor
    · rintro ⟨-, hrest⟩
      exact ⟨fun hb' => absurd hb' hb, .cons_cons (fun hq => absurd hq hd) hrest⟩
    · rintro ⟨-, hchain⟩
      exact ⟨nofun, (List.isChain_cons_cons.mp hchain).2⟩
  | case6 backslash c rest hc ih =>
    rw [doubled_cons_of_ne hc, List.cons_inj_right, ih, QuotesApart, QuotesApart,
      List.isChain_cons]
    constructor
    · rintro ⟨hhead, hrest⟩
      refine ⟨fun _ heq => hc (Option.some.inj heq), ?_, hrest⟩
      rintro d hd rfl
      exact ⟨fun hback => hhead (beq_iff_eq.mpr hback) hd, hc⟩
    · rintro ⟨-, hnext, hrest⟩
      exact ⟨fun hback hq => (hnext quote hq rfl).1 (beq_iff_eq.mp hback), hrest⟩

theorem escape_eq_doubled_iff {text : List Char} :
    escape quote text = doubled quote text ↔ QuotesApart quote text := by
  rw [escape, escapeFrom_eq_doubled_iff]
  exact ⟨fun h => h.2, fun h => ⟨nofun, h⟩⟩

theorem count_backslash_escapeFrom (hq : IsQuote quote) (backslash : Bool) (text : List Char) :
    (escapeFrom quote backslash text).count '\\' = text.count '\\' := by
  have hcons := fun cs : List Char => List.count_cons_of_ne (l := cs) hq.ne_backslash
  fun_induction escapeFrom quote backslash text with
  | case1 => rfl
  | case2 rest ih => rw [hcons, hcons, ih]
  | case3 => rw [hcons]
  | case4 backslash hb rest ih => simp only [hcons, ih]
  | case5 backslash hb d rest hd ih => simp only [hcons, ih]
  | case6 backslash c rest hc ih => rw [List.count_cons, List.count_cons, ih]

/-! ## Reading -/

/-- What a reader that goes on behind a first piece has read. -/
theorem exists_of_map_eq_some {read : Option (List Char × List Char)}
    {f : List Char → List Char} {text after : List Char}
    (h : (read.map fun (text, after) => (f text, after)) = some (text, after)) :
    ∃ behind, read = some (behind, after) ∧ f behind = text := by
  obtain ⟨⟨behind, after'⟩, hread, heq⟩ := Option.map_eq_some_iff.mp h
  obtain ⟨hbehind, rfl⟩ := Prod.mk.inj heq
  exact ⟨behind, hread, hbehind⟩

theorem takeQuoted_quote {bs : Bool} {after : List Char} (h : after.head? ≠ some quote) :
    takeQuoted quote bs (quote :: after) = some ([], after) := by
  cases after with
  | nil => simp [takeQuoted]
  | cons d rest =>
    have hd : d ≠ quote := fun heq => h (congrArg some heq)
    simp [takeQuoted, hd]

theorem takeQuoted_two_quotes (bs : Bool) (rest : List Char) :
    takeQuoted quote bs (quote :: quote :: rest) =
      (takeQuoted quote bs rest).map fun (text, after) => (quote :: text, after) := by
  rw [takeQuoted, if_pos rfl]
  simp

theorem takeQuoted_cons {bs : Bool} {c : Char} (rest : List Char) (hc : c ≠ quote)
    (hb : c = '\\' → bs = false) :
    takeQuoted quote bs (c :: rest) =
      (takeQuoted quote bs rest).map fun (text, after) => (c :: text, after) := by
  rw [takeQuoted.eq_def quote bs (c :: rest)]
  dsimp only
  rw [if_neg hc, if_neg (by simpa using hb)]

theorem takeQuoted_backslash (hq : IsQuote quote) (d : Char) (rest : List Char) :
    takeQuoted quote true ('\\' :: d :: rest) =
      (takeQuoted quote true rest).map fun (text, after) => (escapeMeaning d ++ text, after) := by
  rw [takeQuoted.eq_def quote true ('\\' :: d :: rest)]
  dsimp only
  rw [if_neg hq.ne_backslash.symm]
  rfl

/-- Each backslash stands in front of a wildcard. -/
def WildcardsEscaped (text : List Char) : Prop :=
  text.IsChain (fun c d => c = '\\' → IsWildcard d) ∧ text.getLast? ≠ some '\\'

namespace WildcardsEscaped

theorem nil : WildcardsEscaped [] := ⟨.nil, nofun⟩

theorem tail {c : Char} {rest : List Char} (h : WildcardsEscaped (c :: rest)) :
    WildcardsEscaped rest := by
  refine ⟨(List.isChain_cons.mp h.1).2, fun hlast => h.2 ?_⟩
  rw [List.getLast?_cons, hlast]
  rfl

theorem head {rest : List Char} (h : WildcardsEscaped ('\\' :: rest)) :
    ∃ d rest', rest = d :: rest' ∧ IsWildcard d := by
  cases rest with
  | nil => exact absurd rfl h.2
  | cons d rest' => exact ⟨d, rest', rfl, (List.isChain_cons_cons.mp h.1).1 rfl⟩

theorem cons {c : Char} {rest : List Char} (h : WildcardsEscaped rest)
    (hc : c = '\\' → ∃ d rest', rest = d :: rest' ∧ IsWildcard d) :
    WildcardsEscaped (c :: rest) := by
  refine ⟨List.isChain_cons.mpr ⟨fun d hd hback => ?_, h.1⟩, fun hlast => ?_⟩
  · obtain ⟨d', rest', rfl, hwild⟩ := hc hback
    obtain rfl : d' = d := Option.some.inj hd
    exact hwild
  · rw [List.getLast?_cons] at hlast
    cases hrest : rest.getLast? with
    | none =>
      rw [hrest] at hlast
      obtain ⟨d, rest', rfl, -⟩ := hc (Option.some.inj hlast)
      rw [List.getLast?_cons] at hrest
      cases hrest
    | some last =>
      rw [hrest] at hlast
      exact h.2 (hrest.trans hlast)

theorem cons_of_ne {c : Char} {rest : List Char} (h : WildcardsEscaped rest) (hc : c ≠ '\\') :
    WildcardsEscaped (c :: rest) :=
  h.cons fun hback => absurd hback hc

end WildcardsEscaped

theorem takeQuoted_doubled (hq : IsQuote quote) {bs : Bool} {text after : List Char}
    (hw : bs = true → WildcardsEscaped text) (hafter : after.head? ≠ some quote) :
    takeQuoted quote bs (doubled quote text ++ quote :: after) = some (text, after) := by
  induction text with
  | nil => exact takeQuoted_quote hafter
  | cons c rest ih =>
    have hrest := ih fun hbs => (hw hbs).tail
    by_cases hc : c = quote
    · subst hc
      rw [doubled_cons_self, List.cons_append, List.cons_append, takeQuoted_two_quotes, hrest]
      rfl
    · rw [doubled_cons_of_ne hc, List.cons_append]
      by_cases hb : c = '\\' → bs = false
      · rw [takeQuoted_cons _ hc hb, hrest]
        rfl
      · -- A backslash that escapes: the wildcard behind it is read together with it.
        obtain ⟨rfl, hbs⟩ := Classical.not_imp.mp hb
        obtain rfl : bs = true := by simpa using hbs
        obtain ⟨d, rest, rfl, hd⟩ := (hw rfl).head
        rw [doubled_cons_of_ne (hd.ne_quote hq), List.cons_append] at hrest ⊢
        rw [takeQuoted_cons _ (hd.ne_quote hq) fun h => absurd h hd.ne_backslash] at hrest
        obtain ⟨text, htake, htext⟩ := exists_of_map_eq_some hrest
        obtain rfl := (List.cons.inj htext).2
        rw [takeQuoted_backslash hq, htake, Option.map_some, hd.escapeMeaning_eq]
        rfl

/-- What is read as a text stands in front of a closing quote. No backslash is gained by reading,
and if none is lost the text was written with all quotes doubled and no backslash meant anything. -/
theorem exists_of_takeQuoted (hq : IsQuote quote) {bs : Bool} {input text after : List Char}
    (h : takeQuoted quote bs input = some (text, after)) :
    ∃ body, input = body ++ quote :: after ∧ text.count '\\' ≤ body.count '\\' ∧
      (body.count '\\' ≤ text.count '\\' →
        body = doubled quote text ∧ (bs = true → WildcardsEscaped text)) := by
  fun_induction takeQuoted quote bs input generalizing text after with
  | case1 => cases h
  | case2 =>
    obtain ⟨rfl, rfl⟩ := Prod.mk.inj (Option.some.inj h)
    exact ⟨[], rfl, Nat.le_refl _, fun _ => ⟨rfl, fun _ => .nil⟩⟩
  | case3 rest ih =>
    obtain ⟨text, htake, rfl⟩ := exists_of_map_eq_some h
    obtain ⟨body, rfl, hle, hkept⟩ := ih htake
    have hcons := fun cs : List Char => List.count_cons_of_ne (l := cs) hq.ne_backslash
    refine ⟨quote :: quote :: body, rfl, ?_, fun hge => ?_⟩
    · rwa [hcons, hcons, hcons]
    · rw [hcons, hcons, hcons] at hge
      obtain ⟨rfl, hw⟩ := hkept hge
      exact ⟨(doubled_cons_self text).symm, fun hbs => (hw hbs).cons_of_ne hq.ne_backslash⟩
  | case4 d rest hd =>
    obtain ⟨rfl, rfl⟩ := Prod.mk.inj (Option.some.inj h)
    exact ⟨[], rfl, Nat.le_refl _, fun _ => ⟨rfl, fun _ => .nil⟩⟩
  | case5 => cases h
  | case6 c hc hb d rest ih =>
    obtain ⟨hb, hbs⟩ := Bool.and_eq_true_iff.mp hb
    obtain rfl := of_decide_eq_true hb
    obtain ⟨text, htake, rfl⟩ := exists_of_map_eq_some h
    obtain ⟨body, rfl, hle, hkept⟩ := ih htake
    have hbody : (['\\', d] ++ body).count '\\' = ['\\', d].count '\\' + body.count '\\' :=
      List.count_append
    have htext : (escapeMeaning d ++ text).count '\\' =
        (escapeMeaning d).count '\\' + text.count '\\' := List.count_append
    refine ⟨['\\', d] ++ body, rfl, ?_, fun hge => ?_⟩
    · have := count_escapeMeaning_le d
      omega
    · by_cases hd : IsWildcard d
      · rw [hd.escapeMeaning_eq] at htext hge ⊢
        obtain ⟨rfl, hw⟩ := hkept (by omega)
        have hdouble : doubled quote ('\\' :: d :: text) = '\\' :: d :: doubled quote text := by
          rw [doubled_cons_of_ne hc, doubled_cons_of_ne (hd.ne_quote hq)]
        refine ⟨hdouble.symm, fun hbs => ?_⟩
        exact ((hw hbs).cons_of_ne hd.ne_backslash).cons fun _ => ⟨d, text, rfl, hd⟩
      · have := count_escapeMeaning_lt hd
        omega
  | case7 c rest hc hb ih =>
    obtain ⟨text, htake, rfl⟩ := exists_of_map_eq_some h
    obtain ⟨body, rfl, hle, hkept⟩ := ih htake
    have hcount : ∀ cs : List Char, (c :: cs).count '\\' = cs.count '\\' + [c].count '\\' := by
      intro cs
      rw [List.count_cons, List.count_singleton]
    refine ⟨c :: body, rfl, by rw [hcount text, hcount body]; omega, fun hge => ?_⟩
    rw [hcount text, hcount body] at hge
    obtain ⟨rfl, hw⟩ := hkept (by omega)
    refine ⟨(doubled_cons_of_ne hc text).symm, fun hbs => (hw hbs).cons_of_ne fun hback => ?_⟩
    exact absurd (by simp [hback, hbs]) hb

/-- A text that has been written is read back, with no less left over than stood behind it, exactly
if its quotes are apart and no backslash in it means anything. -/
theorem takeQuoted_escape_iff (hq : IsQuote quote) {bs : Bool} {text after rest : List Char}
    (hafter : after.head? ≠ some quote) (hrest : after.length ≤ rest.length) :
    takeQuoted quote bs (escape quote text ++ quote :: after) = some (text, rest) ↔
      rest = after ∧ QuotesApart quote text ∧ (bs = true → WildcardsEscaped text) := by
  constructor
  · intro h
    obtain ⟨body, hinput, -, hkept⟩ := exists_of_takeQuoted hq h
    have hlen := congrArg List.length hinput
    simp only [List.length_append, List.length_cons] at hlen
    have hstart : body <+: escape quote text :=
      List.prefix_of_prefix_length_le ⟨_, hinput.symm⟩ (List.prefix_append _ _) (by omega)
    have hcount : body.count '\\' ≤ text.count '\\' :=
      (hstart.sublist.count_le _).trans (count_backslash_escapeFrom hq false text).le
    -- Writing keeps all backslashes, so reading has lost none: what was read is doubled.
    obtain ⟨rfl, hw⟩ := hkept hcount
    have := length_escapeFrom_le quote false text
    have hbody : escape quote text = doubled quote text :=
      (hstart.eq_of_length_le this).symm
    rw [hbody, List.append_cancel_left_eq, List.cons_inj_right] at hinput
    exact ⟨hinput.symm, escape_eq_doubled_iff.mp hbody, hw⟩
  · rintro ⟨rfl, hapart, hw⟩
    rw [escape_eq_doubled_iff.mpr hapart]
    exact takeQuoted_doubled hq hw hafter

/-! ## Constants -/

theorem isQuote_apostrophe : IsQuote '\'' := ⟨by decide, by simp [IsWildcard]⟩

/-- A text that a constant of the dialect can hold: no quote stands behind a backslash or another
quote, and where backslashes escape each stands in front of a wildcard. -/
structure Dialect.Holds (dialect : Dialect) (text : List Char) : Prop where
  quotesApart : QuotesApart '\'' text
  wildcardsEscaped : dialect.backslashEscapes = true → WildcardsEscaped text

instance (c : Char) : Decidable (IsWildcard c) := inferInstanceAs (Decidable (c = '%' ∨ c = '_'))

instance (text : List Char) : Decidable (QuotesApart quote text) :=
  inferInstanceAs (Decidable (text.IsChain fun c d => d = quote → c ≠ '\\' ∧ c ≠ quote))

instance (text : List Char) : Decidable (WildcardsEscaped text) :=
  inferInstanceAs (Decidable (text.IsChain (fun c d => c = '\\' → IsWildcard d) ∧ _))

instance (dialect : Dialect) (text : List Char) : Decidable (dialect.Holds text) :=
  decidable_of_iff
    (QuotesApart '\'' text ∧ (dialect.backslashEscapes = true → WildcardsEscaped text))
    ⟨fun h => ⟨h.1, h.2⟩, fun h => ⟨h.1, h.2⟩⟩

/-- A character that means nothing between quotes. -/
def IsPlain (c : Char) : Prop := c ≠ '\'' ∧ c ≠ '\\'

theorem Dialect.holds_of_isPlain (dialect : Dialect) {text : List Char}
    (h : ∀ c ∈ text, IsPlain c) : dialect.Holds text := by
  constructor
  · refine List.Pairwise.isChain (List.pairwise_iff_forall_sublist.mpr fun {c d} hsub hd => ?_)
    exact absurd hd (h d (hsub.subset (by simp))).1
  · intro _
    constructor
    · refine List.Pairwise.isChain (List.pairwise_iff_forall_sublist.mpr fun {c d} hsub hc => ?_)
      exact absurd hc (h c (hsub.subset (by simp))).2
    · exact fun hlast => (h _ (List.mem_of_getLast? hlast)).2 rfl

theorem scan_quoted {dialect : Dialect} (before : Before) {text after : List Char}
    (h : dialect.Holds text) (hafter : after.head? ≠ some '\'') :
    scan dialect before ('\'' :: (escape '\'' text ++ '\'' :: after)) =
      some (some (.text '\'' (String.ofList text)), after) := by
  rw [scan, scanText, (takeQuoted_escape_iff isQuote_apostrophe hafter (Nat.le_refl _)).mpr
    ⟨rfl, h.quotesApart, h.wildcardsEscaped⟩]
  rfl

theorem tokensFrom_token {dialect : Dialect} (fuel : Nat) {before : Before} {c : Char}
    {cs rest : List Char} {token : Token}
    (h : scan dialect before (c :: cs) = some (some token, rest)) :
    tokensFrom dialect (fuel + 1) before (c :: cs) =
      (tokensFrom dialect fuel (.after token) rest).map (token :: ·) := by
  rw [tokensFrom, h]
  exact List.cons_ne_nil c cs

theorem tokensFrom_skip {dialect : Dialect} (fuel : Nat) {before : Before} {c : Char}
    {cs rest : List Char} (h : scan dialect before (c :: cs) = some (none, rest)) :
    tokensFrom dialect (fuel + 1) before (c :: cs) = tokensFrom dialect fuel .other rest := by
  rw [tokensFrom, h]
  · exact Option.map_id_apply
  · exact List.cons_ne_nil c cs

theorem scan_space (dialect : Dialect) (before : Before) (rest : List Char) :
    scan dialect before (' ' :: rest) = some (none, rest) := rfl

theorem scan_equals (dialect : Dialect) (before : Before) (rest : List Char) :
    scan dialect before ('=' :: ' ' :: rest) = some (some (.symbol "="), ' ' :: rest) := by
  cases dialect <;> rfl

theorem toList_quoted (s : String) :
    (quoted quote s).toList = quote :: (escape quote s.toList ++ [quote]) :=
  String.toList_ofList

/-- A text is a single token as a constant exactly if a constant can hold it. -/
theorem tokens_quoted_iff {dialect : Dialect} {s : String} :
    tokens dialect (quoted '\'' s) = some [.text '\'' s] ↔ dialect.Holds s.toList := by
  have hlen : (quoted '\'' s).length = (escape '\'' s.toList).length + 1 + 1 := by
    rw [← String.length_toList, toList_quoted, List.length_cons, List.length_append]
    rfl
  rw [tokens, hlen, toList_quoted]
  constructor
  · intro h
    cases htake : takeQuoted '\'' dialect.backslashEscapes (escape '\'' s.toList ++ ['\'']) with
    | none => simp [tokensFrom, scan, scanText, htake] at h
    | some read =>
      obtain ⟨text, rest⟩ := read
      have hscan : scan dialect .other ('\'' :: (escape '\'' s.toList ++ ['\''])) =
          some (some (.text '\'' (String.ofList text)), rest) := by
        rw [scan, scanText, htake]
        rfl
      rw [tokensFrom_token _ hscan, Option.map_eq_some_iff] at h
      obtain ⟨tokens, -, heq⟩ := h
      obtain rfl : String.ofList text = s := by simpa using (List.cons.inj heq).1
      rw [String.toList_ofList] at htake ⊢
      obtain ⟨-, hapart, hw⟩ :=
        (takeQuoted_escape_iff isQuote_apostrophe (by simp) (Nat.zero_le _)).mp htake
      exact ⟨hapart, hw⟩
  · intro h
    rw [tokensFrom_token _ (scan_quoted .other h (by simp)), String.ofList_toList, tokensFrom]
    rfl

/-- The tokens of a comparison with a text, behind what is compared. -/
theorem tokensFrom_equals_quoted {dialect : Dialect} {s : String} (h : dialect.Holds s.toList)
    (fuel : Nat) (before : Before) {after : List Char} (hafter : after.head? ≠ some '\'') :
    tokensFrom dialect (fuel + 4) before ((" = " ++ quoted '\'' s).toList ++ after) =
      (tokensFrom dialect fuel .other after).map ([.symbol "=", .text '\'' s] ++ ·) := by
  have hlist : (" = " ++ quoted '\'' s).toList ++ after =
      ' ' :: '=' :: ' ' :: '\'' :: (escape '\'' s.toList ++ '\'' :: after) := by
    rw [String.toList_append, toList_quoted]
    simp
  rw [hlist, tokensFrom_skip _ (scan_space ..), tokensFrom_token _ (scan_equals ..),
    tokensFrom_skip _ (scan_space ..), tokensFrom_token _ (scan_quoted .other h hafter),
    String.ofList_toList, Option.map_map]
  rfl

end Sql

theorem Value.print_text (s : String) : (Value.text s).toExpr.print = quoted '\'' s := by
  rw [Value.toExpr, Expr.print]
  rfl

theorem Predicate.print_equals (column : Column) (value : Value) :
    (Predicate.equals column value).toExpr.print =
      column.toExpr.print ++ (" = " ++ value.toExpr.print) := by
  have hequals : " " ++ (Operator.compare .eq).print ++ " " = " = " := by decide
  rw [Predicate.toExpr, Expr.print, ← hequals]
  simp only [String.append_assoc]

/-- A text written as a constant is, for the lexer, a single token that stands for the text exactly
if a constant of the dialect can hold it. Then a comparison of a column with it has two tokens
behind the column, and what follows the comparison is read as if it stood alone. -/
theorem text_tokens_iff (dialect : Dialect) (s : String) :
    (tokens dialect (Value.text s).toExpr.print = some [.text '\'' s] ↔ dialect.Holds s.toList) ∧
      (dialect.Holds s.toList → ∀ column : Column,
        (Predicate.equals column (.text s)).toExpr.print =
            column.toExpr.print ++ (" = " ++ (Value.text s).toExpr.print) ∧
          ∀ before after fuel, after.head? ≠ some '\'' →
            tokensFrom dialect (fuel + 4) before
                ((" = " ++ (Value.text s).toExpr.print).toList ++ after) =
              (tokensFrom dialect fuel .other after).map
                ([.symbol "=", .text '\'' s] ++ ·)) := by
  refine ⟨?_, fun h column => ⟨Predicate.print_equals column _, ?_⟩⟩
  · rw [Value.print_text]
    exact tokens_quoted_iff
  · intro before after fuel hafter
    rw [Value.print_text]
    exact tokensFrom_equals_quoted h fuel before hafter

theorem text_tokens_iff_apostrophe :
    tokens .mysql (Value.text "it's").toExpr.print = some [.text '\'' "it's"] ∧
      tokensFrom .mysql 4 .word ((" = " ++ (Value.text "it's").toExpr.print).toList ++ []) =
        some [.symbol "=", .text '\'' "it's"] := by
  have hholds : Dialect.mysql.Holds "it's".toList := by decide
  obtain ⟨hone, hbehind⟩ := text_tokens_iff .mysql "it's"
  refine ⟨hone.mpr hholds, ?_⟩
  exact ((hbehind hholds { name := { value := "tenant_id" } }).2 .word [] 0 nofun).trans rfl

/-- A tenant id that closes its constant and goes on with a condition that all rows meet, and one
that leaves its constant open where backslashes escape. -/
theorem tenant_escapes_constant :
    (TenantKind.string.parse "\\' OR 1 = 1 --").toOption = some "\\' OR 1 = 1 --" ∧
      tokens .postgres (Predicate.equals { name := { value := "tenant_id" } }
          (.text "\\' OR 1 = 1 --")).toExpr.print =
        some [.ofWord "tenant_id", .symbol "=", .text '\'' "\\", .ofWord "OR", .number "1",
          .symbol "=", .number "1"] ∧
      tokens .postgres (Value.text "\\' OR 1 = 1 --").toExpr.print ≠
        some [.text '\'' "\\' OR 1 = 1 --"] ∧
      (TenantKind.string.parse "\\").toOption = some "\\" ∧
      tokens .mysql (Value.text "\\").toExpr.print = none := by
  decide +kernel

/-! ## Tenants -/

namespace Text

theorem Uuid.isPlain_hyphenate (ns : List Nat) {ds : List Char} (h : ∀ c ∈ ds, IsPlain c) :
    ∀ c ∈ hyphenate ns ds, IsPlain c := by
  fun_induction hyphenate ns ds with
  | case1 => exact h
  | case2 => exact h
  | case3 n ns ds _ ih =>
    refine List.forall_mem_append.mpr ⟨fun c hc => h c (List.mem_of_mem_take hc), ?_⟩
    exact List.forall_mem_cons.mpr ⟨by simp [IsPlain], ih fun c hc => h c (List.mem_of_mem_drop hc)⟩

theorem Uuid.isPlain_of_read {s : String} {ds : List Char} (h : Uuid.read s = some ds) :
    ∀ c ∈ ds, IsPlain c :=
  (isHex_of_read h).forall_mem (by unfold IsPlain; decide)

end Text

/-- A constant can hold every tenant id of the UUID kind. -/
theorem TenantKind.holds_of_parse_uuid (dialect : Dialect) {raw : String} {tenant : TenantId}
    (h : TenantKind.uuid.parse raw = .ok tenant) : dialect.Holds tenant.toList := by
  refine dialect.holds_of_isPlain ?_
  cases TenantKind.parse_ok_iff.mp h with
  | uuid _ _ digits hread =>
    rw [Text.Uuid.hyphenated, String.toList_ofList]
    exact Text.Uuid.isPlain_hyphenate _ (Text.Uuid.isPlain_of_read hread)

end RowPolicy

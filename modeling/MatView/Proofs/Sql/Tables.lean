import MatView.Proofs.Sql.Reading
import MatView.Sql.Relation

/-!
# Reading a table

A relation that is a table is read by its name, and what follows the name does not depend on it: its
arguments, its alias and what is joined to it are the same for every name. Other relations start
with a parenthesis, a word of their own, or a word with a parenthesis behind it. A name of several
parts starts none of these unless its first part is such a word.

## Main definitions

* `StartsName`: tokens that can start a table.

## Main statements

* `table_of_table`: a table is read the same under another name.
* `exists_name_of_table`: what starts as a table does has the name of one.
-/

namespace MatView.Sql

open Reader

variable {inner : Inner} {tokens mid rest : List Token} {f g : Factor} {name other : List Ident}
  {args : String}

/-- A relation that is no table stays none when its rows and columns are turned. -/
theorem turnedUpTo_of_derived {n : Nat} {text : String} (hg : g.relation = .derived text)
    (h : turnedUpTo inner n g tokens = .ok (f, rest)) : ∃ text, f.relation = .derived text := by
  induction n generalizing g text tokens with
  | zero =>
    obtain ⟨rfl, rfl⟩ := pure_eq_ok.1 h
    exact ⟨text, hg⟩
  | succ n ih =>
    obtain ⟨word?, mid, -, h⟩ := bind_eq_ok.1 h
    cases word? with
    | none =>
      obtain ⟨rfl, rfl⟩ := pure_eq_ok.1 h
      exact ⟨text, hg⟩
    | some word =>
      dsimp only at h
      split at h <;>
      · obtain ⟨turn, mid, -, h⟩ := bind_eq_ok.1 h
        obtain ⟨alias?, mid, -, h⟩ := bind_eq_ok.1 h
        exact ih rfl h

/-- Only what is not turned stays a table, whatever its name is. -/
theorem turned_of_table (hf : f.relation = .table name args)
    (h : turned inner g tokens = .ok (f, rest)) :
    f = g ∧ ∀ g', turned inner g' tokens = .ok (g', rest) := by
  have hturned : ∀ g : Factor, turned inner g tokens = turnedUpTo inner tokens.length g tokens :=
    fun _ => rfl
  simp only [hturned] at h ⊢
  generalize tokens.length = n at h ⊢
  cases n with
  | zero =>
    obtain ⟨rfl, rfl⟩ := pure_eq_ok.1 h
    exact ⟨rfl, fun _ => rfl⟩
  | succ n =>
    obtain ⟨word?, mid, hword, h⟩ := bind_eq_ok.1 h
    cases word? with
    | none =>
      obtain ⟨rfl, rfl⟩ := pure_eq_ok.1 h
      exact ⟨rfl, fun g' => bind_eq_ok.2 ⟨none, mid, hword, rfl⟩⟩
    | some word =>
      dsimp only at h
      split at h <;>
      · obtain ⟨turn, mid, -, h⟩ := bind_eq_ok.1 h
        obtain ⟨alias?, mid, -, h⟩ := bind_eq_ok.1 h
        obtain ⟨text, htext⟩ := turnedUpTo_of_derived rfl h
        rw [hf] at htext
        cases htext

/-- What follows the name of a table is read the same for every name. -/
theorem tableBehind_of_table {found : List Ident} (hf : f.relation = .table found args)
    (h : tableBehind inner name tokens = .ok (f, rest)) : found = name ∧
      ∀ other, tableBehind inner other tokens =
        .ok ({ f with relation := .table other args }, rest) := by
  obtain ⟨parts?, m₁, hparts, h⟩ := bind_eq_ok.1 h
  obtain ⟨arguments, m₂, harguments, h⟩ := bind_eq_ok.1 h
  obtain ⟨numbered, m₃, hnumbered, h⟩ := bind_eq_ok.1 h
  obtain ⟨alias?, m₄, halias, h⟩ := bind_eq_ok.1 h
  obtain ⟨hints, m₅, hhints, h⟩ := bind_eq_ok.1 h
  obtain ⟨g, m₆, hturned, h⟩ := bind_eq_ok.1 h
  obtain ⟨matched, m₇, hmatched, h⟩ := bind_eq_ok.1 h
  cases matched with
  | true =>
    obtain ⟨text, m₈, -, h⟩ := bind_eq_ok.1 h
    obtain ⟨alias?, m₉, -, h⟩ := bind_eq_ok.1 h
    obtain ⟨rfl, -⟩ := pure_eq_ok.1 h
    cases hf
  | false =>
    obtain ⟨rfl, rfl⟩ := pure_eq_ok.1 h
    obtain ⟨rfl, hother⟩ := turned_of_table hf hturned
    cases hf
    refine ⟨rfl, fun other => ?_⟩
    exact bind_eq_ok.2 ⟨_, _, hparts, bind_eq_ok.2 ⟨_, _, harguments, bind_eq_ok.2 ⟨_, _, hnumbered,
      bind_eq_ok.2 ⟨_, _, halias, bind_eq_ok.2 ⟨_, _, hhints, bind_eq_ok.2 ⟨_, _, hother _,
        bind_eq_ok.2 ⟨_, _, hmatched, rfl⟩⟩⟩⟩⟩⟩⟩

/-- What is read as a text with an alias is no table. -/
theorem derived_relation {r : Reader String} {g : String → String}
    (h : (do let text ← r; return ⟨.derived (g text), ← tableAlias?, ""⟩ : Reader Factor) tokens =
      .ok (f, rest)) : ∃ text, f.relation = .derived text := by
  obtain ⟨text, m₁, -, h⟩ := bind_eq_ok.1 h
  obtain ⟨alias?, m₂, -, h⟩ := bind_eq_ok.1 h
  obtain ⟨rfl, -⟩ := pure_eq_ok.1 h
  exact ⟨_, rfl⟩

theorem lateralTable_relation (h : lateralTable inner tokens = .ok (f, rest)) :
    ∃ text, f.relation = .derived text := by
  obtain ⟨enclosed, m₁, -, h⟩ := bind_eq_ok.1 h
  cases enclosed with
  | true => exact derived_relation h
  | false =>
    obtain ⟨name, m₂, -, h⟩ := bind_eq_ok.1 h
    obtain ⟨arguments, m₃, -, h⟩ := bind_eq_ok.1 h
    obtain ⟨alias?, m₄, -, h⟩ := bind_eq_ok.1 h
    obtain ⟨rfl, -⟩ := pure_eq_ok.1 h
    exact ⟨_, rfl⟩

theorem unnested_relation (h : unnested inner tokens = .ok (f, rest)) :
    ∃ text, f.relation = .derived text := by
  obtain ⟨arrays, m₁, -, h⟩ := bind_eq_ok.1 h
  obtain ⟨numbered, m₂, -, h⟩ := bind_eq_ok.1 h
  obtain ⟨alias?, m₃, -, h⟩ := bind_eq_ok.1 h
  obtain ⟨marked, m₄, -, h⟩ := bind_eq_ok.1 h
  cases marked with
  | false =>
    obtain ⟨offset, m₅, -, h⟩ := bind_eq_ok.1 h
    obtain ⟨rfl, -⟩ := pure_eq_ok.1 h
    exact ⟨_, rfl⟩
  | true =>
    obtain ⟨counted, m₅, -, h⟩ := bind_eq_ok.1 h
    cases counted with
    | false =>
      obtain ⟨offset, m₆, -, h⟩ := bind_eq_ok.1 h
      obtain ⟨rfl, -⟩ := pure_eq_ok.1 h
      exact ⟨_, rfl⟩
    | true =>
      obtain ⟨name?, m₆, -, h⟩ := bind_eq_ok.1 h
      obtain ⟨offset, m₇, -, h⟩ := bind_eq_ok.1 h
      obtain ⟨rfl, -⟩ := pure_eq_ok.1 h
      exact ⟨_, rfl⟩

/-- The words that start a relation which is no table. -/
def relationWords : List String := ["LATERAL", "TABLE", "UNNEST"]

/-- The words that start a relation which is no table if a parenthesis stands behind them. -/
def callWords : List String := ["VALUES", "JSON_TABLE"]

/-- Tokens that start with no parenthesis and with none of the words of a relation that is no
table. -/
structure StartsName (tokens : List Token) : Prop where
  not_open : tokens.head? ≠ some (.symbol "(")
  not_word : ∀ word, tokens.head?.bind Token.keyword? = some word → word ∉ relationWords
  not_call : tokens[1]? = some (.symbol "(") →
    ∀ word, tokens.head?.bind Token.keyword? = some word → word ∉ callWords

/-- A name of several parts starts a table if its first part does. -/
theorem StartsName.of_point (h : StartsName tokens) (hhead : rest.head? = tokens.head?)
    (hpoint : rest[1]? = some (.symbol ".")) : StartsName rest where
  not_open := hhead ▸ h.not_open
  not_word := hhead ▸ h.not_word
  not_call hopen := by
    rw [hpoint] at hopen
    exact absurd hopen (by decide)

/-- A relation that is a table starts with its name. -/
theorem simpleFactor_of_table (hf : f.relation = .table name args)
    (h : simpleFactor inner tokens = .ok (f, rest)) (hopen : tokens.head? ≠ some (.symbol "(")) :
    StartsName tokens ∧ namedTable inner tokens = .ok (f, rest) := by
  have hderived : ¬ ∃ text, f.relation = .derived text := by
    rintro ⟨text, htext⟩
    rw [hf] at htext
    cases htext
  suffices hstarts : (∀ word, tokens.head?.bind Token.keyword? = some word → word ∉ relationWords) ∧
      (tokens[1]? = some (.symbol "(") →
        ∀ word, tokens.head?.bind Token.keyword? = some word → word ∉ callWords) ∧
      namedTable inner tokens = .ok (f, rest) from ⟨⟨hopen, hstarts.1, hstarts.2.1⟩, hstarts.2.2⟩
  unfold simpleFactor at h
  rw [bind_of_ok (peek_run tokens), bind_of_ok (peekSecond_run tokens)] at h
  generalize tokens.head?.bind Token.keyword? = word? at h ⊢
  generalize tokens[1]? = second? at h ⊢
  split at h
  · obtain ⟨_, m₁, -, h⟩ := bind_eq_ok.1 h
    exact absurd (lateralTable_relation h) hderived
  · obtain ⟨_, m₁, -, h⟩ := bind_eq_ok.1 h
    exact absurd (derived_relation h) hderived
  · obtain ⟨_, m₁, -, h⟩ := bind_eq_ok.1 h
    exact absurd (derived_relation h) hderived
  · obtain ⟨_, m₁, -, h⟩ := bind_eq_ok.1 h
    exact absurd (unnested_relation h) hderived
  · obtain ⟨_, m₁, -, h⟩ := bind_eq_ok.1 h
    exact absurd (derived_relation h) hderived
  · rename_i hlateral htable hunnest hvalues hdocument
    refine ⟨?_, ?_, h⟩
    · rintro word rfl hword
      simp only [relationWords, List.mem_cons, List.not_mem_nil, or_false] at hword
      obtain rfl | rfl | rfl := hword
      · exact hlateral rfl
      · exact htable rfl
      · exact hunnest rfl
    · rintro rfl word rfl hword
      simp only [callWords, List.mem_cons, List.not_mem_nil, or_false] at hword
      obtain rfl | rfl := hword
      · exact hvalues rfl rfl
      · exact hdocument rfl rfl

/-- What starts with no parenthesis is a simple relation. -/
theorem factor_eq (h : tokens.head? ≠ some (.symbol "(")) (hne : tokens ≠ []) :
    factor inner tokens = simpleFactor inner tokens := by
  obtain ⟨t, others, rfl⟩ := List.exists_cons_of_ne_nil hne
  have hopen : ((t :: others).head? == some (Token.symbol "(")) = false := by simpa using h
  change factorUpTo inner (others.length + 1) (t :: others) = _
  rw [factorUpTo, bind_of_ok (atSymbol_run "(" _), hopen]
  rfl

/-- A relation that is a table starts with its name. -/
theorem factor_of_table (hf : f.relation = .table name args)
    (h : factor inner tokens = .ok (f, rest)) (hopen : tokens.head? ≠ some (.symbol "(")) :
    StartsName tokens ∧ namedTable inner tokens = .ok (f, rest) := by
  have hne : tokens ≠ [] := by
    rintro rfl
    cases h
  have hfactor : factor inner tokens = simpleFactor inner tokens := factor_eq hopen hne
  rw [hfactor] at h
  exact simpleFactor_of_table hf h hopen

/-- What starts with the name of a table is a table. -/
theorem factor_eq_namedTable (h : StartsName tokens) :
    factor inner tokens = namedTable inner tokens := by
  by_cases hne : tokens = []
  · subst hne
    rfl
  rw [factor_eq h.not_open hne]
  unfold simpleFactor
  rw [bind_of_ok (peek_run tokens), bind_of_ok (peekSecond_run tokens)]
  have hword := h.not_word
  have hcall := h.not_call
  generalize tokens.head?.bind Token.keyword? = word? at hword hcall ⊢
  generalize tokens[1]? = second? at hcall ⊢
  split
  · exact absurd (by decide) (hword _ rfl)
  · exact absurd (by decide) (hword _ rfl)
  · exact absurd (by decide) (hcall rfl _ rfl)
  · exact absurd (by decide) (hword _ rfl)
  · exact absurd (by decide) (hcall rfl _ rfl)
  · rfl

/-- What starts as a table does has the name of one. -/
theorem exists_name_of_table {t : Table} (h : table inner tokens = .ok (t, rest))
    (hstarts : StartsName tokens) : ∃ name mid, NameRead tokens name mid := by
  obtain ⟨f, m₁, hfactor, -⟩ := bind_eq_ok.1 h
  rw [factor_eq_namedTable hstarts] at hfactor
  obtain ⟨name, mid, hname, -⟩ := bind_eq_ok.1 hfactor
  exact ⟨name, mid, objectName_eq_ok.1 hname⟩

/-- A table is read the same under another name. -/
theorem table_of_table {t : Table} (ht : t.factor.relation = .table name args)
    (h : table inner tokens = .ok (t, rest)) (hopen : tokens.head? ≠ some (.symbol "(")) :
    StartsName tokens ∧ ∃ mid, NameRead tokens name mid ∧ ∀ tokens' name',
      NameRead tokens' name' mid → StartsName tokens' → table inner tokens' =
        .ok (⟨{ t.factor with relation := .table name' args }, t.joins⟩, rest) := by
  obtain ⟨f, m₁, hfactor, h⟩ := bind_eq_ok.1 h
  obtain ⟨count, m₂, hcount, h⟩ := bind_eq_ok.1 h
  obtain ⟨joins, m₃, hjoins, h⟩ := bind_eq_ok.1 h
  obtain ⟨rfl, rfl⟩ := pure_eq_ok.1 h
  obtain ⟨hstarts, hnamed⟩ := factor_of_table ht hfactor hopen
  obtain ⟨found, mid, hname, hbehind⟩ := bind_eq_ok.1 hnamed
  obtain ⟨rfl, hother⟩ := tableBehind_of_table ht hbehind
  refine ⟨hstarts, mid, objectName_eq_ok.1 hname, fun tokens' name' hread hstarts' => ?_⟩
  have hfactor' : factor inner tokens' = .ok ({ f with relation := .table name' args }, m₁) := by
    rw [factor_eq_namedTable hstarts']
    exact bind_eq_ok.2 ⟨name', mid, objectName_eq_ok.2 hread, hother name'⟩
  exact bind_eq_ok.2 ⟨_, _, hfactor', bind_eq_ok.2 ⟨_, _, hcount, bind_eq_ok.2 ⟨_, _, hjoins, rfl⟩⟩⟩

end MatView.Sql

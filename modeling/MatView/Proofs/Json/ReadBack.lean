import Mathlib.Data.List.Forall2
import MatView.Json.Print
import MatView.Proofs.Json.Normal

/-!
# Reading printed values back

The text of a value without floating-point numbers holds one document, and the document stands for
the normal form of the value, unless this is nested too deep.

## Main definitions

* `Json.Closes`: what may stand behind a printed value.
* `Json.ReadsAs`: texts that are read as a value, whatever closes them.

## Main statements

* `Json.readsAs_print`: a printed value is read as its normal form.
* `Json.readDocument?_print`: the same for a whole document.
* `Json.readDocument?_printRow`: a printed row is read as the list of the normal forms.
-/

namespace MatView.Json

/-! ## Integers -/

section

variable {ds rest : List Char} {n : Nat} {i : Int}

/-- A text that ends an array or goes on with its next item. -/
def Closes (rest : List Char) : Prop :=
  ∀ c, rest.head? = some c → c = ',' ∨ c = ']'

theorem closes_nil : Closes [] := by
  rintro c ⟨⟩

theorem closes_comma (rest : List Char) : Closes (',' :: rest) := by
  rintro c ⟨⟩
  exact .inl rfl

theorem closes_bracket (rest : List Char) : Closes (']' :: rest) := by
  rintro c ⟨⟩
  exact .inr rfl

theorem takeDigits_append (hds : ∀ c ∈ ds, c.isDigit = true) (h : Closes rest) :
    takeDigits (ds ++ rest) = (ds, rest) := by
  have hrest : rest.takeWhile Char.isDigit = [] ∧ rest.dropWhile Char.isDigit = rest := by
    cases rest with
    | nil => exact ⟨rfl, rfl⟩
    | cons c cs => obtain rfl | rfl := h c rfl <;> exact ⟨rfl, rfl⟩
  rw [takeDigits, List.takeWhile_append_of_pos hds, List.dropWhile_append_of_pos hds, hrest.1,
    hrest.2, List.append_nil]

/-- Only zero is written with a leading zero. -/
theorem head?_toDigits_ne (h : n ≠ 0) : (Nat.toDigits 10 n).head? ≠ some '0' := by
  induction n using Nat.strongRecOn with
  | ind n ih =>
    rw [Nat.toDigits_eq_if (by omega)]
    split
    · rename_i hlt
      have hdigit : ∀ n < 10, n ≠ 0 → Nat.digitChar n ≠ '0' := by decide
      simpa using hdigit n hlt h
    · rename_i hlt
      have hhead := ih (n / 10) (by omega) (by omega)
      cases hdigits : Nat.toDigits 10 (n / 10) with
      | nil => exact absurd hdigits Nat.toDigits_ne_nil
      | cons d ds =>
        rw [hdigits] at hhead
        exact hhead

theorem readWhole_toDigits (n : Nat) (h : Closes rest) :
    readWhole (Nat.toDigits 10 n ++ rest) = some (Nat.toDigits 10 n, rest) := by
  have hdigits : ∀ c ∈ Nat.toDigits 10 n, c.isDigit = true := fun c hc =>
    Nat.isDigit_of_mem_toDigits (by omega) (by omega) hc
  rw [readWhole, takeDigits_append hdigits h]
  by_cases hn : n = 0
  · subst hn
    rfl
  · have hhead := head?_toDigits_ne hn
    cases hds : Nat.toDigits 10 n with
    | nil => exact absurd hds Nat.toDigits_ne_nil
    | cons d ds =>
      rw [hds] at hhead
      have hd : d ≠ '0' := fun hd => hhead (by rw [hd]; rfl)
      simp [hd]

theorem readMagnitude_toDigits (negative : Bool) (n : Nat) (h : Closes rest) :
    readMagnitude negative (Nat.toDigits 10 n ++ rest) =
      some (⟨negative, Nat.toDigits 10 n, [], none⟩, rest) := by
  have hrest : readFraction rest = some ([], rest) ∧ readExponent rest = some (none, rest) := by
    cases rest with
    | nil => exact ⟨rfl, rfl⟩
    | cons c cs => obtain rfl | rfl := h c rfl <;> exact ⟨rfl, rfl⟩
  simp only [readMagnitude, readWhole_toDigits n h, Option.bind_eq_bind, Option.bind_some, hrest.1,
    hrest.2]
  rfl

/-- The numeral that an integer is written as. -/
def numeralOf (i : Int) : Numeral :=
  ⟨decide (i < 0), Nat.toDigits 10 i.natAbs, [], none⟩

theorem readNumeral_printInt (i : Int) (h : Closes rest) :
    readNumeral (printInt i ++ rest) = some (numeralOf i, rest) := by
  unfold printInt numeralOf
  split
  · rename_i hneg
    rw [decide_eq_true hneg]
    exact readMagnitude_toDigits true _ h
  · rename_i hneg
    rw [decide_eq_false hneg]
    cases hds : Nat.toDigits 10 i.natAbs with
    | nil => exact absurd hds Nat.toDigits_ne_nil
    | cons d ds =>
      have hd : d.isDigit = true :=
        Nat.isDigit_of_mem_toDigits (b := 10) (n := i.natAbs) (by omega) (by omega) (by simp [hds])
      have hminus : d ≠ '-' := by
        rintro rfl
        exact absurd hd (by decide)
      rw [← hds, ← readMagnitude_toDigits false _ h, hds]
      simp [readNumeral, hminus]

theorem toInt?_numeralOf (i : Int) : (numeralOf i).toInt? = some i := by
  have hvalue : digitsValue (Nat.toDigits 10 i.natAbs) = i.natAbs :=
    Nat.ofDigitChars_toDigits (by omega) (by omega)
  have hsign : (decide (i < 0) && i.natAbs == 0) = false := by
    by_cases hneg : i < 0
    · rw [decide_eq_true hneg, Bool.true_and, beq_eq_false_iff_ne]
      omega
    · rw [decide_eq_false hneg, Bool.false_and]
  simp only [Numeral.toInt?, numeralOf, hvalue, hsign, List.isEmpty_nil, Option.isNone_none,
    Bool.and_self, Bool.not_false, if_true, Option.some.injEq]
  by_cases hneg : i < 0
  · rw [decide_eq_true hneg, if_pos rfl]
    omega
  · rw [decide_eq_false hneg, if_neg Bool.false_ne_true]
    omega

/-- An integer of 64 bits is read back from its text. -/
theorem toValue?_numeralOf (n : Int64) : (numeralOf n.toInt).toValue? = some (.bigint n) := by
  have hrange : Int64.minValue.toInt ≤ n.toInt ∧ n.toInt ≤ Int64.maxValue.toInt :=
    ⟨Int64.minValue_le_toInt n, Int64.toInt_le n⟩
  simp only [Numeral.toValue?, Numeral.toInt64?, toInt?_numeralOf, Option.bind_some, if_pos hrange,
    Int64.ofInt_toInt]

end

/-! ## String literals -/

section

variable {c : Char} {cs rest tail : List Char} {ps : List Piece}

/-- The control characters that are escaped by a letter. -/
def letterEscaped : List Char :=
  [Char.ofNat 8, Char.ofNat 12, '\n', '\r', '\t']

/-- What a character of a printed string literal is read as. Control characters without a letter are
written by their number. -/
def pieceOf (c : Char) : Piece :=
  if c.toNat < 0x20 ∧ c ∉ letterEscaped then .unit c.toNat else .char c

theorem unit?_digits : ∀ n < 0x20,
    unit? '0' '0' (Nat.digitChar (n / 16)) (Nat.digitChar (n % 16)) = some n := by
  decide

theorem readString_plain (hquote : c ≠ '"') (hescape : c ≠ '\\') (hcontrol : ¬ c.toNat < 0x20) :
    readString (c :: rest) = (readString rest).map fun (ps, rest) => (.char c :: ps, rest) := by
  rw [readString]
  · rw [if_neg (by simp [hescape, hcontrol])]
    cases readString rest <;> rfl
  all_goals simp_all

theorem readString_escapeChar (c : Char) (rest : List Char) :
    readString (escapeChar c ++ rest) =
      (readString rest).map fun (ps, rest) => (pieceOf c :: ps, rest) := by
  by_cases hletter : c ∈ '"' :: '\\' :: letterEscaped
  · simp only [letterEscaped, List.mem_cons, List.not_mem_nil, or_false] at hletter
    obtain rfl | rfl | rfl | rfl | rfl | rfl | rfl := hletter <;>
      simp [escapeChar, readString, simpleEscape?, pieceOf, letterEscaped] <;>
      cases readString rest <;> rfl
  · have hnot := hletter
    simp only [letterEscaped, List.mem_cons, List.not_mem_nil, or_false, not_or] at hnot
    by_cases hcontrol : c.toNat < 0x20
    · simp only [escapeChar, beq_iff_eq, hnot, if_false, hcontrol, if_true, escapeUnit,
        List.cons_append, List.nil_append, readString, unit?_digits _ hcontrol]
      rw [pieceOf, if_pos ⟨hcontrol, fun h => hletter (by simp [h])⟩]
      cases readString rest <;> rfl
    · have hspecial : ¬ (c.toNat < 0x20 ∧ c ∉ letterEscaped) := fun h => hcontrol h.1
      simp only [escapeChar, beq_iff_eq, hnot, if_false, hcontrol, List.cons_append,
        List.nil_append]
      rw [pieceOf, if_neg hspecial, readString_plain hnot.1 hnot.2.1 hcontrol]

/-- A printed string literal is read through its closing quote. -/
theorem readString_flatMap (cs rest : List Char) :
    readString (cs.flatMap escapeChar ++ '"' :: rest) = some (cs.map pieceOf, rest) := by
  induction cs with
  | nil => rfl
  | cons c cs ih =>
    rw [List.flatMap_cons, List.append_assoc, readString_escapeChar, ih]
    rfl

theorem text?_unit {u : Nat} (h : u < 0xD800) (ps : List Piece) :
    text? (.unit u :: ps) = (text? ps).map (Char.ofNat u :: ·) := by
  have hhigh : isHighSurrogate u = false := by
    simp [isHighSurrogate]
    omega
  have hlow : isLowSurrogate u = false := by
    simp [isLowSurrogate]
    omega
  rw [text?.eq_def]
  simp [hhigh, hlow]

/-- The pieces of a printed string literal stand for the text that was printed. -/
theorem text?_map_pieceOf (cs : List Char) : text? (cs.map pieceOf) = some cs := by
  induction cs with
  | nil => rfl
  | cons c cs ih =>
    rw [List.map_cons, pieceOf]
    split
    · rename_i hcontrol
      rw [text?_unit (by omega), ih]
      simp
    · simp [text?, ih]

end

/-! ## Arrays -/

section

variable {cs : List Char} {t : Tree} {v : Value} {texts : List (List Char)} {ts : List Tree}
  {vs : List Value} {depth : Nat}

/-- A document that stands for a value wherever the value is not nested too deep. -/
def Tree.StandsFor (t : Tree) (v : Value) : Prop :=
  ∀ depth, t.toValue? depth = if v.nesting ≤ depth then some v else none

theorem toValues?_of_standsFor (h : List.Forall₂ Tree.StandsFor ts vs) :
    toValues? depth ts = if Value.nestingItems vs ≤ depth then some vs else none := by
  induction h with
  | nil => rfl
  | @cons t v ts vs ht _ ih =>
    rw [toValues?, ht, ih, Value.nestingItems]
    by_cases hv : v.nesting ≤ depth <;> by_cases hvs : Value.nestingItems vs ≤ depth <;>
      simp only [Nat.max_le, hv, hvs, and_self, and_true, and_false, if_true, if_false]

theorem Tree.StandsFor.array (h : List.Forall₂ Tree.StandsFor ts vs) :
    (Tree.array ts).StandsFor (.list vs) := by
  intro depth
  cases depth with
  | zero => simp [Tree.toValue?, Value.nesting]
  | succ depth =>
    rw [Tree.toValue?, toValues?_of_standsFor h, Value.nesting]
    by_cases hvs : Value.nestingItems vs ≤ depth <;> simp [hvs]

/-- A text that begins with an item: neither with a space nor with the end of an array. -/
def BeginsItem (cs : List Char) : Prop :=
  ∃ c rest, cs = c :: rest ∧ isSpace c = false ∧ c ≠ ']'

/-- A text that is read as the given value, whatever closes it. The reader needs no more fuel than
two steps for each character. -/
def ReadsAs (cs : List Char) (v : Value) : Prop :=
  BeginsItem cs ∧ ∃ t : Tree, t.StandsFor v ∧ ∀ fuel rest, 2 * cs.length ≤ fuel → Closes rest →
    readValue fuel (cs ++ rest) = some (t, rest)

theorem skipSpace_of_not {c : Char} (h : isSpace c = false) (rest : List Char) :
    skipSpace (c :: rest) = c :: rest := by
  rw [skipSpace, List.dropWhile_cons_of_neg (by simp [h])]

theorem BeginsItem.append (h : BeginsItem cs) (rest : List Char) : BeginsItem (cs ++ rest) := by
  obtain ⟨c, tail, rfl, hc⟩ := h
  exact ⟨c, tail ++ rest, rfl, hc⟩

theorem readValue_bracket (h : BeginsItem cs) (fuel : Nat) : readValue (fuel + 1) ('[' :: cs) =
    (readItems fuel cs).map fun (ts, rest) => (.array ts, rest) := by
  obtain ⟨c, rest, rfl, hspace, hbracket⟩ := h
  have hskip : skipSpace ('[' :: c :: rest) = '[' :: c :: rest := skipSpace_of_not (by decide) _
  simp only [readValue, hskip, skipSpace_of_not hspace]
  split
  · simp_all
  · rfl

/-- The texts of some items, with commas between them, are read as these items. -/
theorem readItems_commaSeparated (h : List.Forall₂ ReadsAs texts vs) (hsome : texts ≠ []) :
    BeginsItem (commaSeparated texts) ∧ ∃ ts, List.Forall₂ Tree.StandsFor ts vs ∧
      ∀ fuel rest, 2 * (commaSeparated texts).length + 1 ≤ fuel →
        readItems fuel (commaSeparated texts ++ ']' :: rest) = some (ts, rest) := by
  induction h with
  | nil => exact absurd rfl hsome
  | @cons cs v texts vs hfirst hrest ih =>
    obtain ⟨hbegins, t, hv, ht⟩ := hfirst
    cases texts with
    | nil =>
      cases hrest
      refine ⟨hbegins, [t], .cons hv .nil, fun fuel rest hfuel => ?_⟩
      rw [commaSeparated] at hfuel ⊢
      obtain ⟨fuel, rfl⟩ : ∃ m, fuel = m + 1 := ⟨fuel - 1, by omega⟩
      rw [readItems, ht fuel _ (by omega) (closes_bracket rest)]
      rfl
    | cons next texts =>
      obtain ⟨-, ts, hvs, hts⟩ := ih (by simp)
      have hcommas : commaSeparated (cs :: next :: texts) =
          cs ++ ',' :: commaSeparated (next :: texts) := rfl
      rw [hcommas]
      refine ⟨hbegins.append _, t :: ts, .cons hv hvs, fun fuel rest hfuel => ?_⟩
      rw [List.length_append, List.length_cons] at hfuel
      obtain ⟨fuel, rfl⟩ : ∃ m, fuel = m + 1 := ⟨fuel - 1, by omega⟩
      rw [List.append_assoc, List.cons_append, readItems, ht fuel _ (by omega) (closes_comma _)]
      show (readItems fuel _).map _ = _
      rw [hts fuel rest (by omega)]
      rfl

/-- A printed array is read as the list of its items. -/
theorem readsAs_printArray (h : List.Forall₂ ReadsAs texts vs) :
    ReadsAs (printArray texts) (.list vs) := by
  refine ⟨⟨'[', _, rfl, by decide, by decide⟩, ?_⟩
  cases texts with
  | nil =>
    cases h
    refine ⟨.array [], .array .nil, fun fuel rest hfuel _ => ?_⟩
    obtain ⟨fuel, rfl⟩ : ∃ m, fuel = m + 1 := ⟨fuel - 1, by simp [printArray] at hfuel; omega⟩
    rfl
  | cons first texts =>
    obtain ⟨hbegins, ts, hvs, hts⟩ := readItems_commaSeparated h (by simp)
    refine ⟨.array ts, .array hvs, fun fuel rest hfuel _ => ?_⟩
    simp only [printArray, List.length_append, List.length_cons, List.length_nil] at hfuel
    obtain ⟨fuel, rfl⟩ : ∃ m, fuel = m + 1 := ⟨fuel - 1, by omega⟩
    have htext : printArray (first :: texts) ++ rest =
        '[' :: (commaSeparated (first :: texts) ++ ']' :: rest) := by
      simp [printArray]
    rw [htext, readValue_bracket (hbegins.append _), hts fuel rest (by omega)]
    rfl

end

/-! ## Values -/

section

variable {rest : List Char} {n : Int64}

theorem isSpace_of_numeral {c : Char} (hc : c = '-' ∨ c.isDigit = true) :
    isSpace c = false ∧ c ≠ ']' := by
  simp only [isSpace, Bool.or_eq_false_iff, beq_eq_false_iff_ne]
  refine ⟨⟨⟨⟨?_, ?_⟩, ?_⟩, ?_⟩, ?_⟩ <;> rintro rfl <;> simp at hc

theorem readValue_numeral {c : Char} (hc : c = '-' ∨ c.isDigit = true) (fuel : Nat)
    (cs : List Char) : readValue (fuel + 1) (c :: cs) =
      (readNumeral (c :: cs)).map fun (n, rest) => (.number n, rest) := by
  rw [readValue, skipSpace_of_not (isSpace_of_numeral hc).1]
  -- no other value begins with a sign or a digit
  split <;> first | rfl | (rename_i heq; cases heq; simp at hc)

theorem exists_printInt (i : Int) :
    ∃ c cs, printInt i = c :: cs ∧ (c = '-' ∨ c.isDigit = true) := by
  unfold printInt
  split
  · exact ⟨'-', _, rfl, .inl rfl⟩
  · cases hds : Nat.toDigits 10 i.natAbs with
    | nil => exact absurd hds Nat.toDigits_ne_nil
    | cons d ds =>
      refine ⟨d, ds, rfl, .inr ?_⟩
      exact Nat.isDigit_of_mem_toDigits (b := 10) (n := i.natAbs) (by omega) (by omega)
        (by simp [hds])

/-- A printed integer of 64 bits is read as the integer. -/
theorem readsAs_printInt (n : Int64) : ReadsAs (printInt n.toInt) (.bigint n) := by
  obtain ⟨c, cs, htext, hc⟩ := exists_printInt n.toInt
  refine ⟨⟨c, cs, htext, isSpace_of_numeral hc⟩, .number (numeralOf n.toInt), fun depth => ?_,
    fun fuel rest hfuel hrest => ?_⟩
  · simp [Tree.toValue?, toValue?_numeralOf, Value.nesting]
  · rw [htext, List.length_cons] at hfuel
    obtain ⟨fuel, rfl⟩ : ∃ m, fuel = m + 1 := ⟨fuel - 1, by omega⟩
    have hread := readNumeral_printInt n.toInt hrest
    rw [htext, List.cons_append] at hread ⊢
    rw [readValue_numeral hc, hread]
    rfl

theorem readsAs_byte (b : UInt8) :
    ReadsAs (Nat.toDigits 10 b.toNat) (.bigint (.ofInt b.toNat)) := by
  have hb : b.toNat < 256 := b.toNat_lt
  have hvalue : (Int64.ofInt b.toNat).toInt = b.toNat := by
    rw [Int64.toInt_ofInt_of_le (by omega) (by omega)]
  have h := readsAs_printInt (.ofInt b.toNat)
  rwa [hvalue, printInt, if_neg (by omega), Int.natAbs_natCast] at h

/-- A text that is read without looking further is read as the value of its document. -/
theorem readsAs_of_readValue {cs : List Char} {t : Tree} {v : Value} (hbegins : BeginsItem cs)
    (ht : t.StandsFor v) (h : ∀ fuel rest, readValue (fuel + 1) (cs ++ rest) = some (t, rest)) :
    ReadsAs cs v := by
  refine ⟨hbegins, t, ht, fun fuel rest hfuel _ => ?_⟩
  obtain ⟨c, tail, rfl, -⟩ := hbegins
  rw [List.length_cons] at hfuel
  obtain ⟨fuel, rfl⟩ : ∃ m, fuel = m + 1 := ⟨fuel - 1, by omega⟩
  exact h fuel rest

theorem readsAs_printString (s : String) : ReadsAs (printString s.toList) (.string s) := by
  refine readsAs_of_readValue (t := .string (s.toList.map pieceOf))
    ⟨'"', _, rfl, by decide, by decide⟩ (fun depth => ?_) fun fuel rest => ?_
  · simp [Tree.toValue?, string?, text?_map_pieceOf, Value.nesting]
  · have htext : printString s.toList ++ rest =
        '"' :: (s.toList.flatMap escapeChar ++ '"' :: rest) := by
      simp [printString]
    rw [htext, readValue, skipSpace_of_not (by decide)]
    show (readString _).map _ = _
    rw [readString_flatMap]
    rfl

mutual

/-- A printed value without floating-point numbers is read as its normal form. -/
theorem readsAs_print : (v : Value) → v.all (!·.isFloating) = true → ReadsAs (print v) v.normal
  | .null, _ => readsAs_of_readValue (t := .null) ⟨'n', _, rfl, by decide, by decide⟩
      (fun _ => rfl) fun _ _ => rfl
  | .boolean true, _ => readsAs_of_readValue (t := .bool true)
      ⟨'t', _, rfl, by decide, by decide⟩ (fun _ => rfl) fun _ _ => rfl
  | .boolean false, _ => readsAs_of_readValue (t := .bool false)
      ⟨'f', _, rfl, by decide, by decide⟩ (fun _ => rfl) fun _ _ => rfl
  | .int n, _ => by
    have h := readsAs_printInt n.toInt64
    rwa [Int32.toInt_toInt64] at h
  | .bigint n, _ => readsAs_printInt n
  | .float _, h | .double _, h => by cases h
  | .string s, _ => readsAs_printString s
  | .bytes bs, _ => readsAs_printArray (by
      rw [List.forall₂_map_left_iff, List.forall₂_map_right_iff]
      exact List.forall₂_same.2 fun b _ => readsAs_byte b)
  | .list items, h => by
    simp only [Value.all, Value.isFloating, Bool.not_false, Bool.true_and] at h
    exact readsAs_printArray (readsAs_printItems items h)
  | .map entries, h => by
    simp only [Value.all, Value.isFloating, Bool.not_false, Bool.true_and] at h
    exact readsAs_printArray (readsAs_printEntries entries h)

theorem readsAs_printItems : (vs : List Value) → Value.allItems (!·.isFloating) vs = true →
    List.Forall₂ ReadsAs (printItems vs) (Value.normalItems vs)
  | [], _ => .nil
  | v :: vs, h => by
    simp only [Value.allItems, Bool.and_eq_true] at h
    exact .cons (readsAs_print v h.1) (readsAs_printItems vs h.2)

theorem readsAs_printEntries : (es : List (Value × Value)) →
    Value.allEntries (!·.isFloating) es = true →
    List.Forall₂ ReadsAs (printEntries es) (Value.normalEntries es)
  | [], _ => .nil
  | (k, v) :: es, h => by
    simp only [Value.allEntries, Bool.and_eq_true] at h
    exact .cons (readsAs_printArray (.cons (readsAs_print k h.1.1)
      (.cons (readsAs_print v h.1.2) .nil))) (readsAs_printEntries es h.2)

end

/-- The text of a value without floating-point numbers is a document that stands for the normal
form of the value, as deep as documents may be nested. -/
theorem readDocument?_print {v : Value} (h : v.all (!·.isFloating) = true) :
    readDocument? (print v) = if v.normal.nesting ≤ nestingLimit then some v.normal else none := by
  obtain ⟨-, t, hv, ht⟩ := readsAs_print v h
  have hread := ht (2 * (print v).length + 2) [] (by omega) closes_nil
  rw [List.append_nil] at hread
  have htree : Tree.read? (print v) = some t := by
    rw [Tree.read?, hread]
    rfl
  rw [readDocument?, htree]
  exact hv nestingLimit

end

/-! ## Rows -/

theorem printItems_eq_map (vs : List Value) : printItems vs = vs.map print := by
  induction vs with
  | nil => rfl
  | cons v vs ih => rw [printItems, ih, List.map_cons]

/-- The text of a row is the array of the texts of its values. -/
theorem printRow_eq_printArray (r : Row) : printRow r = printArray (r.values.map print) := by
  rw [printRow, print, printItems_eq_map]

/-- The text of a row without floating-point numbers is read as the list of the normal forms of its
values, which are one list deeper inside the row than alone. -/
theorem readDocument?_printRow {r : Row} (h : ∀ v ∈ r.values, v.all (!·.isFloating) = true)
    (hnesting : ∀ v ∈ r.values, v.normal.nesting < nestingLimit) :
    readDocument? (printRow r) = some (.list (r.values.map Value.normal)) := by
  have hall : (Value.list r.values).all (!·.isFloating) = true := by
    simpa [Value.all, Value.isFloating] using Value.allItems_iff.2 h
  have hnormal : (Value.list r.values).normal = .list (r.values.map Value.normal) := by
    rw [Value.normal, Value.normalItems_eq_map]
  have hitems : Value.nestingItems (r.values.map Value.normal) ≤ nestingLimit - 1 := by
    rw [Value.nestingItems_le_iff]
    intro w hw
    obtain ⟨v, hv, rfl⟩ := List.mem_map.1 hw
    exact Nat.le_sub_one_of_lt (hnesting v hv)
  have hdepth : (Value.list (r.values.map Value.normal)).nesting ≤ nestingLimit := by
    have hpos : 0 < nestingLimit := by decide
    rw [Value.nesting]
    omega
  rw [printRow, readDocument?_print hall, hnormal, if_pos hdepth]

end MatView.Json

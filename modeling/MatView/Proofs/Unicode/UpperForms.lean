import MatView.Proofs.Unicode.Casing
import MatView.Unicode.Blank

/-!
# What upper-case forms look like

What can be said of the upper-case forms of all characters beyond ASCII is checked on their table,
letter by letter. Blanks are neither made nor lost. Only a few letters lead back into ASCII: `ı` and
`ſ`, and letters that grow, such as the ligature `ﬁ`. Of the letters of `FROM`, their forms have no
`R`, `O` or `M`, and an `F` only in front of an `F`, an `I` or an `L`. What stands in an upper-case
form has no other upper-case form itself.

## Main definitions

* `upperForms`: the letters beyond ASCII that have another upper-case form, with these forms.
* `PassesFrom`: no part of the word `FROM` comes from a list of characters, whatever follows it.

## Main statements

* `upperWide_cases`: a character beyond ASCII is one of these letters, or stays as it is.
* `isBlank_of_mem_upperChar`: blanks are neither made nor lost.
* `exists_cut`: where an upper-case text can be cut like the text.
* `passesFrom_upperChar`: only letters of ASCII spell the word `FROM`.
* `upperChars_upperChars`: putting a text in upper case twice is as good as once.
-/

namespace MatView.Unicode

open Text (isWordChar Boundary of_ascii)

/-! ## The table, letter by letter -/

namespace CaseRun

/-- The letters of a run. -/
def letters (r : CaseRun) : List Nat :=
  ((List.range (r.last - r.first + 1)).filter fun i => i % r.stride == 0).map (r.first + ·)

theorem mem_letters {r : CaseRun} {n : Nat} (h : r.covers n = true) : n ∈ r.letters := by
  simp only [covers, Bool.and_eq_true, decide_eq_true_eq] at h
  obtain ⟨⟨hfirst, hlast⟩, hstride⟩ := h
  refine List.mem_map.2 ⟨n - r.first, List.mem_filter.2 ⟨List.mem_range.2 ?_, hstride⟩, ?_⟩ <;>
    omega

end CaseRun

/-- The letters beyond ASCII that have another upper-case form, with these forms. -/
def upperForms : List (Nat × List Nat) :=
  upperRuns.flatMap (fun r => r.letters.map fun n => (n, [r.image n])) ++ upperExpansions

/-- A character beyond ASCII stands in the table with its upper-case form, or stays as it is. -/
theorem upperWide_cases (n : Nat) : (n, upperWide n) ∈ upperForms ∨ upperWide n = [n] := by
  unfold upperWide upperForms
  split
  · rename_i image himage
    exact .inl (List.mem_append_right _ (mem_of_lookup_eq_some himage))
  · split
    · rename_i r hr
      have hletter := CaseRun.mem_letters (by simpa using List.find?_some hr)
      exact .inl (List.mem_append_left _ (List.mem_flatMap.2
        ⟨r, List.mem_of_find?_eq_some hr, List.mem_map_of_mem hletter⟩))
    · exact .inr rfl

/-- The same for characters. -/
theorem upperChar_cases {c : Char} (h : 0x80 ≤ c.toNat) :
    (∃ e ∈ upperForms, e.1 = c.toNat ∧ upperChar c = e.2.map Char.ofNat) ∨ upperChar c = [c] := by
  have hc : ¬ c.toNat < 0x80 := Nat.not_lt.2 h
  simp only [upperChar, hc, if_false]
  obtain hform | hstays := upperWide_cases c.toNat
  · exact .inl ⟨_, hform, rfl, rfl⟩
  · exact .inr (by rw [hstays, List.map_singleton, Char.ofNat_toNat])

/-! ## Letters, their forms and blanks -/

theorem char_of_mem_images : ∀ n ∈ upperForms.flatMap (·.2), (Char.ofNat n).toNat = n ∧
    (n < 0x80 → (Char.ofNat n).toUpper = Char.ofNat n) := by
  decide +kernel

/-- A set of numbers, as the bits of one. -/
def bitSet (ns : List Nat) : Nat :=
  ns.foldr (fun n bits => bits ||| 1 <<< n) 0

theorem testBit_bitSet {ns : List Nat} {n : Nat} : (bitSet ns).testBit n = true ↔ n ∈ ns := by
  induction ns with
  | nil => simp [bitSet]
  | cons m ns ih =>
    have hstep : bitSet (m :: ns) = bitSet ns ||| 1 <<< m := rfl
    rw [hstep, Nat.testBit_or, Bool.or_eq_true, ih, List.mem_cons, Nat.one_shiftLeft,
      Nat.testBit_two_pow, decide_eq_true_eq, or_comm, eq_comm]

/-- The code points of blanks. -/
def blanks : List Nat :=
  blankRanges.flatMap fun r => List.range' r.1 (r.2 - r.1 + 1)

theorem mem_blanks {n : Nat} : n ∈ blanks ↔ inRanges blankRanges n = true := by
  simp only [blanks, inRanges_iff, List.mem_flatMap, List.mem_range'_1]
  refine exists_congr fun r => and_congr_right fun hr => ?_
  have hle : ∀ r ∈ blankRanges, r.1 ≤ r.2 := by decide
  have := hle r hr
  omega

-- The lists are too long to be compared item by item.
theorem bitSets_apart :
    bitSet (upperForms.map (·.1)) &&& bitSet (upperForms.flatMap (·.2) ++ blanks) = 0 ∧
      bitSet (upperForms.flatMap (·.2)) &&& bitSet blanks = 0 := by
  decide +kernel

theorem not_mem_of_bitSet {ms ns : List Nat} (h : bitSet ms &&& bitSet ns = 0) {n : Nat}
    (hm : n ∈ ms) : n ∉ ns := by
  intro hn
  have hboth := congrArg (·.testBit n) h
  simp only [Nat.testBit_and, testBit_bitSet.2 hm, testBit_bitSet.2 hn, Nat.zero_testBit] at hboth
  cases hboth

/-- No letter of the table is blank, and none stands in an upper-case form. -/
theorem not_mem_of_mem_letters {n : Nat} (h : n ∈ upperForms.map (·.1)) :
    n ∉ upperForms.flatMap (·.2) ∧ inRanges blankRanges n = false := by
  have hnot := not_mem_of_bitSet bitSets_apart.1 h
  rw [List.mem_append, not_or, mem_blanks, Bool.not_eq_true] at hnot
  exact hnot

/-- No upper-case form has a blank in it. -/
theorem not_blank_of_mem_images {n : Nat} (h : n ∈ upperForms.flatMap (·.2)) :
    inRanges blankRanges n = false := by
  have hnot := not_mem_of_bitSet bitSets_apart.2 h
  rwa [mem_blanks, Bool.not_eq_true] at hnot

/-! ## Blanks -/

/-- Blanks have no other upper-case form. -/
theorem upperChar_of_blank {c : Char} (h : isBlank c = true) : upperChar c = [c] := by
  by_cases hc : c.toNat < 0x80
  · rw [upperChar_of_ascii hc,
      of_ascii (p := fun c => isBlank c = true → c.toUpper = c) (by decide) c hc h]
  · obtain ⟨e, he, hletter, -⟩ | hstays := upperChar_cases (Nat.le_of_not_lt hc)
    · have hblank := (not_mem_of_mem_letters (List.mem_map_of_mem he)).2
      rw [hletter] at hblank
      exact absurd h (Bool.eq_false_iff.1 hblank)
    · exact hstays

/-- A character is blank if and only if its upper-case form is. -/
theorem isBlank_of_mem_upperChar {c d : Char} (h : d ∈ upperChar c) : isBlank d = isBlank c := by
  by_cases hc : c.toNat < 0x80
  · rw [upperChar_of_ascii hc, List.mem_singleton] at h
    subst h
    exact of_ascii (p := fun c => isBlank c.toUpper = isBlank c) (by decide) c hc
  · obtain ⟨e, he, hletter, hform⟩ | hstays := upperChar_cases (Nat.le_of_not_lt hc)
    · rw [hform] at h
      obtain ⟨n, hn, rfl⟩ := List.mem_map.1 h
      have himage : n ∈ upperForms.flatMap (·.2) := List.mem_flatMap.2 ⟨e, he, hn⟩
      rw [isBlank, isBlank, (char_of_mem_images n himage).1, not_blank_of_mem_images himage,
        ← hletter, (not_mem_of_mem_letters (List.mem_map_of_mem he)).2]
    · rw [hstays, List.mem_singleton] at h
      rw [h]

/-! ## Cuts -/

/-- A place in an upper-case text is one of the text if a blank or the end of an identifier is in
front of it, or if no identifier goes on behind it: the upper-case form of a letter has no such place
in it. -/
theorem exists_cut {cs front back : List Char} (h : upperChars cs = front ++ back)
    (hcut : (∀ d, front.getLast? = some d → isWordChar d = false ∨ isBlank d = true) ∨
      Boundary back.head?) :
    ∃ before behind, cs = before ++ behind ∧ front = upperChars before ∧
      back = upperChars behind := by
  induction cs generalizing front with
  | nil =>
    obtain ⟨rfl, rfl⟩ := List.append_eq_nil_iff.1 h.symm
    exact ⟨[], [], rfl, rfl, rfl⟩
  | cons c cs ih =>
    rw [upperChars_cons] at h
    obtain ⟨rest, rfl, hrest⟩ | ⟨rest, hform, rfl⟩ := List.append_eq_append_iff.1 h
    · obtain ⟨before, behind, rfl, rfl, rfl⟩ := ih hrest (hcut.imp_left fun hlast d hd =>
        hlast d (by rw [List.getLast?_append, hd]; rfl))
      exact ⟨c :: before, behind, rfl, rfl, rfl⟩
    · obtain rfl | ⟨front, d, rfl⟩ := List.eq_nil_or_concat front
      · exact ⟨[], c :: cs, rfl, rfl, by rw [upperChars_cons, hform, List.nil_append]⟩
      · cases rest with
        | nil => exact ⟨[c], cs, rfl, by simpa using hform.symm, rfl⟩
        | cons e rest =>
          -- In the middle of its upper-case form a letter has parts of identifiers on both sides.
          exfalso
          have hlong : upperChar c ≠ [c] := by
            intro hone
            have hlength := congrArg List.length (hone.symm.trans hform)
            simp only [List.length_cons, List.length_nil, List.length_append,
              List.length_concat] at hlength
            omega
          have hword : isWordChar c = true := by
            rw [← Bool.not_eq_false]
            exact fun hc => hlong (upperChar_eq_self hc)
          have hd : isWordChar d = true ∧ isBlank d = isBlank c :=
            have hmem : d ∈ upperChar c := by simp [hform]
            ⟨(isWordChar_of_mem_upperChar hmem).trans hword, isBlank_of_mem_upperChar hmem⟩
          have he : isWordChar e = true :=
            (isWordChar_of_mem_upperChar (by simp [hform])).trans hword
          obtain hlast | hbehind := hcut
          · obtain hother | hblank := hlast d (by simp)
            · simp [hd.1] at hother
            · exact hlong (upperChar_of_blank (hd.2 ▸ hblank))
          · simp [he] at hbehind

/-! ## The letters of `FROM` -/

/-- The first character is no `R`, `O` or `M`, and an `F` does not stand before an `R`. -/
def PassesFrom : List Char → Prop
  | [] => False
  | [c] => c.toLower ∉ ['f', 'r', 'o', 'm']
  | c :: d :: _ => c.toLower ∉ ['r', 'o', 'm'] ∧ (c.toLower = 'f' → d.toLower ≠ 'r')

instance : DecidablePred PassesFrom := fun
  | [] => inferInstanceAs (Decidable False)
  | [_] => inferInstanceAs (Decidable (_ ∉ _))
  | _ :: _ :: _ => inferInstanceAs (Decidable (_ ∧ _))

theorem PassesFrom.append {cs : List Char} (h : PassesFrom cs) (ds : List Char) :
    PassesFrom (cs ++ ds) := by
  match cs, ds, h with
  | [_], [], h => exact h
  | [_], _ :: _, h =>
    simp only [PassesFrom, List.mem_cons, List.not_mem_nil, or_false, not_or] at h
    simp [PassesFrom, h]
  | _ :: _ :: _, _, h => exact h

theorem passesFrom_of_wide {c : Char} (h : 0x80 ≤ c.toNat) : PassesFrom [c] := by
  intro hc
  rw [Text.toLower_of_wide h] at hc
  simp only [List.mem_cons, List.not_mem_nil, or_false] at hc
  obtain rfl | rfl | rfl | rfl := hc <;> exact absurd h (by decide)

theorem passesFrom_of_mem_forms : ∀ e ∈ upperForms,
    0x80 ≤ e.2.headD 0 ∨ PassesFrom (e.2.map Char.ofNat) := by
  decide +kernel

/-- No upper-case form of a character beyond ASCII leads into the word `FROM`. -/
theorem passesFrom_upperChar {c : Char} (h : 0x80 ≤ c.toNat) : PassesFrom (upperChar c) := by
  obtain ⟨e, he, -, hform⟩ | hstays := upperChar_cases h
  · rw [hform]
    obtain hwide | hpasses := passesFrom_of_mem_forms e he
    · cases hform : e.2 with
      | nil => simp [hform] at hwide
      | cons n ns =>
        have himage : n ∈ upperForms.flatMap (·.2) := List.mem_flatMap.2 ⟨e, he, by simp [hform]⟩
        have hn : 0x80 ≤ (Char.ofNat n).toNat := by
          rw [(char_of_mem_images n himage).1]
          simpa [hform] using hwide
        exact (passesFrom_of_wide hn).append (ns.map Char.ofNat)
    · exact hpasses
  · exact hstays ▸ passesFrom_of_wide h

/-! ## Upper case twice -/

/-- No upper-case form is a letter that has another one. -/
theorem upperWide_of_mem_images {n : Nat} (h : n ∈ upperForms.flatMap (·.2)) :
    upperWide n = [n] := by
  obtain hform | hstays := upperWide_cases n
  · exact absurd h (not_mem_of_mem_letters (List.mem_map_of_mem (f := (·.1)) hform)).1
  · exact hstays

/-- What stands in an upper-case form is its own upper-case form. -/
theorem upperChar_of_mem {c d : Char} (h : d ∈ upperChar c) : upperChar d = [d] := by
  by_cases hc : c.toNat < 0x80
  · rw [upperChar_of_ascii hc, List.mem_singleton] at h
    subst h
    exact of_ascii (p := fun c => upperChar c.toUpper = [c.toUpper]) (by decide) c hc
  · obtain ⟨e, he, -, hform⟩ | hstays := upperChar_cases (Nat.le_of_not_lt hc)
    · rw [hform] at h
      obtain ⟨n, hn, rfl⟩ := List.mem_map.1 h
      have himage : n ∈ upperForms.flatMap (·.2) := List.mem_flatMap.2 ⟨e, he, hn⟩
      obtain ⟨hnat, hupper⟩ := char_of_mem_images n himage
      by_cases hascii : n < 0x80
      · rw [upperChar_of_ascii (hnat.symm ▸ hascii), hupper hascii]
      · simp [upperChar, hnat, hascii, upperWide_of_mem_images himage]
    · rw [hstays, List.mem_singleton] at h
      rw [h, hstays]

/-- Upper case is in upper case. -/
theorem upperChars_upperChars (cs : List Char) : upperChars (upperChars cs) = upperChars cs := by
  have hfixed : ∀ ds : List Char, (∀ d ∈ ds, upperChar d = [d]) → upperChars ds = ds := by
    intro ds hds
    induction ds with
    | nil => rfl
    | cons d ds ih =>
      obtain ⟨hd, hds⟩ := List.forall_mem_cons.1 hds
      rw [upperChars_cons, hd, ih hds, List.singleton_append]
  refine hfixed _ fun d hd => ?_
  obtain ⟨c, -, hdc⟩ := List.mem_flatMap.1 hd
  exact upperChar_of_mem hdc

end MatView.Unicode

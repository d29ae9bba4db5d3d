import MatView.Proofs.Text.Characters

/-!
# Where a keyword is found

The search for a keyword finds the first place of a text that lies outside quotes, where the word is
spelled in some case and no identifier goes on at either side. Whether a keyword stands at a place
depends on little of the text around it, so a place is kept when the text changes far enough from it.

## Main definitions

* `IsKeyword`: the keywords that can be searched for.
* `Starts`: a keyword stands at a place.
* `Clear`: a keyword stands nowhere in a part of a text.
* `First`: the first place of a keyword.

## Main statements

* `keywordOffset_eq_some_iff`: the search finds the first place.
* `Starts.congr_back`, `Clear.congr_back`, `Clear.congr_front`: what a place depends on.
* `clear_append`: a keyword that stands in neither of two parts stands in none of both.
-/

namespace MatView.Text

/-- A keyword is spelled with ASCII letters, digits and underscores. -/
structure IsKeyword (keyword : String) : Prop where
  ne_nil : keyword.toList ≠ []
  plain : ∀ k ∈ keyword.toList, isPlain k = true

theorem isKeyword_from : IsKeyword "FROM" := ⟨by decide, List.all_eq_true.1 (by decide)⟩

theorem isKeyword_select : IsKeyword "SELECT" := ⟨by decide, List.all_eq_true.1 (by decide)⟩

theorem isKeyword_where : IsKeyword "WHERE" := ⟨by decide, List.all_eq_true.1 (by decide)⟩

/-- Two texts are spelled alike up to the case of ASCII letters. -/
def Alike (word keyword : List Char) : Prop :=
  word.map Char.toLower = keyword.map Char.toLower

/-- A keyword stands at the place between `front` and `back`. -/
structure Starts (keyword : String) (front back : List Char) : Prop where
  outside : Quoting.after (Utf8.bytes front) = .outside
  left : Boundary front.getLast?
  spells : Alike (back.take keyword.toList.length) keyword.toList
  right : Boundary back[keyword.toList.length]?

/-- A keyword stands nowhere in `part`, which lies between `front` and `back`. -/
def Clear (keyword : String) (front part back : List Char) : Prop :=
  ∀ p q, part = p ++ q → q ≠ [] → ¬ Starts keyword (front ++ p) (q ++ back)

/-- The place between `front` and `back` is the first one where a keyword stands. -/
structure First (keyword : String) (front back : List Char) : Prop where
  starts : Starts keyword front back
  clear : Clear keyword [] front back

variable {keyword : String} {front part back : List Char}

/-! ## Spelling -/

namespace Alike

variable {word ks : List Char}

theorem length_eq (h : Alike word ks) : word.length = ks.length := by
  simpa using congrArg List.length h

theorem cons_iff {c k : Char} :
    Alike (c :: word) (k :: ks) ↔ c.toLower = k.toLower ∧ Alike word ks := by
  simp [Alike]

/-- A character that is spelled like a plain one is plain. -/
theorem isPlain_of_toLower_eq {c k : Char} (hk : isPlain k = true) (h : c.toLower = k.toLower) :
    isPlain c = true := by
  have hascii := toNat_lt_of_isPlain hk
  by_cases hc : c.toNat < 0x80
  · have hfold : ∀ d : Char, d.toNat < 0x80 → isPlain d.toLower = isPlain d :=
      of_ascii (by decide)
    rw [← hfold c hc, h, hfold k hascii, hk]
  · have hwide : 0x80 ≤ c.toNat := Nat.le_of_not_lt hc
    have hlower := toNat_toLower_lt hascii
    rw [← h, toLower_of_wide hwide] at hlower
    omega

/-- A word that is spelled like a keyword is plain. -/
theorem isPlain (h : Alike word ks) (hks : ∀ k ∈ ks, isPlain k = true) :
    ∀ c ∈ word, Text.isPlain c = true := by
  induction word generalizing ks with
  | nil => simp
  | cons c word ih =>
    cases ks with
    | nil => exact absurd h.length_eq (by simp)
    | cons k ks =>
      obtain ⟨hc, hword⟩ := cons_iff.1 h
      obtain ⟨hk, hks⟩ := List.forall_mem_cons.1 hks
      exact List.forall_mem_cons.2 ⟨isPlain_of_toLower_eq hk hc, ih hword hks⟩

end Alike

/-- Names that are equal up to case are spelled alike. -/
theorem sameName_iff_alike {a b : String} : sameName a b = true ↔ Alike a.toList b.toList := by
  rw [sameName_iff, lowerAscii, lowerAscii, ← String.toList_inj, String.toList_ofList,
    String.toList_ofList, Alike]

/-- The bytes of a plain text are as many as its characters. -/
theorem length_bytes_of_plain {cs : List Char} (h : ∀ c ∈ cs, isPlain c = true) :
    (Utf8.bytes cs).length = cs.length := by
  induction cs with
  | nil => rfl
  | cons c cs ih =>
    obtain ⟨hc, hcs⟩ := List.forall_mem_cons.1 h
    simp only [Utf8.bytes_cons, utf8EncodeChar_of_ascii (toNat_lt_of_isPlain hc), List.length_append,
      ih hcs, List.length_cons, List.length_nil]
    omega

/-- The bytes of a keyword are matched where its characters are. -/
theorem startsWith_bytes_iff {ks cs : List Char} (hks : ∀ k ∈ ks, isPlain k = true) :
    startsWith (Utf8.bytes ks) (Utf8.bytes cs) = true ↔ Alike (cs.take ks.length) ks := by
  induction ks generalizing cs with
  | nil => simp [startsWith, Alike]
  | cons k ks ih =>
    obtain ⟨hk, hks⟩ := List.forall_mem_cons.1 hks
    have hascii := toNat_lt_of_isPlain hk
    cases cs with
    | nil => simp [utf8EncodeChar_of_ascii hascii, startsWith, Alike]
    | cons c cs =>
      rw [List.length_cons, List.take_succ_cons, Alike.cons_iff, ← ih hks, Utf8.bytes_cons,
        utf8EncodeChar_of_ascii hascii]
      by_cases hc : c.toNat < 0x80
      · have hfold : UInt8.ofNat k.toLower.toNat = UInt8.ofNat c.toLower.toNat ↔
            c.toLower = k.toLower :=
          ⟨fun h => (eq_of_ofNat_eq (toNat_toLower_lt hascii) (toNat_toLower_lt hc) h).symm,
            fun h => by rw [h]⟩
        simp [utf8EncodeChar_of_ascii hc, startsWith, foldByte_of_ascii, hascii, hc, hfold]
      · have hwide : 0x80 ≤ c.toNat := Nat.le_of_not_lt hc
        obtain ⟨b, bs, hbs⟩ := List.exists_cons_of_ne_nil (utf8EncodeChar_ne_nil c)
        have hb : 0x80 ≤ b := le_of_mem_utf8EncodeChar hwide (by simp [hbs])
        have hlower := toNat_toLower_lt hascii
        have hbyte : UInt8.ofNat k.toLower.toNat ≠ b := by
          rintro rfl
          rw [UInt8.le_iff_toNat_le, UInt8.toNat_ofNat'] at hb
          have h80 : (0x80 : UInt8).toNat = 0x80 := rfl
          omega
        have hchar : c.toLower ≠ k.toLower := by
          rw [toLower_of_wide hwide]
          rintro rfl
          omega
        simp [hbs, startsWith, foldByte_of_ascii hascii, foldByte_of_wide hb, hbyte, hchar]

/-! ## The search -/

/-- The search looks for a keyword at the places where it stands. -/
theorem starts_iff (hk : IsKeyword keyword) :
    Starts keyword front back ↔ Quoting.after (Utf8.bytes front) = .outside ∧
      isWordAt (Utf8.ofString keyword) (Utf8.bytes front).getLast? (Utf8.bytes back) = true := by
  have hlength := length_bytes_of_plain hk.plain
  -- Behind a matched word the bytes and the characters are counted alike.
  have hright (h : Alike (back.take keyword.toList.length) keyword.toList) :
      isEdge (Utf8.bytes back)[keyword.toList.length]? = true ↔
        Boundary back[keyword.toList.length]? := by
    have hword := length_bytes_of_plain (h.isPlain hk.plain)
    have hbytes : (Utf8.bytes back)[keyword.toList.length]? =
        (Utf8.bytes (back.drop keyword.toList.length))[0]? := by
      have hparts : Utf8.bytes back = Utf8.bytes (back.take keyword.toList.length) ++
          Utf8.bytes (back.drop keyword.toList.length) := by
        rw [← Utf8.bytes_append, List.take_append_drop]
      rw [hparts, List.getElem?_append_right (Nat.le_of_eq (by rw [hword, h.length_eq])), hword,
        h.length_eq, Nat.sub_self]
    rw [hbytes, isEdge_head_bytes, List.head?_drop]
  simp only [isWordAt, Utf8.ofString, Bool.and_eq_true, startsWith_bytes_iff hk.plain,
    isEdge_last_bytes, hlength]
  constructor
  · intro h
    exact ⟨h.outside, ⟨h.spells, h.left⟩, (hright h.spells).2 h.right⟩
  · rintro ⟨houtside, ⟨hspells, hleft⟩, hbyte⟩
    exact ⟨houtside, hleft, hspells, (hright hspells).1 hbyte⟩

/-- No keyword starts in the middle of a character, so its bytes are passed at once. -/
theorem scan_of_wide {k : UInt8} {ks bs : List UInt8} (hk : foldByte k < 0x80)
    (hbs : ∀ b ∈ bs, 0x80 ≤ b) (start offset : Nat) (before : Option UInt8) (state : Quoting)
    (rest : List UInt8) :
    scan (k :: ks) start offset before state (bs ++ rest) =
      scan (k :: ks) start (offset + bs.length) (bs.getLast?.or before) state rest := by
  induction bs generalizing offset before with
  | nil => simp
  | cons b bs ih =>
    obtain ⟨hb, hbs⟩ := List.forall_mem_cons.1 hbs
    have hfold : foldByte k ≠ foldByte b := by
      rw [foldByte_of_wide hb]
      rintro rfl
      exact absurd hk (UInt8.not_lt.2 hb)
    have hlast : ((b :: bs).getLast?.or before) = bs.getLast?.or (some b) := by
      cases h : bs.getLast? <;> simp [List.getLast?_cons, h]
    rw [List.cons_append, scan, isWordAt, startsWith]
    simp [hfold, Quoting.step_of_wide state hb, ih hbs, hlast, Nat.add_comm, Nat.add_left_comm]

/-- The search from a place on, where `front` was passed. -/
def scanFrom (keyword : String) (front back : List Char) : Option Nat :=
  scan (Utf8.ofString keyword) 0 (Utf8.bytes front).length (Utf8.bytes front).getLast?
    (Quoting.after (Utf8.bytes front)) (Utf8.bytes back)

theorem not_starts_nil (hk : IsKeyword keyword) : ¬ Starts keyword front [] := by
  intro h
  have hlength := h.spells.length_eq
  simp only [List.take_nil, List.length_nil] at hlength
  exact hk.ne_nil (List.length_eq_zero_iff.1 hlength.symm)

/-- A keyword starts with a character of ASCII. -/
theorem Starts.head_lt (hk : IsKeyword keyword) {c : Char} {cs : List Char}
    (h : Starts keyword front (c :: cs)) : c.toNat < 0x80 := by
  obtain ⟨k, ks, hks⟩ := List.exists_cons_of_ne_nil hk.ne_nil
  have hplain := h.spells.isPlain hk.plain
  rw [hks, List.length_cons, List.take_succ_cons] at hplain
  exact toNat_lt_of_isPlain (hplain c List.mem_cons_self)

/-- The search ends where the keyword stands and otherwise goes on behind the next character. -/
theorem scanFrom_cons (hk : IsKeyword keyword) (c : Char) (cs : List Char) [Decidable
    (Starts keyword front (c :: cs))] :
    scanFrom keyword front (c :: cs) =
      if Starts keyword front (c :: cs) then some (Utf8.bytes front).length
      else scanFrom keyword (front ++ [c]) cs := by
  obtain ⟨k, ks, hks⟩ := List.exists_cons_of_ne_nil hk.ne_nil
  have hascii : k.toNat < 0x80 := toNat_lt_of_isPlain (hk.plain k (by simp [hks]))
  by_cases hc : c.toNat < 0x80
  · have hstarts : Starts keyword front (c :: cs) ↔ _ := starts_iff hk
    simp only [scanFrom, Utf8.bytes_append, Utf8.bytes_cons, utf8EncodeChar_of_ascii hc,
      Utf8.bytes_nil, List.append_nil, List.singleton_append, scan] at hstarts ⊢
    split <;> split <;> simp_all [Quoting.after_append]
  · have hwide : 0x80 ≤ c.toNat := Nat.le_of_not_lt hc
    have hbytes : ∀ b ∈ String.utf8EncodeChar c, 0x80 ≤ b := fun b =>
      le_of_mem_utf8EncodeChar hwide
    have hkeyword : Utf8.ofString keyword = UInt8.ofNat k.toNat :: Utf8.bytes ks := by
      simp [Utf8.ofString, hks, utf8EncodeChar_of_ascii hascii]
    have hfold : foldByte (UInt8.ofNat k.toNat) < 0x80 := by
      have hlower := toNat_toLower_lt hascii
      rw [foldByte_of_ascii hascii, UInt8.lt_iff_toNat_lt, UInt8.toNat_ofNat']
      have h80 : (0x80 : UInt8).toNat = 0x80 := rfl
      omega
    rw [if_neg fun h => hc (h.head_lt hk), scanFrom, Utf8.bytes_cons, hkeyword,
      scan_of_wide hfold hbytes, scanFrom, hkeyword]
    simp [Quoting.after_append, Quoting.foldl_step_of_wide _ hbytes]

@[simp] theorem clear_nil : Clear keyword front [] back := by
  intro p q h hq
  exact absurd (List.append_eq_nil_iff.1 h.symm).2 hq

theorem clear_cons {c : Char} : Clear keyword front (c :: part) back ↔
    ¬ Starts keyword front (c :: part ++ back) ∧ Clear keyword (front ++ [c]) part back := by
  constructor
  · intro h
    refine ⟨by simpa using h [] (c :: part) rfl (by simp), ?_⟩
    intro p q hpart hq
    simpa using h (c :: p) q (by simp [hpart]) hq
  · rintro ⟨hfirst, hrest⟩ p q hpart hq
    cases p with
    | nil =>
      subst hpart
      simpa using hfirst
    | cons d p =>
      obtain ⟨rfl, hrestPart⟩ : c = d ∧ part = p ++ q := by simpa using hpart
      simpa using hrest p q hrestPart hq

/-- The search from a place on finds the first place from there. -/
theorem scanFrom_eq_some_iff (hk : IsKeyword keyword) {n : Nat} :
    scanFrom keyword front back = some n ↔ ∃ part rest, back = part ++ rest ∧
      Starts keyword (front ++ part) rest ∧ Clear keyword front part rest ∧
        n = (Utf8.bytes (front ++ part)).length := by
  classical
  induction back generalizing front with
  | nil =>
    constructor
    · intro h
      cases h
    · rintro ⟨part, rest, hback, hstarts, -⟩
      obtain ⟨rfl, rfl⟩ := List.append_eq_nil_iff.1 hback.symm
      exact absurd hstarts (not_starts_nil hk)
  | cons c cs ih =>
    rw [scanFrom_cons hk]
    split
    · rename_i hstarts
      constructor
      · intro h
        refine ⟨[], c :: cs, rfl, by simpa using hstarts, clear_nil, ?_⟩
        simpa using h.symm
      · rintro ⟨part, rest, hback, -, hclear, rfl⟩
        cases part with
        | nil => simp
        | cons d part =>
          obtain ⟨rfl, rfl⟩ := List.cons.inj hback
          exact absurd hstarts (clear_cons.1 hclear).1
    · rename_i hstarts
      rw [ih]
      constructor
      · rintro ⟨part, rest, rfl, hrest, hclear, rfl⟩
        exact ⟨c :: part, rest, rfl, by simpa using hrest, clear_cons.2 ⟨hstarts, hclear⟩, by simp⟩
      · rintro ⟨part, rest, hback, hrest, hclear, rfl⟩
        cases part with
        | nil =>
          subst hback
          exact absurd (by simpa using hrest) hstarts
        | cons d part =>
          obtain ⟨rfl, rfl⟩ := List.cons.inj hback
          exact ⟨part, rest, rfl, by simpa using hrest, (clear_cons.1 hclear).2, by simp⟩

/-- The search from a place on finds nothing in a part without the keyword. -/
theorem scanFrom_eq_none_iff (hk : IsKeyword keyword) :
    scanFrom keyword front back = none ↔ Clear keyword front back [] := by
  classical
  induction back generalizing front with
  | nil => simp [scanFrom, scan]
  | cons c cs ih =>
    rw [scanFrom_cons hk, clear_cons, ← ih, List.append_nil]
    split <;> simp_all

theorem keywordOffset_eq_scanFrom (hk : IsKeyword keyword) (text : List Char) :
    keywordOffset text keyword = scanFrom keyword [] text := by
  obtain ⟨k, ks, hks⟩ := List.exists_cons_of_ne_nil hk.ne_nil
  have hne : (Utf8.ofString keyword).isEmpty = false := by simp [Utf8.ofString, hks]
  simp [keywordOffset, keywordOffsetFrom, hne, scanFrom]

/-- The search for a keyword finds the first place where it stands. -/
theorem keywordOffset_eq_some_iff (hk : IsKeyword keyword) {text : List Char} {n : Nat} :
    keywordOffset text keyword = some n ↔ ∃ front back, text = front ++ back ∧
      First keyword front back ∧ n = (Utf8.bytes front).length := by
  rw [keywordOffset_eq_scanFrom hk, scanFrom_eq_some_iff hk]
  constructor
  · rintro ⟨front, back, rfl, hstarts, hclear, rfl⟩
    exact ⟨front, back, rfl, ⟨hstarts, hclear⟩, rfl⟩
  · rintro ⟨front, back, rfl, hfirst, rfl⟩
    exact ⟨front, back, rfl, hfirst.starts, hfirst.clear, rfl⟩

/-- The search for a keyword finds nothing where it stands nowhere. -/
theorem keywordOffset_eq_none_iff (hk : IsKeyword keyword) {text : List Char} :
    keywordOffset text keyword = none ↔ Clear keyword [] text [] := by
  rw [keywordOffset_eq_scanFrom hk, scanFrom_eq_none_iff hk]

/-! ## What a place depends on -/

/-- Whether a keyword stands at a place depends on as many characters behind it as the keyword has,
and on one more. -/
theorem Starts.congr_back {other : List Char} (h : Starts keyword front back)
    (hback : back.take (keyword.toList.length + 1) = other.take (keyword.toList.length + 1)) :
    Starts keyword front other where
  outside := h.outside
  left := h.left
  spells := by
    have htake : other.take keyword.toList.length = back.take keyword.toList.length := by
      have := congrArg (List.take keyword.toList.length) hback
      simpa [List.take_take] using this.symm
    rw [htake]
    exact h.spells
  right := by
    have hget : other[keyword.toList.length]? = back[keyword.toList.length]? := by
      have := congrArg (·[keyword.toList.length]?) hback
      simpa using this.symm
    rw [hget]
    exact h.right

/-- In front of a place, a keyword depends on what is known about quotes and on one neighbour. -/
theorem Starts.congr_front {other : List Char} (h : Starts keyword front back)
    (hquotes : Quoting.after (Utf8.bytes front) = Quoting.after (Utf8.bytes other))
    (hlast : front.getLast? = other.getLast?) : Starts keyword other back where
  outside := hquotes ▸ h.outside
  left := hlast ▸ h.left
  spells := h.spells
  right := h.right

/-- What follows a part matters for as many characters as the keyword has. -/
theorem Clear.congr_back {other : List Char} (h : Clear keyword front part back)
    (hback : back.take keyword.toList.length = other.take keyword.toList.length) :
    Clear keyword front part other := by
  intro p q hpart hq hstarts
  refine h p q hpart hq (hstarts.congr_back ?_)
  obtain ⟨c, cs, rfl⟩ := List.exists_cons_of_ne_nil hq
  -- The last character that matters lies in `q` or among those that both rests share.
  have htake : ∀ rest : List Char, (c :: cs ++ rest).take (keyword.toList.length + 1) =
      c :: (cs.take keyword.toList.length ++
        (rest.take keyword.toList.length).take (keyword.toList.length - cs.length)) := by
    intro rest
    rw [List.take_take, Nat.min_eq_left (Nat.sub_le _ _)]
    simp [List.take_append]
  rw [htake, htake, hback]

/-- What precedes a part matters for its quotes and for its first character. -/
theorem Clear.congr_front {other : List Char} (h : Clear keyword front part back)
    (hquotes : Quoting.after (Utf8.bytes front) = Quoting.after (Utf8.bytes other))
    (hfirst : part ≠ [] → ¬ Starts keyword other (part ++ back)) :
    Clear keyword other part back := by
  intro p q hpart hq hstarts
  by_cases hp : p = []
  · subst hp
    rw [List.nil_append] at hpart
    rw [List.append_nil, ← hpart] at hstarts
    exact hfirst (hpart ▸ hq) hstarts
  · refine h p q hpart hq (hstarts.congr_front ?_ ?_)
    · simp [Quoting.after_append, hquotes]
    · simp [List.getLast?_append, List.getLast?_eq_some_getLast hp]

/-! ## Parts without a keyword -/

/-- A keyword that stands in neither of two parts stands in none of both. -/
theorem clear_append {second : List Char} : Clear keyword front (part ++ second) back ↔
    Clear keyword front part (second ++ back) ∧ Clear keyword (front ++ part) second back := by
  induction part generalizing front with
  | nil => simp
  | cons c part ih =>
    rw [List.cons_append, clear_cons, ih, clear_cons]
    simp [and_assoc]

/-- A keyword does not stand in a part without its first letter. -/
theorem clear_of_forall_ne {k : Char} {ks : List Char} (hks : keyword.toList = k :: ks)
    (h : ∀ c ∈ part, c.toLower ≠ k.toLower) : Clear keyword front part back := by
  intro p q hpart hq hstarts
  obtain ⟨c, cs, rfl⟩ := List.exists_cons_of_ne_nil hq
  have hspells := hstarts.spells
  rw [hks, List.cons_append, List.length_cons, List.take_succ_cons, Alike.cons_iff] at hspells
  exact h c (by simp [hpart]) hspells.1

/-- A keyword does not stand in another word. -/
theorem clear_of_word (hk : IsKeyword keyword) (hpart : ∀ c ∈ part, isWordChar c = true)
    (hback : Boundary back.head?) (hne : ¬ Alike part keyword.toList) :
    Clear keyword front part back := by
  intro p q hpq hq hstarts
  obtain rfl | ⟨p, c, rfl⟩ := List.eq_nil_or_concat p
  · rw [List.nil_append] at hpq
    subst hpq
    have hspells := hstarts.spells
    have hright := hstarts.right
    obtain hlt | heq | hgt := Nat.lt_trichotomy part.length keyword.toList.length
    · -- The keyword would contain the neighbour of the word.
      have hmem := hspells.isPlain hk.plain
      cases back with
      | nil =>
        have := hspells.length_eq
        simp only [List.append_nil, List.length_take] at this
        omega
      | cons b back =>
        have hplain : isPlain b = true := by
          refine hmem b ?_
          rw [List.take_append, List.mem_append]
          right
          obtain ⟨n, hn⟩ := Nat.exists_eq_add_of_lt hlt
          simp [hn, show part.length + n + 1 - part.length = n + 1 by omega]
        simp [isWordChar, hplain] at hback
    · exact hne (by simpa [← heq, List.take_append] using hspells)
    · -- The keyword would end in the middle of the word.
      rw [List.getElem?_append_left hgt, List.getElem?_eq_getElem hgt, boundary_some,
        hpart _ (List.getElem_mem hgt)] at hright
      cases hright
  · have hc : isWordChar c = true := hpart c (by simp [hpq])
    have hleft := hstarts.left
    simp [hc] at hleft

namespace First

/-- The search finds the first place of a keyword. -/
theorem keywordOffset_eq (h : First keyword front back) (hk : IsKeyword keyword) :
    keywordOffset (front ++ back) keyword = some (Utf8.bytes front).length :=
  (keywordOffset_eq_some_iff hk).2 ⟨front, back, rfl, h, rfl⟩

/-- The first place is kept when the text changes far enough behind it. -/
theorem congr_back {other : List Char} (h : First keyword front back)
    (hback : back.take (keyword.toList.length + 1) = other.take (keyword.toList.length + 1)) :
    First keyword front other where
  starts := h.starts.congr_back hback
  clear := h.clear.congr_back (by
    have := congrArg (List.take keyword.toList.length) hback
    simpa [List.take_take] using this)

/-- A text starts with the word that stands at its first place. -/
theorem starts_nil (h : First keyword front back) : Starts keyword [] back where
  outside := rfl
  left := boundary_none
  spells := h.starts.spells
  right := h.starts.right

end First

theorem first_of_starts_nil (h : Starts keyword [] back) : First keyword [] back :=
  ⟨h, clear_nil⟩

end MatView.Text

import MatView.Proofs.Query.Adapted

/-!
# The table that an adapted text reads

The adapter writes the physical table behind the first `FROM` of a head, and the store looks for the
first `FROM` of the text that it is given. Between the two, the key column is put behind the first
`SELECT`, in front of that `FROM`. It ends no quotes and is no keyword, so the place of `FROM` is kept
with one exception: a blank beyond ASCII counts as part of an identifier, so a word `FROM` right
behind it is no keyword until the key column stands between them.

## Main definitions

* `Heading`: a text whose first `SELECT` comes before its first `FROM`, by its parts.
* `Adapter.HidesFrom`: the exception.
* `Adapter.Misroutes`: it makes a statement read another table.

## Main statements

* `Adapter.tableOf_qualified`: a qualified text reads the physical table.
* `Heading.first_keyed`, `Heading.starts_keyed_iff`: where `FROM` stands behind the key column.
* `Adapter.tableOf_adapt_iff`: an adapted text reads the physical table, with that exception.
-/

namespace MatView

open Text
open Unicode (isBlank)

/-! ## A qualified text -/

namespace Text

/-- A text that is put together from its parts is cut into them again. -/
theorem parts_of_append {keyword : String} {word blanks rest : List Char}
    (hword : word.length = keyword.toList.length) (hblanks : ∀ c ∈ blanks, isBlank c = true)
    (hrest : ∀ c, rest.head? = some c → isBlank c = false) :
    wordOf keyword (word ++ blanks ++ rest) = word ∧
      blanksBehind keyword (word ++ blanks ++ rest) = blanks ∧
      restBehind keyword (word ++ blanks ++ rest) = rest := by
  have hstop := takeWhile_append_stop hblanks hrest
  refine ⟨?_, ?_, ?_⟩
  · simp [wordOf, ← hword]
  · simp [blanksBehind, ← hword, hstop.1]
  · simp [restBehind, ← hword, hstop.2]

theorem isBlank_of_mem_blanksBehind {keyword : String} {back : List Char} {c : Char}
    (h : c ∈ blanksBehind keyword back) : isBlank c = true :=
  of_mem_takeWhile h

theorem isBlank_head?_restBehind (keyword : String) (back : List Char) {c : Char}
    (h : (restBehind keyword back).head? = some c) : isBlank c = false :=
  head?_dropWhile_eq_false h

end Text

namespace Adapter

variable {front back rest : List Char} {physicalName : String}

/-- What is put behind the name does not change the place of `FROM`. -/
theorem take_qualifiedFrom (physicalName : String) (h : Starts "FROM" front back)
    (hne : target back ≠ []) (rest : List Char) :
    back.take 5 = (qualifiedFrom back physicalName ++ rest).take 5 := by
  have hword : (wordOf "FROM" back).length = 4 := h.length_wordOf
  have hlength : 5 ≤ (wordOf "FROM" back ++ blanksBehind "FROM" back ++ target back).length := by
    have := List.length_pos_iff.2 hne
    simp only [List.length_append]
    omega
  have hback : back = (wordOf "FROM" back ++ blanksBehind "FROM" back ++ target back) ++
      behindTarget back := by
    have := append_eq_parts "FROM" [] back
    rw [restBehind_eq] at this
    simpa using this
  have hqualified : qualifiedFrom back physicalName ++ rest =
      (wordOf "FROM" back ++ blanksBehind "FROM" back ++ target back) ++
        ('.' :: physicalName.toList ++ behindTarget back ++ rest) := by
    simp [qualifiedFrom]
  rw [hqualified, List.take_append_of_le_length hlength, ← List.take_append_of_le_length hlength,
    ← hback]

/-- The name in a qualified text ends with the physical table. -/
theorem target_qualifiedFrom (h : Starts "FROM" front back) (hne : target back ≠ [])
    (hphysical : ∀ c ∈ physicalName.toList, isWordChar c = true)
    (hrest : ∀ c, (behindTarget back ++ rest).head? = some c → isNameChar c = false) :
    target (qualifiedFrom back physicalName ++ rest) =
      target back ++ '.' :: physicalName.toList := by
  have hname : ∀ c ∈ target back ++ '.' :: physicalName.toList, isNameChar c = true := by
    intro c hc
    rw [List.mem_append, List.mem_cons] at hc
    obtain hc | rfl | hc := hc
    · exact of_mem_takeWhile hc
    · rfl
    · simp [isNameChar, hphysical c hc]
  have hblank : ∀ c, (target back ++ '.' :: physicalName.toList ++
      (behindTarget back ++ rest)).head? = some c → isBlank c = false := by
    intro c hc
    obtain ⟨d, ds, hd⟩ := List.exists_cons_of_ne_nil hne
    refine isBlank_head?_restBehind "FROM" back ?_
    rw [restBehind_eq, hd]
    simpa [hd] using hc
  have hblanks : ∀ c ∈ blanksBehind "FROM" back, isBlank c = true :=
    fun _ => isBlank_of_mem_blanksBehind
  have hparts := (parts_of_append h.length_wordOf hblanks hblank).2.2
  have hqualified : qualifiedFrom back physicalName ++ rest =
      wordOf "FROM" back ++ blanksBehind "FROM" back ++
        (target back ++ '.' :: physicalName.toList ++ (behindTarget back ++ rest)) := by
    simp [qualifiedFrom]
  rw [target, hqualified, hparts, (takeWhile_append_stop hname hrest).1]

theorem lastPart_append_dot {name part : List Char} (h : '.' ∉ part) :
    Store.lastPart (name ++ '.' :: part) = part := by
  have hpart : ∀ c ∈ part.reverse, (c != '.') = true := by
    intro c hc
    simp only [bne_iff_ne, ne_eq]
    rintro rfl
    exact h (List.mem_reverse.1 hc)
  have hdot : ∀ c, ('.' :: name.reverse).head? = some c → (c != '.') = false := by simp
  have hstop := (takeWhile_append_stop hpart hdot).1
  simp [Store.lastPart, hstop]

/-- A text whose first `FROM` is the qualified one reads the physical table. -/
theorem tableOf_qualified {other : List Char} (h : Starts "FROM" front back)
    (hne : target back ≠ []) (hphysical : ∀ c ∈ physicalName.toList, isWordChar c = true)
    (hphysicalNe : physicalName.toList ≠ [])
    (hrest : ∀ c, (behindTarget back ++ rest).head? = some c → isNameChar c = false)
    (hfirst : First "FROM" other (qualifiedFrom back physicalName ++ rest)) :
    Store.tableOf (String.ofList (other ++ (qualifiedFrom back physicalName ++ rest))) =
      .ok (Store.keyOf physicalName) := by
  have hdot : '.' ∉ physicalName.toList := fun hmem => absurd (hphysical _ hmem) (by decide)
  rw [Store.tableOf_eq_ok_iff hfirst, target_qualifiedFrom h hne hphysical hrest,
    lastPart_append_dot hdot]
  exact ⟨hphysicalNe, by rw [String.ofList_toList]⟩

/-- Behind the name of a statement that has a predicate, the head goes on: `WHERE` does not stand
directly behind an identifier. -/
theorem behindTarget_ne_nil {head predicate : List Char} {name : String}
    (hwhere : First "WHERE" head predicate) (hhead : Unicode.upperChars head = front ++ back)
    (hne : target back ≠ []) (htarget : target back = Unicode.upperChars name.toList)
    (hname : name.toList.getLast? ≠ some '.') : behindTarget back ≠ [] := by
  intro hnil
  have hback : front ++ back =
      front ++ wordOf "FROM" back ++ blanksBehind "FROM" back ++ target back := by
    rw [append_eq_parts "FROM" front back, restBehind_eq, hnil, List.append_nil]
  obtain ⟨d, hd⟩ : ∃ d, (target back).getLast? = some d :=
    ⟨_, List.getLast?_eq_some_getLast hne⟩
  have hlast : (Unicode.upperChars head).getLast? = some d := by
    rw [hhead, hback, List.getLast?_append, hd, Option.some_or]
  have hheadNe : head ≠ [] := by
    rintro rfl
    cases hlast
  have hend := hwhere.starts.left
  rw [List.getLast?_eq_some_getLast hheadNe, boundary_some] at hend
  have hsame := Unicode.getLast?_upperChars (List.getLast?_eq_some_getLast hheadNe) hend
  rw [hlast, Option.some.injEq] at hsame
  have hword : isWordChar d = false := hsame ▸ hend
  have hdot : d = '.' := by
    have hmem : isNameChar d = true := of_mem_takeWhile (List.mem_of_getLast? hd)
    simpa [isNameChar, hword] using hmem
  subst hdot
  rw [htarget] at hd
  exact hname (Unicode.getLast?_of_upperChars hd hword)

end Adapter

/-! ## The key column between `SELECT` and `FROM` -/

/-- A text whose first `SELECT` comes before its first `FROM`: it consists of what comes before the
`SELECT`, this word, the blanks behind it, the select list and what comes from the `FROM` on. -/
structure Heading (before word blanks list back : List Char) : Prop where
  select : First "SELECT" before (word ++ blanks ++ list ++ back)
  fromWord : First "FROM" (before ++ word ++ blanks ++ list) back
  length_word : word.length = 6
  isBlank_of_mem : ∀ c ∈ blanks, isBlank c = true
  isBlank_head : ∀ c, (list ++ back).head? = some c → isBlank c = false

namespace Text

/-- Of two words in a text, the one at the smaller offset comes first. -/
theorem exists_between {front back before selected : List Char}
    (htext : front ++ back = before ++ selected)
    (hlt : (Utf8.bytes before).length < (Utf8.bytes front).length) :
    ∃ between, front = before ++ between ∧ selected = between ++ back ∧ between ≠ [] := by
  obtain ⟨between, hbefore, hback⟩ | ⟨between, hfront, hselected⟩ :=
    List.append_eq_append_iff.1 htext
  · rw [hbefore, Utf8.bytes_append, List.length_append] at hlt
    omega
  · refine ⟨between, hfront, hselected, ?_⟩
    rintro rfl
    simp [hfront] at hlt

/-- Two keywords do not overlap. -/
theorem length_lt_of_starts {first second : String} (hk : IsKeyword first)
    {before between back : List Char} (hfirst : Starts first before (between ++ back))
    (hsecond : Starts second (before ++ between) back) (hne : between ≠ []) :
    first.toList.length < between.length := by
  refine Nat.lt_of_not_le fun hle => ?_
  have hlast := List.getLast_mem hne
  have hplain : isPlain (between.getLast hne) = true := by
    refine hfirst.spells.isPlain hk.plain _ ?_
    rw [List.take_append, List.take_of_length_le hle]
    exact List.mem_append_left _ hlast
  have hleft := hsecond.left
  rw [List.getLast?_append, List.getLast?_eq_some_getLast hne, Option.some_or,
    boundary_some] at hleft
  simp [isWordChar, hplain] at hleft

/-- A keyword does not start with a blank. -/
theorem Starts.isBlank_head {keyword : String} {front back : List Char} (hk : IsKeyword keyword)
    (h : Starts keyword front back) {c : Char} (hc : back.head? = some c) : isBlank c = false := by
  obtain ⟨k, ks, hks⟩ := List.exists_cons_of_ne_nil hk.ne_nil
  obtain ⟨cs, rfl⟩ := List.head?_eq_some_iff.1 hc
  have hplain : isPlain c = true := by
    refine h.spells.isPlain hk.plain c ?_
    rw [hks, List.length_cons, List.take_succ_cons]
    exact List.mem_cons_self
  have hfact : isPlain c = true → isBlank c = false :=
    of_ascii (p := fun c => isPlain c = true → isBlank c = false) (by decide) c
      (toNat_lt_of_isPlain hplain)
  exact hfact hplain

/-- A text without quotes leaves what is known about quotes as it is. -/
theorem after_append_of_no_quote {front cs : List Char}
    (hfront : Quoting.after (Utf8.bytes front) = .outside)
    (hcs : ∀ c ∈ cs, c ≠ '\'' ∧ c ≠ '"') :
    Quoting.after (Utf8.bytes (front ++ cs)) = .outside := by
  rw [Utf8.bytes_append, Quoting.after_append, hfront]
  induction cs with
  | nil => rfl
  | cons c cs ih =>
    obtain ⟨hc, hcs⟩ := List.forall_mem_cons.1 hcs
    rw [Utf8.bytes_cons, List.foldl_append]
    have hstep : (String.utf8EncodeChar c).foldl Quoting.step .outside = .outside := by
      by_cases hascii : c.toNat < 0x80
      · rw [utf8EncodeChar_of_ascii hascii]
        exact of_ascii (p := fun c => c ≠ '\'' ∧ c ≠ '"' →
          [UInt8.ofNat c.toNat].foldl Quoting.step .outside = .outside) (by decide) c hascii hc
      · exact Quoting.foldl_step_of_wide _ fun b =>
          le_of_mem_utf8EncodeChar (Nat.le_of_not_lt hascii)
    rw [hstep, ih hcs]

end Text

namespace Heading

variable {before word blanks list back key : List Char}

/-- A text with a `SELECT` before its first `FROM` has a heading. -/
theorem of_first {front selected : List Char} (hfrom : First "FROM" front back)
    (hselect : First "SELECT" before selected) (htext : front ++ back = before ++ selected)
    (hlt : (Utf8.bytes before).length < (Utf8.bytes front).length) :
    ∃ word blanks list, front = before ++ word ++ blanks ++ list ∧
      Heading before word blanks list back := by
  obtain ⟨between, rfl, rfl, hne⟩ := exists_between htext hlt
  have hlength : 6 < between.length :=
    length_lt_of_starts isKeyword_select hselect.starts hfrom.starts hne
  have hparts := append_eq_parts "SELECT" [] between
  simp only [List.nil_append] at hparts
  refine ⟨wordOf "SELECT" between, blanksBehind "SELECT" between, restBehind "SELECT" between,
    ?_, ?_⟩
  · exact append_eq_parts "SELECT" before between
  · refine ⟨hparts ▸ hselect, ?_, ?_, fun _ => isBlank_of_mem_blanksBehind, ?_⟩
    · rw [← append_eq_parts "SELECT" before between]
      exact hfrom
    · exact List.length_take_of_le (Nat.le_of_lt hlength)
    · intro c hc
      cases hlist : restBehind "SELECT" between with
      | nil =>
        rw [hlist, List.nil_append] at hc
        exact hfrom.starts.isBlank_head isKeyword_from hc
      | cons d ds =>
        refine isBlank_head?_restBehind "SELECT" between ?_
        simpa [hlist] using hc

theorem length_lt (h : Heading before word blanks list back) :
    6 < (word ++ blanks ++ list).length := by
  have hne : word ++ blanks ++ list ≠ [] := by
    intro hnil
    have hlength := congrArg List.length hnil
    simp only [List.length_append, h.length_word, List.length_nil] at hlength
    omega
  exact length_lt_of_starts isKeyword_select h.select.starts
    (by simpa only [List.append_assoc] using h.fromWord.starts) hne

/-- A heading is kept when the text changes behind its `FROM`. -/
theorem congr_back {other : List Char} (h : Heading before word blanks list back)
    (hback : back.take 5 = other.take 5) : Heading before word blanks list other := by
  have hfrom : First "FROM" (before ++ word ++ blanks ++ list) other := h.fromWord.congr_back hback
  refine ⟨h.select.congr_back ?_, hfrom, h.length_word, h.isBlank_of_mem, ?_⟩
  · have hlength : "SELECT".toList.length + 1 ≤ (word ++ blanks ++ list).length := h.length_lt
    rw [List.take_append_of_le_length hlength, List.take_append_of_le_length hlength]
  · intro c hc
    cases list with
    | nil => exact hfrom.starts.isBlank_head isKeyword_from hc
    | cons d ds => exact h.isBlank_head c hc

/-- The heading of a text is cut as it was put together. -/
theorem parts (h : Heading before word blanks list back) :
    wordOf "SELECT" (word ++ blanks ++ list ++ back) = word ∧
      blanksBehind "SELECT" (word ++ blanks ++ list ++ back) = blanks ∧
      restBehind "SELECT" (word ++ blanks ++ list ++ back) = list ++ back := by
  rw [List.append_assoc (word ++ blanks)]
  exact parts_of_append h.length_word h.isBlank_of_mem h.isBlank_head

theorem alike_word (h : Heading before word blanks list back) : Alike word "SELECT".toList := by
  have hspells := h.select.starts.spells
  have htake : (word ++ blanks ++ list ++ back).take "SELECT".toList.length = word := h.parts.1
  rwa [htake] at hspells

/-- Neither the key column nor what comes before it ends or begins quotes. -/
theorem outside_key (h : Heading before word blanks list back)
    (hkey : ∀ k ∈ key, isPlain k = true) :
    Quoting.after (Utf8.bytes (before ++ word ++ blanks)) = .outside ∧
      Quoting.after (Utf8.bytes (before ++ word ++ blanks ++ key ++ [',', ' '])) = .outside := by
  have hplain : ∀ c : Char, isPlain c = true → c ≠ '\'' ∧ c ≠ '"' := by
    intro c hc
    constructor <;> rintro rfl <;> revert hc <;> decide
  have hblank : ∀ c : Char, isBlank c = true → c ≠ '\'' ∧ c ≠ '"' := by
    intro c hc
    constructor <;> rintro rfl <;> revert hc <;> decide
  have hword := after_append_of_no_quote h.select.starts.outside fun c hc =>
    hplain c (h.alike_word.isPlain isKeyword_select.plain c hc)
  have hblanks := after_append_of_no_quote hword fun c hc => hblank c (h.isBlank_of_mem c hc)
  refine ⟨hblanks, ?_⟩
  have hkeyed := after_append_of_no_quote hblanks fun c hc => hplain c (hkey c hc)
  exact after_append_of_no_quote hkeyed (by simp)

/-- No `FROM` stands up to the end of the key column. -/
theorem clear_key (h : Heading before word blanks list back) (hkey : ∀ k ∈ key, isPlain k = true)
    (hne : ¬ Alike key "FROM".toList) :
    Clear "FROM" [] (before ++ word ++ blanks ++ key ++ [',', ' ']) (list ++ back) := by
  have hfrom : "FROM".toList = 'F' :: ['R', 'O', 'M'] := rfl
  simp only [clear_append]
  refine ⟨⟨⟨⟨?_, ?_⟩, ?_⟩, ?_⟩, ?_⟩
  · -- The select list does not matter for what stands before the `SELECT`.
    have hclear := h.fromWord.clear
    rw [List.append_assoc, List.append_assoc, clear_append] at hclear
    refine hclear.1.congr_back ?_
    have hlength : "FROM".toList.length ≤ word.length := by
      rw [h.length_word]
      decide
    simp only [List.append_assoc, List.take_append_of_le_length hlength]
  · refine clear_of_forall_ne hfrom fun c hc => ?_
    have hmem : c.toLower ∈ "SELECT".toList.map Char.toLower :=
      h.alike_word ▸ List.mem_map_of_mem hc
    intro heq
    rw [heq] at hmem
    revert hmem
    decide
  · refine clear_of_forall_ne hfrom fun c hc => ?_
    have hblank := h.isBlank_of_mem c hc
    by_cases hascii : c.toNat < 0x80
    · exact of_ascii (p := fun c => isBlank c = true → c.toLower ≠ 'F'.toLower) (by decide) c hascii
        hblank
    · rw [toLower_of_wide (Nat.le_of_not_lt hascii)]
      rintro rfl
      exact hascii (by decide)
  · exact clear_of_word isKeyword_from (fun c hc => by simp [isWordChar, hkey c hc])
      (by simp [isWordChar, isPlain, Char.isAlphanum]) hne
  · refine clear_of_forall_ne hfrom fun c hc => ?_
    simp only [List.mem_cons, List.not_mem_nil, or_false] at hc
    obtain rfl | rfl := hc <;> decide

/-- The select list does not start with a `FROM` in the text without the key column. -/
theorem clear_list (h : Heading before word blanks list back) :
    Clear "FROM" (before ++ word ++ blanks) list back :=
  (clear_append.1 h.fromWord.clear).2

/-- The first `FROM` is found behind the key column, unless the select list starts with one. -/
theorem first_keyed (h : Heading before word blanks list back)
    (hkey : ∀ k ∈ key, isPlain k = true) (hne : ¬ Alike key "FROM".toList)
    (hlist : list ≠ [] →
      ¬ Starts "FROM" (before ++ word ++ blanks ++ key ++ [',', ' ']) (list ++ back)) :
    First "FROM" (before ++ word ++ blanks ++ key ++ [',', ' '] ++ list) back where
  starts := by
    obtain ⟨hplain, hkeyed⟩ := h.outside_key hkey
    have hstarts := h.fromWord.starts
    by_cases hnil : list = []
    · subst hnil
      rw [List.append_nil] at hstarts ⊢
      exact ⟨hkeyed, by simp [isWordChar, isPlain, Char.isAlphanum], hstarts.spells, hstarts.right⟩
    · refine hstarts.congr_front ?_ ?_
      · simp only [Utf8.bytes_append _ list, Quoting.after_append, hplain, hkeyed]
      · have hlast : ∀ front, (front ++ list).getLast? = some (list.getLast hnil) := by
          intro front
          rw [List.getLast?_append, List.getLast?_eq_some_getLast hnil, Option.some_or]
        rw [hlast, hlast]
  clear := by
    obtain ⟨hplain, hkeyed⟩ := h.outside_key hkey
    exact clear_append.2
      ⟨h.clear_key hkey hne, h.clear_list.congr_front (hplain.trans hkeyed.symm) hlist⟩

/-- The select list starts with a `FROM` behind the key column if and only if a blank beyond ASCII
hid this word. -/
theorem starts_keyed_iff (h : Heading before word blanks list back)
    (hkey : ∀ k ∈ key, isPlain k = true) :
    (list ≠ [] ∧ Starts "FROM" (before ++ word ++ blanks ++ key ++ [',', ' ']) (list ++ back)) ↔
      (∃ c, blanks.getLast? = some c ∧ 0x80 ≤ c.toNat) ∧ Starts "FROM" [] (list ++ back) := by
  obtain ⟨hplain, hkeyed⟩ := h.outside_key hkey
  constructor
  · rintro ⟨hne, hstarts⟩
    refine ⟨?_, ⟨rfl, boundary_none, hstarts.spells, hstarts.right⟩⟩
    obtain ⟨c, cs, hc⟩ := List.exists_cons_of_ne_nil hne
    obtain rfl | ⟨front, b, rfl⟩ := List.eq_nil_or_concat blanks
    · -- Right behind the `SELECT` no word starts.
      have hright := h.select.starts.right
      have hfirst : (word ++ [] ++ list ++ back)["SELECT".toList.length]? = some c := by
        have hsix : word.length = "SELECT".toList.length := h.length_word
        rw [List.append_nil, List.append_assoc, ← hsix, List.getElem?_append_right (Nat.le_refl _),
          Nat.sub_self, hc]
        rfl
      rw [hfirst, boundary_some] at hright
      have hhead : isPlain c = true := by
        refine hstarts.spells.isPlain isKeyword_from.plain c ?_
        simp [hc]
      simp [isWordChar, hhead] at hright
    · refine ⟨b, by simp, ?_⟩
      refine Nat.le_of_not_lt fun hascii => ?_
      -- A blank of ASCII hides no word, so the `FROM` stood there before.
      have hblank : isBlank b = true := h.isBlank_of_mem b (by simp)
      have hboundary : isWordChar b = false :=
        of_ascii (p := fun b => isBlank b = true → isWordChar b = false) (by decide) b hascii hblank
      refine h.clear_list [] list rfl hne ⟨?_, ?_, hstarts.spells, hstarts.right⟩
      · rwa [List.append_nil]
      · simp [hboundary]
  · rintro ⟨⟨b, hb, hwide⟩, hstarts⟩
    refine ⟨?_, ⟨hkeyed, by simp [isWordChar, isPlain, Char.isAlphanum], hstarts.spells,
      hstarts.right⟩⟩
    rintro rfl
    have hleft := h.fromWord.starts.left
    simp [List.getLast?_append, hb, isWordChar, hwide] at hleft

/-- A hidden `FROM` is the first one behind the key column. -/
theorem first_hidden (h : Heading before word blanks list back)
    (hkey : ∀ k ∈ key, isPlain k = true) (hne : ¬ Alike key "FROM".toList)
    (hhidden : (∃ c, blanks.getLast? = some c ∧ 0x80 ≤ c.toNat) ∧ Starts "FROM" [] (list ++ back)) :
    First "FROM" (before ++ word ++ blanks ++ key ++ [',', ' ']) (list ++ back) :=
  ⟨((h.starts_keyed_iff hkey).2 hhidden).2, h.clear_key hkey hne⟩

end Heading

/-! ## The whole -/

namespace Adapter

/-- The blanks behind the first `SELECT` of a text hide the word `FROM` that follows them, because
the last one counts as part of an identifier. The text goes on with this word as `rest`. -/
def HidesFrom (text rest : List Char) : Prop :=
  ∃ before selected, text = before ++ selected ∧ First "SELECT" before selected ∧
    rest = restBehind "SELECT" selected ∧
    (∃ c, (blanksBehind "SELECT" selected).getLast? = some c ∧ 0x80 ≤ c.toNat) ∧
    Starts "FROM" [] rest

/-- Adding the key column to a statement sets a hidden `FROM` free that names another table. -/
def Misroutes (a : Adapter) (statement : String) (q : Query) (source : Source) : Prop :=
  a.injects q.projection = true ∧ ∃ text rest,
    a.withoutKey.adapt statement q source = .ok text ∧ HidesFrom text.toList rest ∧
    Store.tableOf (String.ofList rest) ≠ .ok (Store.keyOf source.physicalName)

/-- In the head of a statement, the first `SELECT` comes before the first `FROM`. -/
def SelectFirst (statement : String) (hasWhere : Bool) : Prop :=
  ∀ head predicate, split statement.toList hasWhere = .ok (head, predicate) →
    ∃ i j, keywordOffset (Unicode.upperChars head) "SELECT" = some i ∧
      keywordOffset (Unicode.upperChars head) "FROM" = some j ∧ i < j

/-- A head whose first `SELECT` comes before its first `FROM` has a heading. -/
theorem exists_heading {head predicate : List Char} {hasWhere : Bool}
    (hselect : SelectFirst statement hasWhere)
    (hsplit : split statement.toList hasWhere = .ok (head, predicate))
    (hhead : Unicode.upperChars head = front ++ back) (hfrom : First "FROM" front back) :
    ∃ before word blanks list, front = before ++ word ++ blanks ++ list ∧
      Heading before word blanks list back := by
  obtain ⟨i, j, hi, hj, hlt⟩ := hselect head predicate hsplit
  obtain ⟨before, selected, hselected, hfirst, rfl⟩ := exists_first isKeyword_select hi
  rw [hhead, hfrom.keywordOffset_eq isKeyword_from, Option.some.injEq] at hj
  subst hj
  obtain ⟨word, blanks, list, hfront, heading⟩ :=
    Heading.of_first hfrom hfirst (hhead.symm.trans hselected) hlt
  exact ⟨before, word, blanks, list, hfront, heading⟩

/-- A text with a heading hides what its select list starts with. -/
theorem hidesFrom_iff {before word blanks list back rest : List Char}
    (h : Heading before word blanks list back) :
    HidesFrom (before ++ (word ++ blanks ++ list ++ back)) rest ↔ rest = list ++ back ∧
      (∃ c, blanks.getLast? = some c ∧ 0x80 ≤ c.toNat) ∧ Starts "FROM" [] (list ++ back) := by
  obtain ⟨-, hblanks, hrest⟩ := h.parts
  constructor
  · rintro ⟨before', selected, htext, hfirst, rfl, hwide, hstarts⟩
    obtain ⟨rfl, rfl⟩ := h.select.unique isKeyword_select hfirst htext
    rw [hblanks] at hwide
    rw [hrest] at hstarts
    exact ⟨hrest, hwide, hstarts⟩
  · rintro ⟨rfl, hwide, hstarts⟩
    exact ⟨before, _, rfl, h.select, hrest.symm, hblanks.symm ▸ hwide, hstarts⟩

variable {a : Adapter} {statement text : String} {q : Query} {source : Source}

/-- Behind the name in a head stands no other part of a name. -/
theorem isNameChar_head_tail {head predicate front back : List Char} {name : String}
    (hsplit : split statement.toList q.hasWhere = .ok (head, predicate))
    (hhead : Unicode.upperChars head = front ++ back) (hne : target back ≠ [])
    (htarget : target back = Unicode.upperChars name.toList)
    (hname : name.toList.getLast? ≠ some '.') {c : Char}
    (hc : (behindTarget back ++ a.tail q.hasWhere predicate).head? = some c) :
    isNameChar c = false := by
  have hbehind : (behindTarget back).head? = some c := by
    obtain ⟨-, hpredicate⟩ := split_eq hsplit
    cases hwhere : q.hasWhere with
    | false => simpa [tail, hwhere] using hc
    | true =>
      rw [hwhere, if_pos rfl] at hpredicate
      have hbehindNe := behindTarget_ne_nil hpredicate hhead hne htarget hname
      obtain ⟨d, ds, hd⟩ := List.exists_cons_of_ne_nil hbehindNe
      simpa [hd] using hc
  exact head?_dropWhile_eq_false hbehind

/-- The key column is put behind the heading of a text. -/
theorem inject_heading {before word blanks list back : List Char}
    (h : Heading before word blanks list back) :
    a.inject (before ++ (word ++ blanks ++ list ++ back)) =
      .ok (before ++ word ++ blanks ++ a.keyColumn.toList ++ [',', ' '] ++ (list ++ back)) := by
  obtain ⟨hword, hblanks, hlist⟩ := h.parts
  rw [inject_of_first h.select, hword, hblanks, hlist]

/-- A statement is misrouted if its heading hides a `FROM` that names another table. -/
theorem misroutes_iff {before word blanks list back : List Char}
    (h : Heading before word blanks list back) (hinjects : a.injects q.projection = true)
    (htext : a.withoutKey.adapt statement q source =
      .ok (String.ofList (before ++ (word ++ blanks ++ list ++ back)))) :
    a.Misroutes statement q source ↔
      ((∃ c, blanks.getLast? = some c ∧ 0x80 ≤ c.toNat) ∧ Starts "FROM" [] (list ++ back)) ∧
      Store.tableOf (String.ofList (list ++ back)) ≠ .ok (Store.keyOf source.physicalName) := by
  constructor
  · rintro ⟨-, other, rest, hother, hhides, hmisses⟩
    rw [htext, Except.ok.injEq] at hother
    subst hother
    rw [String.toList_ofList, hidesFrom_iff h] at hhides
    obtain ⟨rfl, hhidden⟩ := hhides
    exact ⟨hhidden, hmisses⟩
  · rintro ⟨hhidden, hmisses⟩
    refine ⟨hinjects, _, _, htext, ?_, hmisses⟩
    rw [String.toList_ofList, hidesFrom_iff h]
    exact ⟨rfl, hhidden⟩

/-- An adapted text that has no key column reads the physical table. With a key column, it has a
heading and reads the physical table from its `FROM` on. -/
theorem adapt_heading (hphysical : ∀ c ∈ source.physicalName.toList, isWordChar c = true)
    (hphysicalNe : source.physicalName.toList ≠ [])
    (hdot : ∀ clause, q.source = .ok clause → clause.source.toList.getLast? ≠ some '.')
    (hselect : a.injects q.projection = true → SelectFirst statement q.hasWhere)
    (h : a.adapt statement q source = .ok text) :
    (a.injects q.projection = false ∧
      Store.tableOf text = .ok (Store.keyOf source.physicalName)) ∨
    (a.injects q.projection = true ∧ ∃ before word blanks list back,
      Heading before word blanks list back ∧
      a.withoutKey.adapt statement q source =
        .ok (String.ofList (before ++ (word ++ blanks ++ list ++ back))) ∧
      text = String.ofList
        (before ++ word ++ blanks ++ a.keyColumn.toList ++ [',', ' '] ++ (list ++ back)) ∧
      Store.tableOf (String.ofList back) = .ok (Store.keyOf source.physicalName)) := by
  obtain ⟨clause, head, predicate, qualified, keyed, hclause, hsplit, hqualified, hkeyed, rfl⟩ :=
    adapt_eq_ok_iff.1 h
  have hplain := adapt_withoutKey (a := a) hclause hsplit hqualified
  obtain ⟨front, back, hhead, hfrom, hne, htarget, rfl⟩ := qualify_eq hqualified
  have hrest : ∀ c, (behindTarget back ++ a.tail q.hasWhere predicate).head? = some c →
      isNameChar c = false := fun c hc =>
    isNameChar_head_tail hsplit hhead hne htarget (hdot clause hclause) hc
  have htake := take_qualifiedFrom source.physicalName hfrom.starts hne
  have hfirst := hfrom.congr_back (htake (a.tail q.hasWhere predicate))
  have hreads := tableOf_qualified hfrom.starts hne hphysical hphysicalNe hrest hfirst
  cases hinjects : a.injects q.projection with
  | false =>
    simp only [hinjects] at hkeyed
    cases hkeyed
    rw [List.append_assoc]
    exact .inl ⟨rfl, hreads⟩
  | true =>
    simp only [hinjects, if_true] at hkeyed
    obtain ⟨before, word, blanks, list, rfl, heading⟩ :=
      exists_heading (hselect hinjects) hsplit hhead hfrom
    -- The heading is the same in the qualified head and in the whole text.
    have hqualifiedHeading := heading.congr_back (by simpa using htake [])
    have htextHeading := heading.congr_back (htake (a.tail q.hasWhere predicate))
    have hinject := inject_heading (a := a) hqualifiedHeading
    simp only [List.append_assoc] at hkeyed hinject
    rw [hinject, Except.ok.injEq] at hkeyed
    refine .inr ⟨rfl, before, word, blanks, list, _, htextHeading, ?_, ?_,
      (Store.tableOf_append hfirst).1 hreads⟩
    · rw [hplain]
      simp only [List.append_assoc]
    · rw [← hkeyed]
      simp only [List.append_assoc]

/-- An adapted text reads the physical table of its source, unless the key column sets a hidden
`FROM` free that names another one. -/
theorem tableOf_adapt_iff (hkey : ∀ k ∈ a.keyColumn.toList, isPlain k = true)
    (hkeyNe : ¬ Alike a.keyColumn.toList "FROM".toList)
    (hphysical : ∀ c ∈ source.physicalName.toList, isWordChar c = true)
    (hphysicalNe : source.physicalName.toList ≠ [])
    (hdot : ∀ clause, q.source = .ok clause → clause.source.toList.getLast? ≠ some '.')
    (hselect : a.injects q.projection = true → SelectFirst statement q.hasWhere)
    (h : a.adapt statement q source = .ok text) :
    Store.tableOf text = .ok (Store.keyOf source.physicalName) ↔
      ¬ a.Misroutes statement q source := by
  obtain ⟨hinjects, hreads⟩ | ⟨hinjects, before, word, blanks, list, back, heading, hplain, rfl,
    hreads⟩ := adapt_heading hphysical hphysicalNe hdot hselect h
  · refine iff_of_true hreads fun hmis => ?_
    rw [hmis.1] at hinjects
    cases hinjects
  · rw [misroutes_iff heading hinjects hplain]
    by_cases hhidden : (∃ c, blanks.getLast? = some c ∧ 0x80 ≤ c.toNat) ∧
        Starts "FROM" [] (list ++ back)
    · rw [Store.tableOf_append (heading.first_hidden hkey hkeyNe hhidden)]
      simp [hhidden]
    · have hkept := heading.first_keyed hkey hkeyNe fun hlistNe hstarts =>
        hhidden ((heading.starts_keyed_iff hkey).1 ⟨hlistNe, hstarts⟩)
      have htable := (Store.tableOf_append hkept).2 hreads
      rw [List.append_assoc _ list] at htable
      exact iff_of_true htable fun hboth => hhidden hboth.1

end Adapter

end MatView

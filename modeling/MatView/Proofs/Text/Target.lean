import MatView.Proofs.Text.Words
import MatView.Store.Basic

/-!
# What follows a keyword

Behind a keyword come blanks and then the rest of the text. Behind the first `FROM`, the rest starts
with the name of the table that the text reads.

## Main definitions

* `wordOf`, `blanksBehind`, `restBehind`: the parts of a text that starts with a keyword.
* `target`: the name behind `FROM`.

## Main statements

* `fromSpan_eq`: the stretch of the name behind the first `FROM`.
* `Store.tableOf_eq_ok_iff`: the table that a text reads depends on its part from `FROM` on.
-/

namespace MatView

namespace Text

/-! ## Stretches of characters -/

section

variable {α : Type} {p : α → Bool} {front rest cs : List α} {c : α}

theorem takeWhile_append_stop (hfront : ∀ c ∈ front, p c = true)
    (hrest : ∀ c, rest.head? = some c → p c = false) :
    (front ++ rest).takeWhile p = front ∧ (front ++ rest).dropWhile p = rest := by
  rw [List.takeWhile_append_of_pos hfront, List.dropWhile_append_of_pos hfront]
  cases rest with
  | nil => simp
  | cons c rest => simp [hrest c rfl]

theorem of_mem_takeWhile (h : c ∈ cs.takeWhile p) : p c = true :=
  List.all_eq_true.1 List.all_takeWhile c h

theorem head?_dropWhile_eq_false (h : (cs.dropWhile p).head? = some c) : p c = false := by
  have hne : cs.dropWhile p ≠ [] := by
    intro hnil
    rw [hnil] at h
    cases h
  have hhead := List.head_dropWhile_not p hne
  rw [List.head?_eq_some_head hne, Option.some.injEq] at h
  rwa [h] at hhead

theorem of_takeWhile_append (h : (front ++ rest).takeWhile p = front) :
    (∀ c ∈ front, p c = true) ∧ (front ++ rest).dropWhile p = rest ∧
      ∀ c, rest.head? = some c → p c = false := by
  have hdrop : (front ++ rest).dropWhile p = rest := by
    have hboth := List.takeWhile_append_dropWhile (p := p) (l := front ++ rest)
    rw [h] at hboth
    exact List.append_cancel_left hboth
  refine ⟨fun c hc => of_mem_takeWhile (h.symm ▸ hc), hdrop, fun c hc => ?_⟩
  rw [← hdrop] at hc
  exact head?_dropWhile_eq_false hc

end

variable {keyword : String} {front back : List Char}

/-! ## Cutting behind a keyword -/

/-- The keyword that a text starts with, as it is spelled there. -/
def wordOf (keyword : String) (back : List Char) : List Char :=
  back.take keyword.toList.length

/-- The blanks behind the keyword that a text starts with. -/
def blanksBehind (keyword : String) (back : List Char) : List Char :=
  (back.drop keyword.toList.length).takeWhile Unicode.isBlank

/-- What comes behind the keyword that a text starts with, from the first character that is no blank. -/
def restBehind (keyword : String) (back : List Char) : List Char :=
  (back.drop keyword.toList.length).dropWhile Unicode.isBlank

/-- The three parts make up the text. -/
theorem append_eq_parts (keyword : String) (front back : List Char) :
    front ++ back =
      front ++ wordOf keyword back ++ blanksBehind keyword back ++ restBehind keyword back := by
  simp only [wordOf, blanksBehind, restBehind, List.append_assoc, List.takeWhile_append_dropWhile,
    List.take_append_drop]

theorem Starts.length_wordOf (h : Starts keyword front back) :
    (wordOf keyword back).length = keyword.toList.length :=
  h.spells.length_eq

theorem Starts.length_bytes_wordOf (hk : IsKeyword keyword) (h : Starts keyword front back) :
    (Utf8.bytes (wordOf keyword back)).length = keyword.toList.length := by
  rw [wordOf, length_bytes_of_plain (h.spells.isPlain hk.plain)]
  exact h.length_wordOf

/-- The place behind a keyword and its blanks. -/
theorem behindKeyword_eq (hk : IsKeyword keyword) (h : Starts keyword front back) :
    behindKeyword (front ++ back) keyword (Utf8.bytes front).length =
      (Utf8.bytes (front ++ wordOf keyword back ++ blanksBehind keyword back)).length := by
  have hword := h.length_bytes_wordOf hk
  have hafter : (Utf8.bytes front).length + (Utf8.ofString keyword).length =
      (Utf8.bytes (front ++ wordOf keyword back)).length := by
    rw [Utf8.ofString, length_bytes_of_plain hk.plain, Utf8.bytes_append, List.length_append, hword]
  have hdrop : dropBytes (Utf8.bytes (front ++ wordOf keyword back)).length (front ++ back) =
      back.drop keyword.toList.length := by
    have hback : front ++ back =
        (front ++ wordOf keyword back) ++ back.drop keyword.toList.length := by
      simp [wordOf]
    rw [hback, dropBytes_append]
  rw [behindKeyword, hafter, hdrop, leadingBlanks, blanksBehind,
    Utf8.bytes_append _ (List.takeWhile _ _), List.length_append]

/-- In front of the place behind a keyword and its blanks is a blank, or no identifier goes on behind
it. -/
theorem Starts.cut_behind (h : Starts keyword front back) :
    (∀ d, (front ++ wordOf keyword back ++ blanksBehind keyword back).getLast? = some d →
      Unicode.isBlank d = true) ∨ Boundary (restBehind keyword back).head? := by
  by_cases hblanks : blanksBehind keyword back = []
  · right
    have hrest : restBehind keyword back = back.drop keyword.toList.length := by
      have hparts : blanksBehind keyword back ++ restBehind keyword back =
          back.drop keyword.toList.length := List.takeWhile_append_dropWhile
      rwa [hblanks, List.nil_append] at hparts
    rw [hrest, List.head?_drop]
    exact h.right
  · left
    intro d hd
    rw [List.getLast?_append, List.getLast?_eq_some_getLast hblanks] at hd
    cases hd
    exact of_mem_takeWhile (List.getLast_mem hblanks)

/-! ## The name behind `FROM` -/

/-- Whether a character may belong to a name, with its dots. -/
def isNameChar (c : Char) : Bool :=
  isWordChar c || c == '.'

/-- The name that follows the word `FROM` at the start of a text. -/
def target (back : List Char) : List Char :=
  (restBehind "FROM" back).takeWhile isNameChar

/-- What comes behind the name that follows the word `FROM` at the start of a text. -/
def behindTarget (back : List Char) : List Char :=
  (restBehind "FROM" back).dropWhile isNameChar

theorem restBehind_eq (back : List Char) :
    restBehind "FROM" back = target back ++ behindTarget back :=
  List.takeWhile_append_dropWhile.symm

/-- The bytes of a name are those of its characters. -/
theorem identifierLength_eq (cs : List Char) :
    identifierLength (Utf8.bytes cs) = (Utf8.bytes (cs.takeWhile isNameChar)).length := by
  unfold identifierLength
  congr 1
  induction cs with
  | nil => rfl
  | cons c cs ih =>
    by_cases hc : c.toNat < 0x80
    · have hname : ∀ d : Char, d.toNat < 0x80 →
          (isWordByte (UInt8.ofNat d.toNat) || UInt8.ofNat d.toNat == 0x2E) = isNameChar d :=
        of_ascii (by decide)
      rw [Utf8.bytes_cons, utf8EncodeChar_of_ascii hc, List.singleton_append, List.takeWhile_cons,
        hname c hc, ih, List.takeWhile_cons]
      split <;> simp [utf8EncodeChar_of_ascii hc]
    · have hwide : 0x80 ≤ c.toNat := Nat.le_of_not_lt hc
      have hname : isNameChar c = true := by simp [isNameChar, isWordChar, hwide]
      have hbytes : ∀ b ∈ String.utf8EncodeChar c, (isWordByte b || b == 0x2E) = true := by
        intro b hb
        simp [isWordByte_of_wide (le_of_mem_utf8EncodeChar hwide hb)]
      rw [Utf8.bytes_cons, List.takeWhile_append_of_pos hbytes, ih, List.takeWhile_cons_of_pos hname,
        Utf8.bytes_cons]

/-- The stretch of the name behind the first `FROM`. -/
theorem fromSpan_eq (h : First "FROM" front back) :
    fromSpan (front ++ back) =
      some ⟨(Utf8.bytes (front ++ wordOf "FROM" back ++ blanksBehind "FROM" back)).length,
        (Utf8.bytes (target back)).length⟩ := by
  have hdrop : dropBytes (Utf8.bytes
      (front ++ wordOf "FROM" back ++ blanksBehind "FROM" back)).length (front ++ back) =
        restBehind "FROM" back := by
    rw [append_eq_parts "FROM" front back, dropBytes_append]
  rw [fromSpan, h.keywordOffset_eq isKeyword_from]
  simp only [Option.map_some, behindKeyword_eq isKeyword_from h.starts, hdrop, identifierLength_eq]
  rfl

/-- The characters of that stretch. -/
theorem slice_fromSpan (front back : List Char) :
    Span.slice ⟨(Utf8.bytes (front ++ wordOf "FROM" back ++ blanksBehind "FROM" back)).length,
      (Utf8.bytes (target back)).length⟩ (front ++ back) = target back := by
  rw [Span.slice, append_eq_parts "FROM" front back, dropBytes_append, restBehind_eq,
    takeBytes_append]

end Text

namespace Store

open Text

/-- The table that a text reads is the last part of the name behind its first `FROM`. -/
theorem tableOf_eq_ok_iff {front back : List Char} (h : First "FROM" front back) {table : String} :
    tableOf (String.ofList (front ++ back)) = .ok table ↔
      lastPart (target back) ≠ [] ∧ keyOf (String.ofList (lastPart (target back))) = table := by
  simp only [tableOf, String.toList_ofList, fromSpan_eq h, slice_fromSpan]
  split <;> simp_all

/-- What comes before the first `FROM` of a text does not matter for the table that it reads. -/
theorem tableOf_append {front back : List Char} (h : First "FROM" front back) {table : String} :
    tableOf (String.ofList (front ++ back)) = .ok table ↔
      tableOf (String.ofList back) = .ok table := by
  rw [tableOf_eq_ok_iff h, ← tableOf_eq_ok_iff (first_of_starts_nil h.starts_nil), List.nil_append]

end Store

end MatView

import Mathlib.Data.Rat.Floor
import Mathlib.Tactic.Linarith
import Mathlib.Tactic.NormNum
import Mathlib.Tactic.SplitIfs
import MatView.Store.CellValue

/-!
# Timestamps as milliseconds

Timestamps are counted in four units. Each of them stands for an exact time, a rational number of
seconds before or after 1970, and its value is this time in milliseconds, cut off toward zero. The
cut keeps the order of times and moves none of them by a millisecond, so timestamps of all units lie
on one line. Seconds are the only unit that may be too coarse for 64 bits: they are refused then, and
never wrapped around.

## Main definitions

* `TimeUnit.instant`: the exact time of a timestamp.
* `towardZero`: a rational number without its fraction.
* `FitsMillis`: seconds whose milliseconds fit in 64 bits.

## Main statements

* `towardZero_mono`, `abs_towardZero_sub_lt`: the cut keeps the order, and the number up to one.
* `epochMillis_eq_ok_iff`: which timestamps have a value, and which value they have.
* `ColumnType.timestamps_in_order`: timestamps of all units are read as one line of milliseconds.
-/

namespace MatView

/-! ## Cutting off toward zero -/

/-- A rational number without its fraction. -/
def towardZero (x : ℚ) : Int :=
  if 0 ≤ x then ⌊x⌋ else ⌈x⌉

/-- A larger number has no smaller integer part. -/
theorem towardZero_mono {x y : ℚ} (hxy : x ≤ y) : towardZero x ≤ towardZero y := by
  unfold towardZero
  split_ifs with hx hy hy
  · exact Int.floor_mono hxy
  · exact absurd (hx.trans hxy) hy
  · have hceil : ⌈x⌉ ≤ 0 := Int.ceil_le.2 (by exact_mod_cast (not_le.1 hx).le)
    exact hceil.trans (Int.floor_nonneg.2 hy)
  · exact Int.ceil_mono hxy

/-- The fraction that is cut off is less than one. -/
theorem abs_towardZero_sub_lt (x : ℚ) : |(towardZero x : ℚ) - x| < 1 := by
  unfold towardZero
  rw [abs_lt]
  split_ifs
  · have hlt := Int.sub_one_lt_floor x
    have hle := Int.floor_le x
    constructor <;> linarith
  · have hlt := Int.ceil_lt_add_one x
    have hle := Int.le_ceil x
    constructor <;> linarith

/-- Integer division that is rounded toward zero cuts the quotient off. -/
theorem towardZero_div (a : Int) (n : Nat) : towardZero (a / n) = a.tdiv n := by
  unfold towardZero
  split_ifs with h
  · obtain rfl | hn := n.eq_zero_or_pos
    · simp
    · have ha : 0 ≤ a := by
        rw [le_div_iff₀ (by exact_mod_cast hn), zero_mul] at h
        exact_mod_cast h
      rw [Int.tdiv_eq_ediv_of_nonneg ha, Rat.floor_intCast_div_natCast]
  · have ha : a ≤ 0 := by
      by_contra hpos
      exact h (div_nonneg (by exact_mod_cast (not_le.1 hpos).le) (Nat.cast_nonneg n))
    have hneg := Rat.floor_intCast_div_natCast (-a) n
    rw [Int.cast_neg, neg_div, Int.floor_neg] at hneg
    have htdiv := Int.neg_tdiv a n
    rw [Int.tdiv_eq_ediv_of_nonneg (by omega)] at htdiv
    omega

/-! ## Exact times -/

namespace TimeUnit

/-- The exact time of a timestamp, in seconds since 1970. -/
def instant (unit : TimeUnit) (value : Int64) : ℚ :=
  value.toInt / unit.perSecond

/-- The milliseconds of a timestamp are an integer quotient. -/
theorem towardZero_instant (unit : TimeUnit) (value : Int64) :
    towardZero (unit.instant value * 1000) = (value.toInt * 1000).tdiv unit.perSecond := by
  rw [← towardZero_div, instant, div_mul_eq_mul_div]
  norm_num

end TimeUnit

/-- Seconds whose milliseconds fit in 64 bits. -/
def FitsMillis (seconds : Int64) : Prop :=
  Int64.minValue.toInt ≤ seconds.toInt * 1000 ∧ seconds.toInt * 1000 ≤ Int64.maxValue.toInt

instance : DecidablePred FitsMillis := fun _ => inferInstanceAs (Decidable (_ ∧ _))

/-! ## Values of timestamps -/

variable {unit : TimeUnit} {value millis : Int64} {fault : Error}

/-- A quotient of an integer of 64 bits fits in 64 bits. -/
theorem toInt_ofInt_tdiv (value : Int64) {n : Nat} (hn : 2 ≤ n) :
    (Int64.ofInt (value.toInt.tdiv n)).toInt = value.toInt.tdiv n := by
  have hlo := value.le_toInt
  have hhi := value.toInt_lt
  have habs : (value.toInt.tdiv n).natAbs = value.toInt.natAbs / n := by
    rw [Int.natAbs_tdiv, Int.natAbs_natCast]
    rfl
  have hhalf : value.toInt.natAbs / n ≤ value.toInt.natAbs / 2 := Nat.div_le_div_left hn (by omega)
  exact Int64.toInt_ofInt_of_le (by omega) (by omega)

theorem epochMillis_second (value : Int64) : epochMillis .second value =
    if FitsMillis value then .ok (.ofInt (value.toInt * 1000))
    else .error (.store (.timestampRange value.toInt)) := rfl

/-- Seconds have a value if their milliseconds fit, and it is exact. -/
theorem epochMillis_second_eq_ok_iff :
    epochMillis .second value = .ok millis ↔ FitsMillis value ∧ millis.toInt = value.toInt * 1000 := by
  rw [epochMillis_second]
  split_ifs with hfits
  · have hexact : (Int64.ofInt (value.toInt * 1000)).toInt = value.toInt * 1000 := by
      have hmin : Int64.minValue.toInt = -2 ^ 63 := by decide
      have hmax : Int64.maxValue.toInt = 2 ^ 63 - 1 := by decide
      obtain ⟨hlo, hhi⟩ := hfits
      exact Int64.toInt_ofInt_of_le (by omega) (by omega)
    rw [Except.ok.injEq, ← Int64.toInt_inj, hexact, eq_comm, and_iff_right hfits]
  · simp [hfits]

/-- Seconds are refused if their milliseconds do not fit. The error names them. -/
theorem epochMillis_second_eq_error_iff : epochMillis .second value = .error fault ↔
    ¬ FitsMillis value ∧ fault = .store (.timestampRange value.toInt) := by
  rw [epochMillis_second]
  split_ifs with hfits
  · simp [hfits]
  · simp [hfits, eq_comm]

/-- Finer units than milliseconds are divided, and the quotient always fits. -/
theorem quotient_eq_ok_iff (value millis : Int64) {n : Nat} (hn : 2 ≤ n) :
    (.ok (.ofInt (value.toInt.tdiv n)) : Except Error Int64) = .ok millis ↔
      millis.toInt = (value.toInt * 1000).tdiv (1000 * n : Nat) := by
  have hquotient : (value.toInt * 1000).tdiv (1000 * n : Nat) = value.toInt.tdiv n := by
    rw [Nat.cast_mul, mul_comm]
    exact Int.mul_tdiv_mul_of_pos _ _ (by decide)
  rw [Except.ok.injEq, ← Int64.toInt_inj, toInt_ofInt_tdiv value hn, hquotient, eq_comm]

/-- A timestamp has a value unless it counts seconds that do not fit. The value is its exact time in
milliseconds, cut off toward zero. -/
theorem epochMillis_eq_ok_iff : epochMillis unit value = .ok millis ↔
    (unit = .second → FitsMillis value) ∧ millis.toInt = towardZero (unit.instant value * 1000) := by
  rw [TimeUnit.towardZero_instant]
  cases unit with
  | second =>
    rw [epochMillis_second_eq_ok_iff, TimeUnit.perSecond, Int.natCast_one, Int.tdiv_one]
    simp
  | millisecond =>
    have hexact : (value.toInt * 1000).tdiv 1000 = value.toInt := Int.mul_tdiv_cancel _ (by decide)
    simp [epochMillis, TimeUnit.perSecond, hexact, Int64.toInt_inj, eq_comm]
  | microsecond =>
    simpa [epochMillis, TimeUnit.perSecond] using
      quotient_eq_ok_iff value millis (n := 1000) (by decide)
  | nanosecond =>
    simpa [epochMillis, TimeUnit.perSecond] using
      quotient_eq_ok_iff value millis (n := 1000000) (by decide)

/-! ## Timestamp cells -/

namespace ColumnType

variable {unit' : TimeUnit} {value' millis' : Int64} {zone : Option String}

/-- The value of a timestamp cell is its milliseconds, as an integer of 64 bits. -/
theorem cellValue_timestamp :
    (timestamp unit zone).cellValue (some value) = (epochMillis unit value).map .bigint := by
  simp only [cellValue]

theorem cellValue_timestamp_eq_bigint_iff :
    (timestamp unit zone).cellValue (some value) = .ok (.bigint millis) ↔
      epochMillis unit value = .ok millis := by
  rw [cellValue_timestamp]
  cases epochMillis unit value <;> simp [Except.map]

/-- A timestamp has a value unless it counts seconds that do not fit. -/
theorem exists_epochMillis_iff :
    (∃ millis, epochMillis unit value = .ok millis) ↔ (unit = .second → FitsMillis value) := by
  cases unit with
  | second =>
    rw [epochMillis_second]
    split_ifs with hfits <;> simp [hfits]
  | _ => simp [epochMillis]

/-- A later time has no smaller value, whatever the units are. -/
theorem epochMillis_le_of_instant_le (h : epochMillis unit value = .ok millis)
    (h' : epochMillis unit' value' = .ok millis')
    (hle : unit.instant value ≤ unit'.instant value') : millis ≤ millis' := by
  rw [Int64.le_iff_toInt_le, (epochMillis_eq_ok_iff.1 h).2, (epochMillis_eq_ok_iff.1 h').2]
  exact towardZero_mono (by linarith)

/-- Timestamps of all units are read as one line of milliseconds. A timestamp has a value unless it
counts seconds whose milliseconds do not fit, and then it is refused. The value is less than a
millisecond away from the exact time, and no later time has a smaller one. -/
theorem timestamps_in_order (unit unit' : TimeUnit) (zone zone' : Option String)
    (value value' : Int64) :
    ((∃ millis, (timestamp unit zone).cellValue (some value) = .ok (.bigint millis)) ↔
      ¬ (unit = .second ∧ ¬ FitsMillis value)) ∧
    (unit = .second ∧ ¬ FitsMillis value →
      (timestamp unit zone).cellValue (some value) =
        .error (.store (.timestampRange value.toInt))) ∧
    ∀ millis, (timestamp unit zone).cellValue (some value) = .ok (.bigint millis) →
      |(millis.toInt : ℚ) - unit.instant value * 1000| < 1 ∧
      ∀ millis', (timestamp unit' zone').cellValue (some value') = .ok (.bigint millis') →
        (unit.instant value ≤ unit'.instant value' → millis ≤ millis') ∧
        (unit.instant value = unit'.instant value' → millis = millis') := by
  simp only [cellValue_timestamp_eq_bigint_iff]
  refine ⟨?_, ?_, fun millis h => ⟨?_, fun millis' h' => ⟨?_, fun heq => ?_⟩⟩⟩
  · rw [exists_epochMillis_iff, not_and, Decidable.not_not]
  · rintro ⟨rfl, hfits⟩
    rw [cellValue_timestamp, epochMillis_second_eq_error_iff.2 ⟨hfits, rfl⟩]
    rfl
  · rw [(epochMillis_eq_ok_iff.1 h).2]
    exact abs_towardZero_sub_lt _
  · exact epochMillis_le_of_instant_le h h'
  · exact Int64.le_antisymm (epochMillis_le_of_instant_le h h' heq.le)
      (epochMillis_le_of_instant_le h' h heq.ge)

/-- Times before 1970 keep their order across units, and seconds that are too coarse are refused. -/
theorem moments_before_epoch_in_order :
    TimeUnit.microsecond.instant (-1500001) ≤ TimeUnit.second.instant (-1) ∧
    TimeUnit.second.instant (-1) = TimeUnit.millisecond.instant (-1000) ∧
    (timestamp .microsecond none).cellValue (some (-1500001 : Int64)) = .ok (.bigint (-1500)) ∧
    (timestamp .second (some "UTC")).cellValue (some (-1 : Int64)) = .ok (.bigint (-1000)) ∧
    (timestamp .millisecond none).cellValue (some (-1000 : Int64)) = .ok (.bigint (-1000)) ∧
    |((-1500 : Int64).toInt : ℚ) - TimeUnit.microsecond.instant (-1500001) * 1000| < 1 ∧
    (-1500 : Int64) ≤ -1000 ∧ (-1000 : Int64) = -1000 ∧
    ¬ FitsMillis 9223372036854776 ∧
    (timestamp .second none).cellValue (some (9223372036854776 : Int64)) =
      .error (.store (.timestampRange 9223372036854776)) := by
  have hmicro : TimeUnit.microsecond.instant (-1500001) = -1500001 / 1000000 := rfl
  have hsecond : TimeUnit.second.instant (-1) = -1 / 1 := rfl
  have hmilli : TimeUnit.millisecond.instant (-1000) = -1000 / 1000 := rfl
  have hearlier : TimeUnit.microsecond.instant (-1500001) ≤ TimeUnit.second.instant (-1) := by
    rw [hmicro, hsecond]
    norm_num
  have hsame : TimeUnit.second.instant (-1) = TimeUnit.millisecond.instant (-1000) := by
    rw [hsecond, hmilli]
    norm_num
  have hlate : ¬ FitsMillis 9223372036854776 := by decide
  have hfirst := timestamps_in_order .microsecond .second none (some "UTC") (-1500001) (-1)
  have hnext := timestamps_in_order .second .millisecond (some "UTC") none (-1) (-1000)
  have hrefused := (timestamps_in_order .second .second none none 9223372036854776 0).2.1
  obtain ⟨hclose, horder⟩ := hfirst.2.2 (-1500) rfl
  exact ⟨hearlier, hsame, rfl, rfl, rfl, hclose, (horder (-1000) rfl).1 hearlier,
    ((hnext.2.2 (-1000) rfl).2 (-1000) rfl).2 hsame, hlate, hrefused ⟨rfl, hlate⟩⟩

end ColumnType

end MatView

import MatView.Catalog.Load
import MatView.Proofs.Window.Codec

/-!
# The windows of decoded keys

Windows that are stored with both bounds are refused if they are reversed. Windows of one size are
stored by their start, and their end is the exact sum of start and size, or the key is refused. The
size itself is not looked at, neither when a catalog is read nor when a key is: windows of a negative
size end before they start.

## Main definitions

* `WindowType.RunsForward`: the formats whose windows have no negative size.

## Main statements

* `WindowType.Admits.start_le_stop_iff`: which windows that a format gives back run forward.
* `WindowedKey.decode_hopping`: the distance between windows does not matter.
* `WindowedKey.decoded_window_iff`: decoded windows have the size of their format, and run forward
  if and only if that size is not negative.
-/

namespace MatView

namespace WindowType

variable {type : WindowType} {w : Window} {size : Int64}

/-- Windows of one size have no negative size. -/
def RunsForward (type : WindowType) : Prop :=
  ∀ size, type.size? = some size → 0 ≤ size.toInt

/-- The size is the exact distance between the bounds. -/
theorem Admits.stop_sub_start (h : type.Admits w) (hsize : type.size? = some size) :
    w.stop.toInt - w.start.toInt = size.toInt := by
  simp only [Admits, hsize] at h
  omega

/-- A window that a format gives back runs forward if and only if all its windows do. -/
theorem Admits.start_le_stop_iff (h : type.Admits w) : w.start ≤ w.stop ↔ type.RunsForward := by
  cases hsize : type.size? with
  | none =>
    simp only [Admits, hsize] at h
    simp [RunsForward, hsize, h]
  | some size =>
    have hdistance := h.stop_sub_start hsize
    simp only [RunsForward, hsize, Option.some.injEq, forall_eq', Int64.le_iff_toInt_le]
    omega

/-- Windows of one size may start at the beginning of the epoch. -/
theorem admits_epoch (hsize : type.size? = some size) : type.Admits ⟨0, size⟩ := by
  simp [Admits, hsize]

end WindowType

/-- Some byte string is read as a grouping key. -/
theorem KeyEncoding.exists_decode (e : KeyEncoding) : ∃ inner key, e.decode inner = .ok key := by
  cases e with
  | string => exact ⟨[], .string "", rfl⟩
  | int => exact ⟨[0, 0, 0, 0], .int 0, rfl⟩
  | bigint => exact ⟨[0, 0, 0, 0, 0, 0, 0, 0], .bigint 0, rfl⟩
  | json => exact ⟨Utf8.ofString "null", .null, rfl⟩

namespace WindowedKey

/-- The distance between overlapping windows does not matter, neither for what a key is read as nor
for why it is refused. -/
theorem decode_hopping (size advance other : Int64) (e : KeyEncoding) (bs : List UInt8) :
    (decode ⟨.hopping size advance, e⟩ bs).mapError KeyFault.message =
      (decode ⟨.hopping size other, e⟩ bs).mapError KeyFault.message := by
  by_cases hshort : bs.length < 8
  · simp only [decode, WindowType.suffixLength, hshort, if_true]
    rfl
  · simp only [decode, WindowType.suffixLength, hshort, if_false]
    rfl

/-- Each format reads some key, and any window that it gives back may be the one of that key. -/
theorem exists_decode {f : KeyFormat} {w : Window} (h : f.window.Admits w) :
    ∃ bs k, decode f bs = .ok k ∧ k.window = w := by
  obtain ⟨inner, key, hinner⟩ := f.encoding.exists_decode
  exact ⟨inner ++ w.suffix f.window, ⟨key, w⟩, decode_eq_ok_iff.2 ⟨inner, hinner, h, rfl⟩, rfl⟩

/-- Decoded windows have the exact size of their format, whatever the distance between windows is.
They run forward, as session windows always do, if and only if this size is not negative. -/
theorem decoded_window_iff (f : KeyFormat) :
    (∀ bs k, decode f bs = .ok k →
      (∀ size, f.window.size? = some size →
        k.window.stop.toInt - k.window.start.toInt = size.toInt) ∧
      (k.window.start ≤ k.window.stop ↔ f.window.RunsForward)) ∧
    ((∀ bs k, decode f bs = .ok k → k.window.start ≤ k.window.stop) ↔ f.window.RunsForward) ∧
    ∀ size advance other, f.window = .hopping size advance → ∀ bs,
      (decode f bs).mapError KeyFault.message =
        (decode ⟨.hopping size other, f.encoding⟩ bs).mapError KeyFault.message := by
  have hadmits : ∀ bs k, decode f bs = .ok k → f.window.Admits k.window := by
    intro bs k h
    obtain ⟨-, -, h, -⟩ := decode_eq_ok_iff.1 h
    exact h
  refine ⟨fun bs k h => ⟨fun size => (hadmits bs k h).stop_sub_start,
    (hadmits bs k h).start_le_stop_iff⟩, ⟨fun h size hsize => ?_, fun h bs k hk => ?_⟩, ?_⟩
  · obtain ⟨bs, k, hk, hwindow⟩ := exists_decode (WindowType.admits_epoch hsize)
    have hforward := (hadmits bs k hk).start_le_stop_iff.1 (h bs k hk)
    exact hforward size hsize
  · exact (hadmits bs k hk).start_le_stop_iff.2 h
  · obtain ⟨window, encoding⟩ := f
    rintro size advance other rfl bs
    exact decode_hopping size advance other encoding bs

/-- A hopping window of one minute has its exact size and runs forward, whatever its advance is. -/
theorem minute_window_decoded :
    decode ⟨.hopping 60000 10000, .string⟩ [107, 255, 255, 255, 255, 255, 255, 255, 246] =
      .ok ⟨.string "k", ⟨-10, 59990⟩⟩ ∧
    (59990 : Int64).toInt - (-10 : Int64).toInt = (60000 : Int64).toInt ∧
    (-10 : Int64) ≤ 59990 ∧
    (decode ⟨.hopping 60000 0, .string⟩ [107, 255, 255, 255, 255, 255, 255, 255, 246]).mapError
      KeyFault.message = .ok ⟨.string "k", ⟨-10, 59990⟩⟩ := by
  have hread : decode ⟨.hopping 60000 10000, .string⟩ [107, 255, 255, 255, 255, 255, 255, 255, 246] =
      .ok ⟨.string "k", ⟨-10, 59990⟩⟩ := rfl
  have hforward : (WindowType.hopping 60000 10000).RunsForward := by
    rintro size hsize
    cases hsize
    decide
  obtain ⟨hwindows, -, hadvance⟩ := decoded_window_iff ⟨.hopping 60000 10000, .string⟩
  obtain ⟨hsize, hle⟩ := hwindows _ _ hread
  have hother := hadvance 60000 10000 0 rfl [107, 255, 255, 255, 255, 255, 255, 255, 246]
  rw [hread] at hother
  exact ⟨hread, hsize 60000 rfl, hle.2 hforward, hother.symm⟩

/-- A catalog that lists a source with windows of a negative size. -/
def backwardCatalog : String :=
  "[\x7b\"name\":\"VIEWS\",\"kind\":\"TABLE\",\"schema\":\x7b\"value_fields\":[]\x7d," ++
  "\"physical_name\":\"views_v1\"," ++
  "\"key_format\":\x7b\"window\":\x7b\"type\":\"TUMBLING\",\"size_ms\":-1000\x7d\x7d\x7d]"

/-- A negative size is accepted when a catalog is read, and its windows end before they start. -/
theorem negative_size_decoded :
    ((Catalog.ofJson backwardCatalog).toOption.bind fun c => c.find? "VIEWS").bind (·.keyFormat) =
      some ⟨.tumbling (-1000), .string⟩ ∧
    decode ⟨.tumbling (-1000), .string⟩ [107, 0, 0, 0, 0, 0, 0, 0, 0] =
      .ok ⟨.string "k", ⟨0, -1000⟩⟩ ∧
    ¬ (0 : Int64) ≤ -1000 :=
  ⟨by decide +kernel, rfl, by decide⟩

end WindowedKey

end MatView

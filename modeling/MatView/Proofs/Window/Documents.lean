import MatView.Proofs.Json.ReadBack
import MatView.Proofs.Window.Codec

/-!
# Keys that are documents

A grouping key that is a JSON document is written again from the value that was read. What is read
from this text is the normal form of the key, with the same window.

## Main statements

* `KeyEncoding.decode_json_print`: a written document is read as the normal form of its value.
* `WindowedKey.rewritten_document`: which keys are read back as they were.
* `WindowedKey.document_read_back`: any key without floating-point numbers is read back as its
  normal form.
-/

namespace MatView

open Json (nestingLimit)

theorem KeyEncoding.decode_json_ofString {s : String} {v : Value} :
    KeyEncoding.json.decode (Utf8.ofString s) = .ok v ↔ Json.readDocument? s.toList = some v := by
  simp only [decode, Utf8.decode_ofString]
  cases Json.readDocument? s.toList <;> simp

/-- The text of a key without floating-point numbers is read as the normal form of the key, as deep
as documents may be nested. -/
theorem KeyEncoding.decode_json_print {v w : Value} (h : v.all (!·.isFloating) = true) :
    KeyEncoding.json.decode (Utf8.bytes (Json.print v)) = .ok w ↔
      w = v.normal ∧ v.normal.nesting ≤ nestingLimit := by
  have hbytes : Utf8.bytes (Json.print v) = Utf8.ofString (String.ofList (Json.print v)) := by
    simp [Utf8.ofString]
  rw [hbytes, decode_json_ofString, String.toList_ofList, Json.readDocument?_print h]
  by_cases hnesting : v.normal.nesting ≤ nestingLimit
  · simp [hnesting, eq_comm]
  · simp [hnesting]

/-- A key that was read as a document is of the types that documents have. -/
theorem KeyEncoding.isDocument_of_decode {inner : List UInt8} {v : Value}
    (h : KeyEncoding.json.decode inner = .ok v) : v.IsDocument nestingLimit := by
  simp only [decode] at h
  split at h
  · rename_i s _
    cases hread : Json.readDocument? s.toList with
    | none =>
      rw [hread] at h
      cases h
    | some w =>
      rw [hread] at h
      cases h
      obtain ⟨t, -, ht⟩ := Option.bind_eq_some_iff.1 hread
      exact t.isDocument_of_toValue? ht
  · cases h

namespace WindowedKey

/-- A document that was read as a key is written as another one, and read again as the normal form
of the key with the same window. This is the same key exactly if no object stands in the document:
its members are written as lists of two. -/
theorem rewritten_document {f : KeyFormat} {bs : List UInt8} {k : WindowedKey}
    (hf : f.encoding = .json) (h : decode f bs = .ok k)
    (hfloating : k.key.all (!·.isFloating) = true) :
    ∃ bs', encode f k = .ok bs' ∧
      (∀ k', decode f bs' = .ok k' ↔
        k' = ⟨k.key.normal, k.window⟩ ∧ k.key.normal.nesting ≤ nestingLimit) ∧
      (decode f bs' = .ok k ↔ k.key.all (!·.isMap) = true) := by
  obtain ⟨inner, hinner, hadmits, rfl⟩ := decode_eq_ok_iff.1 h
  rw [hf] at hinner
  obtain ⟨hall, hnesting⟩ := KeyEncoding.isDocument_of_decode hinner
  have hread : ∀ k', decode f (Utf8.bytes (Json.print k.key) ++ k.window.suffix f.window) = .ok k' ↔
      k' = ⟨k.key.normal, k.window⟩ ∧ k.key.normal.nesting ≤ nestingLimit := by
    intro k'
    rw [decode_append (Window.length_suffix _ _), Window.ofSuffix_suffix hadmits, hf]
    constructor
    · intro hk'
      obtain ⟨window, hwindow, hk'⟩ := bind_eq_ok.1 hk'
      cases hwindow
      obtain ⟨key, hkey, hk'⟩ := bind_eq_ok.1 hk'
      cases hk'
      obtain ⟨rfl, hdepth⟩ := (KeyEncoding.decode_json_print hfloating).1 hkey
      exact ⟨rfl, hdepth⟩
    · rintro ⟨rfl, hdepth⟩
      have hkey := (KeyEncoding.decode_json_print hfloating).2 ⟨rfl, hdepth⟩
      exact bind_eq_ok.2 ⟨_, rfl, bind_eq_ok.2 ⟨_, hkey, rfl⟩⟩
  refine ⟨_, encode_eq_ok_iff.2 ⟨_, by rw [hf, KeyEncoding.encode], rfl⟩, hread, ?_⟩
  rw [hread, ← Value.normal_eq_self_iff k.key hall]
  constructor
  · rintro ⟨hk, -⟩
    exact (congrArg WindowedKey.key hk).symm
  · intro hnormal
    rw [hnormal]
    exact ⟨rfl, hnesting⟩

/-- A document without objects is read back as it was. -/
theorem list_key_read_back :
    decode ⟨.tumbling 1000, .json⟩ (Utf8.ofString "[1,null]" ++ int64Bytes 5000) =
      .ok ⟨.list [.bigint 1, .null], ⟨5000, 6000⟩⟩ ∧
    ∃ bs', encode ⟨.tumbling 1000, .json⟩ ⟨.list [.bigint 1, .null], ⟨5000, 6000⟩⟩ = .ok bs' ∧
      decode ⟨.tumbling 1000, .json⟩ bs' = .ok ⟨.list [.bigint 1, .null], ⟨5000, 6000⟩⟩ := by
  have hread : decode ⟨.tumbling 1000, .json⟩ (Utf8.ofString "[1,null]" ++ int64Bytes 5000) =
      .ok ⟨.list [.bigint 1, .null], ⟨5000, 6000⟩⟩ :=
    decode_eq_ok_iff.2 ⟨Utf8.ofString "[1,null]",
      KeyEncoding.decode_json_ofString.2 (by decide +kernel), rfl, rfl⟩
  obtain ⟨bs', hbs, -, hback⟩ := rewritten_document rfl hread rfl
  exact ⟨hread, bs', hbs, hback.2 rfl⟩

/-- An object is written as a list, so it is not read back. -/
theorem object_key_read_as_list :
    ∃ bs, decode ⟨.tumbling 1000, .json⟩
        (Utf8.ofString "\x7b\"region\":\"eu\"\x7d" ++ int64Bytes 0) =
      .ok ⟨.map [(.string "region", .string "eu")], ⟨0, 1000⟩⟩ ∧
    encode ⟨.tumbling 1000, .json⟩ ⟨.map [(.string "region", .string "eu")], ⟨0, 1000⟩⟩ = .ok bs ∧
    decode ⟨.tumbling 1000, .json⟩ bs =
      .ok ⟨.list [.list [.string "region", .string "eu"]], ⟨0, 1000⟩⟩ ∧
    decode ⟨.tumbling 1000, .json⟩ bs ≠
      .ok ⟨.map [(.string "region", .string "eu")], ⟨0, 1000⟩⟩ := by
  have hread : decode ⟨.tumbling 1000, .json⟩
      (Utf8.ofString "[[\"region\",\"eu\"]]" ++ int64Bytes 0) =
        .ok ⟨.list [.list [.string "region", .string "eu"]], ⟨0, 1000⟩⟩ :=
    decode_eq_ok_iff.2 ⟨_, KeyEncoding.decode_json_ofString.2 (by decide +kernel), rfl, rfl⟩
  have htext : Json.print (.map [(.string "region", .string "eu")]) =
      "[[\"region\",\"eu\"]]".toList := by
    decide +kernel
  refine ⟨_, decode_eq_ok_iff.2
    ⟨_, KeyEncoding.decode_json_ofString.2 (by decide +kernel), rfl, rfl⟩,
    encode_eq_ok_iff.2 ⟨_, rfl, ?_⟩, hread, ?_⟩
  · rw [htext]
    rfl
  · rw [hread]
    nofun

/-- A key without floating-point numbers is written as the text of its value and the bounds of its
window, and read back as its normal form with the same window. A row is the array of such texts,
and read as the list of the normal forms. -/
theorem document_read_back {f : KeyFormat} {k : WindowedKey} (hf : f.encoding = .json)
    (hadmits : f.window.Admits k.window) (hfloating : k.key.all (!·.isFloating) = true)
    (hnesting : k.key.normal.nesting ≤ nestingLimit) :
    (∃ bs, encode f k = .ok bs ∧
      bs = Utf8.bytes (Json.print k.key) ++ k.window.suffix f.window ∧
      decode f bs = .ok ⟨k.key.normal, k.window⟩) ∧
    ∀ r : Row, Json.printRow r = Json.printArray (r.values.map Json.print) ∧
      ((∀ v ∈ r.values, v.all (!·.isFloating) = true ∧ v.normal.nesting < nestingLimit) →
        Json.readDocument? (Json.printRow r) = some (.list (r.values.map Value.normal))) := by
  have hencode : f.encoding.encode k.key = .ok (Utf8.bytes (Json.print k.key)) := by
    rw [hf, KeyEncoding.encode]
  have hkey : f.encoding.decode (Utf8.bytes (Json.print k.key)) = .ok k.key.normal := by
    rw [hf]
    exact KeyEncoding.decode_json_print hfloating |>.2 ⟨rfl, hnesting⟩
  refine ⟨⟨_, encode_eq_ok_iff.2 ⟨_, hencode, rfl⟩, rfl,
    decode_eq_ok_iff.2 ⟨_, hkey, hadmits, rfl⟩⟩, fun r => ⟨Json.printRow_eq_printArray r, ?_⟩⟩
  intro h
  exact Json.readDocument?_printRow (fun v hv => (h v hv).1) fun v hv => (h v hv).2

/-- A map with keys of several types, in the window of a session. -/
theorem map_key_read_back :
    ∃ bs, encode ⟨.session, .json⟩ ⟨.map [(.string "\"\n", .bytes [0, 255]),
        (.list [.null, .int (-1)], .boolean true)], ⟨-5, 9⟩⟩ = .ok bs ∧
      decode ⟨.session, .json⟩ bs = .ok ⟨.list [
        .list [.string "\"\n", .list [.bigint 0, .bigint 255]],
        .list [.list [.null, .bigint (-1)], .boolean true]], ⟨-5, 9⟩⟩ := by
  obtain ⟨⟨bs, hbs, -, hread⟩, -⟩ := document_read_back (f := ⟨.session, .json⟩)
    (k := ⟨.map [(.string "\"\n", .bytes [0, 255]),
      (.list [.null, .int (-1)], .boolean true)], ⟨-5, 9⟩⟩)
    rfl (show (-5 : Int64) ≤ 9 by decide) rfl (by decide)
  exact ⟨bs, hbs, hread⟩

end WindowedKey

end MatView

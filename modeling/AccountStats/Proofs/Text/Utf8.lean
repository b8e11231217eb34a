import Mathlib.Tactic
import AccountStats.Text.Utf8
/-
The bytes of a text are a text, and the same one.

Results:
- `decodeUtf8_toUTF8`, `readUtf8_utf8Encode`: what a text is encoded as is decoded as that text;
- `bytes_ascii`: ASCII is encoded in one byte each.
-/
namespace AccountStats.Text

theorem size_utf8Encode_singleton (c : Char) : ([c] : List Char).utf8Encode.size = c.utf8Size := by
  rw [← String.toByteArray_ofList, String.size_toByteArray]
  simp

section Behind

variable (before : ByteArray) (c : Char) (cs : List Char)

/-- the first character of a text is found behind any bytes, -/
theorem size_lt_append : before.size < (before ++ (c :: cs).utf8Encode).size := by
  have hpos := c.utf8Size_pos
  rw [List.utf8Encode_cons, ByteArray.size_append, ByteArray.size_append, size_utf8Encode_singleton c]
  omega

theorem utf8DecodeChar?_append : (before ++ (c :: cs).utf8Encode).utf8DecodeChar? before.size = some c := by
  rw [ByteArray.utf8DecodeChar?_eq_utf8DecodeChar?_extract,
    ByteArray.extract_append_eq_right rfl ByteArray.size_append]
  exact List.utf8DecodeChar?_utf8Encode_cons

/-- and the rest of the text behind these and the character -/
theorem append_utf8Encode_cons : before ++ (c :: cs).utf8Encode = (before ++ [c].utf8Encode) ++ cs.utf8Encode := by
  rw [List.utf8Encode_cons, ByteArray.append_assoc]

theorem size_append_singleton : (before ++ [c].utf8Encode).size = before.size + c.utf8Size := by
  rw [ByteArray.size_append, size_utf8Encode_singleton c]

end Behind

/-- behind any bytes, the bytes of a text fall apart into its characters -/
theorem piecesFrom_append (before : ByteArray) (cs : List Char) :
    piecesFrom (before ++ cs.utf8Encode) before.size = cs.map some := by
  induction cs generalizing before with
  | nil =>
    rw [piecesFrom, if_neg (by simp)]
    rfl
  | cons c cs ih =>
    have hrest : piecesFrom (before ++ (c :: cs).utf8Encode) (before.size + c.utf8Size) = cs.map some := by
      rw [append_utf8Encode_cons, ← size_append_singleton]
      exact ih _
    rw [piecesFrom, if_pos (size_lt_append before c cs), utf8DecodeChar?_append, List.map_cons]
    exact congrArg _ hrest

theorem pieces_toUTF8 (s : String) : pieces s.toUTF8 = ofText s := by
  have hall := piecesFrom_append .empty s.toList
  rw [ByteArray.empty_append, String.utf8Encode_toList] at hall
  exact hall

/-- **What a text is encoded as is decoded as that text.** -/
theorem decodeUtf8_toUTF8 (s : String) : decodeUtf8 s.toUTF8 = some s := by
  rw [decodeUtf8, pieces_toUTF8, spelled_ofText, Option.map_some, String.ofList_toList]

/-- nothing is wrong with the bytes of a text, -/
theorem utf8FaultFrom?_append (before : ByteArray) (cs : List Char) :
    utf8FaultFrom? (before ++ cs.utf8Encode) before.size = none := by
  induction cs generalizing before with
  | nil => rw [utf8FaultFrom?, if_neg (by simp)]
  | cons c cs ih =>
    have hrest : utf8FaultFrom? (before ++ (c :: cs).utf8Encode) (before.size + c.utf8Size) = none := by
      rw [append_utf8Encode_cons, ← size_append_singleton]
      exact ih _
    rw [utf8FaultFrom?, if_pos (size_lt_append before c cs), utf8DecodeChar?_append]
    exact hrest

/-- and nothing has to be mended -/
theorem mendedFrom_append (before : ByteArray) (cs : List Char) :
    mendedFrom (before ++ cs.utf8Encode) before.size = cs := by
  induction cs generalizing before with
  | nil => rw [mendedFrom, if_neg (by simp)]
  | cons c cs ih =>
    have hrest : mendedFrom (before ++ (c :: cs).utf8Encode) (before.size + c.utf8Size) = cs := by
      rw [append_utf8Encode_cons, ← size_append_singleton]
      exact ih _
    rw [mendedFrom, if_pos (size_lt_append before c cs), utf8DecodeChar?_append]
    exact congrArg _ hrest

/-- **A text is read from its bytes.** -/
theorem readUtf8_utf8Encode (cs : List Char) : readUtf8 cs.utf8Encode = .ok (String.ofList cs) := by
  have hfault := utf8FaultFrom?_append .empty cs
  have hmended := mendedFrom_append .empty cs
  rw [ByteArray.empty_append] at hfault hmended
  rw [readUtf8, ← ByteArray.size_empty, hfault, mended, ← ByteArray.size_empty, hmended]

/-! ## ASCII -/

variable {cs : List Char}

theorem utf8Size_ascii {c : Char} (h : c.toNat < 128) : c.utf8Size = 1 := by
  have hval : c.val ≤ 127 := UInt32.le_iff_toNat_le.2 (Nat.le_of_lt_succ h)
  exact if_pos hval

/-- **ASCII is encoded in one byte each**, which is the number of the character. -/
theorem bytes_ascii (h : ∀ c ∈ cs, c.toNat < 128) : cs.utf8Encode.data.toList = cs.map fun c => .ofNat c.toNat := by
  induction cs with
  | nil => rfl
  | cons c cs ih =>
    obtain ⟨hc, hcs⟩ := List.forall_mem_cons.1 h
    rw [List.utf8Encode_cons, ByteArray.data_append, Array.toList_append, ih hcs, List.utf8Encode_singleton,
      String.utf8EncodeChar_eq_singleton (utf8Size_ascii hc)]
    rfl

theorem toNat_byte {c : Char} (h : c.toNat < 128) : (UInt8.ofNat c.toNat).toNat = c.toNat := by
  have hsize : c.toNat < UInt8.size := Nat.lt_trans h (by decide)
  exact UInt8.toNat_ofNat_of_lt' hsize

theorem size_ascii (h : ∀ c ∈ cs, c.toNat < 128) : cs.utf8Encode.size = cs.length := by
  simpa using congrArg List.length (bytes_ascii h)

end AccountStats.Text

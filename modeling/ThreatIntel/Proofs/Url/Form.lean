import ThreatIntel.Url.Form

/-!
# Named values survive

Named values are read back from the query in which they are written, whatever their characters: each
character is read back as its bytes, no written name or value holds a separator, and the bytes of a
text are read as this text alone.
-/

namespace ThreatIntel
namespace Url

/-! ## Characters -/

/-- The digits of a written byte are read back; neither of them is a plus sign. -/
theorem digit_spec
    {n : Nat}
    (small : n < 16) :
    Text.hexValue? (Text.hexDigit n).toUpper = some n ∧ (Text.hexDigit n).toUpper ≠ '+' ∧
      (Text.hexDigit n).toUpper.isAlphanum = true := by
  have digits : ∀ value : Fin 16,
      Text.hexValue? (Text.hexDigit value.val).toUpper = some value.val ∧
        (Text.hexDigit value.val).toUpper ≠ '+' ∧
        (Text.hexDigit value.val).toUpper.isAlphanum = true := by
    decide
  exact digits ⟨n, small⟩

/-- A written byte is read back. -/
theorem decodeBytes_encodeByte
    (byte : UInt8)
    (rest : List Char) :
    decodeBytes (encodeByte byte ++ rest) = byte :: decodeBytes rest := by
  have bound : byte.toNat < 256 := byte.toNat_lt
  have high := (digit_spec (n := byte.toNat / 16) (by omega)).1
  have low := (digit_spec (n := byte.toNat % 16) (by omega)).1
  have whole : byte.toNat / 16 * 16 + byte.toNat % 16 = byte.toNat := by omega
  simp only [encodeByte, Text.hexByte, List.map_cons, List.map_nil, List.cons_append,
    List.nil_append, decodeBytes, high, low, whole, UInt8.ofNat_toNat]

theorem decodeBytes_flatMap_encodeByte
    (bytes : List UInt8)
    (rest : List Char) :
    decodeBytes (bytes.flatMap encodeByte ++ rest) = bytes ++ decodeBytes rest := by
  induction bytes with
  | nil => rfl
  | cons byte bytes inductionHypothesis =>
      rw [List.flatMap_cons, List.append_assoc, decodeBytes_encodeByte, inductionHypothesis]
      rfl

/-- A character that is no percent sign stands for its own bytes. -/
theorem decodeBytes_cons_of_ne
    {c : Char}
    (other : c ≠ '%')
    (rest : List Char) :
    decodeBytes (c :: rest) = String.utf8EncodeChar c ++ decodeBytes rest := by
  rw [decodeBytes]
  intro _ _ _ percent
  exact absurd percent other

/-- A blank for each plus sign. -/
def spaced (cs : List Char) : List Char :=
  cs.map fun c => if c = '+' then ' ' else c

theorem spaced_append (front back : List Char) :
    spaced (front ++ back) = spaced front ++ spaced back :=
  List.map_append

/-- What is written for a character behind percent signs holds only these and letters and digits. -/
theorem mem_encodeChar
    {c d : Char}
    (member : d ∈ encodeChar c) :
    d = '%' ∨ d.isAlphanum = true ∧ d ≠ '+' := by
  obtain ⟨byte, -, inside⟩ := List.mem_flatMap.mp member
  have bound : byte.toNat < 256 := byte.toNat_lt
  have high := (digit_spec (n := byte.toNat / 16) (by omega)).2
  have low := (digit_spec (n := byte.toNat % 16) (by omega)).2
  simp only [encodeByte, Text.hexByte, List.map_cons, List.map_nil, List.mem_cons,
    List.not_mem_nil, or_false] at inside
  rcases inside with rfl | rfl | rfl
  · exact .inl rfl
  · exact .inr high.symm
  · exact .inr low.symm

theorem spaced_encodeChar (c : Char) : spaced (encodeChar c) = encodeChar c := by
  refine (List.map_congr_left fun d member => if_neg ?_).trans (List.map_id _)
  rcases mem_encodeChar member with rfl | ⟨-, other⟩
  · decide
  · exact other

/-- A plain character is neither a plus sign nor a percent sign. -/
theorem ne_of_isPlain
    {c : Char}
    (plain : isPlain c = true) :
    c ≠ '+' ∧ c ≠ '%' := by
  constructor <;>
  · rintro rfl
    exact absurd plain (by decide)

/-- A written character is read back as its bytes. -/
theorem decodeBytes_writeChar
    (c : Char)
    (rest : List Char) :
    decodeBytes (spaced (writeChar c) ++ rest) = String.utf8EncodeChar c ++ decodeBytes rest := by
  unfold writeChar
  split
  · next blank =>
      subst blank
      exact decodeBytes_cons_of_ne (by decide) rest
  · split
    · next plain =>
        obtain ⟨noPlus, noPercent⟩ := ne_of_isPlain plain
        have kept : spaced [c] = [c] := by simp [spaced, noPlus]
        rw [kept]
        exact decodeBytes_cons_of_ne noPercent rest
    · rw [spaced_encodeChar]
      exact decodeBytes_flatMap_encodeByte _ _

/-- Written characters are read back as their bytes. -/
theorem decodeBytes_flatMap_writeChar (cs : List Char) :
    decodeBytes (spaced (cs.flatMap writeChar)) = cs.flatMap String.utf8EncodeChar := by
  induction cs with
  | nil => rfl
  | cons c rest inductionHypothesis =>
      rw [List.flatMap_cons, spaced_append, decodeBytes_writeChar, inductionHypothesis,
        List.flatMap_cons]

/-! ## Names and values -/

/-- The bytes of a text are read as this text. -/
theorem textOf?_bytes (text : String) :
    textOf? (text.toList.flatMap String.utf8EncodeChar) = some text := by
  have bytes : (⟨(text.toList.flatMap String.utf8EncodeChar).toArray⟩ : ByteArray) =
      text.toByteArray := by
    rw [← String.ofList_toList (s := text), String.toByteArray_ofList, String.toList_ofList]
    exact ByteArray.ext List.data_toByteArray.symm
  rw [textOf?, bytes, String.fromUTF8?, dif_pos text.isValidUTF8]
  rfl

/-- A written name or value is read back. -/
@[simp] theorem readValue?_writeValue (text : String) :
    readValue? (writeValue text) = some text := by
  have bytes := decodeBytes_flatMap_writeChar text.toList
  rw [spaced] at bytes
  rw [readValue?, writeValue, bytes, textOf?_bytes]

/-- A written name or value holds only plain characters, plus signs and percent signs. -/
theorem mem_writeValue
    {text : String}
    {c : Char}
    (member : c ∈ writeValue text) :
    c = '+' ∨ c = '%' ∨ isPlain c = true := by
  obtain ⟨origin, -, inside⟩ := List.mem_flatMap.mp member
  unfold writeChar at inside
  split at inside
  · exact .inl (List.mem_singleton.mp inside)
  · split at inside
    · next plain => exact .inr (.inr (List.mem_singleton.mp inside ▸ plain))
    · rcases mem_encodeChar inside with percent | ⟨letter, -⟩
      · exact .inr (.inl percent)
      · exact .inr (.inr (by simp [isPlain, letter]))

theorem not_mem_writeValue
    {separator : Char}
    (special : separator ≠ '+' ∧ separator ≠ '%' ∧ isPlain separator = false)
    (text : String) :
    separator ∉ writeValue text := by
  intro member
  rcases mem_writeValue member with plus | percent | plain
  · exact special.1 plus
  · exact special.2.1 percent
  · simp [special.2.2] at plain

/-! ## Pairs -/

/-- A written pair is read back. -/
@[simp] theorem readPair?_writePair (pair : String × String) :
    readPair? (writePair pair) = some pair := by
  have absent : '=' ∉ writeValue pair.1 := not_mem_writeValue (by decide) pair.1
  have cut := Text.cutAt_append absent (writeValue pair.2)
  simp [readPair?, writePair, cut]

theorem writePair_ne_nil (pair : String × String) : writePair pair ≠ [] := by
  simp [writePair]

/-- A written pair holds no character that is not plain but the sign between name and value. -/
theorem not_mem_writePair
    {separator : Char}
    (special : separator ≠ '+' ∧ separator ≠ '%' ∧ isPlain separator = false)
    (other : separator ≠ '=')
    (pair : String × String) :
    separator ∉ writePair pair := by
  simp [writePair, not_mem_writeValue special, other]

/-- Written pairs are read back, in their order and as often as they occur. -/
@[simp] theorem readPairs?_writePairs (pairs : List (String × String)) :
    readPairs? (writePairs pairs) = some pairs := by
  cases pairs with
  | nil => rfl
  | cons pair rest =>
      have absent : ∀ written ∈ (pair :: rest).map writePair, '&' ∉ written := by
        intro written member
        obtain ⟨origin, -, rfl⟩ := List.mem_map.mp member
        exact not_mem_writePair (by decide) (by decide) origin
      have visible : ((pair :: rest).map writePair).filter (!·.isEmpty) =
          (pair :: rest).map writePair := by
        refine List.filter_eq_self.mpr fun written member => ?_
        obtain ⟨origin, -, rfl⟩ := List.mem_map.mp member
        simp [writePair_ne_nil]
      have read : readPair? ∘ writePair = fun pair => some pair := funext readPair?_writePair
      rw [readPairs?, writePairs, List.splitOn_intercalate '&' absent (by simp), visible,
        List.mapM_map, read]
      exact List.mapM_pure.trans (congrArg some (List.map_id _))

/-- Written pairs hold no character that is not plain but the signs between them. -/
theorem not_mem_writePairs
    {separator : Char}
    (special : separator ≠ '+' ∧ separator ≠ '%' ∧ isPlain separator = false)
    (others : separator ≠ '=' ∧ separator ≠ '&')
    (pairs : List (String × String)) :
    separator ∉ writePairs pairs := by
  unfold writePairs
  induction pairs with
  | nil => simp
  | cons pair rest inductionHypothesis =>
      cases rest with
      | nil => simpa using not_mem_writePair special others.1 pair
      | cons next rest =>
          rw [List.map_cons, List.map_cons, List.intercalate_cons_cons]
          simp only [List.mem_append, List.mem_singleton, not_or]
          exact ⟨⟨not_mem_writePair special others.1 pair, others.2⟩, inductionHypothesis⟩

end Url
end ThreatIntel

import Signpost.Percent
import Signpost.Proofs.Text.Separators

/-!
# Percent-encoding and its inverse

Decoding undoes encoding, for every text. An encoded form consists of unreserved characters and
percent signs, so that no character with a meaning in a URI occurs in it, and it stays readable
between further characters that stand for themselves, such as the commas of a joined collection.

## Main definitions

* `Percent.IsReserved`: a character that occurs in no encoded form.

## Main results

* `Percent.eq_percent_or_isUnreserved`: the characters of an encoded form.
* `Percent.decode?_encode`: decoding an encoded text.
* `Percent.decode?_join_encode`: decoding encoded texts joined by commas.
-/

namespace Signpost.Percent

/-! ### The characters of an encoded form -/

theorem isUnreserved_hexDigit {n : Nat} (h : n < 16) : isUnreserved (hexDigit n) = true := by
  have hall : ∀ n < 16, isUnreserved (hexDigit n) = true := by decide
  exact hall n h

theorem hexValue?_hexDigit {n : Nat} (h : n < 16) :
    Character.hexValue? (hexDigit n) = some n := by
  have hall : ∀ n < 16, Character.hexValue? (hexDigit n) = some n := by decide
  exact hall n h

theorem high_lt (byte : UInt8) : byte.toNat / 16 < 16 := by
  have := byte.toNat_lt
  omega

theorem low_lt (byte : UInt8) : byte.toNat % 16 < 16 :=
  Nat.mod_lt _ (by decide)

/-- An encoded form consists of percent signs and unreserved characters. -/
theorem eq_percent_or_isUnreserved {text : Text} {c : Char} (h : c ∈ encode text) :
    c = '%' ∨ isUnreserved c = true := by
  obtain ⟨d, -, hc⟩ := List.mem_flatMap.mp h
  rw [encodeChar] at hc
  split at hc
  · rename_i hd
    exact .inr (List.mem_singleton.mp hc ▸ hd)
  · obtain ⟨byte, -, hbyte⟩ := List.mem_flatMap.mp hc
    simp only [escape, List.mem_cons, List.not_mem_nil, or_false] at hbyte
    rcases hbyte with rfl | rfl | rfl
    · exact .inl rfl
    · exact .inr (isUnreserved_hexDigit (high_lt byte))
    · exact .inr (isUnreserved_hexDigit (low_lt byte))

/-- A character that encoding neither keeps nor brings in. -/
def IsReserved (c : Char) : Prop :=
  c ≠ '%' ∧ isUnreserved c = false

instance : DecidablePred IsReserved := fun c =>
  inferInstanceAs (Decidable (c ≠ '%' ∧ isUnreserved c = false))

theorem IsReserved.not_percent_or_isUnreserved {c : Char} (h : IsReserved c) :
    ¬(c = '%' ∨ isUnreserved c = true) := by
  simp [h.1, h.2]

/-- A reserved character occurs in no encoded form. -/
theorem notMem_encode {c : Char} (hc : IsReserved c) (text : Text) : c ∉ encode text :=
  fun h => hc.not_percent_or_isUnreserved (eq_percent_or_isUnreserved h)

theorem notMem_join_encode {c : Char} (hc : IsReserved c) (hcomma : c ≠ ',') (texts : List Text) :
    c ∉ Text.join [','] (texts.map encode) := by
  intro h
  rcases Text.mem_join h with hmem | ⟨_, hpart, hmem⟩
  · exact hcomma (List.mem_singleton.mp hmem)
  · obtain ⟨text, -, rfl⟩ := List.mem_map.mp hpart
    exact notMem_encode hc text hmem

/-! ### Decoding -/

theorem bytes?_escape_append (byte : UInt8) (rest : Text) :
    bytes? (escape byte ++ rest) = (bytes? rest).map (byte :: ·) := by
  have hbyte : 16 * (byte.toNat / 16) + byte.toNat % 16 = byte.toNat := Nat.div_add_mod ..
  simp only [escape, List.cons_append, List.nil_append, bytes?, hexValue?_hexDigit (high_lt byte),
    hexValue?_hexDigit (low_lt byte), Option.bind_eq_bind, Option.bind_some, hbyte,
    UInt8.ofNat_toNat]
  cases bytes? rest <;> rfl

theorem bytes?_flatMap_escape_append (bytes : List UInt8) (rest : Text) :
    bytes? (bytes.flatMap escape ++ rest) = (bytes? rest).map (bytes ++ ·) := by
  induction bytes with
  | nil => simp
  | cons byte bytes ih =>
    rw [List.flatMap_cons, List.append_assoc, bytes?_escape_append, ih, Option.map_map]
    rfl

theorem bytes?_cons {c : Char} (h : c ≠ '%') (rest : Text) :
    bytes? (c :: rest) = (bytes? rest).map (String.utf8EncodeChar c ++ ·) := by
  rw [bytes?.eq_def]
  split
  · contradiction
  · simp_all
  · rename_i hcons
    obtain ⟨rfl, rfl⟩ := List.cons.inj hcons
    rw [if_neg h]

theorem bytes?_encodeChar_append (c : Char) (rest : Text) :
    bytes? (encodeChar c ++ rest) = (bytes? rest).map (String.utf8EncodeChar c ++ ·) := by
  rw [encodeChar]
  split
  · rename_i hc
    rw [List.singleton_append, bytes?_cons]
    rintro rfl
    exact absurd hc (by decide)
  · exact bytes?_flatMap_escape_append _ rest

theorem bytes?_encode_append (text rest : Text) :
    bytes? (encode text ++ rest) = (bytes? rest).map (text.utf8 ++ ·) := by
  induction text with
  | nil => simp [encode, Text.utf8]
  | cons c text ih =>
    rw [encode, List.flatMap_cons, List.append_assoc, bytes?_encodeChar_append, ← encode, ih,
      Option.map_map]
    congr 1
    funext bytes
    simp [Text.utf8]

theorem fromUTF8?_utf8 (text : Text) :
    String.fromUTF8? text.utf8.toByteArray = some (String.ofList text) := by
  have hvalid : text.utf8.toByteArray.IsValidUTF8 := ⟨text, rfl⟩
  rw [String.fromUTF8?, dif_pos hvalid]
  rfl

theorem decode?_of_bytes? {encoded text : Text} (h : bytes? encoded = some text.utf8) :
    decode? encoded = some text := by
  simp only [decode?, h, Option.bind_eq_bind, Option.bind_some, fromUTF8?_utf8,
    String.toList_ofList, Option.pure_def]

/-- **Decoding undoes encoding.** -/
@[simp] theorem decode?_encode (text : Text) : decode? (encode text) = some text := by
  refine decode?_of_bytes? ?_
  simpa [bytes?] using bytes?_encode_append text []

theorem encode_injective : Function.Injective encode := by
  intro text other h
  have hdecoded := congrArg decode? h
  rwa [decode?_encode, decode?_encode, Option.some_inj] at hdecoded

/-- Only the empty text is encoded as nothing. -/
theorem encode_ne_nil {text : Text} (h : text ≠ []) : encode text ≠ [] := by
  intro hnil
  exact h (encode_injective (hnil.trans rfl))

theorem bytes?_join_encode : (texts : List Text) →
    bytes? (Text.join [','] (texts.map encode)) = some (Text.join [','] texts).utf8
  | [] => rfl
  | [text] => by simpa [bytes?, Text.join] using bytes?_encode_append text []
  | text :: next :: texts => by
    have hrest := bytes?_join_encode (next :: texts)
    rw [List.map_cons] at hrest
    rw [List.map_cons, List.map_cons, Text.join, List.append_assoc, bytes?_encode_append,
      List.singleton_append, bytes?_cons (by decide), hrest]
    · simp [Text.join, Text.utf8]
    · exact List.cons_ne_nil _ _

/-- Encoded texts joined by commas stand for the texts joined by commas. -/
theorem decode?_join_encode (texts : List Text) :
    decode? (Text.join [','] (texts.map encode)) = some (Text.join [','] texts) :=
  decode?_of_bytes? (bytes?_join_encode texts)

end Signpost.Percent

import Mathlib.Data.List.Basic
import Mathlib.Data.Nat.Notation

set_option relaxedAutoImplicit false
set_option autoImplicit false

/-!
# Percent encoding

A text is encoded by keeping some of its characters and writing each of the others as its bytes in
UTF-8, two upper-case digits to base 16 behind a percent sign for each. The decoder takes digits of
either case. It collects the bytes of adjacent escapes, which must be texts in UTF-8.

## Main definitions

* `PercentEncoding.encode`, `PercentEncoding.decode` — the encoder, for a choice of the characters
  that are kept, and the decoder.

## Main results

* `PercentEncoding.decode_encode` — the round trip, if the percent sign is not kept.
* `PercentEncoding.mem_encode` — the characters of an encoded text.
* `PercentEncoding.length_encode` — its length.
-/

namespace PercentEncoding

variable {keep : Char → Bool}

/-! ## Digits -/

/-- The value of a digit to base 16, of either case. -/
def hexValue (a : Char) : Option ℕ :=
  if a.isDigit then some (a.toNat - '0'.toNat)
  else if a ∈ ['a', 'b', 'c', 'd', 'e', 'f'] then some (a.toNat - 'a'.toNat + 10)
  else if a ∈ ['A', 'B', 'C', 'D', 'E', 'F'] then some (a.toNat - 'A'.toNat + 10)
  else none

/-- The digit to base 16, in upper case. -/
def hexDigit (n : ℕ) : Char := (Nat.digitChar n).toUpper

lemma hexValue_hexDigit : ∀ n < 16, hexValue (hexDigit n) = some n := by decide

/-! ## The encoder and the decoder -/

/-- The escape of a byte. -/
def escape (b : UInt8) : List Char := ['%', hexDigit (b.toNat / 16), hexDigit (b.toNat % 16)]

/-- The encoded text. -/
def encode (keep : Char → Bool) (s : List Char) : List Char :=
  s.flatMap fun a => if keep a then [a] else (String.utf8EncodeChar a).flatMap escape

/-- The text of these bytes. -/
def utf8Decode (bytes : List UInt8) : Option (List Char) :=
  bytes.toByteArray.utf8Decode?.map Array.toList

/-- The decoder behind escapes of these bytes. -/
def decodeFrom : List UInt8 → List Char → Option (List Char)
  | bytes, [] => utf8Decode bytes
  | bytes, '%' :: a :: b :: s =>
    match hexValue a, hexValue b with
    | some x, some y => decodeFrom (bytes ++ [UInt8.ofNat (16 * x + y)]) s
    | _, _ => none
  | bytes, a :: s =>
    if a = '%' then none
    else
      match utf8Decode bytes, decodeFrom [] s with
      | some l, some r => some (l ++ a :: r)
      | _, _ => none

/-- The decoded text, `none` if an escape is malformed. -/
def decode (s : List Char) : Option (List Char) := decodeFrom [] s

/-! ## The round trip -/

/-- The bytes of a text are read back. -/
lemma utf8Decode_encode (l : List Char) :
    utf8Decode (l.flatMap String.utf8EncodeChar) = some l := by
  have h : (l.flatMap String.utf8EncodeChar).toByteArray = l.utf8Encode := rfl
  rw [utf8Decode, h, List.utf8Decode?_utf8Encode, Option.map_some, List.toList_toArray]

/-- An escape adds its byte. -/
lemma decodeFrom_escape (bytes : List UInt8) (b : UInt8) (s : List Char) :
    decodeFrom bytes (escape b ++ s) = decodeFrom (bytes ++ [b]) s := by
  have hb : b.toNat < 256 := b.toNat_lt
  have hvalue : 16 * (b.toNat / 16) + b.toNat % 16 = b.toNat := Nat.div_add_mod _ _
  rw [escape, List.cons_append, List.cons_append, List.cons_append, List.nil_append, decodeFrom,
    hexValue_hexDigit _ (by omega), hexValue_hexDigit _ (by omega)]
  simp only [hvalue, UInt8.ofNat_toNat]

/-- Adjacent escapes add their bytes. -/
lemma decodeFrom_escapes (bytes bs : List UInt8) (s : List Char) :
    decodeFrom bytes (bs.flatMap escape ++ s) = decodeFrom (bytes ++ bs) s := by
  induction bs generalizing bytes with
  | nil => rw [List.flatMap_nil, List.nil_append, List.append_nil]
  | cons b bs ih =>
    rw [List.flatMap_cons, List.append_assoc, decodeFrom_escape, ih, List.append_assoc,
      List.singleton_append]

/-- A character that is no percent sign ends the escapes before it. -/
lemma decodeFrom_cons {a : Char} (ha : a ≠ '%') (l s : List Char) :
    decodeFrom (l.flatMap String.utf8EncodeChar) (a :: s) =
      (decodeFrom [] s).map fun r => l ++ a :: r := by
  rw [decodeFrom, if_neg ha, utf8Decode_encode]
  · cases decodeFrom [] s <;> rfl
  · exact fun x y t h _ => ha h

/-- **The round trip**, behind a text whose characters are all escaped. -/
lemma decodeFrom_encode (hkeep : keep '%' = false) (l s : List Char) :
    decodeFrom (l.flatMap String.utf8EncodeChar) (encode keep s) = some (l ++ s) := by
  induction s generalizing l with
  | nil => rw [encode, List.flatMap_nil, decodeFrom, utf8Decode_encode, List.append_nil]
  | cons a s ih =>
    rw [encode, List.flatMap_cons, ← encode]
    cases ha : keep a with
    | true =>
      have hne : a ≠ '%' := by
        rintro rfl
        exact Bool.false_ne_true (hkeep.symm.trans ha)
      have hs : decodeFrom [] (encode keep s) = some s := ih []
      rw [if_pos rfl, List.singleton_append, decodeFrom_cons hne, hs, Option.map_some]
    | false =>
      have hbytes : l.flatMap String.utf8EncodeChar ++ String.utf8EncodeChar a =
          (l ++ [a]).flatMap String.utf8EncodeChar := by simp
      rw [if_neg Bool.false_ne_true, decodeFrom_escapes, hbytes, ih, List.append_assoc,
        List.singleton_append]

/-- **The round trip.** -/
lemma decode_encode (hkeep : keep '%' = false) (s : List Char) :
    decode (encode keep s) = some s :=
  decodeFrom_encode hkeep [] s

/-! ## The encoded text -/

/-- A text whose characters are kept is its own encoding. -/
lemma encode_eq_self {s : List Char} (h : ∀ a ∈ s, keep a = true) : encode keep s = s := by
  induction s with
  | nil => rfl
  | cons a s ih =>
    rw [encode, List.flatMap_cons, ← encode, if_pos (h a List.mem_cons_self),
      ih fun b hb => h b (List.mem_cons_of_mem a hb), List.singleton_append]

/-- The characters of an encoded text are kept, or those of an escape. -/
lemma mem_encode {a : Char} {s : List Char} (ha : a ∈ encode keep s) :
    keep a = true ∨ a = '%' ∨ ∃ n < 16, a = hexDigit n := by
  obtain ⟨b, -, hb⟩ := List.mem_flatMap.mp ha
  split_ifs at hb with hkeep
  · exact Or.inl (List.mem_singleton.mp hb ▸ hkeep)
  · obtain ⟨x, -, hx⟩ := List.mem_flatMap.mp hb
    have hlt : x.toNat < 256 := x.toNat_lt
    simp only [escape, List.mem_cons, List.not_mem_nil, or_false] at hx
    rcases hx with rfl | rfl | rfl
    · exact Or.inr (Or.inl rfl)
    · exact Or.inr (Or.inr ⟨_, by omega, rfl⟩)
    · exact Or.inr (Or.inr ⟨_, by omega, rfl⟩)

/-- **The length**: a character that is not kept takes three characters for each of its bytes. -/
lemma length_encode (s : List Char) :
    (encode keep s).length =
      s.foldr (fun a n => (if keep a then 1 else 3 * a.utf8Size) + n) 0 := by
  have hescapes : ∀ bs : List UInt8, (bs.flatMap escape).length = 3 * bs.length := by
    intro bs
    induction bs with
    | nil => rfl
    | cons b bs ih =>
      rw [List.flatMap_cons, List.length_append, ih, List.length_cons, Nat.mul_add, Nat.add_comm]
      rfl
  induction s with
  | nil => rfl
  | cons a s ih =>
    rw [encode, List.flatMap_cons, ← encode, List.length_append, ih, List.foldr_cons]
    split_ifs
    · rfl
    · rw [hescapes, String.length_utf8EncodeChar]

end PercentEncoding

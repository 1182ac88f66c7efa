import Mathlib.Data.List.GetD
import Wifibot.Library.ShiftRegister

set_option relaxedAutoImplicit false
set_option autoImplicit false

/-!
# The checksum of the robot's frames

`crc16` of `raw_server/simple_server_main.c` (and `Crc16` of the Windows server, the same loop):
a 32-bit working register, started at `0xFFFF`, takes each byte at its low end and is shifted
right eight times, adding `0xA001` whenever a set bit falls out; the result is cut to a `short`.

The register never leaves its low sixteen bits, so the loop is the reflected shift register of
`ShiftRegister` at width `16`, and what it computes is a remainder modulo
`X ^ 16 + X ^ 15 + X ^ 2 + 1`.

## Main definitions

* `Wifibot.crc16` — the source's function; `Wifibot.crcBit`, `Wifibot.crcOctet` its two loops.
* `Wifibot.crcTest` — the test of a receiver.
* `Wifibot.leShort`, `Wifibot.loByte`, `Wifibot.hiByte` — a `short` from two bytes and back, as
  the frames carry it.

## Main results

* `Wifibot.foldl_crcOctet` — the loop is the sixteen-bit register.
* `Wifibot.feedAll_eq_iff_dvd` — two messages of one length leave one register iff the generator
  divides the sum of their polynomials.
* `Wifibot.crcTest_iff_feedAll` — the receiver's test asks that the whole frame, checksum
  included, brings the register to zero.
-/

namespace Wifibot

open Polynomial BitPoly ShiftRegister

/-- An `unsigned char`; a plain `char` is the same eight bits. -/
abbrev Byte := BitVec 8

/-- The constant of the checksum, in the loop's `unsigned int`. -/
def Polynome : BitVec 32 := 0xA001

/-- One turn of the loop over `CptBit`. -/
def crcBit (Crc : BitVec 32) : BitVec 32 :=
  let Parity := Crc
  let Crc := Crc >>> 1
  if Parity % 2 = 1 then Crc ^^^ Polynome else Crc

/-- One turn of the loop over `CptOctet`. -/
def crcOctet (Crc : BitVec 32) (octet : Byte) : BitVec 32 :=
  crcBit^[8] (Crc ^^^ octet.setWidth 32)

/-- `short crc16(unsigned char *adresse_tab, unsigned char taille_max)`; the `short` is kept as
its sixteen bits. -/
def crc16 (adresse_tab : List Byte) (taille_max : Byte) : BitVec 16 :=
  ((adresse_tab.take taille_max.toNat).foldl crcOctet 0xFFFF).setWidth 16

/-- `(short)((hi << 8) + lo)`, computed in `int`. -/
def leShort (lo hi : Byte) : BitVec 16 :=
  ((hi.setWidth 32 <<< 8) + lo.setWidth 32).setWidth 16

/-- The test a receiver makes: the two bytes after the first `n` are `crc16` of these. -/
def crcTest (buf : List Byte) (n : Byte) : Bool :=
  leShort (buf.getD n.toNat 0) (buf.getD (n.toNat + 1) 0) == crc16 buf n

/-- `(unsigned char)x` of a `short`. -/
def loByte (x : BitVec 16) : Byte := x.setWidth 8

/-- `(unsigned char)(x >> 8)` of a `short`: the shift is arithmetic. -/
def hiByte (x : BitVec 16) : Byte := (x.sshiftRight 8).setWidth 8

/-! ## The loop as a sixteen-bit register -/

/-- The constant at the register's true width. -/
def poly16 : BitVec 16 := 0xA001

/-- The register before the first byte, at its true width. -/
def crcInit : BitVec 16 := 0xFFFF

/-- The parity test of the loop reads the lowest bit. -/
lemma umod_two_eq_one_iff (c : BitVec 32) : c % 2 = 1 ↔ c.getLsbD 0 = true := by
  rw [← BitVec.toNat_inj, BitVec.getLsbD, Nat.testBit_zero]
  simp

/-- One turn of the bit loop keeps a sixteen-bit register and steps it. -/
lemma crcBit_setWidth (c : BitVec 16) :
    crcBit (c.setWidth 32) = (step poly16 c).setWidth 32 := by
  have hshift : (c.setWidth 32) >>> 1 = (c >>> 1).setWidth 32 := by
    apply BitVec.eq_of_toNat_eq
    have := c.isLt
    simp only [BitVec.toNat_ushiftRight, BitVec.toNat_setWidth, Nat.shiftRight_eq_div_pow]
    omega
  have hbit : (c.setWidth 32).getLsbD 0 = c.getLsbD 0 := by simp
  unfold crcBit step
  simp only [umod_two_eq_one_iff, hbit, hshift]
  split_ifs
  · rw [BitVec.setWidth_xor]
    rfl
  · rfl

/-- One turn of the byte loop keeps a sixteen-bit register and feeds it the byte. -/
lemma crcOctet_setWidth (c : BitVec 16) (b : Byte) :
    crcOctet (c.setWidth 32) b = (feed poly16 c b).setWidth 32 := by
  have hxor : c.setWidth 32 ^^^ b.setWidth 32 = (c ^^^ b.setWidth 16).setWidth 32 := by
    have hb : (b.setWidth 16).setWidth 32 = b.setWidth 32 := by
      apply BitVec.eq_of_toNat_eq
      have := b.isLt
      simp only [BitVec.toNat_setWidth]
      omega
    rw [BitVec.setWidth_xor, hb]
  have hiter : ∀ (k : ℕ) (d : BitVec 16),
      crcBit^[k] (d.setWidth 32) = ((step poly16)^[k] d).setWidth 32 := by
    intro k
    induction k with
    | zero => exact fun _ => rfl
    | succ k ih => intro d; rw [Function.iterate_succ_apply, crcBit_setWidth, ih]; rfl
  rw [crcOctet, hxor, hiter, feed]

/-- **The byte loop is the sixteen-bit register**: it never leaves the low sixteen bits. -/
lemma foldl_crcOctet (c : BitVec 16) (l : List Byte) :
    l.foldl crcOctet (c.setWidth 32) = (feedAll poly16 c l).setWidth 32 := by
  induction l generalizing c with
  | nil => rfl
  | cons b l ih => rw [List.foldl_cons, crcOctet_setWidth, ih, feedAll_cons]

/-- The working register holds its sixteen bits faithfully. -/
lemma setWidth_inj {c d : BitVec 16} : c.setWidth 32 = d.setWidth 32 ↔ c = d := by
  constructor
  · intro h
    have hcut := congrArg (BitVec.setWidth 16) h
    rwa [BitVec.setWidth_setWidth_of_le _ (by decide), BitVec.setWidth_eq,
      BitVec.setWidth_setWidth_of_le _ (by decide), BitVec.setWidth_eq] at hcut
  · intro h
    rw [h]

/-- `crc16` is the register after the message. -/
lemma crc16_eq_feedAll (l : List Byte) (n : Byte) :
    crc16 l n = feedAll poly16 crcInit (l.take n.toNat) := by
  rw [crc16, show (0xFFFF : BitVec 32) = crcInit.setWidth 32 from rfl, foldl_crcOctet,
    BitVec.setWidth_setWidth_of_le _ (by decide), BitVec.setWidth_eq]

/-- Only the first `taille_max` bytes matter. -/
lemma crc16_congr {l m : List Byte} {n : Byte} (h : l.take n.toNat = m.take n.toNat) :
    crc16 l n = crc16 m n := by
  rw [crc16, crc16, h]

/-! ## The generator -/

/-- The generator polynomial of the checksum. -/
noncomputable def crcGen : (ZMod 2)[X] := gen poly16

/-- The generator is `X ^ 16 + X ^ 15 + X ^ 2 + 1`. -/
lemma crcGen_eq : crcGen = X ^ 16 + X ^ 15 + X ^ 2 + 1 := by
  have hwire : wire poly16 = true :: (List.replicate 12 false ++ [true, false, true]) := by decide
  rw [crcGen, gen, toPoly, hwire, ofBits_cons, ofBits_append]
  simp
  ring

/-- The generator has the constant term `1`. -/
lemma crcGen_coeff_zero : crcGen.coeff 0 ≠ 0 := by
  rw [crcGen_eq]
  simp

/-- The generator has the factor `X + 1`. -/
lemma crcGen_eval_one : crcGen.eval 1 = 0 := by
  rw [crcGen_eq]
  simp only [eval_add, eval_pow, eval_X, eval_one, one_pow]
  decide

/-- The generator has degree sixteen. -/
lemma crcGen_degree : crcGen.degree = 16 := degree_gen poly16

/-- The bits of bytes in wire order: bytes in order, lowest bit first. -/
def wireBits (l : List Byte) : List Bool := l.flatMap wire

@[simp] lemma length_wireBits (l : List Byte) : (wireBits l).length = 8 * l.length := by
  simp [wireBits, List.length_flatMap, mul_comm]

/-- The exclusive or of byte strings, on the wire. -/
lemma wireBits_zipWith_xor {l m : List Byte} (h : l.length = m.length) :
    wireBits (List.zipWith (· ^^^ ·) l m) =
      List.zipWith (· ^^ ·) (wireBits l) (wireBits m) := by
  induction l generalizing m with
  | nil => simp [wireBits]
  | cons a l ih =>
    cases m with
    | nil => simp at h
    | cons b m =>
      have htail := ih (m := m) (by simpa using h)
      simp only [wireBits] at htail ⊢
      rw [List.zipWith_cons_cons, List.flatMap_cons, List.flatMap_cons, List.flatMap_cons,
        List.zipWith_append (by simp), wire_xor, htail]

/-- The register after a message, modulo the generator. -/
lemma mk_feedAll (c : BitVec 16) (l : List Byte) :
    AdjoinRoot.mk crcGen (toPoly (feedAll poly16 c l)) =
      AdjoinRoot.mk crcGen (X ^ (8 * l.length) * toPoly c + X ^ 16 * ofBits (wireBits l)) := by
  have h := mk_toPoly_feedAll poly16 (by decide) (by decide) c l
  simp only [map_add, map_mul, map_pow, AdjoinRoot.mk_X]
  exact h

/-- The register after a message determines the register before it. -/
lemma feedAll_injective (l : List Byte) : Function.Injective fun c => feedAll poly16 c l := by
  intro c d h
  have hmk := congrArg (fun r => AdjoinRoot.mk crcGen (toPoly r)) h
  simp only [mk_feedAll] at hmk
  rw [AdjoinRoot.mk_eq_mk, add_sub_add_right_eq_sub, ← mul_sub,
    dvd_X_pow_mul_iff crcGen_coeff_zero, ← AdjoinRoot.mk_eq_mk] at hmk
  exact eq_of_mk_toPoly_eq poly16 hmk

/-- Two messages of one length leave one register iff the generator divides the sum of their
polynomials. -/
lemma feedAll_eq_iff_dvd {l m : List Byte} (h : l.length = m.length) (c : BitVec 16) :
    feedAll poly16 c l = feedAll poly16 c m ↔
      crcGen ∣ ofBits (wireBits l) + ofBits (wireBits m) := by
  have hmk : feedAll poly16 c l = feedAll poly16 c m ↔
      AdjoinRoot.mk crcGen (toPoly (feedAll poly16 c l)) =
        AdjoinRoot.mk crcGen (toPoly (feedAll poly16 c m)) :=
    ⟨fun he => by rw [he], eq_of_mk_toPoly_eq poly16⟩
  rw [hmk, mk_feedAll, mk_feedAll, h, AdjoinRoot.mk_eq_mk, add_sub_add_left_eq_sub, ← mul_sub,
    dvd_X_pow_mul_iff crcGen_coeff_zero, CharTwo.sub_eq_add]

/-- Replacing bytes in the middle of a message shows in the register afterwards as it does with
these bytes alone, whatever the register was. -/
lemma feedAll_middle_iff {l m : List Byte} (h : l.length = m.length) (c d : BitVec 16)
    (a b : List Byte) :
    feedAll poly16 c (a ++ l ++ b) = feedAll poly16 c (a ++ m ++ b) ↔
      feedAll poly16 d l = feedAll poly16 d m := by
  simp only [feedAll_append]
  rw [(feedAll_injective b).eq_iff, feedAll_eq_iff_dvd h, feedAll_eq_iff_dvd h]

/-! ## A `short` on the wire -/

/-- The `short` of two bytes is their concatenation. -/
lemma leShort_eq_append (lo hi : Byte) : leShort lo hi = hi ++ lo := by
  apply BitVec.eq_of_toNat_eq
  have h₁ := lo.isLt
  have h₂ := hi.isLt
  rw [BitVec.toNat_append, ← Nat.shiftLeft_add_eq_or_of_lt h₁]
  simp only [leShort, BitVec.toNat_setWidth, BitVec.toNat_add, BitVec.toNat_shiftLeft,
    Nat.shiftLeft_eq]
  omega

/-- The two bytes of a `short` give it back. -/
@[simp] lemma leShort_loByte_hiByte (x : BitVec 16) : leShort (loByte x) (hiByte x) = x := by
  rw [leShort_eq_append]
  apply BitVec.eq_of_getLsbD_eq
  intro i hi
  rw [BitVec.getLsbD_append]
  by_cases h : i < 8
  · simp [loByte, h]
  · have h8 : 8 + (i - 8) = i := by omega
    simp [hiByte, BitVec.getLsbD_sshiftRight, h, h8, show i - 8 < 8 by omega,
      show ¬ 16 ≤ i - 8 by omega, hi]

/-- A `short` is carried low byte first, lowest bit first. -/
lemma wire_leShort (lo hi : Byte) : wire (leShort lo hi) = wireBits [lo, hi] := by
  rw [leShort_eq_append]
  apply List.ext_getElem
  · simp
  · intro i h₁ h₂
    rw [length_wire] at h₁
    have hw : wireBits [lo, hi] = wire lo ++ wire hi := by simp [wireBits]
    simp only [hw]
    rcases Nat.lt_or_ge i 8 with h | h
    · rw [List.getElem_append_left (by simpa using h)]
      simp only [wire, List.getElem_map, List.getElem_range]
      rw [BitVec.getLsbD_append, if_pos h]
    · rw [List.getElem_append_right (by simpa using h)]
      simp only [wire, List.getElem_map, List.getElem_range, List.length_map, List.length_range]
      rw [BitVec.getLsbD_append, if_neg (by omega)]

/-- Feeding a register two bytes brings it to zero iff they are its own value.

**Proof sketch.** On the wire the two bytes are the `short` they make, so the register afterwards
is `X ^ 16` times the sum of the old register and that `short`, modulo the generator. -/
lemma feedAll_pair_eq_zero_iff (r : BitVec 16) (lo hi : Byte) :
    feedAll poly16 r [lo, hi] = 0#16 ↔ leShort lo hi = r := by
  have hwire : ofBits (wireBits [lo, hi]) = toPoly (leShort lo hi) := by
    rw [← wire_leShort]
    rfl
  have hmk : AdjoinRoot.mk crcGen (toPoly (feedAll poly16 r [lo, hi])) =
      AdjoinRoot.mk crcGen (X ^ 16 * toPoly (leShort lo hi ^^^ r)) := by
    rw [mk_feedAll, toPoly_xor, hwire, mul_add, add_comm]
    rfl
  rw [← mk_toPoly_eq_zero_iff poly16, ← BitVec.xor_eq_zero_iff, ← mk_toPoly_eq_zero_iff poly16]
  change AdjoinRoot.mk crcGen _ = 0 ↔ AdjoinRoot.mk crcGen _ = 0
  rw [hmk, AdjoinRoot.mk_eq_zero, dvd_X_pow_mul_iff crcGen_coeff_zero, AdjoinRoot.mk_eq_zero]

/-- **The receiver's test** asks that the frame, checksum included, brings the register to zero. -/
lemma crcTest_iff_feedAll (buf : List Byte) (n : Byte) (h : n.toNat + 2 ≤ buf.length) :
    crcTest buf n = true ↔ feedAll poly16 crcInit (buf.take (n.toNat + 2)) = 0#16 := by
  have htake : buf.take (n.toNat + 2) =
      buf.take n.toNat ++ [buf.getD n.toNat 0, buf.getD (n.toNat + 1) 0] := by
    have h₁ : n.toNat < buf.length := by omega
    have h₂ : n.toNat + 1 < buf.length := by omega
    rw [List.take_succ_eq_append_getElem h₂, List.take_succ_eq_append_getElem h₁,
      List.getD_eq_getElem _ _ h₁, List.getD_eq_getElem _ _ h₂, List.append_assoc]
    rfl
  rw [crcTest, beq_iff_eq, crc16_eq_feedAll, htake, feedAll_append, feedAll_pair_eq_zero_iff]

end Wifibot

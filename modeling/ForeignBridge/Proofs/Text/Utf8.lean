import ForeignBridge.Text.Utf8

/-!
# UTF-8 there and back

The strict decoder accepts what the encoder writes, character by character.
-/

namespace ForeignBridge
namespace Utf8

/-!
# Bytes
-/

theorem toNat_ofNat {n : Nat} (h : n < 256) : (UInt8.ofNat n).toNat = n :=
  UInt8.toNat_ofNat_of_lt' h

theorem width?_eq (lead : UInt8) :
    width? lead =
      if lead.toNat < 0x80 then some 1
      else if lead.toNat < 0xc2 then none
      else if lead.toNat < 0xe0 then some 2
      else if lead.toNat < 0xf0 then some 3
      else if lead.toNat < 0xf5 then some 4
      else none := rfl

theorem eq_iff_toNat (byte other : UInt8) : byte = other ↔ byte.toNat = other.toNat :=
  UInt8.toNat_inj.symm

theorem follows_eq (lead next : UInt8) :
    follows lead next = true ↔
      (if lead.toNat = 0xe0 then 0xa0 else if lead.toNat = 0xf0 then 0x90 else 0x80) ≤ next.toNat ∧
        next.toNat ≤ (if lead.toNat = 0xed then 0x9f else if lead.toNat = 0xf4 then 0x8f
          else 0xbf) := by
  unfold follows
  rw [Bool.and_eq_true, decide_eq_true_iff, decide_eq_true_iff, UInt8.le_iff_toNat_le,
    UInt8.le_iff_toNat_le]
  simp only [eq_iff_toNat, apply_ite UInt8.toNat]
  exact Iff.rfl

theorem continues_eq (byte : UInt8) :
    continues byte = true ↔ 0x80 ≤ byte.toNat ∧ byte.toNat ≤ 0xbf := by
  unfold continues
  rw [Bool.and_eq_true, decide_eq_true_iff, decide_eq_true_iff]
  exact Iff.rfl

/-!
# Sequences
-/

section Sequences

variable {index : Nat} {a b c d : UInt8} {rest : List UInt8}

theorem decodeFrom_one (ha : width? a = some 1) :
    decodeFrom index (a :: rest) =
      (decodeFrom (index + 1) rest).map (Char.ofNat a.toNat :: ·) := by
  rw [decodeFrom.eq_def]
  dsimp only
  rw [ha]
  rfl

theorem decodeFrom_two (ha : width? a = some 2) (hb : follows a b = true) :
    decodeFrom index (a :: b :: rest) =
      (decodeFrom (index + 2) rest).map (Char.ofNat (a.toNat % 32 * 64 + payload b) :: ·) := by
  rw [decodeFrom.eq_def]
  dsimp only
  rw [ha, hb]
  rfl

theorem decodeFrom_three (ha : width? a = some 3) (hb : follows a b = true)
    (hc : continues c = true) :
    decodeFrom index (a :: b :: c :: rest) =
      (decodeFrom (index + 3) rest).map
        (Char.ofNat ((a.toNat % 16 * 64 + payload b) * 64 + payload c) :: ·) := by
  rw [decodeFrom.eq_def]
  dsimp only
  rw [ha, hb, hc]
  rfl

theorem decodeFrom_four (ha : width? a = some 4) (hb : follows a b = true)
    (hc : continues c = true) (hd : continues d = true) :
    decodeFrom index (a :: b :: c :: d :: rest) =
      (decodeFrom (index + 4) rest).map
        (Char.ofNat (((a.toNat % 8 * 64 + payload b) * 64 + payload c) * 64 + payload d) :: ·) := by
  rw [decodeFrom.eq_def]
  dsimp only
  rw [ha, hb, hc, hd]
  rfl

end Sequences

/-!
# Characters
-/

section Characters

variable {v : Nat} (index : Nat) (rest : List UInt8)

theorem continues_ofNat (n : Nat) : continues (UInt8.ofNat (n % 0x40 + 0x80)) = true := by
  rw [continues_eq, toNat_ofNat (by omega)]
  omega

theorem payload_ofNat (n : Nat) : payload (UInt8.ofNat (n % 0x40 + 0x80)) = n % 64 := by
  unfold payload
  rw [toNat_ofNat (by omega)]
  omega

theorem decodeFrom_encode_two (hlow : 0x7f < v) (hhigh : v ≤ 0x7ff) :
    decodeFrom index (UInt8.ofNat (v / 64 % 0x20 + 0xc0) :: UInt8.ofNat (v % 0x40 + 0x80) :: rest) =
      (decodeFrom (index + 2) rest).map (Char.ofNat v :: ·) := by
  have ha : (UInt8.ofNat (v / 64 % 0x20 + 0xc0)).toNat = v / 64 + 0xc0 := by
    rw [toNat_ofNat (by omega)]
    omega
  have hb : (UInt8.ofNat (v % 0x40 + 0x80)).toNat = v % 64 + 0x80 := toNat_ofNat (by omega)
  have hwidth : width? (UInt8.ofNat (v / 64 % 0x20 + 0xc0)) = some 2 := by
    rw [width?_eq, ha, if_neg (by omega), if_neg (by omega), if_pos (by omega)]
  have hfollows : follows (UInt8.ofNat (v / 64 % 0x20 + 0xc0)) (UInt8.ofNat (v % 0x40 + 0x80)) =
      true := by
    rw [follows_eq, ha, hb, if_neg (by omega), if_neg (by omega), if_neg (by omega),
      if_neg (by omega)]
    omega
  have hvalue : (v / 64 + 0xc0) % 32 * 64 + v % 64 = v := by omega
  rw [decodeFrom_two hwidth hfollows, payload_ofNat, ha, hvalue]

theorem decodeFrom_encode_three (hlow : 0x7ff < v) (hhigh : v ≤ 0xffff)
    (hvalid : v < 0xd800 ∨ 0xdfff < v) :
    decodeFrom index (UInt8.ofNat (v / 4096 % 0x10 + 0xe0) ::
        UInt8.ofNat (v / 64 % 0x40 + 0x80) :: UInt8.ofNat (v % 0x40 + 0x80) :: rest) =
      (decodeFrom (index + 3) rest).map (Char.ofNat v :: ·) := by
  have ha : (UInt8.ofNat (v / 4096 % 0x10 + 0xe0)).toNat = v / 4096 + 0xe0 := by
    rw [toNat_ofNat (by omega)]
    omega
  have hb : (UInt8.ofNat (v / 64 % 0x40 + 0x80)).toNat = v / 64 % 64 + 0x80 :=
    toNat_ofNat (by omega)
  have hwidth : width? (UInt8.ofNat (v / 4096 % 0x10 + 0xe0)) = some 3 := by
    rw [width?_eq, ha, if_neg (by omega), if_neg (by omega), if_neg (by omega), if_pos (by omega)]
  -- Bounds are narrower after the first lead byte and before the surrogates.
  have hfollows : follows (UInt8.ofNat (v / 4096 % 0x10 + 0xe0))
      (UInt8.ofNat (v / 64 % 0x40 + 0x80)) = true := by
    rw [follows_eq, ha, hb, if_neg (by omega : ¬ v / 4096 + 0xe0 = 0xf0),
      if_neg (by omega : ¬ v / 4096 + 0xe0 = 0xf4)]
    constructor
    · split <;> omega
    · split <;> omega
  have hvalue : ((v / 4096 + 0xe0) % 16 * 64 + v / 64 % 64) * 64 + v % 64 = v := by omega
  rw [decodeFrom_three hwidth hfollows (continues_ofNat v), payload_ofNat, payload_ofNat, ha,
    hvalue]

theorem decodeFrom_encode_four (hlow : 0xffff < v) (hhigh : v < 0x110000) :
    decodeFrom index (UInt8.ofNat (v / 262144 % 0x08 + 0xf0) ::
        UInt8.ofNat (v / 4096 % 0x40 + 0x80) :: UInt8.ofNat (v / 64 % 0x40 + 0x80) ::
        UInt8.ofNat (v % 0x40 + 0x80) :: rest) =
      (decodeFrom (index + 4) rest).map (Char.ofNat v :: ·) := by
  have ha : (UInt8.ofNat (v / 262144 % 0x08 + 0xf0)).toNat = v / 262144 + 0xf0 := by
    rw [toNat_ofNat (by omega)]
    omega
  have hb : (UInt8.ofNat (v / 4096 % 0x40 + 0x80)).toNat = v / 4096 % 64 + 0x80 :=
    toNat_ofNat (by omega)
  have hwidth : width? (UInt8.ofNat (v / 262144 % 0x08 + 0xf0)) = some 4 := by
    rw [width?_eq, ha, if_neg (by omega), if_neg (by omega), if_neg (by omega), if_neg (by omega),
      if_pos (by omega)]
  have hfollows : follows (UInt8.ofNat (v / 262144 % 0x08 + 0xf0))
      (UInt8.ofNat (v / 4096 % 0x40 + 0x80)) = true := by
    rw [follows_eq, ha, hb]
    constructor
    · rw [if_neg (by omega)]
      split <;> omega
    · rw [if_neg (by omega)]
      split <;> omega
  have hvalue : (((v / 262144 + 0xf0) % 8 * 64 + v / 4096 % 64) * 64 + v / 64 % 64) * 64 + v % 64 =
      v := by omega
  rw [decodeFrom_four hwidth hfollows (continues_ofNat _) (continues_ofNat v), payload_ofNat,
    payload_ofNat, payload_ofNat, ha, hvalue]

end Characters

theorem isValidChar_toNat (c : Char) :
    c.toNat < 0xd800 ∨ (0xdfff < c.toNat ∧ c.toNat < 0x110000) := c.valid

theorem toNat_char {n : Nat} (h : n.isValidChar) : (Char.ofNat n).toNat = n := by
  unfold Char.ofNat
  rw [dif_pos h]
  rfl

theorem encodeChar_eq (c : Char) :
    String.utf8EncodeChar c =
      if c.toNat ≤ 0x7f then [UInt8.ofNat c.toNat]
      else if c.toNat ≤ 0x7ff then
        [UInt8.ofNat (c.toNat / 64 % 0x20 + 0xc0), UInt8.ofNat (c.toNat % 0x40 + 0x80)]
      else if c.toNat ≤ 0xffff then
        [UInt8.ofNat (c.toNat / 4096 % 0x10 + 0xe0), UInt8.ofNat (c.toNat / 64 % 0x40 + 0x80),
          UInt8.ofNat (c.toNat % 0x40 + 0x80)]
      else
        [UInt8.ofNat (c.toNat / 262144 % 0x08 + 0xf0), UInt8.ofNat (c.toNat / 4096 % 0x40 + 0x80),
          UInt8.ofNat (c.toNat / 64 % 0x40 + 0x80), UInt8.ofNat (c.toNat % 0x40 + 0x80)] := rfl

/-- The bytes of a character are decoded as this character. -/
theorem decodeFrom_encodeChar (c : Char) (index : Nat) (rest : List UInt8) :
    decodeFrom index (String.utf8EncodeChar c ++ rest) =
      (decodeFrom (index + (String.utf8EncodeChar c).length) rest).map (c :: ·) := by
  have hvalid := isValidChar_toNat c
  have hback : Char.ofNat c.toNat = c := Char.ofNat_toNat c
  generalize hv : c.toNat = v at hvalid hback
  rw [encodeChar_eq, hv]
  split
  · have ha : (UInt8.ofNat v).toNat = v := toNat_ofNat (by omega)
    have hwidth : width? (UInt8.ofNat v) = some 1 := by
      rw [width?_eq, ha, if_pos (by omega)]
    rw [List.singleton_append, decodeFrom_one hwidth, ha, hback]
    rfl
  · split
    · have htwo := decodeFrom_encode_two (v := v) index rest (by omega) (by omega)
      rw [hback] at htwo
      exact htwo
    · split
      · have hthree := decodeFrom_encode_three (v := v) index rest (by omega) (by omega) (by omega)
        rw [hback] at hthree
        exact hthree
      · have hfour := decodeFrom_encode_four (v := v) index rest (by omega) (by omega)
        rw [hback] at hfour
        exact hfour

/-- The bytes of characters are decoded as these characters, whatever follows them. -/
theorem decodeFrom_flatMap (chars : List Char) (index : Nat) (rest : List UInt8) :
    decodeFrom index (chars.flatMap String.utf8EncodeChar ++ rest) =
      (decodeFrom (index + (chars.flatMap String.utf8EncodeChar).length) rest).map (chars ++ ·) := by
  induction chars generalizing index with
  | nil =>
      show decodeFrom index rest = (decodeFrom index rest).map id
      cases decodeFrom index rest with
      | _ => rfl
  | cons c chars ih =>
      rw [List.flatMap_cons, List.append_assoc, decodeFrom_encodeChar, ih, List.length_append,
        Nat.add_assoc]
      cases decodeFrom _ rest with
      | _ => rfl

theorem decodeFrom_chars (chars : List Char) (index : Nat) :
    decodeFrom index (chars.flatMap String.utf8EncodeChar) = .ok chars := by
  have hchars := decodeFrom_flatMap chars index []
  rw [List.append_nil] at hchars
  rw [hchars]
  exact congrArg Except.ok (List.append_nil chars)

/-- Every text is decoded from its bytes. -/
theorem decode_encode (text : String) : decode (encode text) = .ok text := by
  unfold decode encode
  rw [decodeFrom_chars]
  exact congrArg Except.ok String.ofList_toList

end Utf8
end ForeignBridge

import ForeignBridge.Proofs.Text.Utf8
import ForeignBridge.Text.Utf16

/-!
# Paired surrogates

Units are decoded exactly if every surrogate among them is one of a pair, said by their positions,
and the text that comes of them is the one that is written with these units.
-/

namespace ForeignBridge
namespace Utf16

open Utf8 (isValidChar_toNat toNat_char)

/-- The units of a character: itself, or two surrogates with ten of its bits each. -/
def encodeChar (char : Char) : List UInt16 :=
  if char.toNat < 0x10000 then [UInt16.ofNat char.toNat]
  else
    [UInt16.ofNat (0xd800 + (char.toNat - 0x10000) / 0x400),
      UInt16.ofNat (0xdc00 + (char.toNat - 0x10000) % 0x400)]

def encode (text : String) : List UInt16 := text.toList.flatMap encodeChar

/-- Behind every high surrogate is a low one, and before every low surrogate is a high one. -/
structure Paired (units : List UInt16) : Prop where
  high : ∀ index u, units[index]? = some u → isHigh u = true →
    ∃ v, units[index + 1]? = some v ∧ isLow v = true
  low : ∀ index v, units[index]? = some v → isLow v = true →
    ∃ before u, index = before + 1 ∧ units[before]? = some u ∧ isHigh u = true

/-!
# Units
-/

theorem toNat_ofNat {n : Nat} (h : n < 65536) : (UInt16.ofNat n).toNat = n :=
  UInt16.toNat_ofNat_of_lt' h

theorem isHigh_iff {unit : UInt16} : isHigh unit = true ↔ 0xd800 ≤ unit.toNat ∧ unit.toNat < 0xdc00 := by
  unfold isHigh
  rw [Bool.and_eq_true, decide_eq_true_iff, decide_eq_true_iff]
  exact Iff.rfl

theorem isLow_iff {unit : UInt16} : isLow unit = true ↔ 0xdc00 ≤ unit.toNat ∧ unit.toNat < 0xe000 := by
  unfold isLow
  rw [Bool.and_eq_true, decide_eq_true_iff, decide_eq_true_iff]
  exact Iff.rfl

variable {u v : UInt16} {rest : List UInt16}

theorem not_isLow_of_isHigh (h : isHigh u = true) : ¬ isLow u = true := by
  rw [isHigh_iff] at h
  rw [isLow_iff]
  omega

/-!
# Pairs
-/

theorem paired_nil : Paired [] := ⟨nofun, nofun⟩

theorem Paired.not_isLow (h : Paired (u :: rest)) : ¬ isLow u = true := by
  intro hlow
  rcases h.low 0 u rfl hlow with ⟨_, _, hindex, -⟩
  cases hindex

theorem Paired.exists_low (h : Paired (u :: rest)) (hhigh : isHigh u = true) :
    ∃ v tail, rest = v :: tail ∧ isLow v = true := by
  rcases h.high 0 u rfl hhigh with ⟨v, hv, hlow⟩
  cases rest with
  | nil => cases hv
  | cons w tail =>
      cases hv
      exact ⟨v, tail, rfl, hlow⟩

/-- What is no surrogate does not matter. -/
theorem paired_cons (hhigh : ¬ isHigh u = true) (hlow : ¬ isLow u = true) :
    Paired (u :: rest) ↔ Paired rest := by
  constructor
  · intro h
    constructor
    case high => exact fun index => h.high (index + 1)
    case low =>
      intro index v hv hv'
      rcases h.low (index + 1) v hv hv' with ⟨before, w, hindex, hw, hw'⟩
      cases before with
      | zero =>
          cases hw
          exact absurd hw' hhigh
      | succ before => exact ⟨before, w, Nat.succ.inj hindex, hw, hw'⟩
  · intro h
    constructor
    case high =>
      intro index v hv hv'
      cases index with
      | zero =>
          cases hv
          exact absurd hv' hhigh
      | succ index => exact h.high index v hv hv'
    case low =>
      intro index v hv hv'
      cases index with
      | zero =>
          cases hv
          exact absurd hv' hlow
      | succ index =>
          rcases h.low index v hv hv' with ⟨before, w, hindex, hw, hw'⟩
          exact ⟨before + 1, w, congrArg Nat.succ hindex, hw, hw'⟩

/-- Neither does a pair. -/
theorem paired_cons_cons (hhigh : isHigh u = true) (hlow : isLow v = true) :
    Paired (u :: v :: rest) ↔ Paired rest := by
  have hv : ¬ isHigh v = true := fun h => not_isLow_of_isHigh h hlow
  constructor
  · intro h
    constructor
    case high => exact fun index => h.high (index + 2)
    case low =>
      intro index w hw hw'
      rcases h.low (index + 2) w hw hw' with ⟨before, x, hindex, hx, hx'⟩
      cases Nat.succ.inj hindex
      cases index with
      | zero =>
          cases hx
          exact absurd hx' hv
      | succ index => exact ⟨index, x, rfl, hx, hx'⟩
  · intro h
    constructor
    case high =>
      intro index w hw hw'
      match index with
      | 0 => exact ⟨v, rfl, hlow⟩
      | 1 =>
          cases hw
          exact absurd hw' hv
      | index + 2 => exact h.high index w hw hw'
    case low =>
      intro index w hw hw'
      match index with
      | 0 =>
          cases hw
          exact absurd hw' (not_isLow_of_isHigh hhigh)
      | 1 => exact ⟨0, u, rfl, rfl, hhigh⟩
      | index + 2 =>
          rcases h.low index w hw hw' with ⟨before, x, hindex, hx, hx'⟩
          exact ⟨before + 2, x, congrArg (· + 2) hindex, hx, hx'⟩

/-!
# Decoding
-/

/-- A unit that is no surrogate is the character of its number. -/
theorem encodeChar_unit (hhigh : ¬ isHigh u = true) (hlow : ¬ isLow u = true) :
    encodeChar (Char.ofNat u.toNat) = [u] := by
  rw [isHigh_iff] at hhigh
  rw [isLow_iff] at hlow
  have hlt : u.toNat < 0x10000 := u.toNat_lt
  have hvalid : u.toNat.isValidChar := by
    unfold Nat.isValidChar
    omega
  unfold encodeChar
  rw [toNat_char hvalid, if_pos hlt, UInt16.ofNat_toNat]

theorem encodeChar_pair (hhigh : isHigh u = true) (hlow : isLow v = true) :
    encodeChar (Char.ofNat (pairValue u v)) = [u, v] := by
  rw [isHigh_iff] at hhigh
  rw [isLow_iff] at hlow
  have hvalue : pairValue u v = 0x10000 + (u.toNat - 0xd800) * 0x400 + (v.toNat - 0xdc00) := rfl
  have hvalid : (pairValue u v).isValidChar := by
    unfold Nat.isValidChar
    omega
  have hfirst : 0xd800 + (pairValue u v - 0x10000) / 0x400 = u.toNat := by omega
  have hsecond : 0xdc00 + (pairValue u v - 0x10000) % 0x400 = v.toNat := by omega
  unfold encodeChar
  rw [toNat_char hvalid, if_neg (by omega), hfirst, hsecond, UInt16.ofNat_toNat, UInt16.ofNat_toNat]

theorem decodeChars_unit (hhigh : ¬ isHigh u = true) (hlow : ¬ isLow u = true) :
    decodeChars (u :: rest) = (decodeChars rest).map (Char.ofNat u.toNat :: ·) := by
  rw [decodeChars.eq_def]
  dsimp only
  rw [if_neg hhigh, if_neg hlow]
  cases decodeChars rest with
  | _ => rfl

theorem decodeChars_pair (hhigh : isHigh u = true) (hlow : isLow v = true) :
    decodeChars (u :: v :: rest) = (decodeChars rest).map (Char.ofNat (pairValue u v) :: ·) := by
  rw [decodeChars.eq_def]
  dsimp only
  rw [if_pos hhigh, if_pos hlow]
  cases decodeChars rest with
  | _ => rfl

theorem decodeChars_encodeChar (char : Char) (rest : List UInt16) :
    decodeChars (encodeChar char ++ rest) = (decodeChars rest).map (char :: ·) := by
  have hvalid := isValidChar_toNat char
  have hback : Char.ofNat char.toNat = char := Char.ofNat_toNat char
  unfold encodeChar
  generalize char.toNat = n at hvalid hback
  split
  · have hn : (UInt16.ofNat n).toNat = n := toNat_ofNat (by omega)
    rw [List.singleton_append, decodeChars_unit, hn, hback]
    · rw [isHigh_iff, hn]
      omega
    · rw [isLow_iff, hn]
      omega
  · have hfirst : (UInt16.ofNat (0xd800 + (n - 0x10000) / 0x400)).toNat =
        0xd800 + (n - 0x10000) / 0x400 := toNat_ofNat (by omega)
    have hsecond : (UInt16.ofNat (0xdc00 + (n - 0x10000) % 0x400)).toNat =
        0xdc00 + (n - 0x10000) % 0x400 := toNat_ofNat (by omega)
    have hvalue : pairValue (UInt16.ofNat (0xd800 + (n - 0x10000) / 0x400))
        (UInt16.ofNat (0xdc00 + (n - 0x10000) % 0x400)) = n := by
      unfold pairValue
      rw [hfirst, hsecond]
      omega
    rw [List.cons_append, List.singleton_append, decodeChars_pair, hvalue, hback]
    · rw [isHigh_iff, hfirst]
      omega
    · rw [isLow_iff, hsecond]
      omega

/-- Every text is decoded from its units. -/
theorem decode?_encode (text : String) : decode? (encode text) = some text := by
  have hchars : ∀ chars : List Char, decodeChars (chars.flatMap encodeChar) = some chars := by
    intro chars
    induction chars with
    | nil => rfl
    | cons char chars ih =>
        rw [List.flatMap_cons, decodeChars_encodeChar, ih]
        rfl
  unfold decode? encode
  rw [hchars]
  exact congrArg some String.ofList_toList

/-- Units with all surrogates paired are decoded as what is written with them. -/
theorem exists_chars_of_paired {units : List UInt16} (h : Paired units) :
    ∃ chars : List Char, chars.flatMap encodeChar = units := by
  fun_induction decodeChars units with
  | case1 => exact ⟨[], rfl⟩
  | case2 u hhigh =>
      rcases h.exists_low hhigh with ⟨_, _, hrest, -⟩
      cases hrest
  | case3 u hhigh v rest hlow ih =>
      rcases ih ((paired_cons_cons hhigh hlow).1 h) with ⟨chars, rfl⟩
      refine ⟨Char.ofNat (pairValue u v) :: chars, ?_⟩
      rw [List.flatMap_cons, encodeChar_pair hhigh hlow]
      rfl
  | case4 u hhigh v rest hlow =>
      rcases h.exists_low hhigh with ⟨_, _, hrest, hlow'⟩
      cases hrest
      exact absurd hlow' hlow
  | case5 u rest _ hlow => exact absurd hlow h.not_isLow
  | case6 u rest hhigh hlow ih =>
      rcases ih ((paired_cons hhigh hlow).1 h) with ⟨chars, rfl⟩
      refine ⟨Char.ofNat u.toNat :: chars, ?_⟩
      rw [List.flatMap_cons, encodeChar_unit hhigh hlow]
      rfl

theorem decode?_of_paired {units : List UInt16} (h : Paired units) :
    ∃ text, decode? units = some text ∧ encode text = units := by
  rcases exists_chars_of_paired h with ⟨chars, rfl⟩
  have hencode : encode (String.ofList chars) = chars.flatMap encodeChar := by
    unfold encode
    rw [String.toList_ofList]
  rw [← hencode]
  exact ⟨String.ofList chars, decode?_encode _, rfl⟩

/-- Units with a lone surrogate are refused. -/
theorem decode?_of_not_paired {units : List UInt16} (h : ¬ Paired units) : decode? units = none := by
  have hchars : decodeChars units = none := by
    fun_induction decodeChars units with
    | case1 => exact absurd paired_nil h
    | case3 u hhigh v rest hlow ih =>
        rw [ih fun hrest => h ((paired_cons_cons hhigh hlow).2 hrest)]
        rfl
    | case6 u rest hhigh hlow ih =>
        rw [ih fun hrest => h ((paired_cons hhigh hlow).2 hrest)]
        rfl
    | case2 | case4 | case5 => rfl
  unfold decode?
  rw [hchars]
  rfl

end Utf16
end ForeignBridge

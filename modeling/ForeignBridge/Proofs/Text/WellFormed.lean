import Mathlib.Order.Bounds.Defs
import Mathlib.Tactic.SplitIfs
import ForeignBridge.Proofs.Text.Utf8

/-!
# Well-formed UTF-8

What the bytes of a text are, said without a decoder: every character is written by its bits, in the
fewest bytes that hold them.  Strict decoding accepts these bytes and no others, and of all others it
finds the longest prefix that is well formed.
-/

namespace ForeignBridge
namespace Utf8

/-- A byte of the form `10xxxxxx`. -/
def IsTail (byte : UInt8) : Prop := byte.toNat / 64 = 0b10

/-- The bits of a number after the marks of its bytes.  Most numbers have several forms. -/
inductive Form : Nat → List UInt8 → Prop where
  | one {a : UInt8} (ha : a.toNat / 128 = 0) : Form a.toNat [a]
  | two {a b : UInt8} (ha : a.toNat / 32 = 0b110) (hb : IsTail b) :
      Form (a.toNat % 32 * 64 + payload b) [a, b]
  | three {a b c : UInt8} (ha : a.toNat / 16 = 0b1110) (hb : IsTail b) (hc : IsTail c) :
      Form ((a.toNat % 16 * 64 + payload b) * 64 + payload c) [a, b, c]
  | four {a b c d : UInt8} (ha : a.toNat / 8 = 0b11110) (hb : IsTail b) (hc : IsTail c)
      (hd : IsTail d) :
      Form (((a.toNat % 8 * 64 + payload b) * 64 + payload c) * 64 + payload d) [a, b, c, d]

/-- The bytes of a code point that is no surrogate and not beyond Unicode, in no overlong form. -/
structure Proper (code : Nat) (bytes : List UInt8) : Prop where
  form : Form code bytes
  shortest : ∀ other, Form code other → bytes.length ≤ other.length
  noSurrogate : code < 0xd800 ∨ 0xdfff < code
  bounded : code ≤ 0x10ffff

/-- The bytes of code points, one after the other. -/
inductive WellFormed : List UInt8 → Prop where
  | nil : WellFormed []
  | cons {code : Nat} {first rest : List UInt8} (hfirst : Proper code first)
      (hrest : WellFormed rest) : WellFormed (first ++ rest)

/-!
# Lengths of forms
-/

/-- The numbers that a number of bytes can hold are below this one. -/
def limit (length : Nat) : Nat :=
  if length = 0 then 0
  else if length = 1 then 0x80
  else if length = 2 then 0x800
  else if length = 3 then 0x10000
  else 0x200000

theorem limit_le_limit {m n : Nat} (h : m ≤ n) : limit m ≤ limit n := by
  unfold limit
  split_ifs <;> omega

variable {code : Nat} {bytes rest : List UInt8} {a b c d : UInt8}

theorem payload_lt (byte : UInt8) : payload byte < 64 := Nat.mod_lt _ (by decide)

theorem IsTail.toNat (h : IsTail b) : b.toNat = 128 + payload b := by
  unfold IsTail at h
  unfold payload
  omega

namespace Form

theorem lt_limit (h : Form code bytes) : code < limit bytes.length := by
  cases h with
  | one ha =>
      show _ < 0x80
      omega
  | @two a b ha hb =>
      have hb := payload_lt b
      show _ < 0x800
      omega
  | @three a b c ha hb hc =>
      have hb := payload_lt b
      have hc := payload_lt c
      show _ < 0x10000
      omega
  | @four a b c d ha hb hc hd =>
      have hb := payload_lt b
      have hc := payload_lt c
      have hd := payload_lt d
      show _ < 0x200000
      omega

/-- A number that is too large for some bytes takes more of them. -/
theorem lt_length {n : Nat} (h : Form code bytes) (hlimit : limit n ≤ code) : n < bytes.length := by
  have hlt := h.lt_limit
  refine Nat.lt_of_not_le fun hle => ?_
  have hmono := limit_le_limit hle
  omega

/-- There is one form of each length at most. -/
theorem eq_of_length {other : List UInt8} (h : Form code bytes) (h' : Form code other)
    (hlength : bytes.length = other.length) : bytes = other := by
  generalize hcode : code = code' at h'
  cases h with
  | one ha =>
      cases h' with
      | one ha' => rw [UInt8.toNat_inj.1 hcode]
      | _ => cases hlength
  | @two a b ha hb =>
      cases h' with
      | @two a' b' ha' hb' =>
          have hlt := payload_lt b
          have hlt' := payload_lt b'
          have hbytes : a.toNat = a'.toNat ∧ b.toNat = b'.toNat := by
            rw [hb.toNat, hb'.toNat]
            omega
          rw [UInt8.toNat_inj.1 hbytes.1, UInt8.toNat_inj.1 hbytes.2]
      | _ => cases hlength
  | @three a b c ha hb hc =>
      cases h' with
      | @three a' b' c' ha' hb' hc' =>
          have hlt := payload_lt b
          have hlt' := payload_lt b'
          have hlast := payload_lt c
          have hlast' := payload_lt c'
          have hbytes : a.toNat = a'.toNat ∧ b.toNat = b'.toNat ∧ c.toNat = c'.toNat := by
            rw [hb.toNat, hb'.toNat, hc.toNat, hc'.toNat]
            omega
          rw [UInt8.toNat_inj.1 hbytes.1, UInt8.toNat_inj.1 hbytes.2.1,
            UInt8.toNat_inj.1 hbytes.2.2]
      | _ => cases hlength
  | @four a b c d ha hb hc hd =>
      cases h' with
      | @four a' b' c' d' ha' hb' hc' hd' =>
          have hlt := payload_lt b
          have hlt' := payload_lt b'
          have hmiddle := payload_lt c
          have hmiddle' := payload_lt c'
          have hlast := payload_lt d
          have hlast' := payload_lt d'
          have hbytes : a.toNat = a'.toNat ∧ b.toNat = b'.toNat ∧ c.toNat = c'.toNat ∧
              d.toNat = d'.toNat := by
            rw [hb.toNat, hb'.toNat, hc.toNat, hc'.toNat, hd.toNat, hd'.toNat]
            omega
          rw [UInt8.toNat_inj.1 hbytes.1, UInt8.toNat_inj.1 hbytes.2.1,
            UInt8.toNat_inj.1 hbytes.2.2.1, UInt8.toNat_inj.1 hbytes.2.2.2]
      | _ => cases hlength

end Form

/-!
# Characters
-/

theorem isTail_ofNat (n : Nat) : IsTail (UInt8.ofNat (n % 0x40 + 0x80)) := by
  unfold IsTail
  rw [toNat_ofNat (by omega)]
  omega

theorem form_encodeChar (char : Char) : Form char.toNat (String.utf8EncodeChar char) := by
  have hvalid := isValidChar_toNat char
  rw [encodeChar_eq]
  generalize char.toNat = v at hvalid
  split_ifs
  · have hlead : (UInt8.ofNat v).toNat = v := toNat_ofNat (by omega)
    have hform : Form (UInt8.ofNat v).toNat [UInt8.ofNat v] := .one (by omega)
    rwa [hlead] at hform
  · have hlead : (UInt8.ofNat (v / 64 % 0x20 + 0xc0)).toNat = v / 64 + 0xc0 := by
      rw [toNat_ofNat (by omega)]
      omega
    have hform := Form.two (a := UInt8.ofNat (v / 64 % 0x20 + 0xc0)) (by omega) (isTail_ofNat v)
    have hvalue : (v / 64 + 0xc0) % 32 * 64 + v % 64 = v := by omega
    rwa [hlead, payload_ofNat, hvalue] at hform
  · have hlead : (UInt8.ofNat (v / 4096 % 0x10 + 0xe0)).toNat = v / 4096 + 0xe0 := by
      rw [toNat_ofNat (by omega)]
      omega
    have hform := Form.three (a := UInt8.ofNat (v / 4096 % 0x10 + 0xe0)) (by omega)
      (isTail_ofNat (v / 64)) (isTail_ofNat v)
    have hvalue : ((v / 4096 + 0xe0) % 16 * 64 + v / 64 % 64) * 64 + v % 64 = v := by omega
    rwa [hlead, payload_ofNat, payload_ofNat, hvalue] at hform
  · have hlead : (UInt8.ofNat (v / 262144 % 0x08 + 0xf0)).toNat = v / 262144 + 0xf0 := by
      rw [toNat_ofNat (by omega)]
      omega
    have hform := Form.four (a := UInt8.ofNat (v / 262144 % 0x08 + 0xf0)) (by omega)
      (isTail_ofNat (v / 4096)) (isTail_ofNat (v / 64)) (isTail_ofNat v)
    have hvalue : (((v / 262144 + 0xf0) % 8 * 64 + v / 4096 % 64) * 64 + v / 64 % 64) * 64 + v % 64 =
        v := by omega
    rwa [hlead, payload_ofNat, payload_ofNat, payload_ofNat, hvalue] at hform

/-- The bytes of a character are needed to hold it. -/
theorem exists_length_encodeChar (char : Char) :
    ∃ n, (String.utf8EncodeChar char).length = n + 1 ∧ limit n ≤ char.toNat := by
  rw [encodeChar_eq]
  split_ifs
  · exact ⟨0, rfl, Nat.zero_le _⟩
  · refine ⟨1, rfl, ?_⟩
    show 0x80 ≤ _
    omega
  · refine ⟨2, rfl, ?_⟩
    show 0x800 ≤ _
    omega
  · refine ⟨3, rfl, ?_⟩
    show 0x10000 ≤ _
    omega

theorem proper_encodeChar (char : Char) : Proper char.toNat (String.utf8EncodeChar char) where
  form := form_encodeChar char
  shortest other hother := by
    rcases exists_length_encodeChar char with ⟨n, hlength, hlimit⟩
    rw [hlength]
    exact hother.lt_length hlimit
  noSurrogate := (isValidChar_toNat char).imp_right And.left
  bounded := by
    have hvalid := isValidChar_toNat char
    omega

namespace Proper

theorem unique {other : List UInt8} (h : Proper code bytes) (h' : Proper code other) :
    bytes = other :=
  h.form.eq_of_length h'.form (Nat.le_antisymm (h.shortest other h'.form) (h'.shortest bytes h.form))

/-- A code point that has proper bytes is a character, and these are the bytes of it. -/
theorem exists_char (h : Proper code bytes) :
    ∃ char : Char, char.toNat = code ∧ String.utf8EncodeChar char = bytes := by
  have hvalid : code.isValidChar := by
    have hsurrogate := h.noSurrogate
    have hbounded := h.bounded
    unfold Nat.isValidChar
    omega
  have hcode := toNat_char hvalid
  have hproper := proper_encodeChar (Char.ofNat code)
  rw [hcode] at hproper
  exact ⟨Char.ofNat code, hcode, hproper.unique h⟩

end Proper

theorem wellFormed_flatMap (chars : List Char) :
    WellFormed (chars.flatMap String.utf8EncodeChar) := by
  induction chars with
  | nil => exact .nil
  | cons char chars ih => exact .cons (proper_encodeChar char) ih

theorem WellFormed.exists_chars (h : WellFormed bytes) :
    ∃ chars : List Char, chars.flatMap String.utf8EncodeChar = bytes := by
  induction h with
  | nil => exact ⟨[], rfl⟩
  | cons hfirst _ ih =>
      rcases hfirst.exists_char with ⟨char, -, rfl⟩
      rcases ih with ⟨chars, rfl⟩
      exact ⟨char :: chars, rfl⟩

/-!
# Sequences that the decoder takes
-/

theorem bounds_of_width? {width : Nat} (h : width? a = some width) :
    width = 1 ∧ a.toNat < 0x80 ∨ width = 2 ∧ 0xc2 ≤ a.toNat ∧ a.toNat < 0xe0 ∨
      width = 3 ∧ 0xe0 ≤ a.toNat ∧ a.toNat < 0xf0 ∨
      width = 4 ∧ 0xf0 ≤ a.toNat ∧ a.toNat < 0xf5 := by
  rw [width?_eq] at h
  split_ifs at h
  all_goals
    cases h
    omega

theorem isTail_of_continues (h : continues b = true) : IsTail b := by
  rw [continues_eq] at h
  unfold IsTail
  omega

theorem bounds_of_follows (h : follows a b = true) :
    IsTail b ∧ (a.toNat = 0xe0 → 0x20 ≤ payload b) ∧ (a.toNat = 0xf0 → 0x10 ≤ payload b) ∧
      (a.toNat = 0xed → payload b < 0x20) ∧ (a.toNat = 0xf4 → payload b < 0x10) := by
  rw [follows_eq] at h
  unfold IsTail payload
  split_ifs at h
  all_goals omega

theorem proper_one (ha : width? a = some 1) : Proper a.toNat [a] := by
  have hbounds := bounds_of_width? ha
  constructor
  case form => exact .one (by omega)
  case shortest => exact fun other hother => hother.lt_length (Nat.zero_le _)
  case noSurrogate => omega
  case bounded => omega

theorem proper_two (ha : width? a = some 2) (hb : follows a b = true) :
    Proper (a.toNat % 32 * 64 + payload b) [a, b] := by
  have hbounds := bounds_of_width? ha
  have hlt := payload_lt b
  constructor
  case form => exact .two (by omega) (bounds_of_follows hb).1
  case shortest =>
    have hlimit : limit 1 ≤ a.toNat % 32 * 64 + payload b := by
      show 0x80 ≤ _
      omega
    exact fun other hother => hother.lt_length hlimit
  case noSurrogate => omega
  case bounded => omega

theorem proper_three (ha : width? a = some 3) (hb : follows a b = true)
    (hc : continues c = true) :
    Proper ((a.toNat % 16 * 64 + payload b) * 64 + payload c) [a, b, c] := by
  have hbounds := bounds_of_width? ha
  have hlt := payload_lt b
  have hlast := payload_lt c
  rcases bounds_of_follows hb with ⟨htail, he0, -, hed, -⟩
  constructor
  case form => exact .three (by omega) htail (isTail_of_continues hc)
  case shortest =>
    have hlimit : limit 2 ≤ (a.toNat % 16 * 64 + payload b) * 64 + payload c := by
      show 0x800 ≤ _
      omega
    exact fun other hother => hother.lt_length hlimit
  case noSurrogate => omega
  case bounded => omega

theorem proper_four (ha : width? a = some 4) (hb : follows a b = true)
    (hc : continues c = true) (hd : continues d = true) :
    Proper (((a.toNat % 8 * 64 + payload b) * 64 + payload c) * 64 + payload d) [a, b, c, d] := by
  have hbounds := bounds_of_width? ha
  have hlt := payload_lt b
  have hmiddle := payload_lt c
  have hlast := payload_lt d
  rcases bounds_of_follows hb with ⟨htail, -, hf0, -, hf4⟩
  constructor
  case form => exact .four (by omega) htail (isTail_of_continues hc) (isTail_of_continues hd)
  case shortest =>
    have hlimit : limit 3 ≤ ((a.toNat % 8 * 64 + payload b) * 64 + payload c) * 64 + payload d := by
      show 0x10000 ≤ _
      omega
    exact fun other hother => hother.lt_length hlimit
  case noSurrogate => omega
  case bounded => omega

/-- Bytes that do not begin with a character. -/
def Broken (rest : List UInt8) : Prop := ∀ char, ¬ String.utf8EncodeChar char <+: rest

theorem Broken.not_begins (h : Broken rest) (hproper : Proper code bytes) : ¬ bytes <+: rest := by
  rcases hproper.exists_char with ⟨char, -, rfl⟩
  exact h char

/-- Where no character begins, the decoder stops. -/
theorem decodeFrom_of_broken (index : Nat) (hne : rest ≠ []) (h : Broken rest) :
    ∃ length, decodeFrom index rest = .error ⟨index, length⟩ := by
  fun_cases decodeFrom index rest with
  | case1 => exact absurd rfl hne
  | case2 a rest ha => exact absurd ⟨rest, rfl⟩ (h.not_begins (proper_one ha))
  | case4 a ha b rest hb => exact absurd ⟨rest, rfl⟩ (h.not_begins (proper_two ha hb))
  | case8 a ha b hb c rest hc => exact absurd ⟨rest, rfl⟩ (h.not_begins (proper_three ha hb hc))
  | case14 a width hone htwo hthree ha b hb c hc d rest hd =>
      have hfour : width = 4 := by
        rcases bounds_of_width? ha with h | h | h | h
        · exact absurd h.1 hone
        · exact absurd h.1 htwo
        · exact absurd h.1 hthree
        · exact h.1
      rw [hfour] at ha
      exact absurd ⟨rest, rfl⟩ (h.not_begins (proper_four ha hb hc hd))
  | _ => exact ⟨_, rfl⟩

/-!
# The longest well-formed prefix
-/

/-- All bytes are those of some characters, up to where no character begins. -/
theorem exists_chars_append (bytes : List UInt8) :
    ∃ (chars : List Char) (rest : List UInt8),
      chars.flatMap String.utf8EncodeChar ++ rest = bytes ∧ Broken rest := by
  induction hlength : bytes.length using Nat.strongRecOn generalizing bytes with
  | _ length ih =>
    by_cases hbegins : ∃ char, String.utf8EncodeChar char <+: bytes
    · rcases hbegins with ⟨char, tail, rfl⟩
      rcases exists_length_encodeChar char with ⟨n, hn, -⟩
      rw [List.length_append] at hlength
      rcases ih tail.length (by omega) tail rfl with ⟨chars, rest, rfl, hrest⟩
      exact ⟨char :: chars, rest, by rw [List.flatMap_cons, List.append_assoc], hrest⟩
    · exact ⟨[], bytes, rfl, fun char hchar => hbegins ⟨char, hchar⟩⟩

/-- No character begins like another one. -/
theorem eq_of_encodeChar_begins {char other : Char}
    (h : String.utf8EncodeChar char <+: String.utf8EncodeChar other) : char = other := by
  rcases h with ⟨tail, htail⟩
  have hother : decodeFrom 0 (String.utf8EncodeChar other) = .ok [other] := by
    rw [← decodeFrom_chars [other] 0]
    exact congrArg (decodeFrom 0) (List.append_nil _).symm
  rw [← htail, decodeFrom_encodeChar] at hother
  cases htaken : decodeFrom (0 + (String.utf8EncodeChar char).length) tail with
  | error fault =>
      rw [htaken] at hother
      cases hother
  | ok chars =>
      rw [htaken] at hother
      cases hother
      rfl

/-- Characters at the beginning of others are the first ones of them. -/
theorem prefix_of_broken {chars other : List Char} (hrest : Broken rest)
    (h : other.flatMap String.utf8EncodeChar <+: chars.flatMap String.utf8EncodeChar ++ rest) :
    other.flatMap String.utf8EncodeChar <+: chars.flatMap String.utf8EncodeChar := by
  induction other generalizing chars with
  | nil => exact List.nil_prefix
  | cons char other ih =>
      rw [List.flatMap_cons] at h
      have hchar := (List.prefix_append _ _).trans h
      cases chars with
      | nil => exact absurd hchar (hrest char)
      | cons head chars =>
          rw [List.flatMap_cons, List.append_assoc] at h
          rw [List.flatMap_cons, List.append_assoc] at hchar
          have heq : char = head := by
            rcases List.prefix_or_prefix_of_prefix hchar (List.prefix_append _ _) with hle | hle
            · exact eq_of_encodeChar_begins hle
            · exact (eq_of_encodeChar_begins hle).symm
          rw [heq] at h ⊢
          exact (List.prefix_append_right_inj _).2 (ih ((List.prefix_append_right_inj _).1 h))

/-- The well-formed prefixes of bytes, by their lengths. -/
def wellFormedLengths (bytes : List UInt8) : Set Nat :=
  {length | length ≤ bytes.length ∧ WellFormed (bytes.take length)}

theorem isGreatest_of_broken (chars : List Char) (hrest : Broken rest) :
    IsGreatest (wellFormedLengths (chars.flatMap String.utf8EncodeChar ++ rest))
      (chars.flatMap String.utf8EncodeChar).length := by
  constructor
  · constructor
    · rw [List.length_append]
      exact Nat.le_add_right _ _
    · rw [List.take_left]
      exact wellFormed_flatMap chars
  · rintro length ⟨hle, htake⟩
    rcases htake.exists_chars with ⟨other, hother⟩
    have hprefix := List.take_prefix length (chars.flatMap String.utf8EncodeChar ++ rest)
    rw [← hother] at hprefix
    have hlength := (prefix_of_broken hrest hprefix).length_le
    rw [hother, List.length_take, Nat.min_eq_left hle] at hlength
    exact hlength

/-!
# Strict decoding
-/

theorem wellFormed_iff : WellFormed bytes ↔ ∃ text, encode text = bytes := by
  constructor
  · intro h
    rcases h.exists_chars with ⟨chars, rfl⟩
    refine ⟨String.ofList chars, ?_⟩
    unfold encode
    rw [String.toList_ofList]
  · rintro ⟨text, rfl⟩
    exact wellFormed_flatMap text.toList

theorem decode_of_wellFormed (h : WellFormed bytes) :
    ∃ text, decode bytes = .ok text ∧ encode text = bytes := by
  rcases wellFormed_iff.1 h with ⟨text, rfl⟩
  exact ⟨text, decode_encode text, rfl⟩

/-- Of bytes that are not well formed the decoder says how many at the beginning are. -/
theorem decode_of_not_wellFormed (h : ¬ WellFormed bytes) :
    ∃ fault, decode bytes = .error fault ∧ IsGreatest (wellFormedLengths bytes) fault.index := by
  rcases exists_chars_append bytes with ⟨chars, rest, rfl, hrest⟩
  have hne : rest ≠ [] := by
    rintro rfl
    rw [List.append_nil] at h
    exact h (wellFormed_flatMap chars)
  rcases decodeFrom_of_broken (0 + (chars.flatMap String.utf8EncodeChar).length) hne hrest with
    ⟨length, hlength⟩
  refine ⟨⟨(chars.flatMap String.utf8EncodeChar).length, length⟩, ?_,
    isGreatest_of_broken chars hrest⟩
  unfold decode
  rw [decodeFrom_flatMap, hlength, Nat.zero_add]
  rfl

end Utf8
end ForeignBridge

import Mathlib.Data.String.Basic
import ForeignBridge.Proofs.Text.WellFormed

/-!
# The order of texts

Texts compare by their characters.  Their bytes compare in the same way: of two characters the one with
the smaller number has no more bytes, and fewer bytes begin with a smaller one.
-/

namespace ForeignBridge
namespace Utf8

variable {code other : Nat} {bytes bytes' rest rest' : List UInt8}

theorem cons_lt_of_toNat {a b : UInt8} (h : a.toNat < b.toNat) : a :: rest < b :: rest' :=
  List.cons_lt_cons_iff.2 (.inl (UInt8.lt_iff_toNat_lt.2 h))

theorem cons_lt_of_tail {a b : UInt8} (h : a.toNat = b.toNat) (htail : rest < rest') :
    a :: rest < b :: rest' :=
  List.cons_lt_cons_iff.2 (.inr ⟨UInt8.toNat_inj.1 h, htail⟩)

/-- Forms of the same length compare as their numbers, whatever follows them. -/
theorem Form.append_lt_of_length (h : Form code bytes) (h' : Form other bytes')
    (hlength : bytes.length = bytes'.length) (hlt : code < other) :
    bytes ++ rest < bytes' ++ rest' := by
  cases h with
  | one ha =>
      cases h' with
      | one ha' => exact cons_lt_of_toNat (by omega)
      | _ => cases hlength
  | @two a b ha hb =>
      cases h' with
      | @two a' b' ha' hb' =>
          have hlast := payload_lt b
          have hlast' := payload_lt b'
          rcases Nat.lt_or_ge a.toNat a'.toNat with hlead | hlead
          · exact cons_lt_of_toNat hlead
          · have hlead' : a.toNat = a'.toNat := by omega
            refine cons_lt_of_tail hlead' (cons_lt_of_toNat ?_)
            rw [hb.toNat, hb'.toNat]
            omega
      | _ => cases hlength
  | @three a b c ha hb hc =>
      cases h' with
      | @three a' b' c' ha' hb' hc' =>
          have hmiddle := payload_lt b
          have hmiddle' := payload_lt b'
          have hlast := payload_lt c
          have hlast' := payload_lt c'
          rcases Nat.lt_or_ge a.toNat a'.toNat with hlead | hlead
          · exact cons_lt_of_toNat hlead
          have hlead' : a.toNat = a'.toNat := by omega
          refine cons_lt_of_tail hlead' ?_
          rcases Nat.lt_or_ge (payload b) (payload b') with hnext | hnext
          · exact cons_lt_of_toNat (by rw [hb.toNat, hb'.toNat]; omega)
          · have hnext' : payload b = payload b' := by omega
            refine cons_lt_of_tail (by rw [hb.toNat, hb'.toNat, hnext']) (cons_lt_of_toNat ?_)
            rw [hc.toNat, hc'.toNat]
            omega
      | _ => cases hlength
  | @four a b c d ha hb hc hd =>
      cases h' with
      | @four a' b' c' d' ha' hb' hc' hd' =>
          have hsecond := payload_lt b
          have hsecond' := payload_lt b'
          have hthird := payload_lt c
          have hthird' := payload_lt c'
          have hlast := payload_lt d
          have hlast' := payload_lt d'
          rcases Nat.lt_or_ge a.toNat a'.toNat with hlead | hlead
          · exact cons_lt_of_toNat hlead
          have hlead' : a.toNat = a'.toNat := by omega
          refine cons_lt_of_tail hlead' ?_
          rcases Nat.lt_or_ge (payload b) (payload b') with hnext | hnext
          · exact cons_lt_of_toNat (by rw [hb.toNat, hb'.toNat]; omega)
          have hnext' : payload b = payload b' := by omega
          refine cons_lt_of_tail (by rw [hb.toNat, hb'.toNat, hnext']) ?_
          rcases Nat.lt_or_ge (payload c) (payload c') with hmore | hmore
          · exact cons_lt_of_toNat (by rw [hc.toNat, hc'.toNat]; omega)
          · have hmore' : payload c = payload c' := by omega
            refine cons_lt_of_tail (by rw [hc.toNat, hc'.toNat, hmore']) (cons_lt_of_toNat ?_)
            rw [hd.toNat, hd'.toNat]
            omega
      | _ => cases hlength

/-- A shorter form begins with a smaller byte. -/
theorem Form.append_lt_of_length_lt (h : Form code bytes) (h' : Form other bytes')
    (hlength : bytes.length < bytes'.length) : bytes ++ rest < bytes' ++ rest' := by
  cases h with
  | one ha =>
      cases h' with
      | one ha' => exact absurd hlength (Nat.lt_irrefl _)
      | _ => exact cons_lt_of_toNat (by omega)
  | two ha hb =>
      cases h' with
      | three ha' hb' hc' => exact cons_lt_of_toNat (by omega)
      | four ha' hb' hc' hd' => exact cons_lt_of_toNat (by omega)
      | _ => exact absurd hlength (by simp)
  | three ha hb hc =>
      cases h' with
      | four ha' hb' hc' hd' => exact cons_lt_of_toNat (by omega)
      | _ => exact absurd hlength (by simp)
  | four ha hb hc hd =>
      cases h' with
      | _ => exact absurd hlength (by simp)

/-- The bytes of characters compare as the characters, whatever follows them. -/
theorem encodeChar_append_lt {char char' : Char} (h : char < char') :
    String.utf8EncodeChar char ++ rest < String.utf8EncodeChar char' ++ rest' := by
  have hlt : char.toNat < char'.toNat := h
  have hform := form_encodeChar char
  have hform' := form_encodeChar char'
  have hlength : (String.utf8EncodeChar char).length ≤ (String.utf8EncodeChar char').length := by
    rcases exists_length_encodeChar char with ⟨n, hlength, hlimit⟩
    rw [hlength]
    exact hform'.lt_length (Nat.le_trans hlimit (Nat.le_of_lt hlt))
  rcases Nat.lt_or_eq_of_le hlength with hshorter | hsame
  · exact hform.append_lt_of_length_lt hform' hshorter
  · exact hform.append_lt_of_length hform' hsame hlt

theorem append_lt_append (first : List UInt8) (h : rest < rest') : first ++ rest < first ++ rest' := by
  induction first with
  | nil => exact h
  | cons byte first ih => exact cons_lt_of_tail rfl ih

theorem flatMap_lt {chars chars' : List Char} (h : chars < chars') :
    chars.flatMap String.utf8EncodeChar < chars'.flatMap String.utf8EncodeChar := by
  induction chars generalizing chars' with
  | nil =>
      cases chars' with
      | nil => exact absurd h (List.lt_irrefl [])
      | cons char' rest' =>
          rcases exists_length_encodeChar char' with ⟨n, hlength, -⟩
          rcases List.exists_cons_of_length_eq_add_one hlength with ⟨byte, bytes, hbytes⟩
          rw [List.flatMap_cons, hbytes]
          exact List.nil_lt_cons byte _
  | cons char rest ih =>
      cases chars' with
      | nil => cases h
      | cons char' rest' =>
          rw [List.flatMap_cons, List.flatMap_cons]
          rcases List.cons_lt_cons_iff.1 h with hchar | ⟨rfl, hrest⟩
          · exact encodeChar_append_lt hchar
          · exact append_lt_append _ (ih hrest)

/-- Texts compare as their bytes. -/
theorem encode_lt_iff {text text' : String} : encode text < encode text' ↔ text < text' := by
  have hmono : ∀ {text text' : String}, text < text' → encode text < encode text' :=
    fun h => flatMap_lt h
  refine ⟨fun h => ?_, hmono⟩
  rcases lt_trichotomy text text' with hlt | rfl | hgt
  · exact hlt
  · exact absurd h (List.lt_irrefl _)
  · exact absurd h (List.lt_asymm (hmono hgt))

end Utf8
end ForeignBridge

import Mathlib.Data.List.Basic

/-!
# UTF-8

The encoding of a text, as a list of bytes, from that of a character in the core library.  It is a
prefix code (`exists_of_encode_append`), and the bytes below `0x80` are the characters below `0x80`
(`mem_of_mem_encode`).
-/

namespace Utf8

def encode (s : List Char) : List UInt8 := s.flatMap String.utf8EncodeChar

theorem encode_cons (c : Char) (s : List Char) :
    encode (c :: s) = String.utf8EncodeChar c ++ encode s :=
  List.flatMap_cons

theorem encode_append (s t : List Char) : encode (s ++ t) = encode s ++ encode t :=
  List.flatMap_append

/-! ## Lengths -/

theorem length_encode_cons (c : Char) (s : List Char) :
    (encode (c :: s)).length = c.utf8Size + (encode s).length := by
  rw [encode_cons, List.length_append, String.length_utf8EncodeChar]

/-- A character takes a byte at least. -/
theorem length_le_length_encode (s : List Char) : s.length ≤ (encode s).length := by
  induction s with
  | nil => exact Nat.le_refl 0
  | cons c s ih =>
      have hsize := c.utf8Size_pos
      rw [length_encode_cons, List.length_cons]
      omega

/-! ## A prefix code -/

theorem utf8EncodeChar_append_inj {c d : Char} {x y : List UInt8}
    (h : String.utf8EncodeChar c ++ x = String.utf8EncodeChar d ++ y) : c = d ∧ x = y := by
  have hc := ByteArray.utf8DecodeChar?_utf8EncodeChar_append (b := x.toByteArray) (c := c)
  have hd := ByteArray.utf8DecodeChar?_utf8EncodeChar_append (b := y.toByteArray) (c := d)
  rw [← List.toByteArray_append] at hc hd
  rw [h, hd] at hc
  obtain rfl : d = c := Option.some.inj hc
  exact ⟨rfl, List.append_cancel_left h⟩

/-- What begins with an encoding is the encoding of a text that begins so. -/
theorem exists_of_encode_append {s t : List Char} {b : List UInt8}
    (h : encode t = encode s ++ b) : ∃ u, t = s ++ u ∧ encode u = b := by
  induction s generalizing t with
  | nil => exact ⟨t, rfl, h⟩
  | cons c s ih =>
      cases t with
      | nil =>
          have hlength := congrArg List.length h
          have hsize := c.utf8Size_pos
          rw [List.length_append, length_encode_cons] at hlength
          change 0 = _ at hlength
          omega
      | cons d t =>
          rw [encode_cons, encode_cons, List.append_assoc] at h
          obtain ⟨rfl, htail⟩ := utf8EncodeChar_append_inj h
          obtain ⟨u, rfl, hu⟩ := ih htail
          exact ⟨u, rfl, hu⟩

theorem encode_injective {s t : List Char} (h : encode s = encode t) : s = t := by
  obtain ⟨u, rfl, hu⟩ := exists_of_encode_append (h.trans (List.append_nil _).symm)
  have hlength := length_le_length_encode u
  rw [hu] at hlength
  rw [List.eq_nil_of_length_eq_zero (Nat.le_zero.mp hlength), List.append_nil]

/-! ## ASCII -/

theorem utf8EncodeChar_of_lt {c : Char} (h : c.toNat < 0x80) :
    String.utf8EncodeChar c = [UInt8.ofNat c.toNat] := by
  unfold String.utf8EncodeChar
  exact if_pos (Nat.le_of_lt_succ h)

/-- The bytes of every other character are above. -/
theorem le_of_mem_utf8EncodeChar {c : Char} (h : ¬ c.toNat < 0x80) {b : UInt8}
    (hb : b ∈ String.utf8EncodeChar c) : 0x80 ≤ b.toNat := by
  have hc : ¬ c.val.toNat ≤ 0x7f := fun hle => h (Nat.lt_succ_of_le hle)
  unfold String.utf8EncodeChar at hb
  rw [if_neg hc] at hb
  split at hb
  · simp at hb
    rcases hb with rfl | rfl <;> simp <;> omega
  · split at hb
    · simp at hb
      rcases hb with rfl | rfl | rfl <;> simp <;> omega
    · simp at hb
      rcases hb with rfl | rfl | rfl | rfl <;> simp <;> omega

theorem mem_encode {s : List Char} {c : Char} (hc : c ∈ s) (h : c.toNat < 0x80) :
    UInt8.ofNat c.toNat ∈ encode s := by
  apply List.mem_flatMap.mpr
  refine ⟨c, hc, ?_⟩
  rw [utf8EncodeChar_of_lt h]
  exact List.mem_singleton_self _

/-- A byte below `0x80` is a character. -/
theorem mem_of_mem_encode {s : List Char} {b : UInt8} (h : b ∈ encode s) (hb : b.toNat < 0x80) :
    ∃ c ∈ s, c.toNat = b.toNat := by
  obtain ⟨c, hc, hbc⟩ := List.mem_flatMap.mp h
  by_cases hascii : c.toNat < 0x80
  · rw [utf8EncodeChar_of_lt hascii] at hbc
    refine ⟨c, hc, ?_⟩
    rw [List.mem_singleton.mp hbc, UInt8.toNat_ofNat']
    omega
  · have hle := le_of_mem_utf8EncodeChar hascii hbc
    omega

end Utf8

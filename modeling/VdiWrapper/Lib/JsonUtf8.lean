import VdiWrapper.Lib.JsonParser
import VdiWrapper.Lib.Utf8

/-!
# JSON strings in UTF-8

A string takes at least as many bytes between its quotes as the text it denotes has, and as many
only if it is that text and has no escapes.
-/

namespace Json

open Utf8

/-! ## What a string is made of -/

theorem le_of_hexDigit {c : Char} {n : Nat} (h : hexDigit c = some n) : 0x20 ≤ c.toNat := by
  have hdigit : 0x20 ≤ '0'.toNat := by decide
  have hlower : 0x20 ≤ 'a'.toNat := by decide
  have hupper : 0x20 ≤ 'A'.toNat := by decide
  unfold hexDigit at h
  split at h
  · next hc => exact Nat.le_trans hdigit hc.1
  · split at h
    · next hc => exact Nat.le_trans hlower hc.1
    · split at h
      · next hc => exact Nat.le_trans hupper hc.1
      · cases h

theorem le_of_codeUnit {t : List Char} {n : Nat} (h : codeUnit t = some (n, [])) :
    ∀ c ∈ t, 0x20 ≤ c.toNat := by
  obtain ⟨c₁, c₂, c₃, c₄, h₁, h₂, h₃, h₄, rfl, e₁, e₂, e₃, e₄, -⟩ := codeUnit_eq_some h
  simp [le_of_hexDigit e₁, le_of_hexDigit e₂, le_of_hexDigit e₃, le_of_hexDigit e₄]

/-- The letters of the escapes, with the characters they stand for. -/
def escapes : List (Char × Char) :=
  [('"', '"'), ('\\', '\\'), ('/', '/'), ('b', '\x08'), ('f', '\x0c'), ('n', '\n'), ('r', '\r'),
    ('t', '\t')]

theorem mem_escapes {e c : Char} (h : escape e = some c) : (e, c) ∈ escapes := by
  unfold escape at h
  unfold escapes
  grind

/-- Nothing in a string is a control character. -/
theorem Spells.le {t : List Char} {c : Char} (h : Spells t c) : ∀ d ∈ t, 0x20 ≤ d.toNat := by
  have hbackslash : 0x20 ≤ '\\'.toNat := by decide
  have hu : 0x20 ≤ 'u'.toNat := by decide
  cases h with
  | unescaped h =>
      simp [Json.unescaped] at h
      simp [h]
  | @escaped e _ h =>
      have hescapes : ∀ p ∈ escapes, 0x20 ≤ p.1.toNat := by decide
      have he : 0x20 ≤ e.toNat := hescapes _ (mem_escapes h)
      simp [he]
  | code h =>
      exact List.forall_mem_cons.mpr ⟨hbackslash, List.forall_mem_cons.mpr
        ⟨hu, le_of_codeUnit h⟩⟩
  | @pair _ t' _ _ h h' =>
      have hsecond : ∀ d ∈ '\\' :: 'u' :: t', 0x20 ≤ d.toNat :=
        List.forall_mem_cons.mpr ⟨hbackslash, List.forall_mem_cons.mpr ⟨hu, le_of_codeUnit h'⟩⟩
      exact List.forall_mem_cons.mpr ⟨hbackslash, List.forall_mem_cons.mpr
        ⟨hu, List.forall_mem_append.mpr ⟨le_of_codeUnit h, hsecond⟩⟩⟩

theorem Chars.le {t d : List Char} (h : Chars t d) : ∀ c ∈ t, 0x20 ≤ c.toNat := by
  induction h with
  | nil => simp
  | cons head _ ih => exact List.forall_mem_append.mpr ⟨head.le, ih⟩

/-! ## How long it is -/

theorem length_of_codeUnit {t : List Char} {n : Nat} (h : codeUnit t = some (n, [])) :
    t.length = 4 := by
  obtain ⟨t', rfl, _, hlength⟩ := of_codeUnit_eq h
  rw [List.append_nil, hlength]

/-- An escape is longer than the character it stands for. -/
theorem Spells.utf8Size_lt {t : List Char} {c : Char} (h : Spells t c) :
    c.utf8Size < (encode t).length ∨ t = [c] ∧ Json.unescaped c = true := by
  have hle := length_le_length_encode t
  have hfour := c.utf8Size_le_four
  cases h with
  | unescaped h => exact .inr ⟨rfl, h⟩
  | @escaped e _ h =>
      have hescapes : ∀ p ∈ escapes, p.2.utf8Size = 1 := by decide
      have hc := hescapes _ (mem_escapes h)
      change 2 ≤ _ at hle
      dsimp only at hc
      exact .inl (by omega)
  | code h =>
      have hlength := length_of_codeUnit h
      rw [List.length_cons, List.length_cons] at hle
      exact .inl (by omega)
  | pair h h' =>
      have hlength := length_of_codeUnit h
      rw [List.length_cons, List.length_cons, List.length_append] at hle
      exact .inl (by omega)

theorem Chars.length_lt {t d : List Char} (h : Chars t d) :
    (encode d).length < (encode t).length ∨ t = d ∧ Plain d := by
  induction h with
  | nil => exact .inr ⟨rfl, by simp [Plain]⟩
  | @cons u t d c head _ ih =>
      rw [length_encode_cons, encode_append, List.length_append]
      rcases head.utf8Size_lt with hlt | ⟨rfl, hc⟩
      · rcases ih with hlt' | ⟨rfl, _⟩ <;> exact .inl (by omega)
      · rw [length_encode_cons]
        rcases ih with hlt | ⟨rfl, hd⟩
        · exact .inl (by omega)
        · exact .inr ⟨rfl, List.forall_mem_cons.mpr ⟨hc, hd⟩⟩

/-! ## Where it ends -/

theorem Chars.newline_notMem {t d : List Char} (h : Chars t d) : (0x0a : UInt8) ∉ encode t := by
  intro hmem
  obtain ⟨c, hc, hcode⟩ := mem_of_mem_encode hmem (by decide)
  have hle := h.le c hc
  rw [hcode] at hle
  exact absurd hle (by decide)

/-- If what a string denotes stands in front of a quote, a comma and a line break, the string ends
at that quote: it cannot go on, for it would have to hold the line break. -/
theorem Chars.aligned {t d : List Char} {x y : List UInt8} (h : Chars t d)
    (heq : encode t ++ 0x22 :: y = encode d ++ 0x22 :: 0x2c :: 0x0a :: x) :
    t = d ∧ Plain d ∧ y = 0x2c :: 0x0a :: x := by
  rcases h.length_lt with hlt | ⟨rfl, hplain⟩
  · exfalso
    rcases List.append_eq_append_iff.mp heq with ⟨as, has, _⟩ | ⟨cs, hcs, hrest⟩
    · have hlength := congrArg List.length has
      rw [List.length_append] at hlength
      omega
    · match cs with
      | [] =>
          rw [hcs, List.append_nil] at hlt
          exact lt_irrefl _ hlt
      | [_] =>
          have hcomma := (List.cons.inj (List.cons.inj hrest).2).1
          exact absurd hcomma (by decide)
      | [_, _] =>
          have hbreak := (List.cons.inj (List.cons.inj (List.cons.inj hrest).2).2).1
          exact absurd hbreak (by decide)
      | _ :: _ :: b :: cs =>
          have hbreak := (List.cons.inj (List.cons.inj (List.cons.inj hrest).2).2).1
          apply h.newline_notMem
          rw [hcs, hbreak]
          simp
  · have htail := List.append_cancel_left heq
    exact ⟨rfl, hplain, (List.cons.inj htail).2⟩

end Json

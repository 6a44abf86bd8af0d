import VdiWrapper.Ticks

/-!
# The timer on the performance counter

`QPCTimer::now_us` multiplies the elapsed ticks by a million before it divides by the frequency, in
64-bit unsigned arithmetic.  What it returns is exact and non-decreasing as long as the product
does not wrap; `qpcTimer_faithful_iff` says exactly how long a session may last for that.
-/

namespace Vdi

/-- The private fields of `class QPCTimer`. -/
structure QPCTimer where
  freq : UInt64
  start : UInt64
deriving DecidableEq

namespace QPCTimer

/-- The constructor, from the frequency and the counter as `LARGE_INTEGER`s hold them. -/
def new (freq start : Int64) : QPCTimer :=
  { freq := freq.toUInt64, start := start.toUInt64 }

/-- `now_us`, at a reading of `QueryPerformanceCounter`. -/
def nowUs (timer : QPCTimer) (now : Int64) : UInt64 :=
  let elapsedTicks := now.toUInt64 - timer.start
  elapsedTicks * 1000000 / timer.freq

/-- The ticks from the start to a reading. -/
def ticks (start reading : Int64) : Nat := (reading.toInt - start.toInt).toNat

/-- The microseconds from the start to a reading, rounded down. -/
def micros (freq start reading : Int64) : Nat := ticks start reading * 1000000 / freq.toInt.toNat

variable {freq start reading reading' last : Int64} {readings : List Int64}

theorem toNat_toUInt64_sub (h : start ≤ reading) :
    (reading.toUInt64 - start.toUInt64).toNat = ticks start reading := by
  have hle := Int64.le_iff_toInt_le.mp h
  have hstart : start.toUInt64.toNat = start.toBitVec.toNat := rfl
  have hreading : reading.toUInt64.toNat = reading.toBitVec.toNat := rfl
  have hstartInt : start.toInt = start.toBitVec.toInt := rfl
  have hreadingInt : reading.toInt = reading.toBitVec.toInt := rfl
  have hstartLt := start.toBitVec.isLt
  have hreadingLt := reading.toBitVec.isLt
  rw [BitVec.toInt_eq_toNat_cond] at hstartInt hreadingInt
  rw [UInt64.toNat_sub, hstart, hreading, ticks]
  omega

theorem toNat_toUInt64_freq (hfreq : 0 < freq) : freq.toUInt64.toNat = freq.toInt.toNat := by
  have hle := Int64.lt_iff_toInt_lt.mp hfreq
  have hzero : (0 : Int64).toInt = 0 := rfl
  have hnat : freq.toUInt64.toNat = freq.toBitVec.toNat := rfl
  have hint : freq.toInt = freq.toBitVec.toInt := rfl
  rw [BitVec.toInt_eq_toNat_cond] at hint
  omega

/-- What `now_us` computes: the product modulo `2 ^ 64`, then the quotient. -/
theorem toNat_nowUs (hfreq : 0 < freq) (h : start ≤ reading) :
    ((new freq start).nowUs reading).toNat =
      ticks start reading * 1000000 % 2 ^ 64 / freq.toInt.toNat := by
  unfold nowUs new
  rw [UInt64.toNat_div, UInt64.toNat_mul, toNat_toUInt64_sub h, toNat_toUInt64_freq hfreq]
  rfl

theorem ticks_mono (h : reading ≤ reading') : ticks start reading ≤ ticks start reading' := by
  have hle := Int64.le_iff_toInt_le.mp h
  unfold ticks
  omega

theorem freq_pos (hfreq : 0 < freq) : 0 < freq.toInt.toNat := by
  have hlt := Int64.lt_iff_toInt_lt.mp hfreq
  have hzero : (0 : Int64).toInt = 0 := rfl
  omega

/-- Numbers that differ by the divisor have different quotients. -/
theorem div_lt_div_of_add_le {a b f : Nat} (hf : 0 < f) (h : b + f ≤ a) : b / f < a / f := by
  have hdiv := Nat.div_le_div_right (c := f) h
  rw [Nat.add_div_right _ hf] at hdiv
  exact hdiv

/-- While the product does not wrap the reading is exact. -/
theorem nowUs_of_lt (hfreq : 0 < freq) (h : start ≤ reading)
    (hlt : ticks start reading * 1000000 < 2 ^ 64) :
    ((new freq start).nowUs reading).toNat = micros freq start reading := by
  rw [toNat_nowUs hfreq h, Nat.mod_eq_of_lt hlt]
  rfl

/-- The readings of a session are monotone and exact, as far as they fit in 64 bits. -/
structure Faithful (freq start : Int64) (readings : List Int64) : Prop where
  monotone : (readings.map (new freq start).nowUs).Pairwise (· ≤ ·)
  floor : ∀ reading ∈ readings, micros freq start reading < 2 ^ 64 →
    ((new freq start).nowUs reading).toNat = micros freq start reading

/-- The counter does not run backwards and does not fall below the start. -/
structure Counter (start : Int64) (readings : List Int64) : Prop where
  sorted : readings.Pairwise (· ≤ ·)
  from_start : ∀ reading ∈ readings, start ≤ reading

/-- A session is short when the product stays below `2 ^ 64` up to its last reading. -/
theorem faithful_of_short (hfreq : 0 < freq) (hcounter : Counter start readings)
    (hlast : ∀ reading ∈ readings, reading ≤ last) (hshort : ticks start last * 1000000 < 2 ^ 64) :
    Faithful freq start readings := by
  have hlt : ∀ reading ∈ readings, ticks start reading * 1000000 < 2 ^ 64 := by
    intro reading hmem
    have hticks : ticks start reading ≤ ticks start last := ticks_mono (hlast reading hmem)
    exact (Nat.mul_le_mul_right _ hticks).trans_lt hshort
  constructor
  · apply List.pairwise_map.mpr
    apply hcounter.sorted.imp_of_mem
    intro reading reading' hmem hmem' hle
    have hfrom := hcounter.from_start reading hmem
    have hfrom' := hcounter.from_start reading' hmem'
    have hticks : ticks start reading ≤ ticks start reading' := ticks_mono hle
    rw [UInt64.le_iff_toNat_le, nowUs_of_lt hfreq hfrom (hlt reading hmem),
      nowUs_of_lt hfreq hfrom' (hlt reading' hmem')]
    unfold micros
    exact Nat.div_le_div_right (Nat.mul_le_mul_right _ hticks)
  · intro reading hmem _
    exact nowUs_of_lt hfreq (hcounter.from_start reading hmem) (hlt reading hmem)

/-- The counter passes every number of ticks on its way to the last reading. -/
theorem exists_reading {n : Nat} (h : start ≤ last) (hn : n ≤ ticks start last) :
    ∃ reading : Int64, start ≤ reading ∧ reading ≤ last ∧ ticks start reading = n := by
  have hle := Int64.le_iff_toInt_le.mp h
  have hlow := start.le_toInt
  have hhigh := last.toInt_lt
  unfold ticks at hn
  have hint : (Int64.ofInt (start.toInt + n)).toInt = start.toInt + n := by
    apply Int64.toInt_ofInt_of_le
    · omega
    · omega
  refine ⟨Int64.ofInt (start.toInt + n), ?_, ?_, ?_⟩
  · rw [Int64.le_iff_toInt_le, hint]
    omega
  · rw [Int64.le_iff_toInt_le, hint]
    omega
  · unfold ticks
    rw [hint]
    omega

/-- Around the first wrap the reading drops. -/
theorem not_faithful_of_long (hfreq : 0 < freq) (h : start ≤ last)
    (hlong : 2 ^ 64 ≤ ticks start last * 1000000) :
    ∃ before after : Int64, Counter start [before, after] ∧ after ≤ last ∧
      ¬ Faithful freq start [before, after] := by
  -- `18446744073710` is the least number of ticks whose product reaches `2 ^ 64`
  obtain ⟨before, hbefore, -, hticksBefore⟩ :=
    exists_reading (n := 18446744073709) h (by omega)
  obtain ⟨after, hafter, hafterLast, hticksAfter⟩ :=
    exists_reading (n := 18446744073710) h (by omega)
  have hle : before ≤ after := by
    have hlow := Int64.le_iff_toInt_le.mp hbefore
    unfold ticks at hticksBefore hticksAfter
    rw [Int64.le_iff_toInt_le]
    omega
  refine ⟨before, after, ⟨by simpa using hle, by simp [hbefore, hafter]⟩, hafterLast, ?_⟩
  intro hfaithful
  have hpos := freq_pos hfreq
  have hlt := freq.toInt_lt
  have hmonotone := List.pairwise_pair.mp hfaithful.monotone
  rw [UInt64.le_iff_toNat_le, toNat_nowUs hfreq hbefore, toNat_nowUs hfreq hafter, hticksBefore,
    hticksAfter] at hmonotone
  have hdrop : 18446744073710 * 1000000 % 2 ^ 64 / freq.toInt.toNat <
      18446744073709 * 1000000 % 2 ^ 64 / freq.toInt.toNat :=
    div_lt_div_of_add_le hpos (by omega)
  omega

end QPCTimer

open QPCTimer

/-- **How far `QPCTimer` is monotone and exact.**  Over a session that ends at `last`, every
sequence of readings is non-decreasing in microseconds and exact exactly when the product has not
wrapped at `last`. -/
theorem qpcTimer_faithful_iff (freq start last : Int64) (hfreq : 0 < freq) (hlast : start ≤ last) :
    (∀ readings, Counter start readings → (∀ reading ∈ readings, reading ≤ last) →
      Faithful freq start readings) ↔ QPCTimer.ticks start last * 1000000 < 2 ^ 64 := by
  constructor
  · intro hall
    by_contra hlong
    obtain ⟨before, after, hcounter, hafter, hnot⟩ :=
      not_faithful_of_long hfreq hlast (Nat.le_of_not_lt hlong)
    have hle : before ≤ after := List.pairwise_pair.mp hcounter.sorted
    apply hnot
    apply hall [before, after] hcounter
    simp [hafter, Int64.le_trans hle hafter]
  · intro hshort readings hcounter hbound
    exact faithful_of_short hfreq hcounter hbound hshort

/-- A session of two seconds at ten megahertz. -/
theorem qpcTimer_faithful_iff_two_seconds : Faithful 10000000 5 [5, 10000005, 20000005] :=
  (qpcTimer_faithful_iff 10000000 5 20000005 (by decide) (by decide)).mpr (by decide +kernel)
    [5, 10000005, 20000005] ⟨by decide, by simp⟩ (by simp)

/-- At ten megahertz the timer returns to zero after 21 days. -/
theorem qpcTimer_drops : Counter 0 [18446744073709, 18446744073710] ∧
    ¬ Faithful 10000000 0 [18446744073709, 18446744073710] := by
  refine ⟨⟨by decide, by simp⟩, fun hfaithful => ?_⟩
  have hmonotone := List.pairwise_pair.mp hfaithful.monotone
  revert hmonotone
  decide +kernel

/-- A clock made of such readings does not go back. -/
theorem qpcTimer_clockMonotone {ω σ : Type} (env : Env ω σ) (freq start : Int64)
    (reading : Nat → Int64) (hfreq : 0 < freq) (hreading : ∀ i j, i ≤ j → reading i ≤ reading j)
    (hstart : ∀ i, start ≤ reading i)
    (hshort : ∀ i, QPCTimer.ticks start (reading i) * 1000000 < 2 ^ 64)
    (hclock : ∀ i, env.clock i = (new freq start).nowUs (reading i)) : env.ClockMonotone := by
  intro i j hij
  have hcounter : Counter start [reading i, reading j] :=
    ⟨by simpa using hreading i j hij, by simp [hstart]⟩
  have hfaithful := faithful_of_short hfreq hcounter
    (by simp [hreading i j hij]) (hshort j)
  rw [hclock i, hclock j]
  exact List.pairwise_pair.mp hfaithful.monotone

end Vdi

import VdiWrapper.Lib.Json

/-!
# The JSON parser

One function for each production.  Each returns what it read and the text that follows; `chars`,
`value`, `items` and `members` are given a bound on their depth, for which the length of the text
is always enough.
-/

namespace Json

def skipSpace (s : List Char) : List Char := s.dropWhile isSpace

/-! ## Strings -/

/-- The second half of a surrogate pair. -/
def lowEscape (high : Nat) : List Char → Option (Char × List Char)
  | c :: e :: s =>
      if c = '\\' ∧ e = 'u' then do
        let (low, s) ← codeUnit s
        if isLow low then some (ofPair high low, s) else none
      else none
  | _ => none

def unicodeEscape (s : List Char) : Option (Char × List Char) := do
  let (n, s) ← codeUnit s
  if isHigh n then lowEscape n s
  else if isLow n then none
  else some (Char.ofNat n, s)

/-- One character of a string. -/
def spelled : List Char → Option (Char × List Char)
  | [] => none
  | c :: s =>
      if c = '\\' then
        match s with
        | [] => none
        | e :: s => if e = 'u' then unicodeEscape s else (escape e).map fun c => (c, s)
      else if unescaped c then some (c, s)
      else none

/-- The rest of a string, after its opening quote. -/
def chars : Nat → List Char → Option (List Char × List Char)
  | _, [] => none
  | 0, _ => none
  | n + 1, c :: s =>
      if c = '"' then some ([], s)
      else do
        let (d, s) ← spelled (c :: s)
        let (ds, s) ← chars n s
        return (d :: ds, s)

/-! ## Numbers -/

/-- One or more digits. -/
def digits (s : List Char) : Option (List Char × List Char) :=
  if s.takeWhile Char.isDigit = [] then none
  else some (s.takeWhile Char.isDigit, s.dropWhile Char.isDigit)

def intPart (s : List Char) : Option (List Char × List Char) := do
  let (ds, s) ← digits s
  if ds.head? = some '0' ∧ ds ≠ ['0'] then none else some (ds, s)

def fracPart : List Char → Option (List Char × List Char)
  | [] => some ([], [])
  | c :: s => if c = '.' then digits s else some ([], c :: s)

def exponent (s : List Char) : Option (ℤ × List Char) := do
  let (ds, s) ← digits s
  return (Nat.ofDigitChars 10 ds 0, s)

def signedExponent : List Char → Option (ℤ × List Char)
  | [] => none
  | c :: s =>
      if c = '+' then exponent s
      else if c = '-' then (exponent s).map fun p => (-p.1, p.2)
      else exponent (c :: s)

def expPart : List Char → Option (ℤ × List Char)
  | [] => some (0, [])
  | c :: s => if c = 'e' ∨ c = 'E' then signedExponent s else some (0, c :: s)

def nonnegNumber (s : List Char) : Option (ℚ × List Char) := do
  let (int, s) ← intPart s
  let (frac, s) ← fracPart s
  let (exp, s) ← expPart s
  return (magnitude int frac exp, s)

def number : List Char → Option (ℚ × List Char)
  | [] => none
  | c :: s =>
      if c = '-' then (nonnegNumber s).map fun p => (-p.1, p.2) else nonnegNumber (c :: s)

/-! ## Values -/

/-- A string, with its opening quote. -/
def quoted (n : Nat) : List Char → Option (List Char × List Char)
  | [] => none
  | c :: s => if c = '"' then chars n s else none

/-- `name-separator` -/
def colon : List Char → Option (List Char)
  | [] => none
  | c :: s => if c = ':' then some s else none

/-- The key of a member, up to its colon. -/
def memberKey (n : Nat) (s : List Char) : Option (List Char × List Char) := do
  let (key, s) ← quoted n (skipSpace s)
  let s ← colon (skipSpace s)
  return (key, s)

/-- The literal names. -/
def word (w : List Char) (v : Value) (s : List Char) : Option (Value × List Char) :=
  if w <+: s then some (v, s.drop w.length) else none

mutual

/-- A value, without white space around it. -/
def value : Nat → List Char → Option (Value × List Char)
  | _, [] => none
  | 0, _ => none
  | n + 1, c :: s =>
      if c = '{' then
        if (skipSpace s).head? = some '}' then some (.object [], (skipSpace s).tail)
        else (members n s).map fun p => (.object p.1, p.2)
      else if c = '[' then
        if (skipSpace s).head? = some ']' then some (.array [], (skipSpace s).tail)
        else (items n s).map fun p => (.array p.1, p.2)
      else if c = '"' then (chars n s).map fun p => (.string p.1, p.2)
      else if c = 'f' then word ['f', 'a', 'l', 's', 'e'] (.bool false) (c :: s)
      else if c = 'n' then word ['n', 'u', 'l', 'l'] .null (c :: s)
      else if c = 't' then word ['t', 'r', 'u', 'e'] (.bool true) (c :: s)
      else (number (c :: s)).map fun p => (.number p.1, p.2)

/-- The elements of an array, up to its closing bracket. -/
def items : Nat → List Char → Option (List Value × List Char)
  | 0, _ => none
  | n + 1, s => do
      let (v, s) ← value n (skipSpace s)
      match skipSpace s with
      | [] => none
      | c :: s =>
          if c = ',' then do
            let (vs, s) ← items n s
            return (v :: vs, s)
          else if c = ']' then some ([v], s)
          else none

/-- The members of an object, up to its closing brace. -/
def members : Nat → List Char → Option (List (List Char × Value) × List Char)
  | 0, _ => none
  | n + 1, s => do
      let (key, s) ← memberKey n s
      let (v, s) ← value n (skipSpace s)
      match skipSpace s with
      | [] => none
      | c :: s =>
          if c = ',' then do
            let (ms, s) ← members n s
            return ((key, v) :: ms, s)
          else if c = '}' then some ([(key, v)], s)
          else none

end

/-- The parser: one value and nothing else. -/
def parse (s : List Char) : Option Value := do
  let (v, s) ← value (s.length + 1) (skipSpace s)
  if skipSpace s = [] then some v else none

/-! ## Reading strings -/

section Stops

variable {α : Type*}

/-- The first letter of `r`, if there is one, is not in `p`. -/
def Stops (p : α → Bool) (r : List α) : Prop := ∀ c ∈ r.head?, p c = false

theorem stops_cons {p : α → Bool} {c : α} {r : List α} (h : p c = false) : Stops p (c :: r) := by
  intro d hd
  cases hd
  exact h

theorem takeWhile_append_stops {p : α → Bool} {s r : List α} (hs : ∀ c ∈ s, p c = true)
    (hr : Stops p r) : (s ++ r).takeWhile p = s := by
  rw [List.takeWhile_append_of_pos hs]
  cases r with
  | nil => simp
  | cons c r => simp [hr c rfl]

theorem dropWhile_append_stops {p : α → Bool} {s r : List α} (hs : ∀ c ∈ s, p c = true)
    (hr : Stops p r) : (s ++ r).dropWhile p = r := by
  rw [List.dropWhile_append_of_pos hs]
  cases r with
  | nil => rfl
  | cons c r => simp [hr c rfl]

/-- A text has one beginning up to its first `c`. -/
theorem break_unique [DecidableEq α] {s s' r r' : List α} {c : α} (h : s ++ c :: r = s' ++ c :: r')
    (hs : c ∉ s) (hs' : c ∉ s') : s = s' ∧ r = r' := by
  have hbefore : ∀ u : List α, c ∉ u → ∀ d ∈ u, decide (d ≠ c) = true := by
    intro u hu d hd
    rw [decide_eq_true_eq]
    intro heq
    exact hu (heq ▸ hd)
  have hstops : ∀ u : List α, Stops (fun d => decide (d ≠ c)) (c :: u) :=
    fun u => stops_cons (by simp)
  have htake := takeWhile_append_stops (hbefore s hs) (hstops r)
  have htake' := takeWhile_append_stops (hbefore s' hs') (hstops r')
  rw [h, htake'] at htake
  rw [htake] at h
  exact ⟨htake.symm, (List.cons.inj (List.append_cancel_left h)).2⟩

end Stops

theorem skipSpace_append {w r : List Char} (hw : Space w) (hr : Stops isSpace r) :
    skipSpace (w ++ r) = r :=
  dropWhile_append_stops hw hr

theorem codeUnit_append {t s : List Char} {n : Nat} (h : codeUnit t = some (n, [])) :
    codeUnit (t ++ s) = some (n, s) := by
  unfold codeUnit at h ⊢
  split at h
  · next c₁ c₂ c₃ c₄ rest =>
    simp only [Option.bind_eq_bind, Option.bind_eq_some_iff] at h
    obtain ⟨h₁, e₁, h₂, e₂, h₃, e₃, h₄, e₄, h⟩ := h
    cases h
    simp [e₁, e₂, e₃, e₄]
  · cases h

theorem spelled_append {t s : List Char} {c : Char} (h : Spells t c) :
    spelled (t ++ s) = some (c, s) := by
  cases h with
  | unescaped h =>
      have hne : c ≠ '\\' := by
        intro hc
        rw [hc] at h
        cases h
      simp [spelled, hne, h]
  | @escaped e _ h =>
      have hne : e ≠ 'u' := by
        intro he
        rw [he] at h
        cases h
      simp [spelled, hne, h]
  | code h hhigh hlow => simp [spelled, unicodeEscape, codeUnit_append h, hhigh, hlow]
  | pair h h' hhigh hlow =>
      simp [spelled, unicodeEscape, lowEscape, codeUnit_append h, codeUnit_append h', hhigh, hlow]

/-- No character is spelled with a quote in front. -/
theorem Spells.head {t : List Char} {c : Char} (h : Spells t c) :
    ∃ d t', t = d :: t' ∧ d ≠ '"' := by
  cases h with
  | unescaped h =>
      refine ⟨c, [], rfl, ?_⟩
      intro hc
      rw [hc] at h
      cases h
  | escaped | code | pair => exact ⟨'\\', _, rfl, by decide⟩

/-- The parser reads a string of the grammar up to its closing quote. -/
theorem Chars.chars_eq {t d : List Char} (h : Chars t d) {n : Nat} (hn : t.length < n)
    (s : List Char) : chars n (t ++ '"' :: s) = some (d, s) := by
  induction h generalizing n with
  | nil =>
      cases n with
      | zero => cases hn
      | succ n => simp [chars]
  | @cons t s' d c head tail ih =>
      obtain ⟨x, t', rfl, hx⟩ := head.head
      cases n with
      | zero => cases hn
      | succ n =>
          have hspelled := spelled_append (s := s' ++ '"' :: s) head
          rw [List.length_append, List.length_cons] at hn
          rw [List.append_assoc]
          rw [List.cons_append] at hspelled ⊢
          simp [chars, hx, hspelled, ih (n := n) (by omega)]

/-! ## What was read as a string -/

/-- Four hexadecimal digits, and what is behind them. -/
theorem codeUnit_eq_some {s r : List Char} {n : Nat} (h : codeUnit s = some (n, r)) :
    ∃ c₁ c₂ c₃ c₄ h₁ h₂ h₃ h₄, s = [c₁, c₂, c₃, c₄] ++ r ∧
      hexDigit c₁ = some h₁ ∧ hexDigit c₂ = some h₂ ∧ hexDigit c₃ = some h₃ ∧
      hexDigit c₄ = some h₄ ∧ n = ((h₁ * 16 + h₂) * 16 + h₃) * 16 + h₄ := by
  unfold codeUnit at h
  split at h
  · next c₁ c₂ c₃ c₄ rest =>
    simp only [Option.bind_eq_bind, Option.bind_eq_some_iff] at h
    obtain ⟨h₁, e₁, h₂, e₂, h₃, e₃, h₄, e₄, h⟩ := h
    cases h
    exact ⟨c₁, c₂, c₃, c₄, h₁, h₂, h₃, h₄, rfl, e₁, e₂, e₃, e₄, rfl⟩
  · cases h

theorem of_codeUnit_eq {s r : List Char} {n : Nat} (h : codeUnit s = some (n, r)) :
    ∃ t, s = t ++ r ∧ codeUnit t = some (n, []) ∧ t.length = 4 := by
  obtain ⟨c₁, c₂, c₃, c₄, h₁, h₂, h₃, h₄, hs, e₁, e₂, e₃, e₄, hn⟩ := codeUnit_eq_some h
  refine ⟨[c₁, c₂, c₃, c₄], hs, ?_, rfl⟩
  simp [codeUnit, e₁, e₂, e₃, e₄, hn]

theorem of_lowEscape_eq {high : Nat} {s r : List Char} {c : Char}
    (h : lowEscape high s = some (c, r)) :
    ∃ t low, s = '\\' :: 'u' :: (t ++ r) ∧ codeUnit t = some (low, []) ∧ isLow low = true ∧
      c = ofPair high low := by
  unfold lowEscape at h
  split at h
  · next d e s =>
    split at h
    · next hde =>
      obtain ⟨rfl, rfl⟩ := hde
      simp only [Option.bind_eq_bind, Option.bind_eq_some_iff] at h
      obtain ⟨⟨low, s'⟩, hunit, h⟩ := h
      dsimp only at h
      split at h
      · next hlow =>
        obtain ⟨rfl, rfl⟩ := Prod.mk.inj (Option.some.inj h)
        obtain ⟨t, rfl, ht, _⟩ := of_codeUnit_eq hunit
        exact ⟨t, low, rfl, ht, hlow, rfl⟩
      · cases h
    · cases h
  · cases h

theorem of_unicodeEscape_eq {s r : List Char} {c : Char} (h : unicodeEscape s = some (c, r)) :
    ∃ t, s = t ++ r ∧ Spells ('\\' :: 'u' :: t) c := by
  unfold unicodeEscape at h
  simp only [Option.bind_eq_bind, Option.bind_eq_some_iff] at h
  obtain ⟨⟨n, s'⟩, hunit, h⟩ := h
  obtain ⟨t, rfl, ht, _⟩ := of_codeUnit_eq hunit
  dsimp only at h
  split at h
  · next hhigh =>
    obtain ⟨t', low, hs, ht', hlow, hc⟩ := of_lowEscape_eq h
    rw [hs, hc]
    refine ⟨t ++ '\\' :: 'u' :: t', ?_, .pair ht ht' hhigh hlow⟩
    simp
  · next hhigh =>
    split at h
    · cases h
    · next hlow =>
      obtain ⟨rfl, rfl⟩ := Prod.mk.inj (Option.some.inj h)
      exact ⟨t, rfl, .code ht (by simpa using hhigh) (by simpa using hlow)⟩

/-- What `spelled` takes from the text spells the character. -/
theorem of_spelled_eq {s r : List Char} {c : Char} (h : spelled s = some (c, r)) :
    ∃ t, s = t ++ r ∧ Spells t c := by
  cases s with
  | nil => cases h
  | cons d s =>
      by_cases hd : d = '\\'
      · subst hd
        cases s with
        | nil => cases h
        | cons e s =>
            by_cases he : e = 'u'
            · subst he
              obtain ⟨t, rfl, ht⟩ := of_unicodeEscape_eq (s := s) (by simpa [spelled] using h)
              exact ⟨'\\' :: 'u' :: t, rfl, ht⟩
            · have hescape : (escape e).map (fun c => (c, s)) = some (c, r) := by
                simpa [spelled, he] using h
              obtain ⟨c', hc', hr⟩ := Option.map_eq_some_iff.mp hescape
              cases hr
              exact ⟨['\\', e], rfl, .escaped hc'⟩
      · by_cases hplain : unescaped d = true
        · have hread : some (d, s) = some (c, r) := by simpa [spelled, hd, hplain] using h
          cases hread
          exact ⟨[_], rfl, .unescaped hplain⟩
        · simp [spelled, hd, hplain] at h

/-- **Soundness.**  What the parser reads up to the closing quote is a string of the grammar. -/
theorem of_chars_eq {n : Nat} {s d r : List Char} (h : chars n s = some (d, r)) :
    ∃ t, s = t ++ '"' :: r ∧ Chars t d := by
  induction n generalizing s d with
  | zero => cases s <;> cases h
  | succ n ih =>
      cases s with
      | nil => cases h
      | cons c s =>
          by_cases hquote : c = '"'
          · subst hquote
            have hread : some ([], s) = some (d, r) := by simpa [chars] using h
            cases hread
            exact ⟨[], rfl, .nil⟩
          · simp only [chars, hquote, if_false, Option.bind_eq_bind,
              Option.bind_eq_some_iff] at h
            obtain ⟨⟨c', s'⟩, hspelled, ⟨ds, s''⟩, hchars, hread⟩ := h
            obtain ⟨u, hu, hspells⟩ := of_spelled_eq hspelled
            cases hread
            obtain ⟨t, ht, htail⟩ := ih hchars
            dsimp only at hu ht
            refine ⟨u ++ t, ?_, .cons hspells htail⟩
            rw [hu, ht, List.append_assoc]

/-- The text up to a closing quote is one string only. -/
theorem Chars.unique {t t' d d' r r' : List Char} (h : Chars t d) (h' : Chars t' d')
    (heq : t ++ '"' :: r = t' ++ '"' :: r') : d = d' ∧ r = r' := by
  have hread := h.chars_eq (n := t.length + t'.length + 1) (by omega) r
  have hread' := h'.chars_eq (n := t.length + t'.length + 1) (by omega) r'
  rw [heq, hread'] at hread
  obtain ⟨hd, hr⟩ := Prod.mk.inj (Option.some.inj hread)
  exact ⟨hd.symm, hr.symm⟩

/-! ## Reading numbers -/

/-- A character that a number could go on with. -/
def continuesNumber (c : Char) : Bool := c.isDigit || c = '.' || c = 'e' || c = 'E'

/-- The text after a number. -/
abbrev Delimited (r : List Char) : Prop := Stops continuesNumber r

theorem Delimited.noDigit {r : List Char} (h : Delimited r) : Stops Char.isDigit r := by
  intro c hc
  have hstop := h c hc
  unfold continuesNumber at hstop
  cases hdigit : c.isDigit with
  | false => rfl
  | true => simp [hdigit] at hstop

theorem digits_append {ds r : List Char} (hds : Digits ds) (hne : ds ≠ [])
    (hr : Stops Char.isDigit r) : digits (ds ++ r) = some (ds, r) := by
  unfold digits
  rw [takeWhile_append_stops hds hr, dropWhile_append_stops hds hr, if_neg hne]

theorem IntPart.digits {t : List Char} (h : IntPart t) : Digits t ∧ t ≠ [] := by
  cases h with
  | zero => exact ⟨by simp [Digits], by simp⟩
  | positive hc hc0 hds => exact ⟨List.forall_mem_cons.mpr ⟨hc, hds⟩, by simp⟩

theorem intPart_append {t r : List Char} (h : IntPart t) (hr : Stops Char.isDigit r) :
    intPart (t ++ r) = some (t, r) := by
  unfold intPart
  rw [digits_append h.digits.1 h.digits.2 hr]
  cases h with
  | zero => simp
  | positive hc hc0 hds => simp [hc0]

theorem fracPart_append {t ds r : List Char} (h : FracPart t ds) (hr : Stops Char.isDigit r)
    (hdot : r.head? ≠ some '.') : fracPart (t ++ r) = some (ds, r) := by
  cases h with
  | none =>
      cases r with
      | nil => rfl
      | cons c r =>
          have hc : c ≠ '.' := by simpa using hdot
          simp [fracPart, hc]
  | digits hds hne => simp [fracPart, digits_append hds hne hr]

theorem exponent_append {ds r : List Char} (hds : Digits ds) (hne : ds ≠ [])
    (hr : Stops Char.isDigit r) :
    exponent (ds ++ r) = some ((Nat.ofDigitChars 10 ds 0 : ℤ), r) := by
  simp [exponent, digits_append hds hne hr]

theorem Digits.head {ds : List Char} (hds : Digits ds) (hne : ds ≠ []) :
    ∃ d ds', ds = d :: ds' ∧ d.isDigit = true := by
  cases ds with
  | nil => exact absurd rfl hne
  | cons d ds' => exact ⟨d, ds', rfl, hds d List.mem_cons_self⟩

theorem isDigit_ne {c d : Char} (hc : c.isDigit = true) (hd : d.isDigit = false) : c ≠ d := by
  intro h
  rw [h, hd] at hc
  cases hc

theorem expPart_append {t r : List Char} {n : ℤ} (h : ExpPart t n) (hr : Delimited r) :
    expPart (t ++ r) = some (n, r) := by
  cases h with
  | none =>
      cases r with
      | nil => rfl
      | cons c r =>
          have hstop := hr c rfl
          unfold continuesNumber at hstop
          simp at hstop
          simp [expPart, hstop]
  | @plain e ds he hds hne =>
      have hexponent := exponent_append hds hne hr.noDigit
      obtain ⟨d, ds', rfl, hd⟩ := hds.head hne
      have hplus : d ≠ '+' := isDigit_ne hd (by decide)
      have hminus : d ≠ '-' := isDigit_ne hd (by decide)
      rw [List.cons_append] at hexponent
      simp [expPart, signedExponent, he, hplus, hminus, hexponent]
  | plus he hds hne =>
      have hexponent := exponent_append hds hne hr.noDigit
      simp [expPart, signedExponent, he, hexponent]
  | minus he hds hne =>
      have hexponent := exponent_append hds hne hr.noDigit
      simp [expPart, signedExponent, he, hexponent]

/-- What follows the integer part. -/
theorem FracPart.append_stops {t ds e r : List Char} {n : ℤ} (h : FracPart t ds)
    (he : ExpPart e n) (hr : Delimited r) :
    Stops Char.isDigit (t ++ (e ++ r)) ∧ Stops Char.isDigit (e ++ r) ∧
      (e ++ r).head? ≠ some '.' := by
  have hexp : Stops Char.isDigit (e ++ r) ∧ (e ++ r).head? ≠ some '.' := by
    cases he with
    | none =>
        refine ⟨hr.noDigit, ?_⟩
        intro hdot
        have hstop := hr '.' hdot
        cases hstop
    | plain he | plus he | minus he =>
        rcases he with rfl | rfl <;> exact ⟨stops_cons (by decide), by simp⟩
  cases h with
  | none => exact ⟨hexp.1, hexp⟩
  | digits hds hne => exact ⟨stops_cons (by decide), hexp⟩

theorem nonnegNumber_append {int frac ds e r : List Char} {n : ℤ} (hint : IntPart int)
    (hfrac : FracPart frac ds) (he : ExpPart e n) (hr : Delimited r) :
    nonnegNumber (int ++ (frac ++ e) ++ r) = some (magnitude int ds n, r) := by
  obtain ⟨hstops, hstops', hdot⟩ := hfrac.append_stops he hr
  rw [List.append_assoc, List.append_assoc]
  unfold nonnegNumber
  simp [intPart_append hint hstops, fracPart_append hfrac hstops' hdot, expPart_append he hr]

/-- The parser reads a number of the grammar, if nothing that a number could go on with follows. -/
theorem Number.number_eq {t : List Char} {q : ℚ} (h : Number t q) {r : List Char}
    (hr : Delimited r) : number (t ++ r) = some (q, r) := by
  cases h with
  | @nonneg int frac ds e n hint hfrac hexp =>
      have hread := nonnegNumber_append hint hfrac hexp hr
      obtain ⟨c, int', rfl, hc⟩ := hint.digits.1.head hint.digits.2
      have hminus : c ≠ '-' := isDigit_ne hc (by decide)
      rw [List.cons_append, List.cons_append] at hread ⊢
      simp only [number, if_neg hminus, hread]
  | minus hint hfrac hexp =>
      have hread := nonnegNumber_append hint hfrac hexp hr
      simp only [List.cons_append, number, if_true, hread, Option.map_some]

/-! ## Reading values -/

theorem Number.head {t : List Char} {q : ℚ} (h : Number t q) :
    ∃ c t', t = c :: t' ∧ (c.isDigit = true ∨ c = '-') := by
  cases h with
  | nonneg hint hfrac hexp =>
      obtain ⟨c, int', rfl, hc⟩ := hint.digits.1.head hint.digits.2
      exact ⟨c, _, rfl, .inl hc⟩
  | minus hint hfrac hexp => exact ⟨'-', _, rfl, .inr rfl⟩

/-- The characters a value can begin with. -/
def beginsValue (c : Char) : Bool :=
  c.isDigit || c = '-' || c = '{' || c = '[' || c = '"' || c = 'f' || c = 'n' || c = 't'

theorem Denotes.head {t : List Char} {v : Value} (h : Denotes t v) :
    ∃ c t', t = c :: t' ∧ beginsValue c = true := by
  cases h with
  | number h =>
      obtain ⟨c, t', rfl, hc⟩ := h.head
      refine ⟨c, t', rfl, ?_⟩
      rcases hc with hc | hc <;> simp [beginsValue, hc]
  | _ => exact ⟨_, _, rfl, by decide⟩

theorem isSpace_cases {c : Char} (h : isSpace c = true) :
    c = ' ' ∨ c = '\t' ∨ c = '\n' ∨ c = '\r' := by
  unfold isSpace at h
  simpa [or_assoc] using h

theorem not_isSpace_of_beginsValue {c : Char} (h : beginsValue c = true) : isSpace c = false := by
  cases hspace : isSpace c with
  | false => rfl
  | true =>
      rcases isSpace_cases hspace with rfl | rfl | rfl | rfl <;> cases h

theorem number_value {t : List Char} {q : ℚ} (h : Number t q) (n : Nat) {r : List Char}
    (hr : Delimited r) : value (n + 1) (t ++ r) = some (.number q, r) := by
  have hread := h.number_eq hr
  obtain ⟨c, t', rfl, hc⟩ := h.head
  rw [List.cons_append] at hread ⊢
  have hne : c ≠ '{' ∧ c ≠ '[' ∧ c ≠ '"' ∧ c ≠ 'f' ∧ c ≠ 'n' ∧ c ≠ 't' := by
    rcases hc with hc | rfl
    · exact ⟨isDigit_ne hc (by decide), isDigit_ne hc (by decide), isDigit_ne hc (by decide),
        isDigit_ne hc (by decide), isDigit_ne hc (by decide), isDigit_ne hc (by decide)⟩
    · decide
  simp [value, hne, hread]

theorem isSpace_delimits {c : Char} (h : isSpace c = true) : continuesNumber c = false := by
  rcases isSpace_cases h with rfl | rfl | rfl | rfl <;> decide

/-- After a value come white space and a separator or a closing bracket. -/
theorem space_delimited {w r : List Char} {c : Char} (hw : Space w)
    (hc : continuesNumber c = false) : Delimited (w ++ c :: r) := by
  cases w with
  | nil => exact stops_cons hc
  | cons d w => exact stops_cons (isSpace_delimits (hw d List.mem_cons_self))

/-- Before a value, the parser skips all the white space. -/
theorem Denotes.skipSpace_eq {t : List Char} {v : Value} (h : Denotes t v) {w : List Char}
    (hw : Space w) (r : List Char) : skipSpace (w ++ (t ++ r)) = t ++ r := by
  apply skipSpace_append hw
  obtain ⟨c, t', rfl, hc⟩ := h.head
  exact stops_cons (not_isSpace_of_beginsValue hc)

/-- The elements of an array do not begin with its closing bracket. -/
theorem Items.head {t : List Char} {vs : List Value} (h : Items t vs) (r : List Char) :
    (skipSpace (t ++ r)).head? ≠ some ']' := by
  cases h with
  | last hw h | cons hw h =>
      rw [List.append_assoc, List.append_assoc, h.skipSpace_eq hw]
      obtain ⟨c, t', rfl, hc⟩ := h.head
      intro hbracket
      cases hbracket
      cases hc

theorem Members.head {t : List Char} {ms : List (List Char × Value)} (h : Members t ms)
    (r : List Char) : (skipSpace (t ++ r)).head? ≠ some '}' := by
  cases h with
  | last hw | cons hw =>
      have hquote : isSpace '"' = false := by decide
      rw [List.append_assoc, List.cons_append, skipSpace_append hw (stops_cons hquote)]
      simp

/-- The parser reads the key of a member and its colon. -/
theorem member_key {w k key w₁ : List Char} {n : Nat} (hw : Space w) (hkey : Chars k key)
    (hw₁ : Space w₁) (hn : k.length < n) (r : List Char) :
    memberKey n (w ++ '"' :: (k ++ '"' :: (w₁ ++ ':' :: r))) = some (key, r) := by
  have hskip := skipSpace_append (r := '"' :: (k ++ '"' :: (w₁ ++ ':' :: r))) hw
    (stops_cons (by decide))
  have hskip₁ := skipSpace_append (r := ':' :: r) hw₁ (stops_cons (by decide))
  simp [memberKey, hskip, quoted, hkey.chars_eq hn, hskip₁, colon]

mutual

/-- The parser reads a value of the grammar, if nothing that a number could go on with follows. -/
theorem Denotes.value_eq {t : List Char} {v : Value} (h : Denotes t v) {n : Nat} {r : List Char}
    (hn : t.length ≤ n) (hr : Delimited r) : value n (t ++ r) = some (v, r) := by
  cases h with
  | number h =>
      cases n with
      | zero =>
          obtain ⟨c, t', rfl, _⟩ := h.head
          cases hn
      | succ n => exact number_value h n hr
  | nameFalse | nameNull | nameTrue =>
      cases n with
      | zero => cases hn
      | succ n => simp [value, word]
  | string h =>
      cases n with
      | zero => cases hn
      | succ n =>
          have hread := h.chars_eq (n := n) (by simp at hn; omega) r
          simp [value, hread]
  | emptyArray hw =>
      cases n with
      | zero => cases hn
      | succ n =>
          have hskip := skipSpace_append (r := ']' :: r) hw (stops_cons (by decide))
          simp [value, hskip]
  | array h =>
      cases n with
      | zero => cases hn
      | succ n =>
          have hread := h.items_eq (n := n) (r := r) (by simp at hn; omega)
          have hhead := h.head (']' :: r)
          simp [value, hread, hhead]
  | emptyObject hw =>
      cases n with
      | zero => cases hn
      | succ n =>
          have hskip := skipSpace_append (r := '}' :: r) hw (stops_cons (by decide))
          simp [value, hskip]
  | object h =>
      cases n with
      | zero => cases hn
      | succ n =>
          have hread := h.members_eq (n := n) (r := r) (by simp at hn; omega)
          have hhead := h.head ('}' :: r)
          simp [value, hread, hhead]

theorem Items.items_eq {t : List Char} {vs : List Value} (h : Items t vs) {n : Nat}
    {r : List Char} (hn : t.length < n) : items n (t ++ ']' :: r) = some (vs, r) := by
  cases n with
  | zero => cases hn
  | succ n =>
      cases h with
      | @last w t w' v hw h hw' =>
          have hskip := h.skipSpace_eq hw (w' ++ ']' :: r)
          have hread := h.value_eq (n := n) (by simp at hn; omega)
            (space_delimited (r := r) hw' (c := ']') (by decide))
          have hskip' := skipSpace_append (r := ']' :: r) hw' (stops_cons (by decide))
          simp [items, hskip, hread, hskip']
      | @cons w t w' s v vs hw h hw' rest =>
          have hskip := h.skipSpace_eq hw (w' ++ ',' :: (s ++ ']' :: r))
          have hread := h.value_eq (n := n) (by simp at hn; omega)
            (space_delimited (r := s ++ ']' :: r) hw' (c := ',') (by decide))
          have hskip' :=
            skipSpace_append (r := ',' :: (s ++ ']' :: r)) hw' (stops_cons (by decide))
          have hrest := rest.items_eq (n := n) (r := r) (by simp at hn; omega)
          simp [items, hskip, hread, hskip', hrest]

theorem Members.members_eq {t : List Char} {ms : List (List Char × Value)} (h : Members t ms)
    {n : Nat} {r : List Char} (hn : t.length < n) :
    members n (t ++ '}' :: r) = some (ms, r) := by
  cases n with
  | zero => cases hn
  | succ n =>
      cases h with
      | @last w k w₁ w₂ t w' key v hw hkey hw₁ hw₂ h hw' =>
          have hkeyed := member_key (n := n) hw hkey hw₁ (by simp at hn; omega)
            (w₂ ++ (t ++ (w' ++ '}' :: r)))
          have hskip := h.skipSpace_eq hw₂ (w' ++ '}' :: r)
          have hread := h.value_eq (n := n) (by simp at hn; omega)
            (space_delimited (r := r) hw' (c := '}') (by decide))
          have hskip' := skipSpace_append (r := '}' :: r) hw' (stops_cons (by decide))
          simp [members, hkeyed, hskip, hread, hskip']
      | @cons w k w₁ w₂ t w' key s v ms hw hkey hw₁ hw₂ h hw' rest =>
          have hkeyed := member_key (n := n) hw hkey hw₁ (by simp at hn; omega)
            (w₂ ++ (t ++ (w' ++ ',' :: (s ++ '}' :: r))))
          have hskip := h.skipSpace_eq hw₂ (w' ++ ',' :: (s ++ '}' :: r))
          have hread := h.value_eq (n := n) (by simp at hn; omega)
            (space_delimited (r := s ++ '}' :: r) hw' (c := ',') (by decide))
          have hskip' :=
            skipSpace_append (r := ',' :: (s ++ '}' :: r)) hw' (stops_cons (by decide))
          have hrest := rest.members_eq (n := n) (r := r) (by simp at hn; omega)
          simp [members, hkeyed, hskip, hread, hskip', hrest]

end

/-! ## What was read as a member -/

theorem of_memberKey_eq {n : Nat} {w k key key' r r' : List Char} (hw : Space w)
    (hkey : Chars k key) (h : memberKey n (w ++ '"' :: (k ++ '"' :: ':' :: r)) = some (key', r')) :
    key' = key ∧ r' = r := by
  have hskip := skipSpace_append (r := '"' :: (k ++ '"' :: ':' :: r)) hw (stops_cons (by decide))
  unfold memberKey at h
  simp only [hskip, quoted, if_true, Option.bind_eq_bind, Option.bind_eq_some_iff] at h
  obtain ⟨⟨d, s⟩, hchars, s', hcolon, hread⟩ := h
  obtain ⟨t, ht, hd⟩ := of_chars_eq hchars
  obtain ⟨hdkey, hs⟩ := hkey.unique hd ht
  have hskip' := skipSpace_append (w := []) (r := ':' :: r) (by simp [Space])
    (stops_cons (by decide))
  rw [List.nil_append] at hskip'
  dsimp only at hs hcolon hread
  rw [← hs, hskip'] at hcolon
  obtain rfl : r = s' := by simpa [colon] using hcolon
  cases hread
  exact ⟨hdkey.symm, rfl⟩

/-- Reading the members from one that is laid out with a blank before its value. -/
theorem of_members_eq {n : Nat} {w k key x r : List Char} {ms : List (List Char × Value)}
    (hw : Space w) (hkey : Chars k key) (hx : Stops isSpace x)
    (h : members n (w ++ '"' :: (k ++ '"' :: ':' :: ' ' :: x)) = some (ms, r)) :
    ∃ n' v s ms', value n' x = some (v, s) ∧ ms = (key, v) :: ms' ∧
      (skipSpace s = '}' :: r ∧ ms' = [] ∨
        ∃ s', skipSpace s = ',' :: s' ∧ members n' s' = some (ms', r)) := by
  cases n with
  | zero => simp [members] at h
  | succ n =>
      simp only [members, Option.bind_eq_bind, Option.bind_eq_some_iff] at h
      obtain ⟨⟨key', s₁⟩, hmemberKey, ⟨v, s₂⟩, hvalue, hrest⟩ := h
      obtain ⟨rfl, hs₁⟩ := of_memberKey_eq hw hkey hmemberKey
      have hskip : skipSpace (' ' :: x) = x :=
        skipSpace_append (w := [' ']) (by simp [Space, isSpace]) hx
      dsimp only at hvalue hrest
      rw [hs₁, hskip] at hvalue
      split at hrest
      · cases hrest
      · next c s' hs₂ =>
        split at hrest
        · next hc =>
          subst hc
          simp only [Option.bind_eq_some_iff] at hrest
          obtain ⟨⟨ms', r'⟩, hmembers, hread⟩ := hrest
          cases hread
          exact ⟨n, v, s₂, ms', hvalue, rfl, .inr ⟨s', hs₂, hmembers⟩⟩
        · split at hrest
          · next hc =>
            subst hc
            cases hrest
            exact ⟨n, v, s₂, [], hvalue, rfl, .inl ⟨hs₂, rfl⟩⟩
          · cases hrest

/-- A value that begins as a number does is that number. -/
theorem of_value_number {t : List Char} {q : ℚ} (hnumber : Number t q) {n : Nat}
    {r r' : List Char} {v : Value} (hr : Delimited r) (h : value n (t ++ r) = some (v, r')) :
    v = .number q ∧ r' = r := by
  cases n with
  | zero =>
      obtain ⟨c, t', rfl, _⟩ := hnumber.head
      simp [value] at h
  | succ n =>
      rw [number_value hnumber n hr] at h
      cases h
      exact ⟨rfl, rfl⟩

/-- A value that begins with a quote is a string. -/
theorem of_value_quote {n : Nat} {x r : List Char} {v : Value}
    (h : value n ('"' :: x) = some (v, r)) :
    ∃ t s, x = t ++ '"' :: r ∧ Chars t s ∧ v = .string s := by
  cases n with
  | zero => simp [value] at h
  | succ n =>
      have hchars : (chars n x).map (fun p => (Value.string p.1, p.2)) = some (v, r) := by
        simpa [value] using h
      obtain ⟨⟨s, r'⟩, hread, hv⟩ := Option.map_eq_some_iff.mp hchars
      cases hv
      obtain ⟨t, hx, ht⟩ := of_chars_eq hread
      exact ⟨t, s, hx, ht, rfl⟩

/-- A value that begins with a brace is an object. -/
theorem of_value_brace {n : Nat} {x r : List Char} {v : Value}
    (hx : (skipSpace x).head? ≠ some '}') (h : value n ('{' :: x) = some (v, r)) :
    ∃ n' ms, members n' x = some (ms, r) ∧ v = .object ms := by
  cases n with
  | zero => simp [value] at h
  | succ n =>
      have hmembers : (members n x).map (fun p => (Value.object p.1, p.2)) = some (v, r) := by
        simpa [value, hx] using h
      obtain ⟨⟨ms, r'⟩, hread, hv⟩ := Option.map_eq_some_iff.mp hmembers
      cases hv
      exact ⟨n, ms, hread, rfl⟩

theorem Space.delimited {w : List Char} (hw : Space w) : Delimited w := by
  cases w with
  | nil =>
      intro c hc
      cases hc
  | cons c w => exact stops_cons (isSpace_delimits (hw c List.mem_cons_self))

/-- **Completeness.**  The parser accepts every text of the grammar, with the value it denotes. -/
theorem Document.parse_eq {s : List Char} {v : Value} (h : Document s v) : parse s = some v := by
  cases h with
  | @text w t w' v hw h hw' =>
      have hskip := h.skipSpace_eq hw w'
      have hread := h.value_eq (n := (w ++ (t ++ w')).length + 1)
        (by simp only [List.length_append]; omega) hw'.delimited
      have hend : skipSpace w' = [] := by
        simpa using skipSpace_append (r := []) hw' (by simp [Stops])
      unfold parse
      simp only [hskip, hread, Option.bind_eq_bind, Option.bind_some, hend, if_true]

/-- A document that begins with a brace is an object. -/
theorem Document.of_brace {x : List Char} {v : Value} (hx : (skipSpace x).head? ≠ some '}')
    (h : Document ('{' :: x) v) : ∃ n ms r, members n x = some (ms, r) ∧ v = .object ms := by
  have hparse := h.parse_eq
  have hskip : skipSpace ('{' :: x) = '{' :: x :=
    skipSpace_append (w := []) (by simp [Space]) (stops_cons (by decide))
  simp only [parse, hskip, Option.bind_eq_bind, Option.bind_eq_some_iff] at hparse
  obtain ⟨⟨v', r⟩, hvalue, hread⟩ := hparse
  obtain ⟨n, ms, hmembers, rfl⟩ := of_value_brace hx hvalue
  dsimp only at hread
  split at hread
  · cases hread
    exact ⟨n, ms, r, hmembers, rfl⟩
  · cases hread

/-- A text denotes one value at most. -/
theorem Document.unique {s : List Char} {v v' : Value} (h : Document s v) (h' : Document s v') :
    v = v' :=
  Option.some.inj (h.parse_eq.symm.trans h'.parse_eq)

end Json

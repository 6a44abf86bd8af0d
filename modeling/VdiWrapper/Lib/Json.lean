import Mathlib.Algebra.Order.Field.Rat

/-!
# JSON

The grammar of RFC 8259 on lists of characters, as inductive relations between a text and what it
denotes: numbers denote rationals, strings the characters left when the escapes are resolved,
objects the list of their members in the order of the text.  An escape of half a surrogate pair
denotes no character and is not accepted.

`parse` is the recursive descent parser of that grammar.  It accepts every text of the grammar with
the value the text denotes (`Document.parse_eq`), so a text denotes one value at most.
-/

namespace Json

/-- What a JSON text denotes. -/
inductive Value
  | null
  | bool (b : Bool)
  | number (q : ℚ)
  | string (s : List Char)
  | array (items : List Value)
  | object (members : List (List Char × Value))

/-- `ws` -/
def isSpace (c : Char) : Bool := c = ' ' || c = '\t' || c = '\n' || c = '\r'

def Space (w : List Char) : Prop := ∀ c ∈ w, isSpace c = true

/-! ## Strings -/

/-- `unescaped = %x20-21 / %x23-5B / %x5D-10FFFF` -/
def unescaped (c : Char) : Bool := decide (0x20 ≤ c.toNat) && c ≠ '"' && c ≠ '\\'

/-- The character of a two-character escape. -/
def escape (c : Char) : Option Char :=
  if c = '"' then some '"'
  else if c = '\\' then some '\\'
  else if c = '/' then some '/'
  else if c = 'b' then some '\x08'
  else if c = 'f' then some '\x0c'
  else if c = 'n' then some '\n'
  else if c = 'r' then some '\r'
  else if c = 't' then some '\t'
  else none

def hexDigit (c : Char) : Option Nat :=
  if '0'.toNat ≤ c.toNat ∧ c.toNat ≤ '9'.toNat then some (c.toNat - '0'.toNat)
  else if 'a'.toNat ≤ c.toNat ∧ c.toNat ≤ 'f'.toNat then some (c.toNat - 'a'.toNat + 10)
  else if 'A'.toNat ≤ c.toNat ∧ c.toNat ≤ 'F'.toNat then some (c.toNat - 'A'.toNat + 10)
  else none

/-- `4HEXDIG`, and what follows. -/
def codeUnit : List Char → Option (Nat × List Char)
  | c₁ :: c₂ :: c₃ :: c₄ :: s => do
      let h₁ ← hexDigit c₁
      let h₂ ← hexDigit c₂
      let h₃ ← hexDigit c₃
      let h₄ ← hexDigit c₄
      return (((h₁ * 16 + h₂) * 16 + h₃) * 16 + h₄, s)
  | _ => none

def isHigh (n : Nat) : Bool := decide (0xD800 ≤ n) && decide (n < 0xDC00)

def isLow (n : Nat) : Bool := decide (0xDC00 ≤ n) && decide (n < 0xE000)

/-- The character of a surrogate pair. -/
def ofPair (high low : Nat) : Char :=
  Char.ofNat (0x10000 + (high - 0xD800) * 0x400 + (low - 0xDC00))

/-- `char`: how a character is written between the quotes. -/
inductive Spells : List Char → Char → Prop
  | unescaped {c : Char} (h : unescaped c = true) : Spells [c] c
  | escaped {e c : Char} (h : escape e = some c) : Spells ['\\', e] c
  | code {t : List Char} {n : Nat} (h : codeUnit t = some (n, [])) (hhigh : isHigh n = false)
      (hlow : isLow n = false) : Spells ('\\' :: 'u' :: t) (Char.ofNat n)
  | pair {t t' : List Char} {high low : Nat} (h : codeUnit t = some (high, []))
      (h' : codeUnit t' = some (low, [])) (hhigh : isHigh high = true) (hlow : isLow low = true) :
      Spells ('\\' :: 'u' :: (t ++ '\\' :: 'u' :: t')) (ofPair high low)

/-- `*char` -/
inductive Chars : List Char → List Char → Prop
  | nil : Chars [] []
  | cons {t s d : List Char} {c : Char} (head : Spells t c) (tail : Chars s d) :
      Chars (t ++ s) (c :: d)

/-! ## Numbers -/

def Digits (s : List Char) : Prop := ∀ c ∈ s, c.isDigit = true

/-- `int = zero / ( digit1-9 *DIGIT )` -/
inductive IntPart : List Char → Prop
  | zero : IntPart ['0']
  | positive {c : Char} {ds : List Char} (hc : c.isDigit = true) (hc0 : c ≠ '0')
      (hds : Digits ds) : IntPart (c :: ds)

/-- `[ frac ]`, with its digits. -/
inductive FracPart : List Char → List Char → Prop
  | none : FracPart [] []
  | digits {ds : List Char} (hds : Digits ds) (hne : ds ≠ []) : FracPart ('.' :: ds) ds

/-- `[ exp ]` -/
inductive ExpPart : List Char → ℤ → Prop
  | none : ExpPart [] 0
  | plain {e : Char} {ds : List Char} (he : e = 'e' ∨ e = 'E') (hds : Digits ds)
      (hne : ds ≠ []) : ExpPart (e :: ds) (Nat.ofDigitChars 10 ds 0)
  | plus {e : Char} {ds : List Char} (he : e = 'e' ∨ e = 'E') (hds : Digits ds)
      (hne : ds ≠ []) : ExpPart (e :: '+' :: ds) (Nat.ofDigitChars 10 ds 0)
  | minus {e : Char} {ds : List Char} (he : e = 'e' ∨ e = 'E') (hds : Digits ds)
      (hne : ds ≠ []) : ExpPart (e :: '-' :: ds) (-Nat.ofDigitChars 10 ds 0)

/-- The value of `int frac exp`. -/
def magnitude (int frac : List Char) (exp : ℤ) : ℚ :=
  Nat.ofDigitChars 10 (int ++ frac) 0 / 10 ^ frac.length * 10 ^ exp

/-- `number = [ minus ] int [ frac ] [ exp ]` -/
inductive Number : List Char → ℚ → Prop
  | nonneg {int frac ds exp : List Char} {n : ℤ} (hint : IntPart int) (hfrac : FracPart frac ds)
      (hexp : ExpPart exp n) : Number (int ++ (frac ++ exp)) (magnitude int ds n)
  | minus {int frac ds exp : List Char} {n : ℤ} (hint : IntPart int) (hfrac : FracPart frac ds)
      (hexp : ExpPart exp n) : Number ('-' :: (int ++ (frac ++ exp))) (-magnitude int ds n)

/-! ## Values -/

mutual

/-- `value` -/
inductive Denotes : List Char → Value → Prop
  | nameFalse : Denotes ['f', 'a', 'l', 's', 'e'] (.bool false)
  | nameNull : Denotes ['n', 'u', 'l', 'l'] .null
  | nameTrue : Denotes ['t', 'r', 'u', 'e'] (.bool true)
  | number {t : List Char} {q : ℚ} (h : Number t q) : Denotes t (.number q)
  | string {t s : List Char} (h : Chars t s) : Denotes ('"' :: (t ++ ['"'])) (.string s)
  | emptyArray {w : List Char} (hw : Space w) : Denotes ('[' :: (w ++ [']'])) (.array [])
  | array {t : List Char} {vs : List Value} (h : Items t vs) :
      Denotes ('[' :: (t ++ [']'])) (.array vs)
  | emptyObject {w : List Char} (hw : Space w) : Denotes ('{' :: (w ++ ['}'])) (.object [])
  | object {t : List Char} {ms : List (List Char × Value)} (h : Members t ms) :
      Denotes ('{' :: (t ++ ['}'])) (.object ms)

/-- `value *( value-separator value )`, each with its white space. -/
inductive Items : List Char → List Value → Prop
  | last {w t w' : List Char} {v : Value} (hw : Space w) (h : Denotes t v) (hw' : Space w') :
      Items (w ++ (t ++ w')) [v]
  | cons {w t w' s : List Char} {v : Value} {vs : List Value} (hw : Space w) (h : Denotes t v)
      (hw' : Space w') (rest : Items s vs) : Items (w ++ (t ++ (w' ++ ',' :: s))) (v :: vs)

/-- `member *( value-separator member )`, each with its white space. -/
inductive Members : List Char → List (List Char × Value) → Prop
  | last {w k w₁ w₂ t w' key : List Char} {v : Value} (hw : Space w) (hkey : Chars k key)
      (hw₁ : Space w₁) (hw₂ : Space w₂) (h : Denotes t v) (hw' : Space w') :
      Members (w ++ '"' :: (k ++ '"' :: (w₁ ++ ':' :: (w₂ ++ (t ++ w'))))) [(key, v)]
  | cons {w k w₁ w₂ t w' key s : List Char} {v : Value} {ms : List (List Char × Value)}
      (hw : Space w) (hkey : Chars k key) (hw₁ : Space w₁) (hw₂ : Space w₂) (h : Denotes t v)
      (hw' : Space w') (rest : Members s ms) :
      Members (w ++ '"' :: (k ++ '"' :: (w₁ ++ ':' :: (w₂ ++ (t ++ (w' ++ ',' :: s))))))
        ((key, v) :: ms)

end

/-- `JSON-text = ws value ws` -/
inductive Document : List Char → Value → Prop
  | text {w t w' : List Char} {v : Value} (hw : Space w) (h : Denotes t v) (hw' : Space w') :
      Document (w ++ (t ++ w')) v

theorem Denotes.document {t : List Char} {v : Value} (h : Denotes t v) : Document t v := by
  have hnone : Space [] := by simp [Space]
  have hdocument := Document.text hnone h hnone
  rwa [List.append_nil] at hdocument

/-! ## Looking into a value -/

namespace Value

/-- The first member under `key`. -/
def get? (key : List Char) : Value → Option Value
  | .object ms => (ms.find? fun m => m.1 = key).map Prod.snd
  | _ => none

/-- The value at the end of a path of keys. -/
def at? (v : Value) : List String → Option Value
  | [] => some v
  | key :: path => (v.get? key.toList).bind fun u => u.at? path

/-- No object has two members under one key. -/
inductive NoDuplicateKeys : Value → Prop
  | null : NoDuplicateKeys .null
  | bool (b : Bool) : NoDuplicateKeys (.bool b)
  | number (q : ℚ) : NoDuplicateKeys (.number q)
  | string (s : List Char) : NoDuplicateKeys (.string s)
  | array {vs : List Value} (h : ∀ v ∈ vs, NoDuplicateKeys v) : NoDuplicateKeys (.array vs)
  | object {ms : List (List Char × Value)} (hkeys : (ms.map Prod.fst).Nodup)
      (h : ∀ m ∈ ms, NoDuplicateKeys m.2) : NoDuplicateKeys (.object ms)

attribute [simp] NoDuplicateKeys.null NoDuplicateKeys.bool NoDuplicateKeys.number
  NoDuplicateKeys.string

@[simp] theorem noDuplicateKeys_object {ms : List (List Char × Value)} :
    (Value.object ms).NoDuplicateKeys ↔
      (ms.map Prod.fst).Nodup ∧ ∀ m ∈ ms, m.2.NoDuplicateKeys := by
  constructor
  · intro h
    cases h with
    | object hkeys h => exact ⟨hkeys, h⟩
  · intro ⟨hkeys, h⟩
    exact .object hkeys h

end Value

/-! ## Printing -/

theorem isDigit_toDigits (n : Nat) : Digits (Nat.toDigits 10 n) :=
  fun _ hc => Nat.isDigit_of_mem_toDigits (by decide) (by decide) hc

/-- The digits of a positive number have no leading zero. -/
theorem toDigits_head {n : Nat} (hn : 0 < n) :
    ∃ c ds, Nat.toDigits 10 n = c :: ds ∧ c ≠ '0' := by
  induction n using Nat.strongRecOn with
  | ind n ih =>
      by_cases hlt : n < 10
      · refine ⟨n.digitChar, [], Nat.toDigits_of_lt_base hlt, ?_⟩
        intro hzero
        rw [Nat.digitChar_eq_zero.mp hzero] at hn
        cases hn
      · obtain ⟨c, ds, hdigits, hc⟩ := ih (n / 10) (by omega) (by omega)
        refine ⟨c, ds ++ [(n % 10).digitChar], ?_, hc⟩
        rw [Nat.toDigits_of_base_le (by decide) (Nat.le_of_not_lt hlt), hdigits, List.cons_append]

theorem intPart_toDigits (n : Nat) : IntPart (Nat.toDigits 10 n) := by
  cases n with
  | zero => exact .zero
  | succ n =>
      have hdigits := isDigit_toDigits (n + 1)
      obtain ⟨c, ds, heq, hc⟩ := toDigits_head (Nat.succ_pos n)
      rw [heq] at hdigits ⊢
      exact .positive (hdigits c List.mem_cons_self) hc fun d hd =>
        hdigits d (List.mem_cons_of_mem _ hd)

/-- A natural number in decimal. -/
theorem number_toDigits (n : Nat) : Number (Nat.toDigits 10 n) n := by
  have h := Number.nonneg (intPart_toDigits n) .none .none
  unfold magnitude at h
  simpa using h

theorem denotes_toDigits (n : Nat) : Denotes (Nat.toDigits 10 n) (.number n) :=
  .number (number_toDigits n)

/-- A number with a fixed count of digits after the point. -/
theorem number_fixed (n : Nat) {ds : List Char} (hds : Digits ds) (hne : ds ≠ []) :
    Number (Nat.toDigits 10 n ++ '.' :: ds) (magnitude (Nat.toDigits 10 n) ds 0) := by
  have h := Number.nonneg (intPart_toDigits n) (.digits hds hne) .none
  rwa [List.append_nil] at h

/-- A string that needs no escapes. -/
def Plain (s : List Char) : Prop := ∀ c ∈ s, unescaped c = true

instance (s : List Char) : Decidable (Plain s) :=
  List.decidableBAll (fun c => unescaped c = true) s

theorem Plain.chars {s : List Char} (h : Plain s) : Chars s s := by
  induction s with
  | nil => exact .nil
  | cons c s ih =>
      exact .cons (.unescaped (h c List.mem_cons_self)) (ih fun d hd =>
        h d (List.mem_cons_of_mem _ hd))

/-- White space for a line break and an indentation. -/
def newline (indent : Nat) : List Char := '\n' :: List.replicate indent ' '

theorem space_newline (indent : Nat) : Space (newline indent) := by
  intro c hc
  rcases List.mem_cons.mp hc with rfl | hc
  · rfl
  · rw [List.eq_of_mem_replicate hc]
    rfl

/-- The members of an object, each after the white space `inner`, the last one before `outer`. -/
def layMembers (inner outer : List Char) : List (List Char × List Char) → List Char
  | [] => []
  | [(key, t)] => inner ++ '"' :: (key ++ '"' :: ':' :: ' ' :: (t ++ outer))
  | (key, t) :: ms =>
      inner ++ '"' :: (key ++ '"' :: ':' :: ' ' :: (t ++ ',' :: layMembers inner outer ms))

/-- An object laid out like that. -/
def layObject (inner outer : List Char) (ms : List (List Char × List Char)) : List Char :=
  '{' :: (layMembers inner outer ms ++ ['}'])

/-- A member that is printed with a key in no need of escapes. -/
structure MemberDenotes (printed : List Char × List Char) (member : List Char × Value) :
    Prop where
  key : printed.1 = member.1
  plain : Plain printed.1
  denotes : Denotes printed.2 member.2

/-- A member whose key needs no escapes. -/
theorem memberDenotes (key : String) {t : List Char} {v : Value} (h : Denotes t v)
    (hplain : Plain key.toList) : MemberDenotes (key.toList, t) (key.toList, v) :=
  ⟨rfl, hplain, h⟩

theorem members_layMembers {inner outer : List Char} (hinner : Space inner) (houter : Space outer)
    {printed : List (List Char × List Char)} {ms : List (List Char × Value)}
    (h : List.Forall₂ MemberDenotes printed ms) (hne : printed ≠ []) :
    Members (layMembers inner outer printed) ms := by
  have hnone : Space [] := by simp [Space]
  have hone : Space [' '] := by
    intro c hc
    cases List.mem_singleton.mp hc
    rfl
  induction h with
  | nil => exact absurd rfl hne
  | @cons p m printed ms hmember hrest ih =>
      obtain ⟨key, t⟩ := p
      obtain ⟨key', v⟩ := m
      obtain rfl : key = key' := hmember.key
      cases hrest with
      | nil => exact .last hinner hmember.plain.chars hnone hone hmember.denotes houter
      | cons hnext hrest =>
          exact .cons hinner hmember.plain.chars hnone hone hmember.denotes hnone (ih (by simp))

theorem denotes_layObject {inner outer : List Char} (hinner : Space inner) (houter : Space outer)
    {printed : List (List Char × List Char)} {ms : List (List Char × Value)}
    (h : List.Forall₂ MemberDenotes printed ms) (hne : printed ≠ []) :
    Denotes (layObject inner outer printed) (.object ms) :=
  .object (members_layMembers hinner houter h hne)

/-- The white space before the first member. -/
theorem layObject_head (inner outer : List Char) {ms : List (List Char × List Char)}
    (h : ms ≠ []) : ∃ t, layObject inner outer ms = '{' :: (inner ++ t) := by
  match ms, h with
  | [(key, t)], _ => exact ⟨_, congrArg ('{' :: ·) (List.append_assoc ..)⟩
  | (key, t) :: m :: ms, _ => exact ⟨_, congrArg ('{' :: ·) (List.append_assoc ..)⟩

/-- A layout has no character but its punctuation and those of its parts. -/
theorem notMem_layMembers {inner outer : List Char} {c : Char} (hinner : c ∉ inner)
    (houter : c ∉ outer) (hc : c ∉ ['"', ':', ' ', ','])
    {ms : List (List Char × List Char)} (h : ∀ m ∈ ms, c ∉ m.1 ∧ c ∉ m.2) :
    c ∉ layMembers inner outer ms := by
  simp only [List.mem_cons, List.not_mem_nil, or_false, not_or] at hc
  induction ms with
  | nil => simp [layMembers]
  | cons m ms ih =>
      obtain ⟨hm, hms⟩ := List.forall_mem_cons.mp h
      cases ms with
      | nil => simp [layMembers, hinner, houter, hm, hc]
      | cons m' ms => simp [layMembers, hinner, hm, hc, ih hms]

theorem notMem_layObject {inner outer : List Char} {c : Char} (hinner : c ∉ inner)
    (houter : c ∉ outer) (hc : c ∉ ['"', ':', ' ', ',', '{', '}'])
    {ms : List (List Char × List Char)} (h : ∀ m ∈ ms, c ∉ m.1 ∧ c ∉ m.2) :
    c ∉ layObject inner outer ms := by
  have hmembers := notMem_layMembers hinner houter (by grind) h
  unfold layObject
  grind

end Json

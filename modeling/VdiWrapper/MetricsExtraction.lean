import VdiWrapper.Lib.Regex
import VdiWrapper.MetricsJson

/-!
# Handing the metrics to the benchmark scripts

`process_commands` prints the document of `to_json` between two marker lines; two scripts take it
out of the log again, each with a pattern of its own.  `LOG_INFO` writes `[INFO]  ` in front of
everything it prints, which neither pattern allows for, and in both the captured text is matched by
`.*?`, which stops at the end of a line.
-/

namespace Vdi

open Json Regex

/-! ## The emission -/

/-- `LOG_INFO`, on the standard output. -/
def logInfo (loggingLevel : Nat) (text : List Char) : List Char :=
  if 1 ≤ loggingLevel then "[INFO]  ".toList ++ (text ++ ['\n']) else []

def beginMarker : List Char := "---BEGIN JSON METRICS---".toList

def endMarker : List Char := "---END JSON METRICS---".toList

/-- The three calls at the end of `process_commands`. -/
def emitJson (loggingLevel : Nat) (json : List Char) : List Char :=
  logInfo loggingLevel beginMarker ++ (logInfo loggingLevel json ++
    logInfo loggingLevel endMarker)

/-- What a text stream writes for `'\n'`. -/
inductive LineEnding
  | lf
  | crlf

namespace LineEnding

def text : LineEnding → List Char
  | .lf => ['\n']
  | .crlf => ['\r', '\n']

def write (ending : LineEnding) (s : List Char) : List Char :=
  s.flatMap fun c => if c = '\n' then ending.text else [c]

end LineEnding

/-- The standard output with the metrics in it. -/
def metricsLog (loggingLevel : Nat) (ending : LineEnding) (before json after : List Char) :
    List Char :=
  before ++ (ending.write (emitJson loggingLevel json) ++ after)

/-! ## The extraction -/

/-- `-match` does not tell upper and lower case apart. -/
def sameLetter (c d : Char) : Bool := c.toLower = d.toLower

/-- `\s` -/
def isWhite (c : Char) : Bool :=
  c.isWhitespace || c = '\x0b' || c = '\x0c' || c = '\u0085' || c = '\u00a0' || c = '\u1680' ||
    (decide (0x2000 ≤ c.toNat) && decide (c.toNat ≤ 0x200a)) || c = '\u2028' || c = '\u2029' ||
    c = '\u202f' || c = '\u205f' || c = '\u3000'

/-- `.*?` -/
def lazyLine : Regex Char := .many true fun c => c ≠ '\n'

/-- `\s*` -/
def whiteSpace : Regex Char := .many false isWhite

def letter (c : Char) : Regex Char := .one (sameLetter c)

/-- The pattern of `run_cpp_benchmark.ps1`:
`---BEGIN JSON METRICS---\s*\n(.*?)\n---END JSON METRICS---`. -/
def benchmarkPattern : Regex Char :=
  .seq (literal sameLetter beginMarker) <| .seq whiteSpace <| .seq (letter '\n') <|
    .seq (.group lazyLine) <| .seq (letter '\n') <| literal sameLetter endMarker

/-- The pattern of `run_repeatability_check.ps1`:
`---BEGIN JSON METRICS---\s*({.*?})\s*---END JSON METRICS---`. -/
def repeatabilityPattern : Regex Char :=
  .seq (literal sameLetter beginMarker) <| .seq whiteSpace <|
    .seq (.group (.seq (letter '{') <| .seq lazyLine <| letter '}')) <|
      .seq whiteSpace <| literal sameLetter endMarker

-- Without the prefix, and with the document on one line, both patterns capture it.
example : (benchmarkPattern.find (beginMarker ++ "\n\x7b\x7d\n".toList ++ endMarker)).map
    Run.captures = some ["\x7b\x7d".toList] := by decide

example : (repeatabilityPattern.find (beginMarker ++ "\r\n\x7b\x7d\r\n".toList ++ endMarker)).map
    Run.captures = some ["\x7b\x7d".toList] := by decide

/-- The pattern finds its match, and the first group has captured `json`, line endings apart. -/
def Extracts (pattern : Regex Char) (log json : List Char) : Prop :=
  ∃ r capture, pattern.find log = some r ∧ r.captures.head? = some capture ∧
    capture.filter (fun c => c ≠ '\r') = json.filter (fun c => c ≠ '\r')

/-- The text of a marker, in any case of its letters. -/
def Marked (marker m : List Char) : Prop := m.map Char.toLower = marker.map Char.toLower

/-- Neither marker occurs. -/
def MarkerFree (text : List Char) : Prop :=
  ∀ pre m rest, text = pre ++ (m ++ rest) → ¬ Marked beginMarker m ∧ ¬ Marked endMarker m

/-! ## What the patterns match -/

/-- Only letters have another case. -/
theorem eq_of_toLower_eq {c d : Char} (h : d.toLower = c) (hc : c.isLower = false) : d = c := by
  unfold Char.toLower at h
  split at h
  · next hupper =>
    exfalso
    subst h
    have hlower : (decide ('a'.val ≤ d.val + ('a'.val - 'A'.val)) &&
        decide (d.val + ('a'.val - 'A'.val) ≤ 'z'.val)) = false := hc
    simp at hlower hupper
    grind
  · exact h

theorem matches_letter_iff {c : Char} {u : List Char} {us : List (List Char)}
    (hlower : c.isLower = false) (hsame : c.toLower = c) :
    (letter c).Matches u us ↔ u = [c] ∧ us = [] := by
  unfold letter sameLetter
  rw [matches_one_iff]
  constructor
  · intro ⟨d, hd, hu, hus⟩
    have hlow : d.toLower = c := by simpa [hsame, eq_comm] using hd
    rw [hu, eq_of_toLower_eq hlow hlower]
    exact ⟨rfl, hus⟩
  · intro ⟨hu, hus⟩
    exact ⟨c, by simp, hu, hus⟩

theorem matches_newline_iff {u : List Char} {us : List (List Char)} :
    (letter '\n').Matches u us ↔ u = ['\n'] ∧ us = [] :=
  matches_letter_iff (by decide) (by decide)

theorem matches_brace_iff {u : List Char} {us : List (List Char)} :
    (letter '{').Matches u us ↔ u = ['{'] ∧ us = [] :=
  matches_letter_iff (by decide) (by decide)

theorem matches_closingBrace_iff {u : List Char} {us : List (List Char)} :
    (letter '}').Matches u us ↔ u = ['}'] ∧ us = [] :=
  matches_letter_iff (by decide) (by decide)

theorem matches_marker_iff {marker u : List Char} {us : List (List Char)} :
    (literal sameLetter marker).Matches u us ↔ Marked marker u ∧ us = [] := by
  rw [matches_literal_iff]
  apply and_congr_left
  intro _
  unfold Marked sameLetter
  rw [eq_comm, ← List.forall₂_eq_eq_eq, List.forall₂_map_left_iff, List.forall₂_map_right_iff]
  simp only [decide_eq_true_eq]

/-- What `run_cpp_benchmark.ps1` can match: the capture is within a line. -/
theorem benchmarkPattern_matches {u : List Char} {captures : List (List Char)}
    (h : benchmarkPattern.Matches u captures) :
    ∃ m w line m', u = m ++ (w ++ '\n' :: (line ++ '\n' :: m')) ∧ Marked beginMarker m ∧
      (∀ c ∈ w, isWhite c = true) ∧ '\n' ∉ line ∧ Marked endMarker m' ∧ captures = [line] := by
  obtain ⟨m, u₁, us, us₁, hm, h₁, hu, hus⟩ := matches_seq_iff.mp h
  obtain ⟨w, u₂, ws, us₂, hw, h₂, hu₁, hus₁⟩ := matches_seq_iff.mp h₁
  obtain ⟨n, u₃, ns, us₃, hn, h₃, hu₂, hus₂⟩ := matches_seq_iff.mp h₂
  obtain ⟨line, u₄, ls, us₄, hline, h₄, hu₃, hus₃⟩ := matches_seq_iff.mp h₃
  obtain ⟨n', m', ns', ms', hn', hm', hu₄, hus₄⟩ := matches_seq_iff.mp h₄
  obtain ⟨hopening, rfl⟩ := matches_marker_iff.mp hm
  obtain ⟨hwhite, rfl⟩ := matches_many_iff.mp hw
  obtain ⟨rfl, rfl⟩ := matches_newline_iff.mp hn
  obtain ⟨vs, hlazy, rfl⟩ := matches_group_iff.mp hline
  obtain ⟨hdots, rfl⟩ := matches_many_iff.mp hlazy
  obtain ⟨rfl, rfl⟩ := matches_newline_iff.mp hn'
  obtain ⟨hclosing, rfl⟩ := matches_marker_iff.mp hm'
  subst hu₄ hus₄ hu₃ hus₃ hu₂ hus₂ hu₁ hus₁ hu hus
  refine ⟨m, w, line, m', rfl, hopening, hwhite, ?_, hclosing, rfl⟩
  intro hmem
  simpa using hdots _ hmem

/-- What `run_repeatability_check.ps1` can match. -/
theorem repeatabilityPattern_matches {u : List Char} {captures : List (List Char)}
    (h : repeatabilityPattern.Matches u captures) :
    ∃ m w line w' m', u = m ++ (w ++ ('{' :: (line ++ ['}']) ++ (w' ++ m'))) ∧
      Marked beginMarker m ∧ (∀ c ∈ w, isWhite c = true) ∧ '\n' ∉ line ∧
      captures = ['{' :: (line ++ ['}'])] := by
  obtain ⟨m, u₁, us, us₁, hm, h₁, hu, hus⟩ := matches_seq_iff.mp h
  obtain ⟨w, u₂, ws, us₂, hw, h₂, hu₁, hus₁⟩ := matches_seq_iff.mp h₁
  obtain ⟨v, u₃, vs, us₃, hgroup, h₃, hu₂, hus₂⟩ := matches_seq_iff.mp h₂
  obtain ⟨w', m', ws', ms', hw', hm', hu₃, hus₃⟩ := matches_seq_iff.mp h₃
  obtain ⟨bs, hbraces, rfl⟩ := matches_group_iff.mp hgroup
  obtain ⟨b, v₁, cs, bs₁, hb, hrest, hv, hbs⟩ := matches_seq_iff.mp hbraces
  obtain ⟨line, b', ls, cs', hlazy, hb', hv₁, hbs₁⟩ := matches_seq_iff.mp hrest
  obtain ⟨hopening, rfl⟩ := matches_marker_iff.mp hm
  obtain ⟨hwhite, rfl⟩ := matches_many_iff.mp hw
  obtain ⟨rfl, rfl⟩ := matches_brace_iff.mp hb
  obtain ⟨hdots, rfl⟩ := matches_many_iff.mp hlazy
  obtain ⟨rfl, rfl⟩ := matches_closingBrace_iff.mp hb'
  obtain ⟨_, rfl⟩ := matches_many_iff.mp hw'
  obtain ⟨_, rfl⟩ := matches_marker_iff.mp hm'
  subst hbs₁ hv₁ hbs hv hu₃ hus₃ hu₂ hus₂ hu₁ hus₁ hu hus
  refine ⟨m, w, line, w', m', rfl, hopening, hwhite, ?_, rfl⟩
  intro hmem
  simpa using hdots _ hmem

/-! ## The document in the log -/

/-- There is no dash in a number that is not negative. -/
theorem dash_notMem_toDigits (n : Nat) : '-' ∉ Nat.toDigits 10 n := by
  intro h
  have hdigit := isDigit_toDigits n _ h
  cases hdigit

theorem Doubles.dash_notMem_fixed (doubles : Doubles) (precision : Nat) {q : ℚ}
    (hprecision : 0 < precision) (hq : 0 ≤ q) : '-' ∉ doubles.fixed precision q := by
  obtain ⟨n, ds, hds, _, hfixed⟩ := doubles.fixed_digits precision q hprecision hq
  rw [hfixed]
  intro h
  rcases List.mem_append.mp h with h | h
  · exact dash_notMem_toDigits n h
  · rcases List.mem_cons.mp h with h | h
    · cases h
    · have hdigit := hds _ h
      cases hdigit

namespace Metrics

variable (metrics : Metrics) (doubles : Doubles)

theorem dash_notMem_newline (indent : Nat) : '-' ∉ newline indent := by
  simp [newline, List.mem_replicate]

theorem dash_notMem_stageObject (field : ChunkTiming → UInt64) :
    '-' ∉ metrics.stageObject field := by
  apply notMem_layObject (dash_notMem_newline 6) (dash_notMem_newline 4) (by decide)
  simp [printed, dash_notMem_toDigits]

theorem dash_notMem_toJson (elapsedMs : UInt64) (cpu : Option CpuTimes) :
    '-' ∉ metrics.toJson doubles elapsedMs cpu := by
  have hthroughput := doubles.dash_notMem_fixed 1 (by decide)
    (metrics.throughput_nonneg doubles elapsedMs)
  have hseconds := doubles.dash_notMem_fixed 2 (by decide)
    (seconds_nonneg doubles elapsedMs)
  have hrate := doubles.dash_notMem_fixed 1 (by decide)
    (metrics.reuseRate_nonneg doubles)
  have hversion : '-' ∉ vdiWrapperVersionString.toList := by decide
  have hobject : ∀ ms : List (List Char × List Char), (∀ m ∈ ms, '-' ∉ m.1 ∧ '-' ∉ m.2) →
      '-' ∉ layObject (newline 4) (newline 2) ms := fun ms =>
    notMem_layObject (dash_notMem_newline 4) (dash_notMem_newline 2) (by decide)
  rw [toJson_eq_layObject]
  apply notMem_layObject (dash_notMem_newline 2) (dash_notMem_newline 0) (by decide)
  unfold printedMembers
  cases cpu <;> cases hlogging : metrics.loggingEnabled <;>
    simp [printed, hobject, dash_notMem_toDigits, dash_notMem_stageObject, hthroughput, hseconds,
      hrate, hversion]

/-- The first line of the document is its opening brace. -/
theorem toJson_head (elapsedMs : UInt64) (cpu : Option CpuTimes) :
    ∃ t, metrics.toJson doubles elapsedMs cpu = '{' :: '\n' :: ' ' :: t := by
  rw [toJson_eq_layObject]
  obtain ⟨t, ht⟩ := layObject_head (newline 2) (newline 0)
    (by simp [printedMembers] : metrics.printedMembers doubles elapsedMs cpu ≠ [])
  exact ⟨' ' :: t, ht⟩

end Metrics

namespace LineEnding

variable (ending : LineEnding)

theorem write_append (s t : List Char) :
    ending.write (s ++ t) = ending.write s ++ ending.write t :=
  List.flatMap_append

theorem write_newline : ending.write ['\n'] = ending.text := by
  simp [write]

theorem write_of_notMem {s : List Char} (h : '\n' ∉ s) : ending.write s = s := by
  induction s with
  | nil => rfl
  | cons c s ih =>
      rw [List.mem_cons, not_or] at h
      have hc : c ≠ '\n' := fun heq => h.1 heq.symm
      have hs := ih h.2
      unfold write at hs ⊢
      rw [List.flatMap_cons, hs, if_neg hc, List.singleton_append]

/-- A line break brings in no other character. -/
theorem notMem_write {c : Char} {s : List Char} (hc : c ∉ s) (hreturn : c ≠ '\r')
    (hnewline : c ≠ '\n') : c ∉ ending.write s := by
  intro h
  obtain ⟨d, hd, hcd⟩ := List.mem_flatMap.mp h
  split at hcd
  · cases ending <;> simp [text, hreturn, hnewline] at hcd
  · rw [List.mem_singleton.mp hcd] at hc
    exact hc hd

end LineEnding

/-- A line of `LOG_INFO` as it is written. -/
theorem write_logInfo {loggingLevel : Nat} (hlevel : 1 ≤ loggingLevel) (ending : LineEnding)
    (s : List Char) :
    ending.write (logInfo loggingLevel s) =
      "[INFO]  ".toList ++ (ending.write s ++ ending.text) := by
  unfold logInfo
  rw [if_pos hlevel, ending.write_append, ending.write_append, ending.write_newline,
    ending.write_of_notMem (by decide : '\n' ∉ "[INFO]  ".toList)]

/-- The three lines in the log. -/
theorem metricsLog_eq {loggingLevel : Nat} (hlevel : 1 ≤ loggingLevel) (ending : LineEnding)
    (before json after : List Char) :
    metricsLog loggingLevel ending before json after =
      before ++ ("[INFO]  ".toList ++ (beginMarker ++ (ending.text ++ ("[INFO]  ".toList ++
        (ending.write json ++ (ending.text ++ ("[INFO]  ".toList ++
          (endMarker ++ (ending.text ++ after))))))))) := by
  unfold metricsLog emitJson
  rw [ending.write_append, ending.write_append, write_logInfo hlevel, write_logInfo hlevel,
    write_logInfo hlevel, ending.write_of_notMem (by decide : '\n' ∉ beginMarker),
    ending.write_of_notMem (by decide : '\n' ∉ endMarker)]
  simp only [List.append_assoc]

/-! ## Where the opening marker is -/

namespace Marked

theorem length_eq {marker m : List Char} (h : Marked marker m) : m.length = marker.length := by
  have hlength := congrArg List.length h
  rwa [List.length_map, List.length_map] at hlength

theorem notMem {marker m : List Char} {c : Char} (h : Marked marker m)
    (hc : c.toLower ∉ marker.map Char.toLower) : c ∉ m := by
  intro hmem
  apply hc
  rw [← h]
  exact List.mem_map_of_mem hmem

theorem head {marker m : List Char} (h : Marked marker m) (hmarker : marker.head? = some '-') :
    ∃ m', m = '-' :: m' := by
  unfold Marked at h
  cases m with
  | nil =>
      rw [List.map_nil, eq_comm, List.map_eq_nil_iff] at h
      rw [h] at hmarker
      cases hmarker
  | cons c m =>
      have hc := congrArg List.head? h
      rw [List.head?_map, List.head?_map, hmarker] at hc
      exact ⟨m, congrArg (· :: m) (eq_of_toLower_eq (Option.some.inj hc) (by decide))⟩

end Marked

/-- A line break ends every marker and begins none. -/
theorem LineEnding.text_eq (ending : LineEnding) :
    ∃ c e, ending.text = c :: e ∧ c.toLower ∉ beginMarker.map Char.toLower ∧ '-' ∉ c :: e := by
  cases ending with
  | lf => exact ⟨'\n', [], rfl, by decide, by decide⟩
  | crlf => exact ⟨'\r', ['\n'], rfl, by decide, by decide⟩

/-- The opening marker of the emission is the only one in the log; the line ends behind it, and the
document comes after another `[INFO]  `. -/
theorem marker_place {loggingLevel : Nat} {ending : LineEnding} {before json after : List Char}
    {pre m rest : List Char} (hlevel : 1 ≤ loggingLevel) (hbefore : MarkerFree before)
    (hjson : '-' ∉ json) (hafter : MarkerFree after) (hm : Marked beginMarker m)
    (hlog : metricsLog loggingLevel ending before json after = pre ++ (m ++ rest)) :
    ∃ s, rest = ending.text ++ '[' :: ("INFO]  ".toList ++ (ending.write json ++ s)) := by
  rw [metricsLog_eq hlevel] at hlog
  obtain ⟨c, e, heol, hc, he⟩ := ending.text_eq
  have hbracket : '[' ∉ m := hm.notMem (by decide)
  have hbreak : c ∉ m := hm.notMem hc
  have hlength := hm.length_eq
  obtain ⟨m', rfl⟩ := hm.head rfl
  -- not in the text before, and behind the prefix of its own line
  rcases occurs_beside (a := before) (c := '[') hlog hbracket with ⟨_, hin, _⟩ | ⟨pre₁, h₁⟩
  · exact absurd hm (hbefore _ _ _ hin).1
  obtain ⟨pre₂, h₂⟩ := occurs_after (w := "INFO]  ".toList) h₁ (by decide)
  rw [heol, List.cons_append] at h₂
  rcases occurs_beside (a := beginMarker) h₂ hbreak with ⟨rest', hin, hrest⟩ | ⟨pre₃, h₃⟩
  · have hin := congrArg List.length hin
    rw [List.length_append, List.length_append, hlength] at hin
    obtain rfl : rest' = [] := List.eq_nil_of_length_eq_zero (by omega)
    rw [hrest, heol]
    exact ⟨_, rfl⟩
  -- not in the document, which has no dash, nor in the closing marker, which is shorter
  exfalso
  have hwritten := ending.notMem_write hjson (by decide) (by decide)
  have he' : '-' ∉ e := fun h => he (List.mem_cons_of_mem c h)
  obtain ⟨pre₄, h₄⟩ := occurs_after h₃ he'
  obtain ⟨pre₅, h₅⟩ := occurs_after (w := "[INFO]  ".toList) h₄ (by decide)
  obtain ⟨pre₆, h₆⟩ := occurs_after h₅ hwritten
  obtain ⟨pre₇, h₇⟩ := occurs_after h₆ he
  obtain ⟨pre₈, h₈⟩ := occurs_after (w := "[INFO]  ".toList) h₇ (by decide)
  rcases occurs_beside (a := endMarker) h₈ hbreak with ⟨rest', hin, _⟩ | ⟨pre₉, h₉⟩
  · have hin := congrArg List.length hin
    rw [List.length_append, List.length_append, hlength] at hin
    have hshort : endMarker.length < beginMarker.length := by decide
    omega
  · obtain ⟨pre₁₀, h₁₀⟩ := occurs_after h₉ he'
    exact (hafter _ _ _ h₁₀).1 hm

/-- White space in front of a character that is none. -/
theorem white_append_eq {w e y x : List Char} {c : Char} (hw : ∀ d ∈ w, isWhite d = true)
    (hc : isWhite c = false) (h : w ++ y = e ++ c :: x) : ∃ e', e = w ++ e' ∧ y = e' ++ c :: x := by
  rcases List.append_eq_append_iff.mp h with ⟨e', he, hy⟩ | ⟨w', hw', hx⟩
  · exact ⟨e', he, hy⟩
  · cases w' with
    | nil => exact ⟨[], by rw [hw', List.append_nil, List.append_nil], hx.symm⟩
    | cons d w' =>
        obtain ⟨rfl, _⟩ := List.cons.inj hx
        have hwhite := hw c (hw' ▸ List.mem_append_right e List.mem_cons_self)
        rw [hc] at hwhite
        cases hwhite

/-! ## Neither pattern matches -/

/-- The first line of the document, in the log. -/
theorem LineEnding.write_document (ending : LineEnding) (t : List Char) :
    ∃ s x, '\n' ∉ s ∧ ending.write ('{' :: '\n' :: ' ' :: t) = s ++ '\n' :: ' ' :: x := by
  cases ending with
  | lf => exact ⟨['{'], _, by decide, rfl⟩
  | crlf => exact ⟨['{', '\r'], _, by decide, rfl⟩

/-- The last character of a line break is its only `'\n'`. -/
theorem LineEnding.break_last {ending : LineEnding} {w e : List Char}
    (h : ending.text = w ++ '\n' :: e) : e = [] := by
  have hlength := congrArg List.length h
  rw [List.length_append, List.length_cons] at hlength
  cases ending with
  | lf =>
      change 1 = _ at hlength
      exact List.eq_nil_of_length_eq_zero (by omega)
  | crlf =>
      cases w with
      | nil =>
          have hne := (List.cons.inj h).1
          cases hne
      | cons c w =>
          change 2 = _ at hlength
          rw [List.length_cons] at hlength
          exact List.eq_nil_of_length_eq_zero (by omega)

section Log

variable {loggingLevel : Nat} {ending : LineEnding} {before after : List Char}
  {doubles : Doubles} {metrics : Metrics} {elapsedMs : UInt64} {cpu : Option CpuTimes}

theorem benchmarkPattern_find (hlevel : 1 ≤ loggingLevel) (hbefore : MarkerFree before)
    (hafter : MarkerFree after) :
    benchmarkPattern.find (metricsLog loggingLevel ending before
      (metrics.toJson doubles elapsedMs cpu) after) = none := by
  apply find_eq_none
  intro pre u rest us hlog hmatch
  obtain ⟨m, w, line, m', hu, hm, hw, hline, hm', _⟩ := benchmarkPattern_matches hmatch
  rw [hu, List.append_assoc] at hlog
  have hdash := metrics.dash_notMem_toJson doubles elapsedMs cpu
  obtain ⟨s, hrest⟩ := marker_place hlevel hbefore hdash hafter hm hlog
  rw [List.append_assoc] at hrest
  obtain ⟨e, heol, hbreak⟩ := white_append_eq (c := '[') hw (by decide) hrest
  cases e with
  | nil =>
      have hne := (List.cons.inj hbreak).1
      cases hne
  | cons d e =>
      obtain ⟨rfl, hlines⟩ := List.cons.inj hbreak
      obtain rfl : e = [] := ending.break_last heol
      obtain ⟨t, ht⟩ := metrics.toJson_head doubles elapsedMs cpu
      obtain ⟨a, x, ha, hx⟩ := ending.write_document t
      rw [ht, hx] at hlines
      have hfirst : line ++ '\n' :: (m' ++ rest) =
          ('[' :: ("INFO]  ".toList ++ a)) ++ '\n' :: ' ' :: (x ++ s) := by
        simpa using hlines
      have hprefix : '\n' ∉ '[' :: ("INFO]  ".toList ++ a) := by
        rw [List.mem_cons, not_or, List.mem_append, not_or]
        exact ⟨by decide, by decide, ha⟩
      obtain ⟨_, hnext⟩ := break_unique hfirst hline hprefix
      obtain ⟨m', rfl⟩ := hm'.head rfl
      have hdash := (List.cons.inj hnext).1
      cases hdash

theorem repeatabilityPattern_find (hlevel : 1 ≤ loggingLevel) (hbefore : MarkerFree before)
    (hafter : MarkerFree after) :
    repeatabilityPattern.find (metricsLog loggingLevel ending before
      (metrics.toJson doubles elapsedMs cpu) after) = none := by
  apply find_eq_none
  intro pre u rest us hlog hmatch
  obtain ⟨m, w, line, w', m', hu, hm, hw, _⟩ := repeatabilityPattern_matches hmatch
  rw [hu, List.append_assoc] at hlog
  have hdash := metrics.dash_notMem_toJson doubles elapsedMs cpu
  obtain ⟨s, hrest⟩ := marker_place hlevel hbefore hdash hafter hm hlog
  rw [List.append_assoc] at hrest
  obtain ⟨e, heol, hbrace⟩ := white_append_eq (c := '[') hw (by decide) hrest
  cases e with
  | nil =>
      have hne := (List.cons.inj hbrace).1
      cases hne
  | cons d e =>
      obtain ⟨rfl, _⟩ := List.cons.inj hbrace
      have hmem : '{' ∈ ending.text := by simp [heol]
      cases ending <;> simp [LineEnding.text] at hmem

/-- A capture within a line is not the document, whose first line ends behind its brace. -/
theorem not_extracts {pattern : Regex Char} {log t : List Char}
    (hpattern : ∀ u captures, pattern.Matches u captures →
      ∃ line, captures = [line] ∧ '\n' ∉ line) :
    ¬ Extracts pattern log ('{' :: '\n' :: ' ' :: t) := by
  intro ⟨r, capture, hfind, hcapture, hsame⟩
  obtain ⟨_, _, hmatch⟩ := of_find_eq_some hfind
  obtain ⟨line, hcaptures, hline⟩ := hpattern _ _ hmatch
  rw [hcaptures] at hcapture
  obtain rfl : line = capture := Option.some.inj hcapture
  have hbreak : '\n' ∈ line.filter fun c => c ≠ '\r' := by
    rw [hsame]
    simp
  exact hline (List.mem_of_mem_filter hbreak)

/-- The scripts never get the document, whatever else is in the log; and where nothing else in the
log looks like a marker, neither pattern matches. -/
theorem metricsLog_never_extracted (loggingLevel : Nat) (ending : LineEnding)
    (before after : List Char) (doubles : Doubles) (metrics : Metrics) (elapsedMs : UInt64)
    (cpu : Option CpuTimes) :
    let json := metrics.toJson doubles elapsedMs cpu
    let log := metricsLog loggingLevel ending before json after
    (¬ Extracts benchmarkPattern log json ∧ ¬ Extracts repeatabilityPattern log json) ∧
      (1 ≤ loggingLevel → MarkerFree before → MarkerFree after →
        benchmarkPattern.find log = none ∧ repeatabilityPattern.find log = none) := by
  intro json log
  obtain ⟨t, ht⟩ := metrics.toJson_head doubles elapsedMs cpu
  have hjson : json = '{' :: '\n' :: ' ' :: t := ht
  refine ⟨⟨?_, ?_⟩, ?_⟩
  · rw [hjson]
    apply not_extracts
    intro u captures hmatch
    obtain ⟨_, _, line, _, _, _, _, hline, _, hcaptures⟩ := benchmarkPattern_matches hmatch
    exact ⟨line, hcaptures, hline⟩
  · rw [hjson]
    apply not_extracts
    intro u captures hmatch
    obtain ⟨_, _, line, _, _, _, _, _, hline, hcaptures⟩ := repeatabilityPattern_matches hmatch
    refine ⟨_, hcaptures, ?_⟩
    simpa using hline
  · intro hlevel hbefore hafter
    exact ⟨benchmarkPattern_find hlevel hbefore hafter,
      repeatabilityPattern_find hlevel hbefore hafter⟩

/-- A text shorter than the markers. -/
theorem markerFree_of_length_lt {text : List Char} (h : text.length < endMarker.length) :
    MarkerFree text := by
  intro pre m rest htext
  have hlength := congrArg List.length htext
  rw [List.length_append, List.length_append] at hlength
  have hmarkers : endMarker.length < beginMarker.length := by decide
  constructor
  · intro hm
    have hm := hm.length_eq
    omega
  · intro hm
    have hm := hm.length_eq
    omega

/-- What a run that stored a chunk of three bytes has counted. -/
def threeByteMetrics : Metrics where
  loggingEnabled := true
  totalBytes := 3
  chunkCount := 1
  minChunkSize := 3
  maxChunkSize := 3
  sumChunkSizes := 3
  timings := [{
    size := 3
    getcommandUs := 10
    dispatchUs := 1
    sinkUs := 4
    completeUs := 2
    totalUs := 17
    timestampUs := 20 }]

/-- The report of that run, after 1234 milliseconds. -/
def threeByteReport : List Char := threeByteMetrics.toJson .exact 1234 (some ⟨15625, 31250⟩)

/-- That run, in a log that goes on. -/
theorem metricsLog_never_extracted_threeBytes :
    MarkerFree "\r\n".toList ∧ MarkerFree "[INFO]  done\r\n".toList ∧
      benchmarkPattern.find
        (metricsLog 1 .crlf "\r\n".toList threeByteReport "[INFO]  done\r\n".toList) = none ∧
      repeatabilityPattern.find
        (metricsLog 1 .crlf "\r\n".toList threeByteReport "[INFO]  done\r\n".toList) = none := by
  have hbefore : MarkerFree "\r\n".toList := markerFree_of_length_lt (by decide)
  have hafter : MarkerFree "[INFO]  done\r\n".toList := markerFree_of_length_lt (by decide)
  obtain ⟨_, hnone⟩ := metricsLog_never_extracted 1 .crlf "\r\n".toList "[INFO]  done\r\n".toList
    .exact threeByteMetrics 1234 (some ⟨15625, 31250⟩)
  exact ⟨hbefore, hafter, hnone (by decide) hbefore hafter⟩

/-- The log of that run alone. -/
theorem metricsLog_not_found :
    MarkerFree [] ∧ benchmarkPattern.find (metricsLog 1 .crlf [] threeByteReport []) = none ∧
      repeatabilityPattern.find (metricsLog 1 .crlf [] threeByteReport []) = none ∧
      ¬ Extracts benchmarkPattern (metricsLog 1 .crlf [] threeByteReport []) threeByteReport := by
  have hfree : MarkerFree [] := markerFree_of_length_lt (by decide)
  have hnone : benchmarkPattern.find (metricsLog 1 .crlf [] threeByteReport []) = none :=
    benchmarkPattern_find (by decide) hfree hfree
  refine ⟨hfree, hnone, repeatabilityPattern_find (by decide) hfree hfree, ?_⟩
  intro ⟨r, _, hfind, _⟩
  rw [hnone] at hfind
  cases hfind

end Log

end Vdi

import VdiWrapper.Completion
import VdiWrapper.Shutdown

/-!
# Which devices a graceful end drains

The loop polls the devices in turn and ends the session for all of them when one meets the end of
its stream.  That device has been drained; the others have been served exactly as often as the
round robin came to them, so whether they are drained depends on the lengths of their scripts and
on their place in the order.
-/

namespace Vdi

open Runs

variable {ω σ : Type}

/-- The answer of a `GetCommand` on `device`. -/
def deviceAnswer (device : Device) : Event → Option (HResult × Option VdcCommand)
  | .getCommand d _ hr cmd => if d = device then some (hr, cmd) else none
  | _ => none

/-- What the `GetCommand` calls on `device` answered, in order. -/
def answersOf (device : Device) (es : List Event) : List (HResult × Option VdcCommand) :=
  es.filterMap (deviceAnswer device)

@[simp] theorem answersOf_append (device : Device) (es es' : List Event) :
    answersOf device (es ++ es') = answersOf device es ++ answersOf device es' :=
  List.filterMap_append

/-- The server answers each device from its script, which it closes with `VD_E_CLOSE`. -/
structure FollowsScripts (scripts : Device → List (HResult × Option VdcCommand))
    (es : List Event) : Prop where
  distinct : (openedDevices es).Nodup
  running : ∀ device ∈ openedDevices es, ∀ answer ∈ scripts device, ¬ EndsStream answer.1
  follows : ∀ device ∈ openedDevices es,
    answersOf device es <+: scripts device ++ [(vdEClose, none)]

instance {scripts : Device → List (HResult × Option VdcCommand)} {es : List Event} :
    Decidable (FollowsScripts scripts es) :=
  decidable_of_iff
    ((openedDevices es).Nodup ∧
      (∀ device ∈ openedDevices es, ∀ answer ∈ scripts device, ¬ EndsStream answer.1) ∧
      ∀ device ∈ openedDevices es, answersOf device es <+: scripts device ++ [(vdEClose, none)])
    ⟨fun h => ⟨h.1, h.2.1, h.2.2⟩, fun h => ⟨h.distinct, h.running, h.follows⟩⟩

/-- Every device was drained: its whole script was fetched. -/
def DrainsAll (scripts : Device → List (HResult × Option VdcCommand)) (es : List Event) : Prop :=
  ∀ device ∈ openedDevices es, scripts device <+: answersOf device es

theorem answersOf_eq_nil {device : Device} {es : List Event} (h : ∀ e ∈ es, e.NoPoll) :
    answersOf device es = [] := by
  apply List.filterMap_eq_nil_iff.mpr
  intro e he
  have hno := h e he
  cases e <;> first | exact hno.elim | rfl

theorem mem_pollAnswers_of_mem_answersOf {device : Device} {es : List Event}
    {a : HResult × Option VdcCommand} (h : a ∈ answersOf device es) : a ∈ pollAnswers es := by
  obtain ⟨e, he, ha⟩ := List.mem_filterMap.mp h
  refine List.mem_filterMap.mpr ⟨e, he, ?_⟩
  cases e with
  | getCommand d timeout hr cmd =>
      simp only [deviceAnswer, Option.ite_none_right_eq_some] at ha
      exact ha.2
  | _ => cases ha

/-! ## The share of a device -/

/-- A turn polls its own device once, and no other. -/
theorem Iteration.answersOf_eq {start : UInt64} {device : Device} {c c' : Client}
    {es : List Event} {flow : Flow} (h : Iteration start device c es flow c') (d : Device) :
    answersOf d es = if device = d then pollAnswers es else [] := by
  have hloop := h.inLoop (List.mem_singleton.mpr rfl)
  split
  · next hd =>
    apply List.filterMap_congr
    intro e he
    have hdevice := hloop e he
    cases e with
    | getCommand d' timeout hr cmd =>
        exact if_pos ((List.mem_singleton.mp hdevice).trans hd)
    | _ => rfl
  · next hd =>
    apply List.filterMap_eq_nil_iff.mpr
    intro e he
    have hdevice := hloop e he
    cases e with
    | getCommand d' timeout hr cmd =>
        exact if_neg fun hd' => hd ((List.mem_singleton.mp hdevice).symm.trans hd')
    | _ => rfl

/-- Each of `k` turns polls the device whose turn it is. -/
theorem LoopRun.length_answersOf {start : UInt64} {devices : List Device} {c c' : Client} {k : Nat}
    {es : List Event} {flow : Flow} (h : LoopRun start devices c k es flow c')
    (hnodup : devices.Nodup) {j : Nat} {d : Device} (hj : devices[j]? = some d) :
    (answersOf d es).length = turns devices.length j k := by
  induction h with
  | start => rfl
  | @turn k es es' c₁ c' flow device before served turn ih =>
      obtain ⟨hr, cmd, hanswers, -⟩ := turn.answered
      have hsame : device = d ↔ k % devices.length = j := by
        constructor
        · rintro rfl
          obtain ⟨hlt, -⟩ := List.getElem?_eq_some_iff.mp served
          exact (List.getElem?_inj hlt hnodup).mp (served.trans hj.symm)
        · rintro rfl
          exact Option.some_inj.mp (served.symm.trans hj)
      rw [answersOf_append, List.length_append, ih, turn.answersOf_eq, turns_succ, hanswers]
      simp only [hsame]
      split <;> rfl

/-! ## A call that ended in `CLOSED` -/

/-- If the event is a `CompleteCommand`, it succeeded. -/
@[simp] def Event.CompletesWell : Event → Prop
  | .completeCommand _ _ _ _ _ hr => failed hr = false
  | _ => True

theorem Event.AroundLoop.completesWell {e : Event} (h : e.AroundLoop) : e.CompletesWell := by
  cases e <;> first | exact h.elim | trivial

theorem Iteration.completesWell {start : UInt64} {device : Device} {c c' : Client}
    {es : List Event} (h : Iteration start device c es .next c') : ∀ e ∈ es, e.CompletesWell := by
  cases h with
  | timedOut t₀ t₁ cmd check => cases check <;> simp [fetched]
  | null => simp [fetched]
  | served t₀ t₁ t₂ t₃ hr cmd hhr hcode stored completed =>
      cases completed with
      | done t₄ t₅ hr' hhr' => cases stored <;> simp [delivered, fetched, hhr']

theorem LoopRun.completesWell {start : UInt64} {devices : List Device} {c c' : Client} {k : Nat}
    {es : List Event} (h : LoopRun start devices c k es .next c') :
    ∀ e ∈ es, e.CompletesWell := by
  generalize hflow : Flow.next = flow at h
  induction h with
  | start => simp
  | turn before served turn ih =>
      subst hflow
      exact List.forall_mem_append.mpr ⟨ih rfl, turn.completesWell⟩

/-- How often device `j` was polled when device `i` met the end of its stream in its poll number
`n + 1`. -/
def share (n i j : Nat) : Nat := if j < i then n + 1 else n

/-- How a graceful end leaves the devices: the device at index `i` was drained and met its
`VD_E_CLOSE`, every other one was served its share of the turns, and everything fetched was
completed. -/
structure EndedBy (scripts : Device → List (HResult × Option VdcCommand)) (es : List Event)
    (i : Nat) (closer : Device) : Prop where
  index : (openedDevices es)[i]? = some closer
  drained : answersOf closer es = scripts closer ++ [(vdEClose, none)]
  others : ∀ j device, (openedDevices es)[j]? = some device → j ≠ i →
    answersOf device es = (scripts device).take (share (scripts closer).length i j) ∧
      share (scripts closer).length i j ≤ (scripts device).length
  completed : deliveries es = completions es
  succeeded : ∀ e ∈ es, e.CompletesWell

/-- When it is the turn of `i`, the elements before it in the round have had one turn more. -/
theorem turns_eq_share {n i j k : Nat} (hi : k % n = i) (hn : i < n) (hj : j < n) :
    turns n j k = share (turns n i k) i j := by
  rw [turns_eq hj, turns_eq hn, hi, if_neg (Nat.lt_irrefl i), share]
  split <;> rfl

/-- A trace that is that of `loop` and one more poll, of `closer`, as far as devices are
concerned. -/
structure PolledUntil (es loop : List Event) (devices : List Device) (closer : Device)
    (answer : HResult × Option VdcCommand) : Prop where
  opened : openedDevices es = devices
  answers : ∀ device, answersOf device es =
    answersOf device loop ++ if closer = device then [answer] else []
  completed : deliveries es = completions es
  succeeded : ∀ e ∈ es, e.CompletesWell

theorem answersOf_fetched {device closer : Device} {timeout : UInt32} {hr : HResult}
    {cmd : Option VdcCommand} {t₀ t₁ : UInt64} :
    answersOf device (fetched closer timeout hr cmd t₀ t₁) =
      if closer = device then [(hr, cmd)] else [] := by
  by_cases hd : closer = device <;>
    simp [answersOf, fetched, deviceAnswer, hd, List.filterMap_cons]

theorem openedDevice_of_afterLoop {e : Event} (h : e.AfterLoop) : openedDevice e = none := by
  cases e <;> first | exact h.elim | rfl

theorem polledUntil_closed {before loop after : List Event} {start : UInt64}
    {devices : List Device} {k : Nat} {c c₀ : Client} {closer : Device} {hr : HResult}
    {cmd : Option VdcCommand} {t₀ t₁ : UInt64} (hbefore : ∀ e ∈ before, e.AroundLoop)
    (hopened : openedDevices before = devices) (run : LoopRun start devices c k loop .next c₀)
    (hends : EndsStream hr) (hafter : ∀ e ∈ after, e.AfterLoop) :
    PolledUntil (before ++ loop ++ fetched closer c₀.commandTimeoutMs hr cmd t₀ t₁ ++
      .transition c₀.state .flushing :: .sinkFlush :: after) loop devices closer (hr, cmd) := by
  have htail : ∀ e ∈ .transition c₀.state .flushing :: .sinkFlush :: after, e.AfterLoop := by
    simpa using hafter
  refine ⟨?_, fun d => ?_, ?_, ?_⟩
  · have hnone : openedDevices (.transition c₀.state .flushing :: .sinkFlush :: after) = [] :=
      List.filterMap_eq_nil_iff.mpr fun e he => openedDevice_of_afterLoop (htail e he)
    have hpoll : openedDevices (fetched closer c₀.commandTimeoutMs hr cmd t₀ t₁) = [] := rfl
    rw [openedDevices_append, openedDevices_append, openedDevices_append, hopened,
      run.openedDevices_eq, hpoll, hnone]
    simp
  · rw [answersOf_append, answersOf_append, answersOf_append, answersOf_fetched,
      answersOf_eq_nil fun e he => (hbefore e he).noPoll,
      answersOf_eq_nil fun e he => (htail e he).aroundLoop.noPoll, List.nil_append,
      List.append_nil]
  · have hfront : serverLedger.Settled before :=
      Ledger.Silent.settled fun e he => (hbefore e he).offServer.silent
    have hloop : serverLedger.Settled loop := run.conducted.2.resolve_right fun h => by cases h.1
    have hpoll : serverLedger.Settled (fetched closer c₀.commandTimeoutMs hr cmd t₀ t₁) :=
      fetched_settled (.inl hends.failed)
    have hback : serverLedger.Settled (.transition c₀.state .flushing :: .sinkFlush :: after) :=
      Ledger.Silent.settled fun e he => (htail e he).aroundLoop.offServer.silent
    exact (((hfront.append_iff.mpr hloop).append_iff.mpr hpoll).append_iff.mpr hback)
  · simp only [List.forall_mem_append]
    refine ⟨⟨⟨fun e he => (hbefore e he).completesWell, run.completesWell⟩, ?_⟩,
      fun e he => (htail e he).aroundLoop.completesWell⟩
    simp [fetched]

/-- The last poll ended the stream of `closer`, so its script is used up; the others are not at the
end of theirs, or the loop would have stopped before. -/
theorem PolledUntil.endedBy {es loop : List Event} {start : UInt64} {devices : List Device}
    {k : Nat} {c c₀ : Client} {closer : Device} {hr : HResult} {cmd : Option VdcCommand}
    {scripts : Device → List (HResult × Option VdcCommand)}
    (h : PolledUntil es loop devices closer (hr, cmd))
    (run : LoopRun start devices c k loop .next c₀)
    (served : devices[k % devices.length]? = some closer) (hends : EndsStream hr)
    (hscripts : FollowsScripts scripts es) :
    EndedBy scripts es (k % devices.length) closer := by
  obtain ⟨hopened, hanswers, hcompleted, hsucceeded⟩ := h
  obtain ⟨hdistinct, hrunning, hfollows⟩ := hscripts
  simp only [hopened, hanswers] at hdistinct hrunning hfollows
  obtain ⟨hlt, -⟩ := List.getElem?_eq_some_iff.mp served
  have hdrained : answersOf closer loop ++ [(hr, cmd)] =
      scripts closer ++ [(vdEClose, none)] := by
    have hmem : closer ∈ devices := List.mem_of_getElem? served
    have hprefix := hfollows closer hmem
    rw [if_pos rfl] at hprefix
    rcases List.prefix_concat_iff.mp hprefix with heq | hprefix
    · exact heq
    · have hin : (hr, cmd) ∈ scripts closer := hprefix.subset (by simp)
      exact absurd hends (hrunning closer hmem _ hin)
  have hpolls : turns devices.length (k % devices.length) k = (scripts closer).length := by
    have hlength := congrArg List.length hdrained
    rw [List.length_append, List.length_append, run.length_answersOf hdistinct served] at hlength
    simpa using hlength
  refine ⟨by rw [hopened]; exact served, by rw [hanswers, if_pos rfl]; exact hdrained, ?_,
    hcompleted, hsucceeded⟩
  intro j d hj hne
  rw [hopened] at hj
  obtain ⟨hjlt, -⟩ := List.getElem?_eq_some_iff.mp hj
  have hother : closer ≠ d := by
    rintro rfl
    exact hne ((List.getElem?_inj hjlt hdistinct).mp (hj.trans served.symm))
  have hprefix := hfollows d (List.mem_of_getElem? hj)
  rw [if_neg hother, List.append_nil] at hprefix
  have hscript : answersOf d loop <+: scripts d := by
    rcases List.prefix_concat_iff.mp hprefix with heq | hprefix
    · have hin : (vdEClose, none) ∈ answersOf d loop := by simp [heq]
      exact absurd (.inl (.inl rfl)) (run.no_signal _ (mem_pollAnswers_of_mem_answersOf hin))
    · exact hprefix
  have hlength : (answersOf d loop).length =
      share (scripts closer).length (k % devices.length) j := by
    rw [run.length_answersOf hdistinct hj, turns_eq_share rfl hlt hjlt, hpolls]
  rw [hanswers, if_neg hother, List.append_nil, ← hlength]
  exact ⟨List.prefix_iff_eq_take.mp hscript, hscript.length_le⟩

theorem EndedBy.drainsAll_iff {scripts : Device → List (HResult × Option VdcCommand)}
    {es : List Event} {i : Nat} {closer : Device} (h : EndedBy scripts es i closer) :
    DrainsAll scripts es ↔ ∀ j device, (openedDevices es)[j]? = some device → j ≠ i →
      (scripts device).length = share (scripts closer).length i j := by
  constructor
  · intro hdrains j device hj hne
    obtain ⟨htake, hle⟩ := h.others j device hj hne
    have hlength := (hdrains device (List.mem_of_getElem? hj)).length_le
    rw [htake, List.length_take] at hlength
    omega
  · intro hlengths device hmem
    obtain ⟨j, hjlt, hj⟩ := List.getElem_of_mem hmem
    have hj : (openedDevices es)[j]? = some device := by rw [List.getElem?_eq_getElem hjlt, hj]
    by_cases hne : j = i
    · have hsame : device = closer := by
        rw [hne, h.index] at hj
        exact (Option.some_inj.mp hj).symm
      rw [hsame, h.drained]
      exact List.prefix_append _ _
    · rw [(h.others j device hj hne).1, ← hlengths j device hj hne, List.take_length]

theorem ClosedRun.endedBy {c : Client} {es : List Event} (h : ClosedRun c es)
    {scripts : Device → List (HResult × Option VdcCommand)} (hscripts : FollowsScripts scripts es) :
    ∃ i closer, EndedBy scripts es i closer := by
  cases h with
  | mk hbefore hopened run served hends hafter =>
      exact ⟨_, _, (polledUntil_closed hbefore hopened run hends hafter).endedBy run served hends
        hscripts⟩

/-- **What a graceful end drains.**  When a call of `process_commands` returns in `CLOSED` on
devices that are answered from finite scripts, one device was drained, every other one was served
its share of the turns, and everything fetched was completed; all devices were drained exactly when
the scripts have the lengths of these shares. -/
theorem processCommands_endedBy (env : Env ω σ) (fuel : Nat) (client : Client)
    (outside : Outside ω σ) (scripts : Device → List (HResult × Option VdcCommand))
    (hstate : client.state = .streaming)
    (hclosed : (runCommands env fuel client outside).2.client.state = .closed)
    (hscripts : FollowsScripts scripts (commandTrace env fuel client outside)) :
    ∃ i closer, EndedBy scripts (commandTrace env fuel client outside) i closer ∧
      (DrainsAll scripts (commandTrace env fuel client outside) ↔
        ∀ j device, (openedDevices (commandTrace env fuel client outside))[j]? = some device →
          j ≠ i → (scripts device).length = share (scripts closer).length i j) := by
  have run := runCommands_commandRun env fuel client outside
  obtain ⟨i, closer, hended⟩ := (run.closedRun hstate hclosed).endedBy hscripts
  exact ⟨i, closer, hended, hended.drainsAll_iff⟩

/-- A client connected to two devices, with its devices configured. -/
def twoDeviceClient : Client :=
  (session (scriptedEnv nullSink) false {} (scriptedStart [] ())
    [.connect "backup" 2, .openDevices]).client

/-- Two devices with one command each are both drained. -/
theorem endedBy_evenDevices :
    let scripts := [[deliver (oneByte 7)], [deliver (oneByte 8)]]
    let trace := commandTrace (scriptedEnv nullSink) 3 twoDeviceClient (scriptedStart scripts ())
    ∃ i closer, EndedBy (fun device => scripts.getD device []) trace i closer ∧
      (DrainsAll (fun device => scripts.getD device []) trace ↔
        ∀ j device, (openedDevices trace)[j]? = some device → j ≠ i →
          (scripts.getD device []).length = share (scripts.getD closer []).length i j) :=
  processCommands_endedBy (scriptedEnv nullSink) 3 twoDeviceClient
    (scriptedStart [[deliver (oneByte 7)], [deliver (oneByte 8)]] ())
    (fun device => [[deliver (oneByte 7)], [deliver (oneByte 8)]].getD device [])
    (by decide +kernel) (by decide +kernel) (by decide +kernel)

/-- The first device has nothing to deliver and meets the end of its stream in the first poll: the
session is closed, and the command waiting on the second device is never fetched. -/
theorem not_drainsAll_shortDevice :
    let scripts := [[], [deliver (oneByte 7)]]
    let trace := commandTrace (scriptedEnv nullSink) 2 twoDeviceClient (scriptedStart scripts ())
    let run := runCommands (scriptedEnv nullSink) 2 twoDeviceClient (scriptedStart scripts ())
    run.1 = true ∧ run.2.client.state = .closed ∧
      FollowsScripts (fun device => scripts.getD device []) trace ∧
      openedDevices trace = [0, 1] ∧ answersOf 1 trace = [] ∧
      ¬ DrainsAll (fun device => scripts.getD device []) trace := by
  intro scripts trace run
  have hopened : openedDevices trace = [0, 1] := by decide +kernel
  have hanswers : answersOf 1 trace = [] := by decide +kernel
  refine ⟨by decide +kernel, by decide +kernel, by decide +kernel, hopened, hanswers,
    fun hdrains => ?_⟩
  have hprefix := hdrains 1 (by simp [hopened])
  rw [hanswers] at hprefix
  simp [scripts] at hprefix

end Vdi

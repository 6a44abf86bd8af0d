import VdiWrapper.ProgramServing

/-!
# A whole backup

What the program is for.  SQL Server serves a script of commands to whoever asks for them, the disk
keeps what it is given, and the fault injector is not armed: then `main` returns 0, and every chunk
of the script has been acknowledged and is in the file, in order.  `LoopRun.plays_stop` follows the
script through the command loop, and `runMain_backup` puts the set-up and the end around it.
-/

namespace Vdi

open Runs

variable {ω : Type} {host : Host ω} {o o' : Outside ω ChosenSink}

/-! ## The command loop -/

/-- An answer the loop goes on after: a timeout, no command, or a command that can be served. -/
inductive Answer.Ordinary : Answer → Prop
  | timedOut (cmd : Option VdcCommand) : Ordinary (vdETimeout, cmd)
  | null (hr : HResult) (hhr : failed hr = false) : Ordinary (hr, none)
  | command (hr : HResult) (cmd : VdcCommand) (hhr : failed hr = false)
      (hcode : cmd.commandCode ≠ vdcClose) (hsane : cmd.commandCode = vdcWrite → cmd.Sane) :
      Ordinary (hr, some cmd)

/-- The chunk an answer delivers. -/
def Answer.chunk : Answer → Option VdcCommand
  | (_, none) => none
  | (hr, some cmd) => if failed hr = false ∧ cmd.commandCode = vdcWrite then some cmd else none

/-- The chunks of a script, in order. -/
def chunks (answers : List Answer) : List VdcCommand := answers.filterMap Answer.chunk

theorem writesDelivered_eq (es : List Event) : writesDelivered es = chunks (pollAnswers es) := by
  unfold writesDelivered chunks pollAnswers
  rw [List.filterMap_filterMap]
  apply List.filterMap_congr
  intro e _
  cases e with
  | getCommand device timeout hr cmd => cases cmd <;> rfl
  | _ => rfl

/-- The chunks `cmds` were stored and acknowledged, in this order. -/
structure StoredAcked (es : List Event) (cmds : List VdcCommand) : Prop where
  accepted : accepted es = cmds
  acknowledged : acknowledged es = cmds

theorem StoredAcked.append {es es' : List Event} {cmds cmds' : List VdcCommand}
    (h : StoredAcked es cmds) (h' : StoredAcked es' cmds') :
    StoredAcked (es ++ es') (cmds ++ cmds') := by
  have haccepted : Vdi.accepted (es ++ es') = Vdi.accepted es ++ Vdi.accepted es' :=
    List.filterMap_append
  have hacknowledged :
      Vdi.acknowledged (es ++ es') = Vdi.acknowledged es ++ Vdi.acknowledged es' :=
    List.filterMap_append
  exact ⟨by rw [haccepted, h.accepted, h'.accepted],
    by rw [hacknowledged, h.acknowledged, h'.acknowledged]⟩

theorem storedAcked_of_offChunk {es : List Event} (h : ∀ e ∈ es, e.OffChunk) :
    StoredAcked es [] := by
  have hquiet : ∀ e ∈ es, acceptance e = none ∧ acknowledgement e = none := by
    intro e he
    have hoff := h e he
    cases e with
    | getCommand | sinkWrite => exact hoff.elim
    | completeCommand => exact ⟨rfl, if_neg fun hpays => hoff hpays.1⟩
    | _ => exact ⟨rfl, rfl⟩
  exact ⟨List.filterMap_eq_nil_iff.mpr fun e he => (hquiet e he).1,
    List.filterMap_eq_nil_iff.mpr fun e he => (hquiet e he).2⟩

section Loop

variable {start : UInt64} {device : Device} {devices : List Device} {c c' : Client} {k : Nat}
  {es : List Event} {flow : Flow} {answers : List Answer} {last : Answer}

/-- An injector that is not armed stays so. -/
theorem Iteration.idle (h : Iteration start device c es flow c') (hidle : c.faultInjector.Idle) :
    c'.faultInjector.Idle := by
  have hrecord : ∀ cmd (c : Client), (recordWrite cmd c).faultInjector = c.faultInjector := by
    intro cmd c
    unfold recordWrite simulateBufferPool
    split <;> rfl
  cases h with
  | closed | failed | null | closeCommand => exact hidle
  | timedOut t₀ t₁ cmd check => cases check <;> exact hidle
  | refused t₀ t₁ t₂ t₃ hr cmd hhr refused =>
      cases refused <;>
        · change (recordWrite cmd _).faultInjector.Idle
          rw [hrecord]
          exact hidle
  | @served es₁ es₂ c₁ c₂ sinkUs flow t₀ t₁ t₂ t₃ hr cmd hhr hcode stored completed =>
      have hidle₁ : c₁.faultInjector.Idle := by
        cases stored with
        | other => exact hidle
        | written =>
            change (recordWrite cmd _).faultInjector.Idle
            rw [hrecord]
            exact hidle
      have hsame : c₁.faultInjector.onChunkCompleted.2 = c₁.faultInjector :=
        congrArg Prod.snd hidle₁
      cases completed with
      | failed => exact hidle₁
      | faulted | done =>
          change c₁.faultInjector.onChunkCompleted.2.Idle
          rw [hsame]
          exact hidle₁

theorem LoopRun.idle (h : LoopRun start devices c k es flow c')
    (hidle : c.faultInjector.Idle) : c'.faultInjector.Idle := by
  induction h with
  | start => exact hidle
  | turn before served turn ih => exact turn.idle ih

/-- After an ordinary answer, nothing but a failing call or the fault injector ends the loop. -/
theorem Iteration.ordinary (h : Iteration start device c es flow c')
    (hidle : c.faultInjector.Idle) (hsucceeds : ∀ e ∈ es, e.Succeeds) {answer : Answer}
    (hanswer : pollAnswers es = [answer]) (hordinary : answer.Ordinary) : flow = .next := by
  cases h with
  | timedOut | null => rfl
  | closed t₀ t₁ hr cmd hhr =>
      rw [fetched_pollAnswers (by simp), List.singleton_inj] at hanswer
      rw [← hanswer] at hordinary
      have hends : EndsStream hr := hhr
      cases hordinary with
      | timedOut =>
          have hcodes : ¬ EndsStream vdETimeout := by decide
          exact absurd hends hcodes
      | null _ hok | command _ _ hok =>
          rw [hends.failed] at hok
          cases hok
  | failed t₀ t₁ hr cmd hhr hclose heof htimeout =>
      rw [fetched_pollAnswers (by simp [failure]), List.singleton_inj] at hanswer
      rw [← hanswer] at hordinary
      cases hordinary with
      | timedOut => exact absurd rfl htimeout
      | null _ hok | command _ _ hok =>
          rw [hhr] at hok
          cases hok
  | closeCommand t₀ t₁ t₂ t₃ hr cmd hhr hcode =>
      rw [delivered, fetched_pollAnswers (by simp), List.singleton_inj] at hanswer
      rw [← hanswer] at hordinary
      cases hordinary with
      | timedOut => cases hhr
      | command _ _ _ hother => exact absurd hcode hother
  | @refused es₁ c₁ t₀ t₁ t₂ t₃ hr cmd hhr refused =>
      have hquiet : ∀ e ∈ [Event.nowUs t₂, .nowUs t₃] ++ es₁, e.NoPoll :=
        List.forall_mem_append.mpr ⟨by simp, refused.noPoll⟩
      rw [delivered, List.append_assoc, fetched_pollAnswers hquiet, List.singleton_inj] at hanswer
      rw [← hanswer] at hordinary
      cases refused with
      | invalid hwrite insane =>
          cases hordinary with
          | timedOut => cases hhr
          | command _ _ _ _ hsane => exact absurd (hsane hwrite) insane
      | sinkClosed =>
          have hopen := hsucceeds (.sinkIsOpen false) (by simp)
          cases hopen
      | rejected =>
          have hwrite := hsucceeds (.sinkWrite cmd false) (by simp)
          cases hwrite
  | @served es₁ es₂ c₁ c₂ sinkUs flow t₀ t₁ t₂ t₃ hr cmd hhr hcode stored completed =>
      have hsame : c₁.faultInjector = c.faultInjector := by
        cases stored with
        | other => rfl
        | written =>
            unfold recordWrite simulateBufferPool
            split <;> rfl
      cases completed with
      | failed t₄ t₅ hr' hhr' =>
          have hok := hsucceeds
            (.completeCommand device cmd errorSuccess cmd.size cmd.position hr') (by simp)
          rw [Event.Succeeds, hhr'] at hok
          cases hok
      | faulted t₄ t₅ hr' hhr' hfired =>
          have hquiet : c.faultInjector.onChunkCompleted.1 = false := congrArg Prod.fst hidle
          rw [hsame, hquiet] at hfired
          cases hfired
      | done => rfl

theorem CloseSignal.chunk {answer : Answer} (h : CloseSignal answer) : answer.chunk = none := by
  obtain ⟨hr, cmd⟩ := answer
  cases cmd with
  | none => rfl
  | some cmd =>
      apply if_neg
      intro hwrite
      obtain ⟨hok, hcode⟩ := hwrite
      obtain hends | ⟨-, other, hother, hclose⟩ := h
      · have hfailed := hends.failed
        rw [hok] at hfailed
        cases hfailed
      · have hsame : cmd.commandCode = vdcClose := by rwa [Option.some.inj hother]
        rw [hcode] at hsame
        exact absurd hsame (by decide)

/-- The turn a close signal ends stores nothing and acknowledges nothing. -/
theorem Iteration.signalled_storedAcked (h : Iteration start device c es flow c')
    {answer : Answer} (hanswer : pollAnswers es = [answer]) (hsignal : CloseSignal answer) :
    StoredAcked es [] := by
  have hwrites : writesDelivered es = [] := by
    rw [writesDelivered_eq, hanswer]
    simp [chunks, hsignal.chunk]
  have hstocked := h.stocked.1
  have hstores : writesDelivered es = accepted es ∨ ∃ x, writesDelivered es = accepted es ++ [x] :=
    hstocked.stores.lagging es (List.prefix_refl es)
  have hacks : accepted es = acknowledged es ∨ ∃ x, accepted es = acknowledged es ++ [x] :=
    hstocked.acks.lagging es (List.prefix_refl es)
  rw [hwrites] at hstores
  have haccepted : accepted es = [] := by
    obtain heq | ⟨x, heq⟩ := hstores
    · exact heq.symm
    · simp at heq
  rw [haccepted] at hacks
  refine ⟨haccepted, ?_⟩
  obtain heq | ⟨x, heq⟩ := hacks
  · exact heq.symm
  · simp at heq

/-- What the polls of a loop say about a script that ends with a close signal. -/
def Plays (script : List Answer) (es : List Event) : Prop :=
  pollAnswers es <+: script ∨ script <+: pollAnswers es

theorem Plays.of_append {script : List Answer} {es' : List Event}
    (h : Plays script (es ++ es')) : Plays script es := by
  unfold Plays at h ⊢
  rw [pollAnswers_append] at h
  obtain hplayed | hover := h
  · exact .inl ((List.prefix_append _ _).trans hplayed)
  · exact (List.prefix_or_prefix_of_prefix hover (List.prefix_append _ _)).symm

/-- A loop that goes on has not come to the close signal. -/
theorem LoopRun.plays_next (h : LoopRun start devices c k es .next c')
    (hplays : Plays (answers ++ [last]) es) (hlast : CloseSignal last) :
    pollAnswers es <+: answers := by
  have hnot : last ∉ pollAnswers es := fun hmem => h.no_signal last hmem hlast
  obtain hplayed | hover := hplays
  · obtain heq | hpre := List.prefix_concat_iff.mp hplayed
    · exact absurd (by simp [heq]) hnot
    · exact hpre
  · exact absurd (hover.subset (by simp)) hnot

/-- **The script is played.**  A loop in which no call fails stops exactly at the close signal. -/
theorem LoopRun.plays_stop (h : LoopRun start devices c k es .stop c')
    (hidle : c.faultInjector.Idle) (hsucceeds : ∀ e ∈ es, e.Succeeds)
    (hplays : Plays (answers ++ [last]) es)
    (hordinary : ∀ answer ∈ answers, answer.Ordinary) (hlast : CloseSignal last) :
    StoredAcked es (chunks answers) := by
  obtain ⟨k₀, es₀, c₀, device, es₁, -, rfl, before, served, turn⟩ := h.last
  obtain ⟨hr, cmd, hanswer, -⟩ := turn.answered
  have hbefore : pollAnswers es₀ <+: answers := before.plays_next hplays.of_append hlast
  have hidle₀ : c₀.faultInjector.Idle := before.idle hidle
  have hnot : (hr, cmd) ∉ answers := by
    intro hmem
    have hnext := turn.ordinary hidle₀ (fun e he => hsucceeds e (List.mem_append_right _ he))
      hanswer (hordinary _ hmem)
    cases hnext
  have hall : pollAnswers es₀ ++ [(hr, cmd)] = answers ++ [last] := by
    unfold Plays at hplays
    rw [pollAnswers_append, hanswer] at hplays
    obtain hplayed | hover := hplays
    · obtain heq | hpre := List.prefix_concat_iff.mp hplayed
      · exact heq
      · exact absurd (hpre.subset (by simp)) hnot
    · have hlength := hbefore.length_le
      exact (hover.eq_of_length_le (by simpa using hlength)).symm
  obtain ⟨hplayed, hsignal⟩ := List.append_inj' hall rfl
  rw [List.singleton_inj] at hsignal
  rw [hsignal] at hanswer
  obtain ⟨hacks, hstores⟩ := before.stocked.2 rfl
  have hwrites : writesDelivered es₀ = accepted es₀ := hstores
  have hpaid : accepted es₀ = acknowledged es₀ := hacks
  rw [writesDelivered_eq, hplayed] at hwrites
  have hstored : StoredAcked es₀ (chunks answers) := ⟨hwrites.symm, hpaid.symm.trans hwrites.symm⟩
  have hall := hstored.append (turn.signalled_storedAcked hanswer hlast)
  rwa [List.append_nil] at hall

end Loop

/-! ## The call and the program around it -/

section Program

variable {left : ω → List Answer} {script answers : List Answer} {last : Answer}
  {c c' : Client} {es : List Event} {returned autoMode : Bool} {request : List Action}

theorem path_events (h : Path host.Answers o (es.map .client) o') :
    Path host.env.Answers o es o' := by
  induction es generalizing o with
  | nil =>
      cases h
      exact .nil _
  | cons e es ih =>
      cases h with
      | cons head tail => exact .cons head (ih tail)

theorem opening_duringService {ds : DeviceSet} {name : String} {opened : List (HResult × Device)} :
    ∀ e ∈ opening ds name opened, e.DuringService := by
  intro e he
  obtain ⟨p, -, rfl⟩ := List.mem_map.mp he
  trivial

theorem Event.InLoop.duringService {devices : List Device} {e : Event} (h : e.InLoop devices) :
    e.DuringService := by
  cases e <;> first | exact h.elim | trivial

/-- The devices are opened and the loop takes its turns while SQL Server serves. -/
theorem served_plays (hserves : host.Serves left script) {ds : DeviceSet} {name : String}
    {opened : List (HResult × Device)} {start : UInt64} {k : Nat} {flow : Flow}
    (run : LoopRun start (opened.map Prod.snd) c k es flow c')
    (h : Path host.env.Answers o (opening ds name opened ++ .nowUs start :: es) o')
    (hleft : left o.world = script) : Plays script es := by
  have hservice : ∀ e ∈ opening ds name opened ++ .nowUs start :: es, e.DuringService :=
    List.forall_mem_append.mpr ⟨opening_duringService,
      List.forall_mem_cons.mpr ⟨trivial, fun e he => (run.inLoop e he).duringService⟩⟩
  have hpolls : pollAnswers (opening ds name opened ++ .nowUs start :: es) = pollAnswers es := by
    rw [pollAnswers_append, pollAnswers_opening]
    rfl
  have hplays := path_plays hserves h hservice
  rw [hpolls, hleft] at hplays
  obtain hplayed | hover := hplays
  · left
    rw [hplayed]
    exact List.prefix_append _ _
  · exact .inr hover

/-- A call of `process_commands` plays the script: when it has returned, the chunks of the script
are stored and acknowledged, and until then it has not come to the end of it. -/
theorem CommandRun.plays (h : CommandRun c es returned c')
    (hserves : host.Serves left (answers ++ [last])) (hstate : c.state = .streaming)
    (hset : c.deviceSet.isSome) (hidle : c.faultInjector.Idle)
    (hpath : Path host.env.Answers o es o') (hleft : left o.world = answers ++ [last])
    (hsucceeds : ∀ e ∈ es, e.Succeeds) (hordinary : ∀ answer ∈ answers, answer.Ordinary)
    (hlast : CloseSignal last) :
    (returned = true → StoredAcked es (chunks answers)) ∧
      (returned = false → (pollAnswers es).length ≤ answers.length) := by
  cases h with
  | wrongState hwrong => exact absurd hstate hwrong
  | noDeviceSet _ hnone =>
      rw [hnone] at hset
      cases hset
  | @openFailed ds opened hr device _ hset hopened hcount hhr =>
      have hok := hsucceeds (.openDevice ds c.deviceName hr device) (by simp)
      rw [Event.Succeeds, hhr] at hok
      cases hok
  | serving _ hset hopened hcount run =>
      refine ⟨nofun, fun _ => ?_⟩
      have hplayed := run.plays_next (served_plays hserves run hpath hleft) hlast
      rw [pollAnswers_append, pollAnswers_opening]
      exact hplayed.length_le
  | @served ds opened start k loop c₁ _ hset hopened hcount run =>
      refine ⟨fun _ => ?_, nofun⟩
      obtain ⟨mid, hfront, -⟩ := hpath.split
      have hplays := served_plays hserves run hfront hleft
      have hloop : StoredAcked loop (chunks answers) := run.plays_stop hidle
        (fun e he => hsucceeds e (by simp [he])) hplays hordinary hlast
      have hbefore : StoredAcked (opening ds c.deviceName opened ++ [.nowUs start]) [] :=
        storedAcked_of_offChunk (List.forall_mem_append.mpr
          ⟨fun e he => (opening_aroundLoop e he).offChunk, by simp⟩)
      have hafter : StoredAcked (finishing (opened.map Prod.snd) c₁) [] :=
        storedAcked_of_offChunk fun e he => (finishing_afterLoop e he).aroundLoop.offChunk
      have hall := (hbefore.append hloop).append hafter
      simpa using hall

/-- What SQL Server still has to play when it has been asked for a backup. -/
theorem RequestRun.left_eq (h : RequestRun host.deviceName autoMode request)
    (hserves : host.Serves left script) (hpath : Path host.Answers o request o') :
    left o'.world = script := by
  have hentered : ∀ {pre : List Action}, Path host.Answers o (pre ++ [.cinGet]) o' →
      left o'.world = script := by
    intro pre hpath
    obtain ⟨o₁, -, hlast⟩ := hpath.split
    cases hlast with
    | cons henter hnil =>
        cases hnil
        have ho' : o' = { o₁ with world := host.cinGet o₁.world } := henter
        rw [ho']
        exact hserves.entered o₁.world
  cases h with
  | launched text =>
      have hsplit : Path host.Answers o
          ([.out text] ++ [.wsystem (sqlcmdLine host.deviceName backupDb) 0]) o' := hpath
      obtain ⟨o₁, -, hlast⟩ := hsplit.split
      cases hlast with
      | cons hsystem hnil =>
          cases hnil
          obtain ⟨w, hw, rfl⟩ := hsystem
          have hlaunched := hserves.launched o₁.world (congrArg Prod.fst hw)
          rw [hw] at hlaunched
          exact hlaunched
  | launchFailed text text' rc hrc =>
      have hsplit : Path host.Answers o
          ([.out text, .wsystem (sqlcmdLine host.deviceName backupDb) rc, .err text',
            .out (instruction host.deviceName)] ++ [.cinGet]) o' := hpath
      exact hentered hsplit
  | prompted =>
      have hsplit : Path host.Answers o ([.out (instruction host.deviceName)] ++ [.cinGet]) o' :=
        hpath
      exact hentered hsplit

theorem Event.Succeeds.not_failsSetup {e : Event} (h : e.Succeeds) : ¬ e.FailsSetup := by
  cases e with
  | coInitializeEx | coCreateInstance | createEx | getConfiguration =>
      intro hfails
      have hok : failed _ = false := h
      have hbad : failed _ = true := hfails
      rw [hok] at hbad
      cases hbad
  | _ => exact id

theorem setUp_of_succeeds (h : ∀ e ∈ es, e.Succeeds) : SetUp es :=
  fun e he => (h e he).not_failsSetup

/-- The fields `process_commands` begins with, after a set-up that went well. -/
theorem OpenRun.ready {name : String} {c₁ c₂ : Client} {es₁ : List Event}
    (opened : OpenRun c₁ es₁ c₂) (connect : ConnectRun name 1 c es c₁)
    (hconnected : c₁.state = .connected) (hidle : c.faultInjector.Idle) :
    c₂.deviceSet.isSome ∧ c₂.faultInjector.Idle := by
  have hset₁ := connect.setUp_iff.2 hconnected
  have hsame : c₂.deviceSet = c₁.deviceSet ∧ c₂.faultInjector = c₁.faultInjector := by
    cases opened <;> exact ⟨rfl, rfl⟩
  have hkept : c₁.faultInjector = c.faultInjector := by
    cases connect <;> rfl
  rw [hsame.1, hsame.2, hkept]
  exact ⟨hset₁, hidle⟩

theorem OpenRun.service (h : OpenRun c es c') : ∀ e ∈ es, e.DuringService ∧ e.NoPoll := by
  cases h <;> simp [failure]

/-- When `process_commands` begins, nothing of the script has been played. -/
theorem begun_left (hserves : host.Serves left script) {before : List Action} {text : String}
    (requested : RequestRun host.deviceName autoMode request) (opened : OpenRun c es c')
    (hpath : Path host.Answers o (before ++ request ++ es.map .client ++ [.out text]) o') :
    left o'.world = script := by
  obtain ⟨o₃, hpath, hout⟩ := hpath.split
  obtain ⟨o₂, hpath, hopen⟩ := hpath.split
  obtain ⟨o₁, -, hrequest⟩ := hpath.split
  have hasked := requested.left_eq hserves hrequest
  cases hout with
  | cons hprint hnil =>
      cases hnil
      have ho' : o' = o₃ := hprint
      rw [ho', path_left hserves (path_events hopen) opened.service, hasked]

/-- **The program plays the script.** -/
theorem MainRun.plays {options : Options} {fuel : Nat} {acts : List Action} {code : Option Int}
    (h : MainRun host.deviceName options fuel c acts code c')
    (hserves : host.Serves left (answers ++ [last])) (hidle : c.faultInjector.Idle)
    (hpath : Path host.Answers o acts o') (hsucceeds : ∀ e ∈ clientEvents acts, e.Succeeds)
    (hordinary : ∀ answer ∈ answers, answer.Ordinary) (hlast : CloseSignal last)
    (hfuel : answers.length < fuel) :
    code = some 0 ∧ StoredAcked (clientEvents acts) (chunks answers) := by
  cases h with
  | connectFailed connect hfailed destroyed =>
      have hconnect := connect.setUp_iff.1.mpr
        (setUp_of_succeeds fun e he => hsucceeds e (by simp [he]))
      rw [hfailed] at hconnect
      cases hconnect
  | openFailed connect hconnected requested opened hfailed closed destroyed =>
      have hopened := (opened.setUp_iff (connect.setUp_iff.2 hconnected)).mpr
        (setUp_of_succeeds fun e he => hsucceeds e (by simp [he]))
      rw [hfailed] at hopened
      cases hopened
  | serving connect hconnected requested opened hstreaming run polled =>
      obtain ⟨hset, hidle₂⟩ := opened.ready connect hconnected hidle
      obtain ⟨o₁, hfront, hserve⟩ := hpath.split
      have hleft := begun_left hserves requested opened hfront
      have hplays := run.plays hserves hstreaming hset hidle₂ (path_events hserve) hleft
        (fun e he => hsucceeds e (by simp [he])) hordinary hlast
      have hshort := hplays.2 rfl
      omega
  | served connect hconnected requested opened hstreaming run closed destroyed =>
      obtain ⟨hset, hidle₂⟩ := opened.ready connect hconnected hidle
      obtain ⟨o₃, hpath, -⟩ := hpath.split
      obtain ⟨o₂, hpath, -⟩ := hpath.split
      obtain ⟨o₁, hfront, hserve⟩ := hpath.split
      have hleft := begun_left hserves requested opened hfront
      have hplays := run.plays hserves hstreaming hset hidle₂ (path_events hserve) hleft
        (fun e he => hsucceeds e (by simp [he])) hordinary hlast
      refine ⟨rfl, ?_⟩
      have hsetup := (storedAcked_of_offChunk connect.offChunk).append
        (storedAcked_of_offChunk opened.offChunk)
      have hrest := (storedAcked_of_offChunk (closeCall_offChunk closed)).append
        (storedAcked_of_offChunk destroyed.offChunk)
      have hall := (hsetup.append (hplays.1 rfl)).append hrest
      simpa [requested.clientEvents] using hall

/-- The destructor's last `WriteFile` loses nothing either. -/
theorem ChosenSink.Intact.destroyed {sink : ChosenSink} (h : sink.Intact)
    {disk : Nat → WriteOutcome} (hdisk : KeepsAll disk) {s : FileSink}
    (hs : sink.destroy disk = .inr s) : ∀ call ∈ s.calls, call.Full := by
  cases sink with
  | inl u => cases hs
  | inr t =>
      have hlast : t.destroy disk = s := Sum.inr.inj hs
      rw [← hlast]
      exact (FileSink.Intact.flushBuffer hdisk h).full

/-- **The backup.**  SQL Server serves `answers` and then ends the session, by `VD_E_CLOSE`,
`VD_E_EOF` or a `VDC_Close` command; the answers are timeouts, nulls and commands that can be
served; the disk keeps what it is given and the fault injector is not armed.  Then `main`, watched
for more rounds than there are answers, returns 0 with the session closed; every chunk of the script
was acknowledged to SQL Server, in order and exactly once, and with `--sink file` the file consists
of these chunks. -/
theorem runMain_backup (host : Host ω) (world : ω) (injected : FaultInjector) (fuel : Nat)
    (args : List String) (left : ω → List Answer) (answers : List Answer) (last : Answer)
    (hserves : host.Serves left (answers ++ [last])) (hstores : host.Stores)
    (hidle : injected.Idle) (hordinary : ∀ answer ∈ answers, answer.Ordinary)
    (hlast : CloseSignal last) (hfuel : answers.length < fuel) :
    let p := (runMain host world injected fuel args).2
    (runMain host world injected fuel args).1 = some 0 ∧ p.machine.client.state = .closed ∧
      acknowledged p.machine.trace = chunks answers ∧
      ((Options.parse {} args).useFileSink = true → ∃ sink : FileSink,
        p.machine.outside.sink = .inr sink ∧ sink.file = payloads (chunks answers)) := by
  intro p
  obtain ⟨mid, performs, hleft, run, htrace⟩ := runMain_mainRun host world injected fuel args
  obtain ⟨hsucceeds, hintact⟩ := actions_succeed hserves hstores performs.path
    (hstores.newSink (Options.parse {} args)) run.stocked.sane
  obtain ⟨hcode, hstored⟩ :=
    run.plays hserves hidle performs.path hsucceeds hordinary hlast hfuel
  rw [← htrace] at hsucceeds hstored
  have hsome : (runMain host world injected fuel args).1.isSome := by rw [hcode]; rfl
  have hclosed : p.machine.client.state = .closed :=
    run.closed hsome rfl (lifecycle_new false injected)
  refine ⟨hcode, hclosed, hstored.acknowledged, fun hfile => ?_⟩
  obtain ⟨sink, hsink, hkept, -⟩ := runMain_stored host world injected fuel args hfile
    hstores.opened hstores.allocated hsome
  have hfull : ∀ call ∈ sink.calls, call.Full :=
    hintact.destroyed hstores.disk ((hleft.sink hsome).symm.trans hsink)
  have hnone : ∀ cmd, .sinkWrite cmd false ∉ p.machine.trace := by
    intro cmd hmem
    have hok : false = true := hsucceeds _ hmem
    cases hok
  refine ⟨sink, hsink, ?_⟩
  rw [hkept.mpr fun call hcall => (hfull call hcall).lost, offered_eq_accepted hnone,
    hstored.accepted]

/-- A server that has one script to play, to any device that asks. -/
def player : Com (List Answer) where
  coInitializeEx := fun w => (sOk, w)
  coUninit := fun w => w
  coCreateInstance := fun w => ((sOk, 0), w)
  createEx := fun _ _ _ w => (sOk, w)
  getConfiguration := fun _ _ w => (sOk, w)
  openDevice := fun _ _ w => ((sOk, 0), w)
  setClose := fun _ w => w
  setRelease := fun _ w => w
  getCommand := fun _ _ w =>
    match w with
    | [] => ((vdEClose, none), [])
    | answer :: rest => (answer, rest)
  completeCommand := fun _ cmd _ _ _ w => ((sOk, cmd), w)
  deviceRelease := fun _ w => w

/-- A host on which everything works and the statement has `script` played. -/
def playerHost (script : List Answer) : Host (List Answer) where
  com := player
  clock := UInt64.ofNat
  disk := goodDisk
  opened := true
  allocated := some fun _ => 0
  pid := 4711
  wsystem := fun _ _ => (0, script)
  cinGet := fun _ => script

theorem playerHost_serves (script : List Answer) : (playerHost script).Serves id script where
  coInitializeEx := fun _ => rfl
  coCreateInstance := fun _ => rfl
  createEx := fun _ _ _ _ => rfl
  launched := fun _ _ => rfl
  entered := fun _ => rfl
  getConfiguration := fun _ _ _ => ⟨rfl, rfl⟩
  openDevice := fun _ _ _ => ⟨rfl, rfl⟩
  getCommand := by
    intro device timeout w answer rest hw
    have hw : w = answer :: rest := hw
    rw [hw]
    exact ⟨rfl, rfl⟩
  completeCommand := fun _ _ _ _ _ _ => ⟨rfl, rfl⟩

theorem playerHost_stores (script : List Answer) : (playerHost script).Stores :=
  ⟨rfl, rfl, fun _ => ⟨rfl, Nat.le_refl _⟩⟩

/-- One byte, with a timeout before it, and `VD_E_EOF` at the end. -/
theorem runMain_backup_oneByte :
    let host := playerHost ([timeout, deliver (oneByte 7)] ++ [(vdEEof, none)])
    let p := (runMain host [] {} 3 ["--auto", "--sink", "file"]).2
    (runMain host [] {} 3 ["--auto", "--sink", "file"]).1 = some 0 ∧
      p.machine.client.state = .closed ∧
      acknowledged p.machine.trace = chunks [timeout, deliver (oneByte 7)] ∧
      ((Options.parse {} ["--auto", "--sink", "file"]).useFileSink = true → ∃ sink : FileSink,
        p.machine.outside.sink = .inr sink ∧
          sink.file = payloads (chunks [timeout, deliver (oneByte 7)])) := by
  have hordinary : ∀ answer ∈ [timeout, deliver (oneByte 7)], answer.Ordinary := by
    have hsane : (oneByte 7).Sane := validateWriteCommand_eq_true_iff.mp (by decide)
    have hbyte : (deliver (oneByte 7)).Ordinary :=
      .command sOk (oneByte 7) (by decide) (by decide) fun _ => hsane
    intro answer hmem
    obtain hfirst | hmem := List.mem_cons.mp hmem
    · rw [hfirst]
      exact .timedOut none
    · rw [List.mem_singleton.mp hmem]
      exact hbyte
  exact runMain_backup (playerHost ([timeout, deliver (oneByte 7)] ++ [(vdEEof, none)])) [] {} 3
    ["--auto", "--sink", "file"] id [timeout, deliver (oneByte 7)] (vdEEof, none)
    (playerHost_serves _) (playerHost_stores _) rfl hordinary (.inl (.inr rfl)) (by decide)

end Program

end Vdi

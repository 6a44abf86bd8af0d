import VdiWrapper.MetricsExtraction
import VdiWrapper.ProgramLife

/-!
# Handing the device name over

Under the name `main` makes up, the client creates the device set and opens the device, and SQL
Server has to be asked for a backup to that name.  `main` asks it through `sqlcmd`;
`run_repeatability_check.ps1` takes the name out of the log instead, which it reads after two
seconds, however much has been written by then.
-/

namespace Vdi

open Regex Json

/-! ## The extraction -/

def namePrefix : List Char := "VDI_Device_".toList

/-- The pattern of `run_repeatability_check.ps1`: `VDI_Device_\d+`, where `digit` is `\d`. -/
def deviceNamePattern (digit : Char → Bool) : Regex Char :=
  .seq (literal sameLetter namePrefix) <| .seq (.one digit) (.many false digit)

/-- `$matches[0]` after the `-match`. -/
def extractedName (digit : Char → Bool) (log : List Char) : Option (List Char) :=
  ((deviceNamePattern digit).find log).map Run.read

example : extractedName Char.isDigit "Device name: VDI_Device_4711\r\n".toList =
    some "VDI_Device_4711".toList := by decide

/-- A match has its first underscore behind three letters, and at least twelve letters. -/
theorem deviceNamePattern_matches {digit : Char → Bool} {u : List Char} {us : List (List Char)}
    (h : (deviceNamePattern digit).Matches u us) :
    u[3]? = some '_' ∧ namePrefix.length < u.length := by
  obtain ⟨m, v, _, _, hm, hv, rfl, _⟩ := matches_seq_iff.mp h
  obtain ⟨w, x, _, _, hw, -, rfl, _⟩ := matches_seq_iff.mp hv
  obtain ⟨d, -, rfl, _⟩ := matches_one_iff.mp hw
  obtain ⟨hm, _⟩ := matches_literal_iff.mp hm
  have hlength := hm.length_eq
  have hunderscore : m[3]? = some '_' := by
    rw [show namePrefix = 'V' :: 'D' :: 'I' :: '_' :: "Device_".toList from rfl] at hm
    rcases hm with _ | ⟨-, _ | ⟨-, _ | ⟨-, _ | ⟨hsame, -⟩⟩⟩⟩
    have hlower := (of_decide_eq_true hsame).symm
    exact congrArg some (eq_of_toLower_eq hlower (by decide))
  have hlt : 3 < m.length := by
    rw [← hlength]
    decide
  constructor
  · rw [List.getElem?_append_left hlt, hunderscore]
  · rw [List.length_append, List.length_append, List.length_singleton, ← hlength]
    omega

section Extraction

variable {digit : Char → Bool} {before : List Char}

/-- No match begins in a text without an underscore, whatever follows the prefix behind it. -/
theorem le_of_match (hbefore : '_' ∉ before) {s pre u rest : List Char} {us : List (List Char)}
    (hs : before ++ (namePrefix ++ s) = pre ++ (u ++ rest))
    (hmatch : (deviceNamePattern digit).Matches u us) : before.length ≤ pre.length := by
  by_contra hlt
  obtain ⟨hunderscore, hlong⟩ := deviceNamePattern_matches hmatch
  have hlength : namePrefix.length = 11 := rfl
  have hat : (pre ++ (u ++ rest))[pre.length + 3]? = some '_' := by
    rw [List.getElem?_append_right (Nat.le_add_right _ _), Nat.add_sub_cancel_left,
      List.getElem?_append_left (by omega), hunderscore]
  rw [← hs] at hat
  rcases Nat.lt_or_ge (pre.length + 3) before.length with hin | hout
  · rw [List.getElem?_append_left hin] at hat
    exact hbefore (List.mem_of_getElem? hat)
  · rw [List.getElem?_append_right hout, List.getElem?_append_left (by omega)] at hat
    obtain h | h | h : pre.length + 3 - before.length = 0 ∨ pre.length + 3 - before.length = 1 ∨
        pre.length + 3 - before.length = 2 := by omega
    all_goals
      rw [h] at hat
      revert hat
      decide

/-- A match reads the digits behind the prefix, up to the first other character. -/
theorem find_namePrefix {d : Char} {ds s : List Char} (hd : digit d = true)
    (hds : ∀ c ∈ ds, digit c = true) (hs : ∀ c ∈ s.head?, digit c = false) :
    (deviceNamePattern digit).find (namePrefix ++ d :: (ds ++ s)) =
      some ⟨namePrefix ++ d :: ds, [], s⟩ := by
  have hsame : ∀ c, sameLetter c c = true := fun _ => decide_eq_true rfl
  have hprefix : ((literal sameLetter namePrefix).runs (namePrefix ++ d :: (ds ++ s))).head? =
      some ⟨namePrefix, [], d :: (ds ++ s)⟩ := head?_runs_literal hsame
  have hfirst : ((Regex.one digit).runs (d :: (ds ++ s))).head? = some ⟨[d], [], ds ++ s⟩ :=
    head?_runs_one hd
  have hmore : ((Regex.many false digit).runs (ds ++ s)).head? = some ⟨ds, [], s⟩ :=
    head?_manyRuns hds hs
  exact find_of_head? (head?_runs_seq hprefix (head?_runs_seq hfirst hmore))

/-- What the script gets from the first `n` characters of a log: nothing until a digit of the name
has been written, and then as much of the name as has been. -/
theorem extractedName_take (hbefore : '_' ∉ before) {ds after : List Char} {c : Char}
    (hds : ∀ d ∈ ds, digit d = true) (hne : ds ≠ []) (hc : digit c = false) (n : Nat) :
    extractedName digit ((before ++ (namePrefix ++ (ds ++ c :: after))).take n) =
      if n ≤ before.length + namePrefix.length then none
      else some ((namePrefix ++ ds).take (n - before.length)) := by
  split
  · next hshort =>
    have hnone : (deviceNamePattern digit).find
        ((before ++ (namePrefix ++ (ds ++ c :: after))).take n) = none := by
      apply find_eq_none
      intro pre u rest us hs hmatch
      have hwhole : before ++ (namePrefix ++ (ds ++ c :: after)) =
          pre ++ (u ++ (rest ++ (before ++ (namePrefix ++ (ds ++ c :: after))).drop n)) := by
        rw [← List.append_assoc u, ← List.append_assoc pre, ← hs, List.take_append_drop]
      have hle := le_of_match hbefore hwhole hmatch
      have hlength := congrArg List.length hs
      obtain ⟨-, hlong⟩ := deviceNamePattern_matches hmatch
      rw [List.length_append, List.length_append] at hlength
      have htaken := List.length_take_le n (before ++ (namePrefix ++ (ds ++ c :: after)))
      omega
    rw [extractedName, hnone]
    rfl
  · next hlong =>
    obtain ⟨k, hk⟩ : ∃ k, n = before.length + (namePrefix.length + (k + 1)) :=
      ⟨n - before.length - namePrefix.length - 1, by omega⟩
    subst hk
    rw [List.take_length_add_append, List.take_length_add_append, Nat.add_sub_cancel_left,
      List.take_length_add_append, extractedName, find_append fun pre u rest us hs hmatch =>
        le_of_match hbefore hs hmatch]
    cases ds with
    | nil => exact absurd rfl hne
    | cons d ds =>
        obtain ⟨hd, hds⟩ := List.forall_mem_cons.mp hds
        have hread : ∀ d ∈ ds.take k, digit d = true := fun d hd => hds d (List.mem_of_mem_take hd)
        have hstop : ∀ x ∈ ((c :: after).take (k - ds.length)).head?, digit x = false := by
          intro x hx
          cases hleft : k - ds.length with
          | zero =>
              rw [hleft] at hx
              cases hx
          | succ j =>
              rw [hleft, List.take_succ_cons] at hx
              cases hx
              exact hc
        rw [List.cons_append, List.take_succ_cons, List.take_succ_cons, List.take_append,
          find_namePrefix hd hread hstop]
        rfl

end Extraction

/-! ## The name in the log -/

/-- What `main` prints in front of the name. -/
def introduction : List Char := "VDI C++ Wrapper\n===============\nDevice name: ".toList

theorem banner_toList (name : String) (count : Int) (options : Options) :
    ∃ more, (banner name count options).toList = introduction ++ (name.toList ++ '\n' :: more) := by
  unfold banner introduction
  simp only [String.toList_append, List.append_assoc]
  exact ⟨_, rfl⟩

theorem deviceName_toList {ω : Type} (host : Host ω) :
    host.deviceName.toList = namePrefix ++ Nat.toDigits 10 host.pid.toNat := by
  unfold Host.deviceName
  rw [String.toList_append]
  exact congrArg (namePrefix ++ ·) Nat.toList_repr

/-- Where the name begins in the log. -/
def nameStart (ending : LineEnding) : Nat := (ending.write introduction).length

/-- The script reads the log of a program that goes on after the banner. -/
theorem extractedName_banner {ω : Type} (host : Host ω) {digit : Char → Bool}
    (hdigit : ∀ c, c.toNat < 128 → digit c = c.isDigit) (count : Int) (options : Options)
    (ending : LineEnding) (after : List Char) (n : Nat) :
    extractedName digit
        ((ending.write (banner host.deviceName count options).toList ++ after).take n) =
      if n ≤ nameStart ending + namePrefix.length then none
      else some (host.deviceName.toList.take (n - nameStart ending)) := by
  obtain ⟨more, hmore⟩ := banner_toList host.deviceName count options
  have hdigits : ∀ d ∈ Nat.toDigits 10 host.pid.toNat, digit d = true := by
    intro d hd
    have hd := isDigit_toDigits _ d hd
    have hrange := Char.isDigit_iff_toNat.mp hd
    rw [hdigit d (hrange.2.trans_lt (by decide)), hd]
  have hname : '\n' ∉ host.deviceName.toList := by
    rw [deviceName_toList, List.mem_append, not_or]
    refine ⟨by decide, fun h => ?_⟩
    have hd := isDigit_toDigits _ _ h
    revert hd
    decide
  have hbefore : '_' ∉ ending.write introduction := by
    cases ending <;> decide
  obtain ⟨c, e, heol, hc⟩ : ∃ c e, ending.text = c :: e ∧ digit c = false := by
    cases ending with
    | lf => exact ⟨'\n', [], rfl, hdigit '\n' (by decide)⟩
    | crlf => exact ⟨'\r', ['\n'], rfl, hdigit '\r' (by decide)⟩
  have hlog : ending.write (banner host.deviceName count options).toList ++ after =
      ending.write introduction ++ (namePrefix ++ (Nat.toDigits 10 host.pid.toNat ++
        c :: (e ++ (ending.write more ++ after)))) := by
    rw [hmore, ending.write_append, ending.write_append, ending.write_of_notMem hname,
      deviceName_toList, ← List.singleton_append, ending.write_append, ending.write_newline, heol]
    simp only [List.append_assoc, List.cons_append]
  rw [hlog, deviceName_toList]
  exact extractedName_take hbefore hdigits (by simp) hc n

/-! ## The name in the calls -/

/-- The device set is created, and its device opened, under `name`. -/
@[simp] def Event.Under (name : String) : Event → Prop
  | .createEx _ name' _ _ | .openDevice _ name' _ _ => name' = name
  | _ => True

/-- So is the backup asked for, where `sqlcmd` is. -/
@[simp] def Action.Under (name : String) : Action → Prop
  | .client e => e.Under name
  | .wsystem cmdline _ => cmdline = sqlcmdLine name backupDb
  | _ => True

section Run

variable {name : String} {options : Options} {fuel : Nat} {c c' : Client} {es : List Event}
  {acts : List Action} {code : Option Int}

theorem Event.AfterLoop.under {e : Event} (h : e.AfterLoop) : e.Under name := by
  cases e <;> first | exact h.elim | trivial

theorem Event.InLoop.under {devices : List Device} {e : Event} (h : e.InLoop devices) :
    e.Under name := by
  cases e <;> first | exact h.elim | trivial

theorem ConnectRun.under {count : Int} (h : ConnectRun name count c es c') :
    (∀ e ∈ es, e.Under name) ∧ c'.deviceName = name := by
  cases h <;> simp [failure, uninit]

theorem OpenRun.under (h : OpenRun c es c') :
    (∀ e ∈ es, e.Under name) ∧ c'.deviceName = c.deviceName := by
  cases h <;> simp [failure]

theorem opening_under {ds : DeviceSet} {opened : List (HResult × Device)} :
    ∀ e ∈ opening ds name opened, e.Under name := by
  intro e he
  obtain ⟨p, -, rfl⟩ := List.mem_map.mp he
  rfl

theorem CommandRun.under {returned : Bool} (h : CommandRun c es returned c') :
    ∀ e ∈ es, e.Under c.deviceName := by
  cases h with
  | wrongState | noDeviceSet => simp
  | openFailed =>
      refine List.forall_mem_append.mpr ⟨opening_under, ?_⟩
      simp [failure]
  | serving _ _ _ _ run =>
      refine List.forall_mem_append.mpr ⟨opening_under, ?_⟩
      exact List.forall_mem_cons.mpr ⟨trivial, fun e he => (run.inLoop e he).under⟩
  | served _ _ _ _ run =>
      refine List.forall_mem_append.mpr ⟨List.forall_mem_append.mpr ⟨opening_under, ?_⟩, ?_⟩
      · exact List.forall_mem_cons.mpr ⟨trivial, fun e he => (run.inLoop e he).under⟩
      · exact fun e he => (finishing_afterLoop e he).under

theorem closeCall_under {flow : Runs.Flow} (h : CallRun c .close es flow c') :
    ∀ e ∈ es, e.Under name := by
  cases h with
  | closedAgain => simp
  | close => exact fun e he => (closing_afterLoop e he).under

theorem DestroyRun.under (h : DestroyRun c es c') : ∀ e ∈ es, e.Under name := by
  cases h with
  | nothing => simp
  | closedAgain => simp
  | close => exact List.forall_mem_cons.mpr ⟨trivial, fun e he => (closing_afterLoop e he).under⟩

theorem RequestRun.under {autoMode : Bool} (h : RequestRun name autoMode acts) :
    ∀ act ∈ acts, act.Under name := by
  cases h <;> simp

theorem under_client (h : ∀ e ∈ es, e.Under name) :
    ∀ act ∈ es.map Action.client, act.Under name := by
  intro act hact
  obtain ⟨e, he, rfl⟩ := List.mem_map.mp hact
  exact h e he

/-- There is one name. -/
theorem MainRun.under (h : MainRun name options fuel c acts code c') :
    ∀ act ∈ acts, act.Under name := by
  cases h with
  | connectFailed connect hfailed destroyed =>
      obtain ⟨hconnect, -⟩ := connect.under
      simp only [List.forall_mem_append, List.forall_mem_singleton]
      exact ⟨⟨⟨trivial, under_client hconnect⟩, trivial⟩, under_client destroyed.under⟩
  | openFailed connect hconnected requested opened hfailed closed destroyed =>
      obtain ⟨hconnect, -⟩ := connect.under
      obtain ⟨hopened, -⟩ := opened.under
      simp only [List.forall_mem_append, List.forall_mem_singleton]
      exact ⟨⟨⟨⟨⟨⟨trivial, under_client hconnect⟩, requested.under⟩, under_client hopened⟩,
        trivial⟩, under_client (closeCall_under closed)⟩, under_client destroyed.under⟩
  | serving connect hconnected requested opened hstreaming run polled =>
      obtain ⟨hconnect, hname⟩ := connect.under
      obtain ⟨hopened, hkept⟩ := opened.under
      have hserving := run.under
      rw [hkept, hname] at hserving
      simp only [List.forall_mem_append, List.forall_mem_singleton]
      exact ⟨⟨⟨⟨⟨trivial, under_client hconnect⟩, requested.under⟩, under_client hopened⟩, trivial⟩,
        under_client hserving⟩
  | served connect hconnected requested opened hstreaming run closed destroyed =>
      obtain ⟨hconnect, hname⟩ := connect.under
      obtain ⟨hopened, hkept⟩ := opened.under
      have hserved := run.under
      rw [hkept, hname] at hserved
      simp only [List.forall_mem_append, List.forall_mem_singleton]
      exact ⟨⟨⟨⟨⟨⟨⟨trivial, under_client hconnect⟩, requested.under⟩, under_client hopened⟩,
        trivial⟩, under_client hserved⟩, under_client (closeCall_under closed)⟩,
        under_client destroyed.under⟩

theorem MainRun.head (h : MainRun name options fuel c acts code c') :
    acts.head? = some (.out (banner name 1 options)) := by
  cases h <;> rfl

end Run

/-- **One name.**  The client creates its device set and opens its device under the name `main` has
made up from the process id, and `sqlcmd` asks for a backup to that name.  Printing the name is the
first thing the program does; from the first `n` characters of a log that goes on in any way, the
script takes nothing as long as there is no digit of the name among them, then a beginning of the
name, and the name itself as soon as all of it is there. -/
theorem runMain_deviceName {ω : Type} (host : Host ω) (world : ω) (injected : FaultInjector)
    (fuel : Nat) (args : List String) (digit : Char → Bool)
    (hdigit : ∀ c, c.toNat < 128 → digit c = c.isDigit) :
    let acts := (runMain host world injected fuel args).2.actions
    (∀ act ∈ acts, act.Under host.deviceName) ∧
      ∃ text, acts.head? = some (.out text) ∧ ∀ (ending : LineEnding) (after : List Char) (n : Nat),
        extractedName digit ((ending.write text.toList ++ after).take n) =
          if n ≤ nameStart ending + namePrefix.length then none
          else some (host.deviceName.toList.take (n - nameStart ending)) := by
  intro acts
  obtain ⟨-, -, -, run, -⟩ := runMain_mainRun host world injected fuel args
  refine ⟨run.under, _, run.head, fun ending after n => ?_⟩
  exact extractedName_banner host hdigit 1 _ ending after n

/-- A script that comes while the process id 4711 is being written takes another name. -/
theorem runMain_deviceName_truncated :
    ∃ text, (runMain (goodHost []) (Server.start []) {} 0 []).2.actions.head? = some (.out text) ∧
      extractedName Char.isDigit ((LineEnding.crlf.write text.toList ++ []).take 60) =
        some "VDI_Device_47".toList := by
  obtain ⟨-, text, hhead, hname⟩ := runMain_deviceName (goodHost []) (Server.start []) {} 0 []
    Char.isDigit fun _ _ => rfl
  refine ⟨text, hhead, (hname .crlf [] 60).trans ?_⟩
  rw [deviceName_toList]
  decide

end Vdi

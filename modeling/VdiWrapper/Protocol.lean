import Mathlib.Algebra.Group.Nat.Defs
import Mathlib.Data.List.Basic

/-!
# The VDI protocol vocabulary

Result codes, command codes and the command structure of `include/sqlvdi.h`, the session states
of `include/error_utils.h`, and the two pure functions of `src/vdi_protocol.cpp` that the command
loop consults: `validateWriteCommand` and `dispatchCommand`.

A `VDC_Command` is handed to the client by pointer.  Its `buffer` is null or points to `size`
readable bytes; the type carries that length, so a payload is never read past its end.
-/

namespace Vdi

/-- A COM `HRESULT`, as the 32-bit pattern the code compares. -/
abbrev HResult := UInt32

/-- `FAILED(hr)`: the sign bit is set. -/
def failed (hr : HResult) : Bool := decide (0x80000000 ≤ hr)

/-- `SUCCEEDED(hr)`. -/
def succeeded (hr : HResult) : Bool := !failed hr

theorem succeeded_eq_true_iff {hr : HResult} : succeeded hr = true ↔ failed hr = false := by
  simp [succeeded]

def sOk : HResult := 0
def sFalse : HResult := 1
def vdEClose : HResult := 0x80770001
def vdETimeout : HResult := 0x80770003
def vdEEof : HResult := 0x8077000e

/-- `ERROR_SUCCESS`, the completion code of every completed command. -/
def errorSuccess : UInt32 := 0

@[simp] theorem failed_vdEClose : failed vdEClose = true := by decide
@[simp] theorem failed_vdETimeout : failed vdETimeout = true := by decide
@[simp] theorem failed_vdEEof : failed vdEEof = true := by decide

/-- Both close signals are failures. -/
theorem failed_of_closeSignal {hr : HResult} (h : hr = vdEClose ∨ hr = vdEEof) :
    failed hr = true := by
  rcases h with rfl | rfl
  · exact failed_vdEClose
  · exact failed_vdEEof

def vdcRead : UInt32 := 1
def vdcWrite : UInt32 := 2
def vdcClearError : UInt32 := 3
def vdcFlush : UInt32 := 12

/-- `VDC_Close`, the sentinel command code that asks the loop to stop. -/
def vdcClose : UInt32 := 99

/-- `struct VDC_Command`; `none` is the null buffer pointer. -/
structure VdcCommand where
  commandCode : UInt32
  size : UInt32
  position : UInt64
  buffer : Option { bytes : List UInt8 // bytes.length = size.toNat }
deriving DecidableEq

/-- The `size` bytes at `buffer`. -/
def VdcCommand.payload (cmd : VdcCommand) : List UInt8 :=
  match cmd.buffer with
  | none => []
  | some bytes => bytes.val

theorem VdcCommand.payload_length {cmd : VdcCommand} (h : cmd.buffer.isSome) :
    cmd.payload.length = cmd.size.toNat := by
  obtain ⟨bytes, hb⟩ := Option.isSome_iff_exists.mp h
  simp [payload, hb, bytes.property]

/-- `struct VDConfig`. -/
structure VDConfig where
  deviceCount : UInt32
  features : UInt32
  prefixZoneSize : UInt32
  alignment : UInt32
  softFileMarkBlockSize : UInt32
  eomWarningSize : UInt32
  serverTimeOut : UInt32
  blockSize : UInt32
  maxIODepth : UInt32
  maxTransferSize : UInt32
  bufferAreaSize : UInt32
deriving DecidableEq

/-- `VDF_Default`. -/
def vdfDefault : UInt32 := 0

/-- `enum class SessionState`. -/
inductive SessionState
  | init
  | connected
  | streaming
  | flushing
  | closed
  | failed
deriving DecidableEq, Repr

/-- `enum class CommandResult`. -/
inductive CommandResult
  | continue
  | closeRequest
  | failed
deriving DecidableEq, Repr

/-- `MAX_SANE_CHUNK_SIZE`, 1 GB. -/
def maxSaneChunkSize : UInt32 := 1024 * 1024 * 1024

/-- `validate_write_command`; the log line of each failing check is left out. -/
def validateWriteCommand : Option VdcCommand → Bool
  | none => false
  | some cmd =>
      if cmd.buffer.isNone then false
      else if cmd.size = 0 then false
      else if maxSaneChunkSize < cmd.size then false
      else true

/-- What validation promises about a chunk. -/
structure VdcCommand.Sane (cmd : VdcCommand) : Prop where
  buffer : cmd.buffer.isSome
  pos : 1 ≤ cmd.size.toNat
  le : cmd.size.toNat ≤ 2 ^ 30

theorem validateWriteCommand_eq_true_iff {cmd : VdcCommand} :
    validateWriteCommand (some cmd) = true ↔ cmd.Sane := by
  have hpos : cmd.size = 0 ↔ cmd.size.toNat = 0 := by
    rw [← UInt32.toNat_inj]; simp
  have hle : maxSaneChunkSize < cmd.size ↔ 2 ^ 30 < cmd.size.toNat := by
    rw [UInt32.lt_iff_toNat_lt]
    exact Iff.rfl
  simp only [validateWriteCommand, hpos, hle]
  constructor
  · intro h
    split at h
    · cases h
    · next hbuf =>
      split at h
      · cases h
      · next hzero =>
        split at h
        · cases h
        · next hbig =>
          exact ⟨by simpa [Option.isSome_iff_ne_none] using hbuf, by omega, by omega⟩
  · rintro ⟨hbuf, hpos, hle⟩
    rw [if_neg (by simpa [Option.isSome_iff_ne_none] using hbuf), if_neg (by omega),
      if_neg (by omega)]

/-- `dispatch_command`: the command code and what the caller has to do next.  Reads, flushes,
error resets and unknown codes are all left to the command loop. -/
def dispatchCommand : Option VdcCommand → UInt32 × CommandResult
  | none => (0, .failed)
  | some cmd =>
      if cmd.commandCode = vdcRead then (cmd.commandCode, .continue)
      else if cmd.commandCode = vdcWrite then (cmd.commandCode, .continue)
      else if cmd.commandCode = vdcFlush then (cmd.commandCode, .continue)
      else if cmd.commandCode = vdcClearError then (cmd.commandCode, .continue)
      else if cmd.commandCode = vdcClose then (cmd.commandCode, .closeRequest)
      else (cmd.commandCode, .continue)

/-- A non-null command dispatches to its own code, and only `VDC_Close` asks to stop. -/
theorem dispatchCommand_some (cmd : VdcCommand) :
    dispatchCommand (some cmd) =
      (cmd.commandCode,
        if cmd.commandCode = vdcClose then .closeRequest else .continue) := by
  simp only [dispatchCommand]
  by_cases hclose : cmd.commandCode = vdcClose
  · rw [hclose]
    decide
  · simp only [if_neg hclose, ite_self]

end Vdi

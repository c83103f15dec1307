import SamsungIpc.EffectRuns
import SamsungIpc.ImeiSearch

/-! The exit status of `nv_data-imei`, in an environment where any call may fail: what the commands
return, from the error of the first call that fails up to `errno_to_sysexit`. -/

namespace SamsungIpc

open Effect PointerInspection Sys

def EX_OK : Int := 0
def EX_USAGE : Int := 64
def EX_NOINPUT : Int := 66

/-- `none` is the failed assertion behind an unknown error code. -/
def errnoToSysexit (err : Int) : Option Int :=
  if err = 0 then some EX_OK
  else if err = EACCES then some EX_NOINPUT
  else if err = -EINVAL then some EX_USAGE
  else none

/-- `.error e` is a result of `-1` with `errno` set to `e`. -/
def fileDataSize (path : Option Path) : Sys (Except Errno Nat) :=
  match path with
  | none => pure (.error ENOENT)
  | some path => do
      match ← openFile path .rdonly with
      | .error errno => pure (.error errno)
      | .ok fd => do
          let size ← lseek fd 0 .seekEnd
          close fd
          pure size

section Commands

variable (platform : Platform) (behind : Nat → UInt8) (nvDataPath : Path)

/-- The return code, `none` for a failed assertion, and the offsets reported. The memory behind the
buffer is `behind`. -/
def bruteforceImeiOffset (imei : CString) : Sys (Option Int × List Nat) := do
  match ← fileDataSize (some nvDataPath) with
  | .error errno => pure (some errno, [])
  | .ok fileSize => do
      match ← fileDataRead platform.abi (some nvDataPath) fileSize xmm616NvDataChunkSize 0 with
      | none => pure (some (-1), [])
      | some buffer =>
          match value (bruteforceSearch imei fileSize) (some fun i => buffer.getD i (behind i)) with
          | some (some reports) => pure (some 0, reports)
          | _ => pure (none, [])

/-- The commands of the tool that look at a file, with their options. -/
inductive ImeiCommand where
  | readImei (offset : Nat)
  | writeImei (offset : Nat) (imei : Imei)
  | bruteforceImei (imei : Imei)

/-- `command->func`, and what it returns: `none` for a failed assertion or a read behind a buffer. -/
def ImeiCommand.func : ImeiCommand → Sys (Option Int)
  | .readImei offset => do
      let answer ← SamsungIpc.readImei platform nvDataPath offset
      pure answer.1
  | .writeImei offset imei => SamsungIpc.writeImei platform nvDataPath offset imei.text
  | .bruteforceImei imei => do
      let answer ← bruteforceImeiOffset platform behind nvDataPath imei.text
      pure answer.1

end Commands

/-! ### The environment -/

/-- A call whose answer is looked at. -/
inductive FileEvent where
  | status (answer : Except Errno Nat)
  | opened (mode : OpenMode) (answer : Except Errno Fd)
  | sought (offset : Int) (whence : Whence) (answer : Except Errno Nat)
  | read (answer : Except Errno Bytes)
  | wrote (answer : Except Errno Nat)

def FileEvent.ofCall : {β : Type} → Syscall β → β → List FileEvent
  | _, .stat _, answer => [.status answer]
  | _, .openFile _ mode, answer => [.opened mode answer]
  | _, .lseek _ offset whence, answer => [.sought offset whence answer]
  | _, .read _ _, answer => [.read answer]
  | _, .write _ _, answer => [.wrote answer]
  | _, .close _, _ => []
  | _, .unlink _, _ => []

/-- A call may fail with any error number, which is positive; that a seek lacks a permission is not among
the documented ones. A seek from the start gets where it was to, and no transfer exceeds the request. -/
def FileAnswers : {β : Type} → Syscall β → β → Prop
  | _, .stat _, answer => ∀ errno, answer = .error errno → 0 < errno
  | _, .openFile _ _, answer => ∀ errno, answer = .error errno → 0 < errno
  | _, .lseek _ offset whence, answer =>
      (∀ errno, answer = .error errno → 0 < errno ∧ errno ≠ EACCES) ∧
        ∀ position, answer = .ok position → whence = .seekSet → position = offset
  | _, .read _ count, answer =>
      (∀ errno, answer = .error errno → 0 < errno) ∧
        ∀ bytes, answer = .ok bytes → bytes.length ≤ count
  | _, .write _ bytes, answer =>
      (∀ errno, answer = .error errno → 0 < errno) ∧ ∀ count, answer = .ok count → count ≤ bytes.length
  | _, .close _, _ => True
  | _, .unlink _, answer => ∀ errno, answer = .error errno → 0 < errno

def fileEnvironment : Environment Syscall FileEvent where
  Answers := FileAnswers
  events := FileEvent.ofCall

/-- The call failed, or showed that the file is not as it has to be: another size, an early end, no
room. -/
def FileEvent.Failed : FileEvent → Prop
  | .status answer => answer ≠ .ok xmm616NvDataSize
  | .opened _ answer => ∃ errno, answer = .error errno
  | .sought _ _ answer => ∃ errno, answer = .error errno
  | .read answer => ∀ bytes, answer = .ok bytes → bytes = []
  | .wrote answer => ∀ count, answer = .ok count → count = 0

def NoFailure (events : List FileEvent) : Prop := ∀ event ∈ events, ¬event.Failed

/-- The open for writing lacked a permission. -/
def FileEvent.denied : FileEvent := .opened .wronlyCreat (.error EACCES)

/-- The condition for a failure to be reported. An open for writing that is denied ends the command. -/
def ImeiCommand.Handled (events : List FileEvent) : ImeiCommand → Prop
  | .readImei offset => NoFailure events ∧ offset + imeiBufferLength ≤ xmm616NvDataSize
  | .writeImei _ _ => NoFailure events ∨ .denied ∈ events
  | .bruteforceImei _ =>
      events = [.opened .rdonly (.error EACCES)] ∨
        (NoFailure events ∧
          ∀ size, .sought 0 .seekEnd (.ok size) ∈ events → xmm616NvDataChunkSize ≤ size)

/-- The assertion holds, no failure ends with the status of a success, and a file that may not be opened
is reported as such. -/
structure StatusReported (rc : Option Int) (events : List FileEvent) : Prop where
  mapped : (rc.bind errnoToSysexit).isSome
  failure : ¬NoFailure events → rc.bind errnoToSysexit ≠ some EX_OK
  permission : ∀ mode, .opened mode (.error EACCES) ∈ events →
    rc.bind errnoToSysexit = some EX_NOINPUT

theorem not_failed_opened {mode : OpenMode} {fd : Fd} : ¬(FileEvent.opened mode (.ok fd)).Failed := by
  rintro ⟨_, ⟨⟩⟩

theorem not_failed_sought {offset : Int} {whence : Whence} {position : Nat} :
    ¬(FileEvent.sought offset whence (.ok position)).Failed := by
  rintro ⟨_, ⟨⟩⟩

/-! ### The calls -/

section Calls

variable {events : List FileEvent} {path : Path} {fd : Fd}

theorem noFailure_cons {event : FileEvent} :
    NoFailure (event :: events) ↔ ¬event.Failed ∧ NoFailure events := List.forall_mem_cons

theorem noFailure_nil : NoFailure [] := List.forall_mem_nil _

theorem noFailure_append {first second : List FileEvent} :
    NoFailure (first ++ second) ↔ NoFailure first ∧ NoFailure second := List.forall_mem_append

theorem not_noFailure {event : FileEvent} (hmem : event ∈ events) (hfailed : event.Failed) :
    ¬NoFailure events := fun hno => hno event hmem hfailed

theorem runs_stat {answer : Except Errno Nat} :
    Runs fileEnvironment (stat path) answer events ↔
      FileAnswers (.stat path) answer ∧ events = [.status answer] := runs_perform

theorem runs_openFile {mode : OpenMode} {answer : Except Errno Fd} :
    Runs fileEnvironment (openFile path mode) answer events ↔
      FileAnswers (.openFile path mode) answer ∧ events = [.opened mode answer] := runs_perform

theorem runs_lseek {offset : Int} {whence : Whence} {answer : Except Errno Nat} :
    Runs fileEnvironment (lseek fd offset whence) answer events ↔
      FileAnswers (.lseek fd offset whence) answer ∧ events = [.sought offset whence answer] :=
  runs_perform

theorem runs_read {count : Nat} {answer : Except Errno Bytes} :
    Runs fileEnvironment (Sys.read fd count) answer events ↔
      FileAnswers (.read fd count) answer ∧ events = [.read answer] := runs_perform

theorem runs_write {bytes : Bytes} {answer : Except Errno Nat} :
    Runs fileEnvironment (write fd bytes) answer events ↔
      FileAnswers (.write fd bytes) answer ∧ events = [.wrote answer] := runs_perform

theorem runs_close {answer : Unit} :
    Runs fileEnvironment (close fd) answer events ↔ events = [] := by
  refine runs_perform.trans ?_
  exact and_iff_right trivial

theorem runs_unlink {answer : Except Errno Unit} :
    Runs fileEnvironment (unlink path) answer events ↔
      FileAnswers (.unlink path) answer ∧ events = [] := runs_perform

end Calls

/-! ### The file helpers -/

/-- A call of `file_data_read`. -/
def FileEvent.Reads : FileEvent → Prop
  | .opened .rdonly _ => True
  | .sought 0 .seekSet _ => True
  | .read _ => True
  | _ => False

section Helpers

variable {events : List FileEvent} {path : Path} {fd : Fd} {size chunkSize : Nat}

theorem runs_fileDataReadLoop {passes : Nat} {data : Bytes} {result : Option Bytes}
    (hpasses : size - data.length < passes) (hroom : data.length ≤ size)
    (hrun : Runs fileEnvironment (fileDataReadLoop fd size chunkSize passes data) result events) :
    (result.isSome ↔ NoFailure events) ∧ (∀ event ∈ events, event.Reads) ∧
      ∀ buffer ∈ result, buffer.length = size := by
  induction passes generalizing data events with
  | zero => omega
  | succ passes ih =>
      rw [fileDataReadLoop] at hrun
      by_cases hmore : data.length < size
      · rw [if_pos hmore] at hrun
        obtain ⟨answer, first, second, hread, hrest, rfl⟩ := runs_bind.mp hrun
        obtain ⟨⟨_, hcount⟩, rfl⟩ := runs_read.mp hread
        cases answer with
        | error errno =>
            obtain ⟨rfl, rfl⟩ := hrest
            refine ⟨iff_of_false (by simp) ?_, by simp [FileEvent.Reads], by simp⟩
            exact not_noFailure List.mem_cons_self fun bytes hbytes => by simp at hbytes
        | ok bytes =>
            cases bytes with
            | nil =>
                obtain ⟨rfl, rfl⟩ := hrest
                refine ⟨iff_of_false (by simp) ?_, by simp [FileEvent.Reads], by simp⟩
                exact not_noFailure List.mem_cons_self fun bytes hbytes => by simpa using hbytes.symm
            | cons byte bytes =>
                have hgrown : (data ++ byte :: bytes).length = data.length + (bytes.length + 1) :=
                  List.length_append
                have hread := hcount _ rfl
                rw [List.length_cons] at hread
                have hfits : (data ++ byte :: bytes).length ≤ size := by
                  split at hread <;> omega
                obtain ⟨hresult, hreads, hlength⟩ := ih (by omega) hfits hrest
                have hread : ¬(FileEvent.read (.ok (byte :: bytes))).Failed :=
                  fun hfailed => absurd (hfailed _ rfl) (List.cons_ne_nil _ _)
                rw [List.singleton_append, noFailure_cons, and_iff_right hread]
                exact ⟨hresult, List.forall_mem_cons.mpr ⟨trivial, hreads⟩, hlength⟩
      · rw [if_neg hmore] at hrun
        obtain ⟨rfl, rfl⟩ := hrun
        refine ⟨iff_of_true rfl noFailure_nil, List.forall_mem_nil _, ?_⟩
        rintro buffer ⟨⟩
        omega

theorem runs_fileDataRead {abi : Abi} {result : Option Bytes} (hchunk : 0 < chunkSize)
    (hle : chunkSize ≤ size)
    (hrun : Runs fileEnvironment (fileDataRead abi (some path) size chunkSize 0) result events) :
    (result.isSome ↔ NoFailure events) ∧ (∀ event ∈ events, event.Reads) ∧
      ∀ buffer ∈ result, buffer.length = size := by
  have hzero : abi.offT 0 = 0 := by cases abi <;> rfl
  rw [fileDataRead, if_neg (by omega)] at hrun
  obtain ⟨opened, first, later, hopen, hrest, rfl⟩ := runs_bind.mp hrun
  obtain ⟨_, rfl⟩ := runs_openFile.mp hopen
  rw [List.singleton_append, noFailure_cons, List.forall_mem_cons]
  cases opened with
  | error errno =>
      obtain ⟨rfl, rfl⟩ := hrest
      exact ⟨iff_of_false (by simp) fun hno => hno.1 ⟨errno, rfl⟩,
        ⟨trivial, List.forall_mem_nil _⟩, by simp⟩
  | ok fd =>
      rw [and_iff_right not_failed_opened]
      obtain ⟨sought, first, later, hseek, hafter, rfl⟩ := runs_bind.mp hrest
      obtain ⟨_, rfl⟩ := runs_lseek.mp hseek
      rw [List.singleton_append, noFailure_cons, List.forall_mem_cons]
      rw [hzero] at hafter ⊢
      cases sought with
      | error errno =>
          rw [if_pos (show seekResult (.error errno) < 0 by simp [seekResult])] at hafter
          obtain ⟨_, first, later, hclose, hend, rfl⟩ := runs_bind.mp hafter
          obtain rfl := runs_close.mp hclose
          obtain ⟨rfl, rfl⟩ := hend
          exact ⟨iff_of_false (by simp) fun hno => hno.1 ⟨errno, rfl⟩,
            ⟨trivial, trivial, List.forall_mem_nil _⟩, by simp⟩
      | ok position =>
          have hstart : ¬seekResult (.ok position) < 0 := by
            rw [seekResult]
            omega
          rw [if_neg hstart] at hafter
          rw [and_iff_right not_failed_sought]
          obtain ⟨data, reading, later, hloop, hclosing, rfl⟩ := runs_bind.mp hafter
          obtain ⟨_, first, later, hclose, hend, rfl⟩ := runs_bind.mp hclosing
          obtain rfl := runs_close.mp hclose
          obtain ⟨rfl, rfl⟩ := hend
          rw [List.append_nil, List.append_nil]
          obtain ⟨hdata, hreads, hlength⟩ := runs_fileDataReadLoop (by simp) (Nat.zero_le _) hloop
          exact ⟨hdata, ⟨trivial, trivial, hreads⟩, hlength⟩

/-- What `file_data_write` returns says about its calls. An error is a failure of one of them, and its code
is `EACCES` exactly where the file may not be opened. -/
def WriteCode (result : Except Errno Unit) (events : List FileEvent) : Prop :=
  match result with
  | .ok _ => .denied ∉ events
  | .error errno =>
      ¬NoFailure events ∧ errno ≠ -EINVAL ∧ (errno = EACCES ↔ .denied ∈ events)

/-- An event in front changes nothing. -/
theorem WriteCode.cons {result : Except Errno Unit} {event : FileEvent} (hevent : event ≠ .denied)
    (hcode : WriteCode result events) : WriteCode result (event :: events) := by
  have hmem : FileEvent.denied ∈ event :: events ↔ .denied ∈ events :=
    List.mem_cons.trans (or_iff_right hevent.symm)
  cases result with
  | ok value => exact fun hdenied => hcode (hmem.mp hdenied)
  | error errno =>
      obtain ⟨hfailed, hvalid, haccess⟩ := hcode
      exact ⟨fun hno => hfailed (noFailure_cons.mp hno).2, hvalid, haccess.trans hmem.symm⟩

/-- One event that has failed decides. -/
theorem WriteCode.failed {errno : Errno} {event : FileEvent} (hevent : event.Failed)
    (hvalid : errno ≠ -EINVAL) (haccess : errno = EACCES ↔ event = .denied) :
    WriteCode (.error errno) [event] := by
  refine ⟨not_noFailure List.mem_cons_self hevent, hvalid, haccess.trans ?_⟩
  rw [List.mem_singleton, eq_comm]

theorem ne_neg_EINVAL {errno : Errno} (hpos : 0 < errno) : errno ≠ -EINVAL := by
  rintro rfl
  exact absurd hpos (by decide)

theorem runs_fileDataWriteLoop {data : Bytes} {passes count : Nat} {result : Except Errno Unit}
    (hpasses : data.length - count < passes)
    (hrun : Runs fileEnvironment (fileDataWriteLoop fd data chunkSize passes count) result events) :
    WriteCode result events := by
  induction passes generalizing count events with
  | zero => omega
  | succ passes ih =>
      rw [fileDataWriteLoop] at hrun
      by_cases hmore : count < data.length
      · rw [if_pos hmore] at hrun
        obtain ⟨answer, first, second, hwrite, hrest, rfl⟩ := runs_bind.mp hrun
        obtain ⟨_, rfl⟩ := runs_write.mp hwrite
        have hother : FileEvent.wrote answer ≠ .denied := by simp [FileEvent.denied]
        cases answer with
        | error errno =>
            obtain ⟨rfl, rfl⟩ := hrest
            refine .failed (fun count hcount => by simp at hcount) (by decide) ?_
            exact iff_of_false (by decide) hother
        | ok written =>
            cases written with
            | zero =>
                obtain ⟨rfl, rfl⟩ := hrest
                refine .failed (fun count hcount => by simpa using hcount.symm) (by decide) ?_
                exact iff_of_false (by decide) hother
            | succ written => exact .cons hother (ih (by omega) hrest)
      · rw [if_neg hmore] at hrun
        obtain ⟨rfl, rfl⟩ := hrun
        exact List.not_mem_nil

theorem runs_fileDataWrite {abi : Abi} {data : Bytes} {offset : UInt32} {result : Except Errno Unit}
    (hchunk : 0 < chunkSize) (hle : chunkSize ≤ data.length)
    (hrun : Runs fileEnvironment (fileDataWrite abi (some path) (some data) chunkSize offset) result
      events) :
    WriteCode result events := by
  rw [fileDataWrite, if_neg (by omega)] at hrun
  obtain ⟨opened, first, later, hopen, hrest, rfl⟩ := runs_bind.mp hrun
  obtain ⟨hanswer, rfl⟩ := runs_openFile.mp hopen
  cases opened with
  | error errno =>
      obtain ⟨rfl, rfl⟩ := hrest
      refine .failed ⟨errno, rfl⟩ (ne_neg_EINVAL (hanswer errno rfl)) ?_
      simp [FileEvent.denied]
  | ok fd =>
      refine .cons (by simp [FileEvent.denied]) ?_
      obtain ⟨sought, first, later, hseek, hafter, rfl⟩ := runs_bind.mp hrest
      obtain ⟨⟨hseekError, hseekPosition⟩, rfl⟩ := runs_lseek.mp hseek
      have hother : FileEvent.sought (abi.offT offset) .seekSet sought ≠ .denied := by
        simp [FileEvent.denied]
      by_cases hshort : seekResult sought < abi.offT offset
      · rw [if_pos hshort] at hafter
        obtain ⟨_, first, later, hclose, hend, rfl⟩ := runs_bind.mp hafter
        obtain rfl := runs_close.mp hclose
        cases sought with
        | error errno =>
            obtain ⟨rfl, rfl⟩ := hend
            obtain ⟨hpos, hne⟩ := hseekError errno rfl
            exact .failed ⟨errno, rfl⟩ (ne_neg_EINVAL hpos) (iff_of_false hne hother)
        | ok position =>
            have hposition := hseekPosition position rfl rfl
            rw [seekResult, hposition] at hshort
            exact absurd hshort (lt_irrefl _)
      · -- a seek to a place `off_t` cannot hold fails, and the code goes on after it
        rw [if_neg hshort] at hafter
        obtain ⟨written, writing, later, hloop, hclosing, rfl⟩ := runs_bind.mp hafter
        obtain ⟨_, first, later, hclose, hend, rfl⟩ := runs_bind.mp hclosing
        obtain rfl := runs_close.mp hclose
        obtain ⟨rfl, rfl⟩ := hend
        rw [List.append_nil, List.append_nil]
        exact .cons hother (runs_fileDataWriteLoop (by omega) hloop)

/-- Whatever the digest fails at, it opens nothing for writing. -/
theorem runs_ipcNvDataMd5Calculate {platform : Platform} {result : Option CString}
    (hrun : Runs fileEnvironment (ipcNvDataMd5Calculate platform path (some xmm616NvDataSecret)
      xmm616NvDataSize xmm616NvDataChunkSize) result events) :
    (result.isSome ↔ NoFailure events) ∧ .denied ∉ events ∧ ∀ digest ∈ result, 0 < digest.length := by
  rw [ipcNvDataMd5Calculate] at hrun
  obtain ⟨answer, first, later, hstat, hrest, rfl⟩ := runs_bind.mp hrun
  obtain ⟨_, rfl⟩ := runs_stat.mp hstat
  have hstatus : FileEvent.denied ≠ .status answer := by simp [FileEvent.denied]
  rw [List.singleton_append, noFailure_cons, List.mem_cons, or_iff_right hstatus]
  cases answer with
  | error errno =>
      obtain ⟨rfl, rfl⟩ := hrest
      exact ⟨iff_of_false (by simp) fun hno => hno.1 (by simp [FileEvent.Failed]),
        List.not_mem_nil, by simp⟩
  | ok size =>
      dsimp only at hrest
      by_cases hsize : size = xmm616NvDataSize
      · obtain rfl := hsize
        have hright : ¬(FileEvent.status (.ok xmm616NvDataSize)).Failed := not_not.mpr rfl
        rw [if_neg (not_not.mpr rfl)] at hrest
        obtain ⟨data, reading, later, hread, hdigest, rfl⟩ := runs_bind.mp hrest
        obtain ⟨hdata, hreads, _⟩ := runs_fileDataRead (by decide) (by decide) hread
        have hdenied : .denied ∉ reading := fun hmem => hreads _ hmem
        rw [and_iff_right hright]
        cases data with
        | none =>
            obtain ⟨rfl, rfl⟩ := hdigest
            rw [List.append_nil]
            exact ⟨hdata, hdenied, by simp⟩
        | some data =>
            obtain ⟨rfl, rfl⟩ := hdigest
            have hlength := (platform.md5 (data ++ xmm616NvDataSecret)).property
            have hpos : 0 < (platform.md5 (data ++ xmm616NvDataSecret)).val.length := by
              rw [hlength]
              decide
            rw [List.append_nil, data2string_of_length_pos hpos]
            refine ⟨hdata, hdenied, ?_⟩
            rintro digest ⟨⟩
            rw [length_hexDigits]
            omega
      · rw [if_pos hsize] at hrest
        obtain ⟨rfl, rfl⟩ := hrest
        refine ⟨iff_of_false (by simp) fun hno => hno.1 ?_, List.not_mem_nil, by simp⟩
        exact fun heq => hsize (Except.ok.inj heq)

theorem runs_fileDataSize {result : Except Errno Nat}
    (hrun : Runs fileEnvironment (fileDataSize (some path)) result events) :
    (∃ errno, 0 < errno ∧ result = .error errno ∧ events = [.opened .rdonly (.error errno)]) ∨
      ∃ fd, events = [.opened .rdonly (.ok fd), .sought 0 .seekEnd result] ∧
        ∀ errno, result = .error errno → 0 < errno ∧ errno ≠ EACCES := by
  rw [fileDataSize] at hrun
  obtain ⟨opened, first, later, hopen, hrest, rfl⟩ := runs_bind.mp hrun
  obtain ⟨hanswer, rfl⟩ := runs_openFile.mp hopen
  cases opened with
  | error errno =>
      obtain ⟨rfl, rfl⟩ := hrest
      exact Or.inl ⟨errno, hanswer errno rfl, rfl, rfl⟩
  | ok fd =>
      obtain ⟨size, first, later, hseek, hclosing, rfl⟩ := runs_bind.mp hrest
      obtain ⟨⟨herror, _⟩, rfl⟩ := runs_lseek.mp hseek
      obtain ⟨_, first, later, hclose, hend, rfl⟩ := runs_bind.mp hclosing
      obtain rfl := runs_close.mp hclose
      obtain ⟨rfl, rfl⟩ := hend
      exact Or.inr ⟨fd, rfl, herror⟩

end Helpers

/-! ### The commands -/

section Status

variable {platform : Platform} {behind : Nat → UInt8} {path : Path} {rc : Option Int}
  {events : List FileEvent}

/-- Of a failure, `EACCES` is the only code that is reported: `0` would be a success. -/
theorem statusReported_failed {errno : Errno} (hfailed : ¬NoFailure events) (hvalid : errno ≠ -EINVAL) :
    StatusReported (some errno) events ↔ errno = EACCES := by
  constructor
  · intro hreported
    have hmapped := hreported.mapped
    have hfailure := hreported.failure hfailed
    rw [Option.bind_some, errnoToSysexit] at hmapped hfailure
    by_cases hzero : errno = 0
    · rw [if_pos hzero] at hfailure
      exact absurd rfl hfailure
    · by_contra hother
      rw [if_neg hzero, if_neg hother, if_neg hvalid] at hmapped
      exact absurd hmapped (by decide)
  · rintro rfl
    exact ⟨by decide, fun _ => by decide, fun _ _ => rfl⟩

/-- A success is reported of a run without a failure. -/
theorem statusReported_success : StatusReported (some 0) events ↔ NoFailure events := by
  constructor
  · intro hreported
    by_contra hfailed
    exact hreported.failure hfailed rfl
  · intro hno
    refine ⟨by decide, fun hfailed => absurd hno hfailed, fun mode hmem => ?_⟩
    exact absurd hno (not_noFailure hmem ⟨_, rfl⟩)

theorem runs_readImei {offset : Nat}
    (hrun : Runs fileEnvironment ((ImeiCommand.readImei offset).func platform behind path) rc events) :
    StatusReported rc events ↔ (ImeiCommand.readImei offset).Handled events := by
  rw [ImeiCommand.func, readImei] at hrun
  obtain ⟨answer, first, later, hcommand, hreturn, rfl⟩ := runs_bind.mp hrun
  obtain ⟨rfl, rfl⟩ := hreturn
  obtain ⟨data, reading, later, hread, hend, rfl⟩ := runs_bind.mp hcommand
  obtain ⟨hdata, _, hlength⟩ := runs_fileDataRead (by decide) (by decide) hread
  rw [List.append_nil, ImeiCommand.Handled]
  cases data with
  | none =>
      obtain ⟨rfl, rfl⟩ := hend
      rw [List.append_nil]
      have hfailed : ¬NoFailure reading := fun hno => absurd (hdata.mpr hno) (by decide)
      refine iff_of_false (fun hreported => ?_) fun hhandled => hfailed hhandled.1
      exact absurd hreported.mapped (by decide)
  | some data =>
      have hno : NoFailure reading := hdata.mp rfl
      dsimp only at hend
      rw [hlength data rfl] at hend
      by_cases hinside : offset + imeiBufferLength ≤ xmm616NvDataSize
      · rw [if_pos hinside] at hend
        obtain ⟨rfl, rfl⟩ := hend
        rw [List.append_nil, and_iff_left hinside]
        exact statusReported_success
      · rw [if_neg hinside] at hend
        obtain ⟨rfl, rfl⟩ := hend
        refine iff_of_false (fun hreported => ?_) fun hhandled => hinside hhandled.2
        exact absurd hreported.mapped (by decide)

theorem runs_writeImei {offset : Nat} {imei : Imei}
    (hrun : Runs fileEnvironment ((ImeiCommand.writeImei offset imei).func platform behind path) rc
      events) :
    StatusReported rc events ↔ (ImeiCommand.writeImei offset imei).Handled events := by
  obtain ⟨hencode, hsize⟩ := imei.encode_eq
  rw [ImeiCommand.func, writeImei, if_neg (not_not.mpr imei.length_eq), hencode] at hrun
  obtain ⟨written, first, later, hwrite, hrest, rfl⟩ := runs_bind.mp hrun
  have hcode := runs_fileDataWrite (by omega) le_rfl hwrite
  rw [ImeiCommand.Handled]
  cases written with
  | error errno =>
      obtain ⟨rfl, rfl⟩ := hrest
      obtain ⟨hfailed, hvalid, haccess⟩ := hcode
      rw [List.append_nil, or_iff_right hfailed, statusReported_failed hfailed hvalid]
      exact haccess
  | ok done =>
      obtain ⟨digest, hashing, later, hdigest, hafter, rfl⟩ := runs_bind.mp hrest
      obtain ⟨hresult, hdenied, hlength⟩ := runs_ipcNvDataMd5Calculate hdigest
      rw [noFailure_append, noFailure_append, List.mem_append, List.mem_append, or_iff_right hcode,
        or_iff_right hdenied]
      cases digest with
      | none =>
          obtain ⟨rfl, rfl⟩ := hafter
          have hfailed : ¬NoFailure hashing := fun hno => absurd (hresult.mpr hno) (by decide)
          refine iff_of_false (fun hreported => absurd hreported.mapped (by decide)) ?_
          exact not_or_intro (fun hno => hfailed hno.2.1) List.not_mem_nil
      | some digest =>
          obtain ⟨_, removing, later, hunlink, hlast, rfl⟩ := runs_bind.mp hafter
          obtain ⟨_, rfl⟩ := runs_unlink.mp hunlink
          obtain ⟨stored, storing, later, hstore, hend, rfl⟩ := runs_bind.mp hlast
          have hcode := runs_fileDataWrite (hlength digest rfl) le_rfl hstore
          cases stored with
          | error errno =>
              obtain ⟨rfl, rfl⟩ := hend
              obtain ⟨hfailed, hvalid, haccess⟩ := hcode
              rw [List.nil_append, List.append_nil, or_iff_right fun hno => hfailed hno.2.2]
              refine (statusReported_failed (fun hno => hfailed ?_) hvalid).trans haccess
              exact (noFailure_append.mp (noFailure_append.mp hno).2).2
          | ok done =>
              obtain ⟨rfl, rfl⟩ := hend
              rw [List.nil_append, List.append_nil, or_iff_left hcode, ← noFailure_append,
                ← noFailure_append]
              exact statusReported_success

theorem runs_bruteforceImei {imei : Imei}
    (hrun : Runs fileEnvironment ((ImeiCommand.bruteforceImei imei).func platform behind path) rc
      events) :
    StatusReported rc events ↔ (ImeiCommand.bruteforceImei imei).Handled events := by
  rw [ImeiCommand.func, bruteforceImeiOffset] at hrun
  obtain ⟨answer, first, later, hcommand, hreturn, rfl⟩ := runs_bind.mp hrun
  obtain ⟨rfl, rfl⟩ := hreturn
  obtain ⟨size, sizing, later, hsize, hrest, rfl⟩ := runs_bind.mp hcommand
  rw [List.append_nil]
  rcases runs_fileDataSize hsize with ⟨errno, hpos, rfl, rfl⟩ | ⟨fd, rfl, herrno⟩
  · obtain ⟨rfl, rfl⟩ := hrest
    have hfailed : ¬NoFailure [.opened .rdonly (.error errno)] :=
      not_noFailure List.mem_cons_self ⟨errno, rfl⟩
    have hhandled : (ImeiCommand.bruteforceImei imei).Handled [.opened .rdonly (.error errno)] ↔
        errno = EACCES := by
      rw [ImeiCommand.Handled, or_iff_left fun h => hfailed h.1, List.cons.injEq,
        and_iff_left rfl, FileEvent.opened.injEq, and_iff_right rfl, Except.error.injEq]
    rw [List.append_nil, hhandled]
    exact statusReported_failed hfailed (ne_neg_EINVAL hpos)
  · have hother : [.opened .rdonly (.ok fd), .sought 0 .seekEnd size] ++ later ≠
        [.opened .rdonly (.error EACCES)] := by simp
    rw [ImeiCommand.Handled, or_iff_right hother]
    cases size with
    | error errno =>
        obtain ⟨rfl, rfl⟩ := hrest
        obtain ⟨hpos, hne⟩ := herrno errno rfl
        have hfailed : ¬NoFailure ([.opened .rdonly (.ok fd), .sought 0 .seekEnd (.error errno)] ++ []) :=
          not_noFailure (List.mem_append_left _ (List.mem_cons_of_mem _ List.mem_cons_self)) ⟨errno, rfl⟩
        rw [statusReported_failed hfailed (ne_neg_EINVAL hpos)]
        exact iff_of_false hne fun hhandled => hfailed hhandled.1
    | ok size =>
        obtain ⟨data, reading, later, hread, hend, rfl⟩ := runs_bind.mp hrest
        by_cases hsmall : size < xmm616NvDataChunkSize
        · rw [fileDataRead, if_pos (Or.inr (Or.inr hsmall))] at hread
          obtain ⟨rfl, rfl⟩ := hread
          obtain ⟨rfl, rfl⟩ := hend
          refine iff_of_false (fun hreported => absurd hreported.mapped (by decide)) fun hhandled => ?_
          exact absurd (hhandled.2 size (by simp)) (Nat.not_le.mpr hsmall)
        · obtain ⟨hdata, hreads, _⟩ := runs_fileDataRead (by decide) (Nat.not_lt.mp hsmall) hread
          cases data with
          | none =>
              obtain ⟨rfl, rfl⟩ := hend
              refine iff_of_false (fun hreported => absurd hreported.mapped (by decide)) fun hhandled => ?_
              rw [List.append_nil] at hhandled
              exact absurd (hdata.mpr (noFailure_append.mp hhandled.1).2) (by decide)
          | some data =>
              dsimp only at hend
              rw [value_bruteforceSearch] at hend
              obtain ⟨rfl, rfl⟩ := hend
              rw [List.append_nil, statusReported_success, iff_self_and]
              intro _ other hmem
              rw [List.mem_append, List.mem_cons, List.mem_singleton] at hmem
              rcases hmem with (hopen | hseek) | hmem
              · simp at hopen
              · rw [FileEvent.sought.injEq, Except.ok.injEq] at hseek
                omega
              · exact absurd (hreads _ hmem) (by simp [FileEvent.Reads])

end Status

/-- Whatever the calls of a command answer, its return code is known, no failure passes for a success and
an unreadable file is reported, exactly if nothing fails and the IMEI that is read lies in the data, or if
the first `open` of the search or an `open` for writing of the write lacks the permission. -/
theorem exitStatus_iff (platform : Platform) (behind : Nat → UInt8) (path : Path)
    (command : ImeiCommand) (rc : Option Int) (events : List FileEvent)
    (hrun : Runs fileEnvironment (command.func platform behind path) rc events) :
    StatusReported rc events ↔ command.Handled events := by
  cases command with
  | readImei offset => exact runs_readImei hrun
  | writeImei offset imei => exact runs_writeImei hrun
  | bruteforceImei imei => exact runs_bruteforceImei hrun

/-- A search in a file that may not be read is reported as it should be. -/
theorem exitStatus_iff_search :
    StatusReported (some EACCES) [.opened .rdonly (.error EACCES)] := by
  have hrun : Runs fileEnvironment
      ((ImeiCommand.bruteforceImei sampleImei).func sampleImeiPlatform (fun _ => 0) sampleImeiPath)
      (some EACCES) [.opened .rdonly (.error EACCES)] := by
    refine ⟨.error EACCES, [], ?_, ⟨rfl, rfl⟩, rfl⟩
    rintro errno ⟨⟩
    decide
  exact (exitStatus_iff sampleImeiPlatform (fun _ => 0) sampleImeiPath (.bruteforceImei sampleImei) _ _
    hrun).mpr (Or.inl rfl)

/-- An IMEI that is read from the same file makes the assertion fail. -/
theorem read_of_unreadable_file :
    ¬∀ (platform : Platform) (behind : Nat → UInt8) (path : Path) (command : ImeiCommand)
      (rc : Option Int) (events : List FileEvent),
      Runs fileEnvironment (command.func platform behind path) rc events → StatusReported rc events := by
  intro hclaim
  have hrun : Runs fileEnvironment
      ((ImeiCommand.readImei 0).func sampleImeiPlatform (fun _ => 0) sampleImeiPath)
      (some (-1)) [.opened .rdonly (.error EACCES)] := by
    refine ⟨.error EACCES, [], ?_, ⟨rfl, rfl⟩, rfl⟩
    rintro errno ⟨⟩
    decide
  exact absurd (hclaim _ _ _ _ _ _ hrun).mapped (by decide)

end SamsungIpc

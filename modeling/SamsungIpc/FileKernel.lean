import Mathlib.Data.UInt
import Mathlib.Logic.Function.Basic
import SamsungIpc.ByteSplice
import SamsungIpc.EffectProgram

/-! The system calls the file helpers and the NV data code make, and how a kernel without I/O faults
answers them. A read or a write may be short: it moves at least one byte and at most what was asked
for, and the environment chooses how many. Opening a missing file for reading, taking its status or
unlinking it fails as it does on a healthy disk. -/

namespace SamsungIpc

open ByteSplice

abbrev Bytes := List UInt8

/-- A path or another C string, without its terminator. -/
abbrev CString := Bytes

abbrev Path := CString

abbrev Fd := Nat

abbrev Errno := Int

def ENOENT : Errno := 2
def EBADF : Errno := 9
def EACCES : Errno := 13
def EINVAL : Errno := 22
def ERANGE : Errno := 34

/-- The data models of the supported devices, which differ in the width of `size_t` and `off_t`. -/
inductive Abi where
  | ilp32
  | lp64
  deriving DecidableEq

/-- `(off_t) offset`: where `off_t` is no wider than `unsigned int`, large offsets turn negative. -/
def Abi.offT : Abi → UInt32 → Int
  | ilp32, offset => if offset.toNat < 2 ^ 31 then offset.toNat else offset.toNat - 2 ^ 32
  | lp64, offset => offset.toNat

/-- Where a descriptor that was at the start of its file is after seeking to `offset`: nowhere else if
the offset is invalid. -/
def Abi.seekPosition (abi : Abi) (offset : UInt32) : Nat := (abi.offT offset).toNat

/-- `off_t` can hold the offset. -/
def Abi.Reaches (abi : Abi) (offset : UInt32) : Prop := abi = .lp64 ∨ offset.toNat < 2 ^ 31

theorem Abi.offT_neg_iff {abi : Abi} {offset : UInt32} : abi.offT offset < 0 ↔ ¬abi.Reaches offset := by
  have hlt := offset.toNat_lt
  cases abi with
  | ilp32 =>
      simp only [offT, Reaches, reduceCtorEq, false_or]
      split_ifs
      · omega
      · omega
  | lp64 => simp [offT, Reaches]

theorem Abi.seekPosition_of_reaches {abi : Abi} {offset : UInt32} (hreaches : abi.Reaches offset) :
    abi.seekPosition offset = offset.toNat := by
  cases abi with
  | ilp32 =>
      have hlt := hreaches.resolve_left nofun
      rw [seekPosition, offT, if_pos hlt, Int.toNat_natCast]
  | lp64 => rfl

theorem Abi.seekPosition_of_not_reaches {abi : Abi} {offset : UInt32}
    (hreaches : ¬abi.Reaches offset) : abi.seekPosition offset = 0 := by
  obtain ⟨habi, hlarge⟩ := not_or.mp hreaches
  cases abi with
  | ilp32 =>
      have hlt := offset.toNat_lt
      rw [seekPosition, offT, if_neg hlarge, Int.toNat_of_nonpos (by omega)]
  | lp64 => exact absurd rfl habi

@[simp] theorem Abi.seekPosition_zero (abi : Abi) : abi.seekPosition 0 = 0 := by
  cases abi <;> rfl

/-- The open flags in use: `O_RDONLY`, and `O_WRONLY | O_CREAT`. -/
inductive OpenMode where
  | rdonly
  | wronlyCreat
  deriving DecidableEq

inductive Whence where
  | seekSet
  | seekEnd
  deriving DecidableEq

/-- A call and the type of its answer; the error of a failed call is its `errno`. `stat` answers
with `st_size`, `read` with the bytes it stored, `write` with their number. -/
inductive Syscall : Type → Type where
  | stat (path : Path) : Syscall (Except Errno Nat)
  | openFile (path : Path) (mode : OpenMode) : Syscall (Except Errno Fd)
  | lseek (fd : Fd) (offset : Int) (whence : Whence) : Syscall (Except Errno Nat)
  | read (fd : Fd) (count : Nat) : Syscall (Except Errno Bytes)
  | write (fd : Fd) (bytes : Bytes) : Syscall (Except Errno Nat)
  | close (fd : Fd) : Syscall Unit
  | unlink (path : Path) : Syscall (Except Errno Unit)

abbrev Sys := Effect.Prog Syscall

namespace Sys

def stat (path : Path) : Sys (Except Errno Nat) := .perform (.stat path)

def openFile (path : Path) (mode : OpenMode) : Sys (Except Errno Fd) := .perform (.openFile path mode)

def lseek (fd : Fd) (offset : Int) (whence : Whence) : Sys (Except Errno Nat) :=
  .perform (.lseek fd offset whence)

def read (fd : Fd) (count : Nat) : Sys (Except Errno Bytes) := .perform (.read fd count)

def write (fd : Fd) (bytes : Bytes) : Sys (Except Errno Nat) := .perform (.write fd bytes)

def close (fd : Fd) : Sys Unit := .perform (.close fd)

def unlink (path : Path) : Sys (Except Errno Unit) := .perform (.unlink path)

end Sys

/-- What is on the disk: the content of every file there is. -/
abbrev FileSystem := Path → Option Bytes

namespace FileSystem

def put (fs : FileSystem) (path : Path) (content : Bytes) : FileSystem :=
  Function.update fs path (some content)

def remove (fs : FileSystem) (path : Path) : FileSystem := Function.update fs path none

@[simp] theorem put_self (fs : FileSystem) (path : Path) (content : Bytes) :
    fs.put path content path = some content := Function.update_self path _ fs

@[simp] theorem put_of_ne {path other : Path} (hne : other ≠ path) (fs : FileSystem)
    (content : Bytes) : fs.put path content other = fs other := Function.update_of_ne hne _ fs

@[simp] theorem remove_self (fs : FileSystem) (path : Path) : fs.remove path path = none :=
  Function.update_self path _ fs

@[simp] theorem remove_of_ne {path other : Path} (hne : other ≠ path) (fs : FileSystem) :
    fs.remove path other = fs other := Function.update_of_ne hne _ fs

theorem put_put (fs : FileSystem) (path : Path) (first second : Bytes) :
    (fs.put path first).put path second = fs.put path second :=
  Function.update_idem ..

/-- A file that neither of two writes is to. -/
theorem put_put_of_ne {first second other : Path} (hfirst : other ≠ first) (hsecond : other ≠ second)
    (fs : FileSystem) (content content' : Bytes) :
    ((fs.put first content).put second content') other = fs other := by
  rw [put_of_ne hsecond, put_of_ne hfirst]

theorem remove_of_eq {fs : FileSystem} {path : Path} (h : fs path = none) :
    fs.remove path = fs := by
  rw [remove, ← h, Function.update_eq_self]

end FileSystem

/-- An open file description. No file is unlinked while the modelled code has it open, so the path
stands for the inode. -/
structure OpenFile where
  path : Path
  offset : Nat
  mode : OpenMode

structure Kernel where
  files : FileSystem
  fds : Fd → Option OpenFile
  nextFd : Fd

namespace Kernel

/-- A process that has just started on the disk `files`: only the standard descriptors are taken. -/
def boot (files : FileSystem) : Kernel := ⟨files, fun _ => none, 3⟩

def install (σ : Kernel) (file : OpenFile) : Kernel :=
  { σ with fds := Function.update σ.fds σ.nextFd (some file), nextFd := σ.nextFd + 1 }

def setFd (σ : Kernel) (fd : Fd) (file : Option OpenFile) : Kernel :=
  { σ with fds := Function.update σ.fds fd file }

@[simp] theorem boot_files (files : FileSystem) : (boot files).files = files := rfl

@[simp] theorem install_fds (σ : Kernel) (file : OpenFile) :
    (σ.install file).fds σ.nextFd = some file := Function.update_self ..

@[simp] theorem setFd_fds (σ : Kernel) (fd : Fd) (file : Option OpenFile) :
    (σ.setFd fd file).fds fd = file := Function.update_self ..

end Kernel

/-- Linux moves at most this many bytes in one call, so the result fits the callers' `int`. -/
def rwCountMax : Nat := 0x7ffff000

/-- How many of `count` bytes a call moves, for the environment's choice. -/
def transferred (choice count : Nat) : Nat := min (min (choice + 1) count) rwCountMax

theorem transferred_le (choice count : Nat) : transferred choice count ≤ count := by
  simp only [transferred]
  omega

theorem transferred_pos (choice : Nat) {count : Nat} (hcount : 0 < count) :
    0 < transferred choice count := by
  simp only [transferred, rwCountMax]
  omega

def kernelStep : Effect.Handler Syscall Nat Kernel
  | _, _, .stat path, σ =>
      match σ.files path with
      | none => (.error ENOENT, σ)
      | some content => (.ok content.length, σ)
  | _, _, .openFile path .rdonly, σ =>
      match σ.files path with
      | none => (.error ENOENT, σ)
      | some _ => (.ok σ.nextFd, σ.install ⟨path, 0, .rdonly⟩)
  | _, _, .openFile path .wronlyCreat, σ =>
      let created := { σ with files := σ.files.put path ((σ.files path).getD []) }
      (.ok σ.nextFd, created.install ⟨path, 0, .wronlyCreat⟩)
  | _, _, .lseek fd offset whence, σ =>
      match σ.fds fd with
      | none => (.error EBADF, σ)
      | some file =>
          let position : Int := match whence with
            | .seekSet => offset
            | .seekEnd => ((σ.files file.path).getD []).length + offset
          if position < 0 then (.error EINVAL, σ)
          else (.ok position.toNat, σ.setFd fd (some { file with offset := position.toNat }))
  | _, choice, .read fd count, σ =>
      match σ.fds fd with
      | some ⟨path, offset, .rdonly⟩ =>
          let content := (σ.files path).getD []
          let bytes := (content.drop offset).take (transferred choice count)
          (.ok bytes, σ.setFd fd (some ⟨path, offset + bytes.length, .rdonly⟩))
      | _ => (.error EBADF, σ)
  | _, choice, .write fd bytes, σ =>
      match σ.fds fd with
      | some ⟨path, offset, .wronlyCreat⟩ =>
          let moved := transferred choice bytes.length
          let content := splice ((σ.files path).getD []) offset (bytes.take moved)
          (.ok moved, { σ with files := σ.files.put path content }.setFd fd
            (some ⟨path, offset + moved, .wronlyCreat⟩))
      | _ => (.error EBADF, σ)
  | _, _, .close fd, σ => ((), σ.setFd fd none)
  | _, _, .unlink path, σ =>
      match σ.files path with
      | none => (.error ENOENT, σ)
      | some _ => (.ok (), { σ with files := σ.files.remove path })

namespace Sys

variable {α : Type}

/-- The result and the final state of a run of `p`, for the environment's choices. -/
def run (p : Sys α) (choices : Stream' Nat) (σ : Kernel) : α × Kernel :=
  Effect.exec kernelStep p choices σ

/-- The disks a process that runs `p` can leave behind by stopping between two calls. -/
def crashDisks (p : Sys α) (choices : Stream' Nat) (σ : Kernel) : List FileSystem :=
  (Effect.stops kernelStep p choices σ).map Kernel.files

/-- The function returns `0`, however its transfers go. -/
def Passes (p : Sys Int) (σ : Kernel) : Prop := ∀ choices, (p.run choices σ).1 = 0

/-- Every run of `p` keeps `I` of the disk at each step and ends with `Q`. -/
def wp (I : FileSystem → Prop) (p : Sys α) (Q : α → Kernel → Prop) (σ : Kernel) : Prop :=
  Effect.wp kernelStep (fun σ => I σ.files) p Q σ

variable {I : FileSystem → Prop} {σ : Kernel} {path : Path} {fd : Fd}

theorem wp_run {p : Sys α} {Q : α → Kernel → Prop} (hp : wp I p Q σ) (choices : Stream' Nat) :
    Q (p.run choices σ).1 (p.run choices σ).2 := Effect.wp_exec hp choices

/-- A function whose runs from `σ` all return `0` exactly when `P` holds passes exactly then. -/
theorem passes_iff {p : Sys Int} {P : Prop}
    (hp : wp (fun _ => True) p (fun rc _ => rc = 0 ↔ P) σ) :
    p.Passes σ ↔ P :=
  ⟨fun hpasses => (wp_run hp (Stream'.const 0)).mp (hpasses _),
    fun hP choices => (wp_run hp choices).mpr hP⟩

theorem wp_crashDisks {p : Sys α} {Q : α → Kernel → Prop} (hp : wp I p Q σ)
    (choices : Stream' Nat) : ∀ fs ∈ p.crashDisks choices σ, I fs := by
  intro fs hfs
  obtain ⟨σ', hσ', rfl⟩ := List.mem_map.mp hfs
  exact Effect.wp_stops hp choices σ' hσ'

theorem wp_pure {value : α} {Q : α → Kernel → Prop} (hI : I σ.files) (hQ : Q value σ) :
    wp I (pure value) Q σ := ⟨hI, hQ⟩

theorem wp_bind {β : Type} {p : Sys α} {rest : α → Sys β} {Q : β → Kernel → Prop}
    (hp : wp I p (fun value σ' => wp I (rest value) Q σ') σ) : wp I (p >>= rest) Q σ :=
  Effect.wp_bind.mpr hp

theorem wp_stat {Q : Except Errno Nat → Kernel → Prop} (hI : I σ.files)
    (hnone : σ.files path = none → Q (.error ENOENT) σ)
    (hsome : ∀ content, σ.files path = some content → Q (.ok content.length) σ) :
    wp I (stat path) Q σ := by
  refine ⟨hI, fun _ => ?_⟩
  cases hpath : σ.files path with
  | none => simpa only [kernelStep, hpath] using ⟨hI, hnone hpath⟩
  | some content => simpa only [kernelStep, hpath] using ⟨hI, hsome content hpath⟩

theorem wp_openRead {Q : Except Errno Fd → Kernel → Prop} (hI : I σ.files)
    (hnone : σ.files path = none → Q (.error ENOENT) σ)
    (hsome : ∀ content, σ.files path = some content → ∀ σ', σ'.files = σ.files →
      σ'.fds σ.nextFd = some ⟨path, 0, .rdonly⟩ → Q (.ok σ.nextFd) σ') :
    wp I (openFile path .rdonly) Q σ := by
  refine ⟨hI, fun _ => ?_⟩
  cases hpath : σ.files path with
  | none => simpa only [kernelStep, hpath] using ⟨hI, hnone hpath⟩
  | some content =>
      have hopened := hsome content hpath (σ.install ⟨path, 0, .rdonly⟩) rfl (Kernel.install_fds _ _)
      simpa only [kernelStep, hpath] using ⟨hI, hopened⟩

theorem wp_openWrite {Q : Except Errno Fd → Kernel → Prop} (hI : I σ.files)
    (hcreated : I (σ.files.put path ((σ.files path).getD [])))
    (hQ : ∀ σ', σ'.files = σ.files.put path ((σ.files path).getD []) →
      σ'.fds σ.nextFd = some ⟨path, 0, .wronlyCreat⟩ → Q (.ok σ.nextFd) σ') :
    wp I (openFile path .wronlyCreat) Q σ :=
  ⟨hI, fun _ => ⟨hcreated, hQ _ rfl (Kernel.install_fds _ _)⟩⟩

/-- A seek to a negative offset fails and leaves the descriptor where it is. -/
theorem wp_seek {Q : Except Errno Nat → Kernel → Prop} {file : OpenFile} {offset : Int}
    (hfd : σ.fds fd = some file) (hI : I σ.files) (hinvalid : offset < 0 → Q (.error EINVAL) σ)
    (hQ : 0 ≤ offset → ∀ σ', σ'.files = σ.files →
      σ'.fds fd = some { file with offset := offset.toNat } → Q (.ok offset.toNat) σ') :
    wp I (lseek fd offset .seekSet) Q σ := by
  refine ⟨hI, fun _ => ?_⟩
  by_cases hneg : offset < 0
  · simpa only [kernelStep, hfd, if_pos hneg] using ⟨hI, hinvalid hneg⟩
  · have hsought := hQ (not_lt.mp hneg) (σ.setFd fd (some { file with offset := offset.toNat })) rfl
      (Kernel.setFd_fds _ _ _)
    simpa only [kernelStep, hfd, if_neg hneg] using ⟨hI, hsought⟩

/-- A read delivers the next bytes of the file: some of them as long as there are any. -/
theorem wp_read {Q : Except Errno Bytes → Kernel → Prop} {content : Bytes} {offset count : Nat}
    (hfd : σ.fds fd = some ⟨path, offset, .rdonly⟩) (hpath : σ.files path = some content)
    (hcount : 0 < count) (hI : I σ.files)
    (hQ : ∀ moved, 0 < moved → moved ≤ count → ∀ σ', σ'.files = σ.files →
      σ'.fds fd = some ⟨path, offset + ((content.drop offset).take moved).length, .rdonly⟩ →
      Q (.ok ((content.drop offset).take moved)) σ') :
    wp I (read fd count) Q σ := by
  refine ⟨hI, fun choice => ?_⟩
  have hmoved := hQ (transferred choice count) (transferred_pos choice hcount)
    (transferred_le choice count) (σ.setFd fd _) rfl (Kernel.setFd_fds _ _ _)
  simpa only [kernelStep, hfd, hpath, Option.getD_some] using ⟨hI, hmoved⟩

/-- A write stores some of the bytes it was given, and says how many. -/
theorem wp_write {Q : Except Errno Nat → Kernel → Prop} {content bytes : Bytes} {offset : Nat}
    (hfd : σ.fds fd = some ⟨path, offset, .wronlyCreat⟩) (hpath : σ.files path = some content)
    (hbytes : 0 < bytes.length) (hI : I σ.files)
    (hwritten : ∀ moved, 0 < moved → moved ≤ bytes.length →
      I (σ.files.put path (splice content offset (bytes.take moved))))
    (hQ : ∀ moved, 0 < moved → moved ≤ bytes.length → ∀ σ',
      σ'.files = σ.files.put path (splice content offset (bytes.take moved)) →
      σ'.fds fd = some ⟨path, offset + moved, .wronlyCreat⟩ → Q (.ok moved) σ') :
    wp I (write fd bytes) Q σ := by
  refine ⟨hI, fun choice => ?_⟩
  have hpos := transferred_pos choice hbytes
  have hle := transferred_le choice bytes.length
  have hdone := hQ _ hpos hle _ rfl (Kernel.setFd_fds
    { σ with files := σ.files.put path (splice content offset (bytes.take _)) } fd _)
  simpa only [kernelStep, hfd, hpath, Option.getD_some] using ⟨hwritten _ hpos hle, hdone⟩

theorem wp_close {Q : Unit → Kernel → Prop} (hI : I σ.files)
    (hQ : ∀ σ', σ'.files = σ.files → Q () σ') : wp I (close fd) Q σ :=
  ⟨hI, fun _ => ⟨hI, hQ _ rfl⟩⟩

/-- After `unlink` the file is gone; whether there was one only shows in the answer. -/
theorem wp_unlink {Q : Except Errno Unit → Kernel → Prop} (hI : I σ.files)
    (hremoved : I (σ.files.remove path))
    (hQ : ∀ answer σ', σ'.files = σ.files.remove path →
      (answer = .ok () ∨ σ.files path = none) → Q answer σ') :
    wp I (unlink path) Q σ := by
  refine ⟨hI, fun _ => ?_⟩
  cases hpath : σ.files path with
  | none =>
      have hsame : σ.files = σ.files.remove path := (FileSystem.remove_of_eq hpath).symm
      simpa only [kernelStep, hpath] using ⟨hI, hQ _ σ hsame (Or.inr hpath)⟩
  | some content =>
      simpa only [kernelStep, hpath] using ⟨hremoved, hQ _ _ rfl (Or.inl rfl)⟩

end Sys

end SamsungIpc

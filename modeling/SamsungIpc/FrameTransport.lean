import SamsungIpc.FrameHeader
import SamsungIpc.TransferLoop

/-! Sending and receiving frames over the stream devices of the XMM626 kernel driver and of Aries, for
a client with handlers. The results of the `read` or `write` handler, in their order, drive a run:
`none` stands for a negative result, and a run whose results are used up is waiting in the handler. -/

namespace SamsungIpc

open ByteSplice TransferLoop

namespace Abi

def sizeBits : Abi → Nat
  | ilp32 => 32
  | lp64 => 64

/-- Subtraction in `size_t`. -/
def sub (abi : Abi) (a b : Nat) : Nat := (a + (2 ^ abi.sizeBits - b)) % 2 ^ abi.sizeBits

/-- `calloc(1, size)`. An object is smaller than half of the address space; there is memory for every
request up to there. -/
def calloc (abi : Abi) (size : Nat) : Option Bytes :=
  if size < 2 ^ (abi.sizeBits - 1) then some (List.replicate size 0) else none

theorem calloc_of_lt {abi : Abi} {size : Nat} (hsize : size < 2 ^ (abi.sizeBits - 1)) :
    abi.calloc size = some (List.replicate size 0) := if_pos hsize

theorem calloc_of_le {abi : Abi} {size : Nat} (hsize : 2 ^ (abi.sizeBits - 1) ≤ size) :
    abi.calloc size = none := if_neg (not_lt.mpr hsize)

/-- Half of the address space is two gigabytes or more. -/
theorem le_half (abi : Abi) : 2 ^ 31 ≤ 2 ^ (abi.sizeBits - 1) := by
  cases abi <;> decide

theorem two_mul_half (abi : Abi) : 2 * 2 ^ (abi.sizeBits - 1) = 2 ^ abi.sizeBits := by
  cases abi <;> decide

theorem sub_of_le {abi : Abi} {a b : Nat} (hle : b ≤ a) (ha : a < 2 ^ abi.sizeBits) :
    abi.sub a b = a - b := by
  have hsum : a + (2 ^ abi.sizeBits - b) = a - b + 2 ^ abi.sizeBits := by omega
  rw [sub, hsum, Nat.add_mod_right, Nat.mod_eq_of_lt (by omega)]

theorem sub_le {abi : Abi} {a b : Nat} (hle : b ≤ a) (hb : b ≤ 2 ^ 31) : abi.sub a b ≤ a - b := by
  have hbits : b ≤ 2 ^ abi.sizeBits := by
    have hhalf := abi.le_half
    have htwo := abi.two_mul_half
    omega
  have hsum : a + (2 ^ abi.sizeBits - b) = a - b + 2 ^ abi.sizeBits := by omega
  rw [sub, hsum, Nat.add_mod_right]
  exact Nat.mod_le _ _

/-- A difference below zero wraps around. -/
theorem sub_of_lt {abi : Abi} {a b : Nat} (hlt : a < b) (hb : b ≤ 2 ^ abi.sizeBits) :
    abi.sub a b = 2 ^ abi.sizeBits - (b - a) := by
  have hsum : a + (2 ^ abi.sizeBits - b) = 2 ^ abi.sizeBits - (b - a) := by omega
  rw [sub, hsum, Nat.mod_eq_of_lt (by omega)]

end Abi

inductive Status where
  | waiting
  /-- The function has stored bytes through `NULL`. -/
  | fault
  | returned (rc : Int)
  deriving DecidableEq

def Status.ofOutcome : Outcome → Status
  | .complete => .returned 0
  | .failed => .returned (-1)
  | .waiting => .waiting

theorem Status.ofOutcome_eq_zero_iff {outcome : Outcome} :
    Status.ofOutcome outcome = .returned 0 ↔ outcome = .complete := by
  cases outcome <;> decide

theorem Status.ofOutcome_eq_zero {outcome : Outcome} (hfailed : outcome ≠ .failed)
    (hwaiting : Status.ofOutcome outcome ≠ .waiting) : Status.ofOutcome outcome = .returned 0 := by
  cases outcome with
  | complete => rfl
  | failed => exact absurd rfl hfailed
  | waiting => exact absurd rfl hwaiting

theorem Status.ofOutcome_ne_fault (outcome : Outcome) : Status.ofOutcome outcome ≠ .fault := by
  cases outcome <;> decide

def xmm626DataSize : Nat := 0x1000

def xmm626DataSizeLimit : Nat := 0x80000

def ariesBufferLength : Nat := 4032

def ariesDataSizeLimit : Nat := 0x80000

/-- What tells the two transports apart. -/
structure Transport where
  /-- The size of the buffer for the first read. -/
  bufferLength : Nat
  policy : Policy
  /-- The payload a header announces, from its length field and the size of the header. -/
  payloadLength : Abi → Nat → Nat → Nat

def xmm626Transport : Transport where
  bufferLength := xmm626DataSize
  policy :=
    { request := fun left => left
      zeroFails := true
      request_pos := fun hleft => hleft
      request_le := fun _ => le_rfl }
  payloadLength _ length headerSize := if length > headerSize then length - headerSize else 0

def ariesTransport : Transport where
  bufferLength := ariesBufferLength
  policy :=
    { request := fun left => if left < ariesBufferLength then left else ariesBufferLength
      zeroFails := false
      request_pos := by
        intro left hleft
        split
        · exact hleft
        · decide
      request_le := by
        intro left
        split <;> omega }
  payloadLength abi length headerSize := abi.sub length headerSize

/-! ### Sending -/

/-- The bytes a send copies behind the header. -/
def IpcMessage.payload (message : IpcMessage) : Bytes := (message.data.getD []).take message.size

/-- A run of a send: the size of the frame buffer, how far the copies into it reach, the pieces the
`write` handler has accepted, and how the run has ended. -/
structure SendRun where
  allocated : Nat
  filled : Nat
  sent : List Bytes
  status : Status

variable {H : Type}

def frameSend (abi : Abi) (format : HeaderFormat H) (transport : Transport) (message : IpcMessage)
    (writes : List (Option Nat)) : SendRun :=
  let header := format.headerSetup message
  let length := format.length header
  match abi.calloc length with
  | none => ⟨0, 0, [], .fault⟩
  | some buffer =>
      let buffer := splice buffer 0 (format.toBytes header)
      let buffer := splice buffer format.size message.payload
      let loop := sendLoop transport.policy writes (buffer.take length)
      ⟨length, format.size + message.payload.length, loop.2, .ofOutcome loop.1⟩

def xmm626KernelSmdk4412FmtSend (abi : Abi) : IpcMessage → List (Option Nat) → SendRun :=
  frameSend abi fmtFormat xmm626Transport

def xmm626KernelSmdk4412RfsSend (abi : Abi) : IpcMessage → List (Option Nat) → SendRun :=
  frameSend abi rfsFormat xmm626Transport

def ariesFmtSend (abi : Abi) : IpcMessage → List (Option Nat) → SendRun :=
  frameSend abi fmtFormat ariesTransport

def ariesRfsSend (abi : Abi) : IpcMessage → List (Option Nat) → SendRun :=
  frameSend abi rfsFormat ariesTransport

/-! ### Receiving -/

/-- A run of a receive: the caller's message, how many bytes were stored in `message.data`, and how
the run has ended. -/
structure RecvRun where
  message : IpcMessage
  stored : Nat
  status : Status
  deriving DecidableEq

/-- The payload: `message.data` is allocated, takes what came with the header, and then what the
loop reads. The stores are consecutive, from the start of the buffer. -/
def payloadRecv (abi : Abi) (transport : Transport) (message : IpcMessage) (length : Nat)
    (copied : Bytes) (reads : List (Option Bytes)) : RecvRun :=
  let loop := recvLoop transport.policy reads (length - copied.length)
  let stored := copied ++ loop.2
  match abi.calloc length with
  | some buffer =>
      let message := { message with data := some (splice buffer 0 stored), size := length }
      ⟨message, stored.length, .ofOutcome loop.1⟩
  | none =>
      let message := { message with data := none, size := length }
      if stored = [] then ⟨message, 0, .ofOutcome loop.1⟩ else ⟨message, 0, .fault⟩

/-- `limit` is the largest length field that is accepted, where there is one. -/
def frameRecv (abi : Abi) (format : HeaderFormat H) (transport : Transport) (limit : Option Nat) :
    List (Option Bytes) → IpcMessage → RecvRun
  | [], message => ⟨message, 0, .waiting⟩
  | none :: _, message => ⟨message, 0, .returned (-1)⟩
  | some delivered :: reads, message =>
      let buffer := delivered.take transport.bufferLength
      if buffer.length < format.size then ⟨message, 0, .returned (-1)⟩
      else
        let header := format.ofBytes buffer
        if limit.any (format.length header > ·) then ⟨message, 0, .returned (-1)⟩
        else
          let message := format.messageSetup header
          let length := transport.payloadLength abi (format.length header) format.size
          if length > 0 then
            payloadRecv abi transport message length (buffer.drop format.size) reads
          else ⟨message, 0, .returned 0⟩

def xmm626KernelSmdk4412FmtRecv (abi : Abi) : List (Option Bytes) → IpcMessage → RecvRun :=
  frameRecv abi fmtFormat xmm626Transport none

def xmm626KernelSmdk4412RfsRecv (abi : Abi) : List (Option Bytes) → IpcMessage → RecvRun :=
  frameRecv abi rfsFormat xmm626Transport (some xmm626DataSizeLimit)

def ariesFmtRecv (abi : Abi) : List (Option Bytes) → IpcMessage → RecvRun :=
  frameRecv abi fmtFormat ariesTransport none

def ariesRfsRecv (abi : Abi) : List (Option Bytes) → IpcMessage → RecvRun :=
  frameRecv abi rfsFormat ariesTransport (some ariesDataSizeLimit)

end SamsungIpc

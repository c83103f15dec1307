import Mathlib.Data.Nat.Bitwise
import SamsungIpc.FileKernel
import SamsungIpc.LittleEndian

/-! Messages and the two packed headers they travel under, in the memory of a little-endian machine.
A header type comes with what the transports need of it: its size, its length field, and the way
from a message to a header and back. -/

namespace SamsungIpc

open LittleEndian

/-- `struct ipc_message`; `data` is `none` for `NULL`. -/
structure IpcMessage where
  mseq : UInt8
  aseq : UInt8
  command : UInt16
  type : UInt8
  data : Option Bytes
  size : Nat
  deriving DecidableEq

def ipcGroupRfs : UInt8 := 0x42

def ipcCommand (group index : UInt8) : UInt16 := (group.toUInt16 <<< 8) ||| index.toUInt16

def ipcGroup (command : UInt16) : UInt8 := (command >>> 8).toUInt8

def ipcIndex (command : UInt16) : UInt8 := (command &&& 0xff).toUInt8

theorem toNat_ipcCommand (group index : UInt8) :
    (ipcCommand group index).toNat = 256 * group.toNat + index.toNat := by
  have hgroup := group.toNat_lt
  have hindex : index.toNat < 2 ^ 8 := index.toNat_lt
  have hshift : (group.toUInt16 <<< 8).toNat = 2 ^ 8 * group.toNat := by
    rw [UInt16.toNat_shiftLeft, UInt8.toNat_toUInt16, Nat.shiftLeft_eq]
    change group.toNat * 2 ^ 8 % 2 ^ 16 = _
    omega
  rw [ipcCommand, UInt16.toNat_or, hshift, UInt8.toNat_toUInt16,
    ← Nat.two_pow_add_eq_or_of_lt hindex]

theorem toNat_ipcGroup (command : UInt16) : (ipcGroup command).toNat = command.toNat / 256 := by
  have hcommand := command.toNat_lt
  rw [ipcGroup, UInt16.toNat_toUInt8, UInt16.toNat_shiftRight, Nat.shiftRight_eq_div_pow]
  change command.toNat / 2 ^ 8 % 2 ^ 8 = _
  omega

theorem toNat_ipcIndex (command : UInt16) : (ipcIndex command).toNat = command.toNat % 256 := by
  rw [ipcIndex, UInt16.toNat_toUInt8, UInt16.toNat_and]
  change (command.toNat &&& 2 ^ 8 - 1) % 2 ^ 8 = _
  rw [Nat.and_two_pow_sub_one_eq_mod]
  omega

/-- A command is its group and its index. -/
theorem ipcCommand_group_index (command : UInt16) :
    ipcCommand (ipcGroup command) (ipcIndex command) = command := by
  apply UInt16.toNat_inj.mp
  rw [toNat_ipcCommand, toNat_ipcGroup, toNat_ipcIndex]
  omega

/-- `struct ipc_fmt_header`. -/
structure IpcFmtHeader where
  length : UInt16
  mseq : UInt8
  aseq : UInt8
  group : UInt8
  index : UInt8
  type : UInt8

/-- `struct ipc_rfs_header`. -/
structure IpcRfsHeader where
  length : UInt32
  index : UInt8
  id : UInt8

def sizeofIpcFmtHeader : Nat := 7

def sizeofIpcRfsHeader : Nat := 6

def ipcFmtHeaderSetup (message : IpcMessage) : IpcFmtHeader where
  length := UInt16.ofNat (message.size + sizeofIpcFmtHeader)
  mseq := message.mseq
  aseq := message.aseq
  group := ipcGroup message.command
  index := ipcIndex message.command
  type := message.type

def ipcFmtMessageSetup (header : IpcFmtHeader) : IpcMessage where
  mseq := header.mseq
  aseq := header.aseq
  command := ipcCommand header.group header.index
  type := header.type
  data := none
  size := 0

def ipcRfsHeaderSetup (message : IpcMessage) : IpcRfsHeader where
  length := UInt32.ofNat (message.size + sizeofIpcRfsHeader)
  index := ipcIndex message.command
  id := message.mseq

def ipcRfsMessageSetup (header : IpcRfsHeader) : IpcMessage where
  mseq := 0
  aseq := header.id
  command := ipcCommand ipcGroupRfs header.index
  type := 0
  data := none
  size := 0

/-! ### Headers in memory -/

namespace IpcFmtHeader

def toBytes (header : IpcFmtHeader) : Bytes :=
  encode 2 header.length.toNat ++
    [header.mseq, header.aseq, header.group, header.index, header.type]

/-- The header at the start of a buffer. -/
def ofBytes (buffer : Bytes) : IpcFmtHeader where
  length := UInt16.ofNat (decode (buffer.take 2))
  mseq := buffer.getD 2 0
  aseq := buffer.getD 3 0
  group := buffer.getD 4 0
  index := buffer.getD 5 0
  type := buffer.getD 6 0

theorem ofBytes_toBytes (header : IpcFmtHeader) (rest : Bytes) :
    ofBytes (header.toBytes ++ rest) = header := by
  obtain ⟨length, mseq, aseq, group, index, type⟩ := header
  have hlt : length.toNat < 256 ^ 2 := length.toNat_lt
  have hlength : UInt16.ofNat (decode (encode 2 length.toNat)) = length := by
    rw [decode_encode, Nat.mod_eq_of_lt hlt, UInt16.ofNat_toNat]
  exact congrArg (IpcFmtHeader.mk · mseq aseq group index type) hlength

end IpcFmtHeader

namespace IpcRfsHeader

def toBytes (header : IpcRfsHeader) : Bytes :=
  encode 4 header.length.toNat ++ [header.index, header.id]

/-- The header at the start of a buffer. -/
def ofBytes (buffer : Bytes) : IpcRfsHeader where
  length := UInt32.ofNat (decode (buffer.take 4))
  index := buffer.getD 4 0
  id := buffer.getD 5 0

theorem ofBytes_toBytes (header : IpcRfsHeader) (rest : Bytes) :
    ofBytes (header.toBytes ++ rest) = header := by
  obtain ⟨length, index, id⟩ := header
  have hlt : length.toNat < 256 ^ 4 := length.toNat_lt
  have hlength : UInt32.ofNat (decode (encode 4 length.toNat)) = length := by
    rw [decode_encode, Nat.mod_eq_of_lt hlt, UInt32.ofNat_toNat]
  exact congrArg (IpcRfsHeader.mk · index id) hlength

end IpcRfsHeader

/-- What the transports need of a header type. -/
structure HeaderFormat (H : Type) where
  size : Nat
  lengthBits : Nat
  length : H → Nat
  toBytes : H → Bytes
  ofBytes : Bytes → H
  headerSetup : IpcMessage → H
  messageSetup : H → IpcMessage
  size_pos : 0 < size
  length_lt : ∀ header, length header < 2 ^ lengthBits
  length_toBytes : ∀ header, (toBytes header).length = size
  ofBytes_toBytes : ∀ header rest, ofBytes (toBytes header ++ rest) = header
  length_headerSetup : ∀ message,
    length (headerSetup message) = (message.size + size) % 2 ^ lengthBits
  data_messageSetup : ∀ header, (messageSetup header).data = none
  size_messageSetup : ∀ header, (messageSetup header).size = 0

def fmtFormat : HeaderFormat IpcFmtHeader where
  size := sizeofIpcFmtHeader
  lengthBits := 16
  length header := header.length.toNat
  toBytes := IpcFmtHeader.toBytes
  ofBytes := IpcFmtHeader.ofBytes
  headerSetup := ipcFmtHeaderSetup
  messageSetup := ipcFmtMessageSetup
  size_pos := by decide
  length_lt header := header.length.toNat_lt
  length_toBytes _ := rfl
  ofBytes_toBytes := IpcFmtHeader.ofBytes_toBytes
  length_headerSetup _ := UInt16.toNat_ofNat'
  data_messageSetup _ := rfl
  size_messageSetup _ := rfl

def rfsFormat : HeaderFormat IpcRfsHeader where
  size := sizeofIpcRfsHeader
  lengthBits := 32
  length header := header.length.toNat
  toBytes := IpcRfsHeader.toBytes
  ofBytes := IpcRfsHeader.ofBytes
  headerSetup := ipcRfsHeaderSetup
  messageSetup := ipcRfsMessageSetup
  size_pos := by decide
  length_lt header := header.length.toNat_lt
  length_toBytes _ := rfl
  ofBytes_toBytes := IpcRfsHeader.ofBytes_toBytes
  length_headerSetup _ := UInt32.toNat_ofNat'
  data_messageSetup _ := rfl
  size_messageSetup _ := rfl

end SamsungIpc

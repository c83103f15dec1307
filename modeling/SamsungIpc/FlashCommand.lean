import Mathlib.Order.Bounds.Defs
import SamsungIpc.FrameTransport

/-! The commands the boot code sends to an XMM626 over MIPI and over HSIC, each with the reply it waits
for. What the device answers to one command is given beforehand; a run records what was written and
how the memory of the reply was used. -/

namespace SamsungIpc

open ByteSplice

/-- `(int) size`. -/
def cInt (size : Nat) : Int :=
  if size % 2 ^ 32 < 2 ^ 31 then (size % 2 ^ 32 : Nat) else (size % 2 ^ 32 : Nat) - 2 ^ 32

theorem cInt_of_lt {size : Nat} (hsize : size < 2 ^ 31) : cInt size = size := by
  have hmod : size % 2 ^ 32 = size := Nat.mod_eq_of_lt (by omega)
  rw [cInt, hmod, if_pos hsize]

def Abi.sizeBytes (abi : Abi) : Nat := abi.sizeBits / 8

def xmm626CommandFlashSetAddress : UInt16 := 0x802

def xmm626CommandFlashWriteBlock : UInt16 := 0x804

/-- The checksum of both buses. The counter of the loop is an `int`. -/
def xmm626CommandChecksum (code : UInt16) (data : Bytes) : UInt16 :=
  (data.take (cInt data.length).toNat).foldl (fun checksum byte => checksum + byte.toUInt16)
    (UInt16.ofNat (data.length &&& 0xffff) + code)

/-- How the memory of a reply was used. -/
structure ReplyMemory where
  /-- The size of the reply buffer, once there is one. -/
  allocated : Option Nat
  /-- The blocks read into the buffer, by offset and length. -/
  stores : List (Nat × Nat)
  /-- Whether the header was copied out of the buffer. -/
  headerCopied : Bool

def ReplyMemory.unused : ReplyMemory := ⟨none, [], false⟩

/-- What a command did. -/
structure CommandRun where
  /-- The bytes given to `write`. -/
  frame : Option Bytes
  memory : ReplyMemory
  status : Status

/-- A run that ends before a reply is read. -/
def CommandRun.early (frame : Option Bytes) (rc : Int) : CommandRun := ⟨frame, .unused, .returned rc⟩

/-! ### MIPI -/

def xmm626MipiCommandHeaderMagic : Nat := 0x02

def xmm626MipiCommandFooterMagic : Nat := 0x03

def xmm626MipiCommandFooterUnknown : Nat := 0xEAEA

/-- The size of `struct xmm626_mipi_command_header`. -/
def xmm626MipiCommandHeaderSize : Nat := 10

/-- The answers to one pass of the loop that reads a reply: the result of `select`, and the bytes a
`read` of four delivers, `none` for a negative result. -/
structure MipiBlock where
  ready : Int
  bytes : Option Bytes

/-- The answers to one command: the result of a `write` of this many bytes, the result of the first
`select`, the bytes of the reply's length, and the blocks behind it. -/
structure MipiAnswers where
  write : Nat → Int
  ready : Int
  length : Option Bytes
  blocks : Nat → MipiBlock

def xmm626MipiCommandHeader (code : UInt16) (size : Nat) : Bytes :=
  LittleEndian.encode 4 (size + xmm626MipiCommandHeaderSize) ++
    LittleEndian.encode 2 xmm626MipiCommandHeaderMagic ++ LittleEndian.encode 2 code.toNat ++
      LittleEndian.encode 2 size

def xmm626MipiCommandFooter (checksum : UInt16) : Bytes :=
  LittleEndian.encode 2 checksum.toNat ++ LittleEndian.encode 2 xmm626MipiCommandFooterMagic ++
    LittleEndian.encode 2 xmm626MipiCommandFooterUnknown

def mipiFooterLength (shortFooter : Bool) : Nat := if shortFooter then 4 else 6

def xmm626MipiFrame (code : UInt16) (data : Bytes) (shortFooter : Bool) : Bytes :=
  xmm626MipiCommandHeader code data.length ++ data ++
    (xmm626MipiCommandFooter (xmm626CommandChecksum code data)).take (mipiFooterLength shortFooter)

/-- The length of the buffer for a reply of `length` bytes, in `size_t`. -/
def mipiReplyLength (abi : Abi) (length : Nat) : Nat :=
  let length := (length + 4) % 2 ^ abi.sizeBits
  if length % 4 ≠ 0 then (length + length % 4) % 2 ^ abi.sizeBits else length

/-- `while (c < length)`, from block `k` on: the stores, and the buffer if no call fails. A store behind
the end of the buffer goes to the memory there. -/
def mipiReplyLoop (blocks : Nat → MipiBlock) (length k c : Nat) (buffer : Bytes) :
    List (Nat × Nat) × Option Bytes :=
  if c < length then
    if (blocks k).ready ≤ 0 then ([], none)
    else
      match (blocks k).bytes with
      | none => ([], none)
      | some bytes =>
          let block := bytes.take 4
          if block.length < 4 then ([(c, block.length)], none)
          else
            let rest := mipiReplyLoop blocks length (k + 1) (c + 4) (splice buffer c block)
            ((c, block.length) :: rest.1, rest.2)
  else ([], some buffer)
  termination_by length - c

/-- Reading the rest of a reply into a buffer of `length` bytes, and comparing the command codes. -/
def mipiReplyRead (abi : Abi) (code : UInt16) (blocks : Nat → MipiBlock) (frame : Bytes)
    (length : Nat) : CommandRun :=
  match abi.calloc length with
  | none => ⟨frame, .unused, .fault⟩
  | some buffer =>
      let start := splice buffer 0 (LittleEndian.encode abi.sizeBytes length)
      match mipiReplyLoop blocks length 0 abi.sizeBytes start with
      | (stores, none) => ⟨frame, ⟨length, stores, false⟩, .returned (-1)⟩
      | (stores, some buffer) =>
          let header := buffer.take xmm626MipiCommandHeaderSize
          let headerCode := LittleEndian.decode ((header.drop 6).take 2)
          ⟨frame, ⟨length, stores, true⟩, .returned (if headerCode ≠ code.toNat then -1 else 0)⟩

/-- The reply to the command `code`, whose frame has been written. -/
def mipiReply (abi : Abi) (code : UInt16) (answers : MipiAnswers) (frame : Bytes) : CommandRun :=
  if answers.ready ≤ 0 then .early frame (-1)
  else
    match answers.length with
    | none => .early frame (-1)
    | some bytes =>
        let stored := bytes.take abi.sizeBytes
        if stored.length < abi.sizeBytes ∨ LittleEndian.decode stored = 0 then .early frame (-1)
        else
          let length := mipiReplyLength abi (LittleEndian.decode stored)
          -- the bound is the size of the pointer to the buffer
          if length < abi.sizeBytes then .early frame (-1)
          else mipiReplyRead abi code answers.blocks frame length

/-- `data` is `none` for `NULL`; otherwise its length is the argument `size`. -/
def xmm626MipiCommandSend (abi : Abi) (deviceFd : Int) (code : UInt16) (data : Option Bytes)
    (ack shortFooter : Bool) (answers : MipiAnswers) : CommandRun :=
  match data with
  | none => .early none (-1)
  | some data =>
      if deviceFd < 0 ∨ data.length = 0 then .early none (-1)
      else
        let frame := xmm626MipiFrame code data shortFooter
        match abi.calloc frame.length with
        | none => ⟨none, .unused, .fault⟩
        | some _ =>
            if answers.write frame.length < cInt frame.length then .early frame (-1)
            else if ack = false then .early frame 0
            else mipiReply abi code answers frame

/-! ### HSIC -/

/-- The size of `struct xmm626_hsic_command_header`. -/
def xmm626HsicCommandHeaderSize : Nat := 8

/-- The answers to one command: the result of a `write` of this many bytes, then twice the result of
`select` and the bytes a `read` delivers. -/
structure HsicAnswers where
  write : Nat → Int
  readyHeader : Int
  header : Option Bytes
  readyData : Int
  data : Option Bytes

def xmm626HsicCommandHeader (checksum code : UInt16) (size : Nat) : Bytes :=
  LittleEndian.encode 2 checksum.toNat ++ LittleEndian.encode 2 code.toNat ++
    LittleEndian.encode 4 size

def xmm626HsicFrame (code : UInt16) (data : Bytes) (commandDataSize : Nat) : Bytes :=
  splice (List.replicate (commandDataSize + xmm626HsicCommandHeaderSize) 0) 0
    (xmm626HsicCommandHeader (xmm626CommandChecksum code data) code data.length ++ data)

/-- The reply to the command `code`. -/
def hsicReply (code : UInt16) (commandDataSize : Nat) (answers : HsicAnswers) : Int :=
  if answers.readyHeader ≤ 0 then -1
  else
    match answers.header with
    | none => -1
    | some bytes =>
        let header := bytes.take xmm626HsicCommandHeaderSize
        if header.length < xmm626HsicCommandHeaderSize then -1
        else if answers.readyData ≤ 0 then -1
        else
          match answers.data with
          | none => -1
          | some bytes =>
              if ((bytes.take commandDataSize).length : Int) < cInt commandDataSize then -1
              else if LittleEndian.decode ((header.drop 2).take 2) ≠ code.toNat then -1
              else 0

/-- `data` is `none` for `NULL`; otherwise its length is the argument `size`. -/
def xmm626HsicCommandSend (abi : Abi) (deviceFd : Int) (code : UInt16) (data : Option Bytes)
    (commandDataSize : Nat) (ack : Bool) (answers : HsicAnswers) : CommandRun :=
  match data with
  | none => .early none (-1)
  | some data =>
      if deviceFd < 0 ∨ data.length = 0 ∨ commandDataSize = 0 ∨ commandDataSize < data.length then
        .early none (-1)
      else
        let frame := xmm626HsicFrame code data commandDataSize
        match abi.calloc frame.length with
        | none => ⟨none, .unused, .fault⟩
        | some _ =>
            if answers.write frame.length < cInt frame.length then .early frame (-1)
            else if ack = false then .early frame 0
            else .early frame (hsicReply code commandDataSize answers)

/-! ### The memory of a MIPI reply -/

/-- For a reply that says it has `length` bytes, a command that was written fails or makes room for the
least multiple of four that holds the length field and the reply; what it reads is stored within the
buffer, and the header it copies lies within the buffer. -/
structure ReplyInside (length : Nat) (run : CommandRun) : Prop where
  fails_or_pads : run.frame ≠ none → run.status = .returned (-1) ∨
    ∃ allocated, run.memory.allocated = some allocated ∧
      IsLeast {m | 4 ∣ m ∧ length + 4 ≤ m} allocated
  stores_le : ∀ store ∈ run.memory.stores, ∃ allocated, run.memory.allocated = some allocated ∧
    store.1 + store.2 ≤ allocated
  header_le : run.memory.headerCopied → ∃ allocated, run.memory.allocated = some allocated ∧
    xmm626MipiCommandHeaderSize ≤ allocated

/-- The lengths for which a 32-bit device keeps within the reply buffer: those it refuses, and the even
ones from six bytes to what can be allocated. -/
def ReplyLengthFits (length : Nat) : Prop :=
  length = 0 ∨ 2 ^ 32 - 6 ≤ length ∧ length ≤ 2 ^ 32 - 3 ∨
    2 ∣ length ∧ 6 ≤ length ∧ length ≤ 2 ^ 31 - 8

section Loop

variable {blocks : Nat → MipiBlock} {length k c : Nat} {buffer : Bytes}

/-- Every store is at a multiple of four from `c` on, in front of the end. -/
theorem mipiReplyLoop_stores (hc : 4 ∣ c) :
    ∀ store ∈ (mipiReplyLoop blocks length k c buffer).1,
      4 ∣ store.1 ∧ store.1 < length ∧ store.2 ≤ 4 := by
  fun_induction mipiReplyLoop blocks length k c buffer with
  | case1 => simp
  | case2 => simp
  | case3 k c buffer hmore _ bytes _ block hshort =>
      intro store hstore
      rw [List.mem_singleton] at hstore
      exact hstore ▸ ⟨hc, hmore, hshort.le⟩
  | case4 k c buffer hmore _ bytes _ block _ rest ih =>
      intro store hstore
      rcases List.mem_cons.mp hstore with rfl | hstore
      · exact ⟨hc, hmore, List.length_take_le 4 bytes⟩
      · exact ih (Nat.dvd_add hc (Nat.dvd_refl 4)) store hstore
  | case5 => simp

/-- A device that keeps answering with four bytes. -/
def KeepsAnswering (blocks : Nat → MipiBlock) : Prop :=
  ∀ k, 0 < (blocks k).ready ∧ ∃ bytes, (blocks k).bytes = some bytes ∧ 4 ≤ bytes.length

/-- If the device keeps answering, the loop stores up to the end of the buffer. -/
theorem mipiReplyLoop_keepsAnswering (hblocks : KeepsAnswering blocks) :
    (∀ offset, c ≤ offset → 4 ∣ offset - c → offset < length →
      (offset, 4) ∈ (mipiReplyLoop blocks length k c buffer).1) ∧
      (mipiReplyLoop blocks length k c buffer).2.isSome := by
  fun_induction mipiReplyLoop blocks length k c buffer with
  | case1 k c buffer _ hready => exact absurd (hblocks k).1 (not_lt.mpr hready)
  | case2 k c buffer _ _ hnone =>
      obtain ⟨bytes, hbytes, -⟩ := (hblocks k).2
      exact absurd (hnone.symm.trans hbytes) (by simp)
  | case3 k c buffer _ _ bytes hsome block hshort =>
      obtain ⟨_, hbytes, hlength⟩ := (hblocks k).2
      obtain rfl := Option.some.inj (hsome.symm.trans hbytes)
      exact absurd (List.length_take_of_le hlength) (Nat.ne_of_lt hshort)
  | case4 k c buffer hmore _ bytes _ block hlength rest ih =>
      have hfour : block.length = 4 :=
        Nat.le_antisymm (List.length_take_le 4 bytes) (not_lt.mp hlength)
      refine ⟨fun offset hle hdvd hlt => ?_, ih.2⟩
      by_cases heq : offset = c
      · rw [heq, hfour]
        exact List.mem_cons_self
      · exact List.mem_cons_of_mem _ (ih.1 offset (by omega) (by omega) hlt)
  | case5 k c buffer hdone => exact ⟨fun _ hle _ hlt => absurd (hle.trans_lt hlt) hdone, rfl⟩

end Loop

section Length

variable {length : Nat}

/-- What a 32-bit device makes of a length: it adds four and the rest modulo four, each time in 32 bits. -/
theorem mipiReplyLength_ilp32 (length : Nat) :
    mipiReplyLength .ilp32 length =
      ((length + 4) % 2 ^ 32 + (length + 4) % 2 ^ 32 % 4) % 2 ^ 32 := by
  rw [mipiReplyLength]
  change (if (length + 4) % 2 ^ 32 % 4 ≠ 0 then _ else _) = _
  split
  · rfl
  · rename_i hzero
    rw [not_not.mp hzero]
    exact (Nat.mod_mod _ _).symm

/-- The length is refused, or a buffer of the right size can be allocated and holds the header. -/
theorem mipiReplyLength_of_fits (hfits : ReplyLengthFits length) :
    length = 0 ∨ mipiReplyLength .ilp32 length < 4 ∨
      10 ≤ mipiReplyLength .ilp32 length ∧ mipiReplyLength .ilp32 length < 2 ^ 31 ∧
        4 ∣ mipiReplyLength .ilp32 length ∧
        IsLeast {m | 4 ∣ m ∧ length + 4 ≤ m} (mipiReplyLength .ilp32 length) := by
  rw [mipiReplyLength_ilp32]
  rcases hfits with hzero | hwraps | hfits
  · exact Or.inl hzero
  · right
    left
    omega
  · right
    right
    have hpadded : ((length + 4) % 2 ^ 32 + (length + 4) % 2 ^ 32 % 4) % 2 ^ 32 =
        length + 4 + length % 4 := by omega
    rw [hpadded]
    refine ⟨by omega, by omega, by omega, ⟨⟨by omega, by omega⟩, ?_⟩⟩
    rintro m ⟨hdvd, hle⟩
    omega

/-- The length is accepted, and the buffer cannot be allocated, ends within a block, or is shorter than
the header. -/
theorem mipiReplyLength_of_not_fits (hlength : length < 2 ^ 32) (hfits : ¬ReplyLengthFits length) :
    length ≠ 0 ∧ 4 ≤ mipiReplyLength .ilp32 length ∧
      (2 ^ 31 ≤ mipiReplyLength .ilp32 length ∨ ¬4 ∣ mipiReplyLength .ilp32 length ∨
        mipiReplyLength .ilp32 length < 10) := by
  rw [mipiReplyLength_ilp32]
  rw [ReplyLengthFits] at hfits
  omega

end Length

section Reply

variable {code : UInt16} {answers : MipiAnswers} {frame : Bytes} {length : Nat}

/-- A command whose frame is written completely goes on with the reply. -/
theorem xmm626MipiCommandSend_eq_reply {abi : Abi} {deviceFd : Int} {data : Bytes}
    {shortFooter : Bool} (hfd : 0 ≤ deviceFd) (hdata : data ≠ [])
    (hsmall : (xmm626MipiFrame code data shortFooter).length < 2 ^ 31)
    (hwrite : ∀ size, answers.write size = size) :
    xmm626MipiCommandSend abi deviceFd code (some data) true shortFooter answers =
      mipiReply abi code answers (xmm626MipiFrame code data shortFooter) := by
  have hguard : ¬(deviceFd < 0 ∨ data.length = 0) := by
    rw [List.length_eq_zero_iff]
    exact not_or.mpr ⟨not_lt.mpr hfd, hdata⟩
  rw [xmm626MipiCommandSend, if_neg hguard]
  dsimp only
  rw [Abi.calloc_of_lt (hsmall.trans_le abi.le_half)]
  dsimp only
  rw [hwrite, cInt_of_lt hsmall, if_neg (lt_irrefl _), if_neg (by decide)]

/-- Whatever becomes of the reply, the frame was written. -/
theorem mipiReply_frame (abi : Abi) (code : UInt16) (answers : MipiAnswers) (frame : Bytes) :
    (mipiReply abi code answers frame).frame = some frame := by
  have hread (length : Nat) :
      (mipiReplyRead abi code answers.blocks frame length).frame = some frame := by
    rw [mipiReplyRead]
    cases abi.calloc length with
    | none => rfl
    | some buffer =>
        dsimp only
        split <;> rfl
  rw [mipiReply]
  split
  · rfl
  · cases answers.length with
    | none => rfl
    | some bytes =>
        dsimp only
        split
        · rfl
        · split
          · rfl
          · exact hread _

theorem ReplyInside.early (frame : Option Bytes) : ReplyInside length (.early frame (-1)) :=
  ⟨fun _ => Or.inl rfl, by simp [CommandRun.early, ReplyMemory.unused],
    by simp [CommandRun.early, ReplyMemory.unused]⟩

/-- A reply that says it has `length` bytes is read unless one of the tests fails. -/
theorem mipiReply_of_length (hlength : length < 2 ^ 32)
    (hanswer : answers.length = some (LittleEndian.encode 4 length)) :
    mipiReply .ilp32 code answers frame =
      if answers.ready ≤ 0 ∨ length = 0 ∨ mipiReplyLength .ilp32 length < 4 then .early frame (-1)
      else mipiReplyRead .ilp32 code answers.blocks frame (mipiReplyLength .ilp32 length) := by
  have hsize : Abi.ilp32.sizeBytes = 4 := rfl
  have hwidth : (256 : Nat) ^ 4 = 2 ^ 32 := rfl
  have hstored : (LittleEndian.encode 4 length).take 4 = LittleEndian.encode 4 length := rfl
  have hcount : (LittleEndian.encode 4 length).length = 4 := rfl
  have hdecode : LittleEndian.decode (LittleEndian.encode 4 length) = length := by
    rw [LittleEndian.decode_encode, hwidth, Nat.mod_eq_of_lt hlength]
  rw [mipiReply, hanswer]
  dsimp only
  rw [hsize, hstored, hcount, hdecode]
  by_cases hready : answers.ready ≤ 0
  · rw [if_pos hready, if_pos (Or.inl hready)]
  · rw [if_neg hready]
    by_cases hzero : length = 0
    · rw [if_pos (Or.inr hzero), if_pos (Or.inr (Or.inl hzero))]
    · rw [if_neg (not_or.mpr ⟨lt_irrefl 4, hzero⟩)]
      by_cases hwraps : mipiReplyLength .ilp32 length < 4
      · rw [if_pos hwraps, if_pos (Or.inr (Or.inr hwraps))]
      · rw [if_neg hwraps, if_neg (not_or.mpr ⟨hready, not_or.mpr ⟨hzero, hwraps⟩⟩)]

/-- In a buffer of whole blocks that holds the header, nothing reaches behind the end. -/
theorem mipiReplyRead_inside {blocks : Nat → MipiBlock} {allocated : Nat}
    (hsmall : allocated < 2 ^ 31) (hblocks : 4 ∣ allocated) (hheader : 10 ≤ allocated)
    (hleast : IsLeast {m | 4 ∣ m ∧ length + 4 ≤ m} allocated) :
    ReplyInside length (mipiReplyRead .ilp32 code blocks frame allocated) := by
  have hcalloc : Abi.ilp32.calloc allocated = some (List.replicate allocated 0) :=
    Abi.calloc_of_lt hsmall
  have hstores : ∀ buffer, ∀ store ∈ (mipiReplyLoop blocks allocated 0 Abi.ilp32.sizeBytes buffer).1,
      store.1 + store.2 ≤ allocated := by
    intro buffer store hstore
    obtain ⟨hdvd, hlt, hle⟩ := mipiReplyLoop_stores (Nat.dvd_refl 4) store hstore
    omega
  rw [mipiReplyRead, hcalloc]
  dsimp only
  generalize hloop : mipiReplyLoop blocks allocated 0 Abi.ilp32.sizeBytes _ = loop
  have hinside : ∀ store ∈ loop.1, store.1 + store.2 ≤ allocated := hloop ▸ hstores _
  match loop with
  | (stores, none) =>
      exact ⟨fun _ => Or.inl rfl, fun store hstore => ⟨allocated, rfl, hinside store hstore⟩, nofun⟩
  | (stores, some buffer) =>
      exact ⟨fun _ => Or.inr ⟨allocated, rfl, hleast⟩,
        fun store hstore => ⟨allocated, rfl, hinside store hstore⟩, fun _ => ⟨allocated, rfl, hheader⟩⟩

/-- In any other buffer, a device that keeps answering makes the command go wrong. -/
theorem mipiReplyRead_not_inside {blocks : Nat → MipiBlock} {allocated : Nat}
    (hblocks : KeepsAnswering blocks) (hpos : 4 ≤ allocated)
    (hbad : 2 ^ 31 ≤ allocated ∨ ¬4 ∣ allocated ∨ allocated < 10) :
    ¬ReplyInside length (mipiReplyRead .ilp32 code blocks frame allocated) := by
  intro hinside
  by_cases hlarge : 2 ^ 31 ≤ allocated
  · have hcalloc : Abi.ilp32.calloc allocated = none := Abi.calloc_of_le hlarge
    rw [mipiReplyRead, hcalloc] at hinside
    rcases hinside.fails_or_pads (Option.some_ne_none frame) with hstatus | ⟨_, hallocated, -⟩
    · exact absurd hstatus (by simp)
    · exact absurd hallocated (by simp [ReplyMemory.unused])
  · have hcalloc : Abi.ilp32.calloc allocated = some (List.replicate allocated 0) :=
      Abi.calloc_of_lt (not_le.mp hlarge)
    rw [mipiReplyRead, hcalloc] at hinside
    dsimp only at hinside
    generalize hrun : mipiReplyLoop blocks allocated 0 Abi.ilp32.sizeBytes _ = loop at hinside
    have hkeeps : (∀ offset, 4 ≤ offset → 4 ∣ offset - 4 → offset < allocated →
        (offset, 4) ∈ loop.1) ∧ loop.2.isSome := by
      rw [← hrun]
      exact mipiReplyLoop_keepsAnswering hblocks
    match loop with
    | (stores, none) => exact absurd hkeeps.2 (by simp)
    | (stores, some buffer) =>
        obtain ⟨_, hallocated, hheader⟩ := hinside.header_le rfl
        obtain rfl := Option.some.inj hallocated
        have hdvd : ¬4 ∣ allocated := by
          change 10 ≤ allocated at hheader
          omega
        -- the last block starts at the last multiple of four
        have hlast := hkeeps.1 (4 * (allocated / 4)) (by omega) (by omega) (by omega)
        obtain ⟨_, hallocated, hle⟩ := hinside.stores_le _ hlast
        obtain rfl := Option.some.inj hallocated
        change 4 * (allocated / 4) + 4 ≤ allocated at hle
        omega

/-- Before the reply nothing is read. -/
theorem xmm626MipiCommandSend_inside {abi : Abi} {deviceFd : Int} {data : Option Bytes}
    {shortFooter : Bool} (hreply : ∀ frame, ReplyInside length (mipiReply abi code answers frame)) :
    ReplyInside length (xmm626MipiCommandSend abi deviceFd code data true shortFooter answers) := by
  cases data with
  | none => exact .early none
  | some data =>
      rw [xmm626MipiCommandSend]
      split
      · exact .early none
      · dsimp only
        split
        · exact ⟨fun hframe => absurd rfl hframe, by simp [ReplyMemory.unused],
            by simp [ReplyMemory.unused]⟩
        · split
          · exact .early _
          · rw [if_neg (by decide)]
            exact hreply _

end Reply

/-- A reply of four-byte blocks of zeros that never ends. -/
def endlessBlocks (_ : Nat) : MipiBlock := ⟨1, some [0, 0, 0, 0]⟩

/-- Answers that write everything and reply with a length and endless blocks. -/
def endlessAnswers (length : Nat) : MipiAnswers :=
  ⟨fun size => size, 1, some (LittleEndian.encode 4 length), endlessBlocks⟩

theorem endlessBlocks_keepsAnswering : KeepsAnswering endlessBlocks :=
  fun _ => ⟨Int.one_pos, _, rfl, le_rfl⟩

/-- Whatever the rest of a reply is and whatever command it replies to, the reply buffer is used within
its bounds, exactly for the lengths that fit. -/
theorem mipiReply_inside_iff (length : UInt32) :
    (∀ (deviceFd : Int) (code : UInt16) (data : Option Bytes) (shortFooter : Bool)
        (answers : MipiAnswers),
      answers.length = some (LittleEndian.encode 4 length.toNat) →
        ReplyInside length.toNat
          (xmm626MipiCommandSend .ilp32 deviceFd code data true shortFooter answers)) ↔
      ReplyLengthFits length.toNat := by
  have hlt : length.toNat < 2 ^ 32 := length.toNat_lt
  constructor
  · intro hinside
    by_contra hfits
    obtain ⟨hzero, hpos, hbad⟩ := mipiReplyLength_of_not_fits hlt hfits
    have hrun := hinside 0 0 (some [0]) false (endlessAnswers length.toNat) rfl
    have htests : ¬((endlessAnswers length.toNat).ready ≤ 0 ∨ length.toNat = 0 ∨
        mipiReplyLength .ilp32 length.toNat < 4) :=
      not_or.mpr ⟨not_le.mpr Int.one_pos, not_or.mpr ⟨hzero, not_lt.mpr hpos⟩⟩
    rw [xmm626MipiCommandSend_eq_reply le_rfl (by simp) (by decide) (fun _ => rfl),
      mipiReply_of_length hlt rfl, if_neg htests] at hrun
    exact mipiReplyRead_not_inside endlessBlocks_keepsAnswering hpos hbad hrun
  · intro hfits deviceFd code data shortFooter answers hanswer
    apply xmm626MipiCommandSend_inside
    intro frame
    rw [mipiReply_of_length hlt hanswer]
    split
    · exact .early frame
    · rename_i htests
      obtain ⟨-, hzero, hwraps⟩ := not_or.mp htests |>.imp_right not_or.mp
      rcases mipiReplyLength_of_fits hfits with hzero' | hwraps' | ⟨hheader, hsmall, hblocks, hleast⟩
      · exact absurd hzero' hzero
      · exact absurd hwraps' hwraps
      · exact mipiReplyRead_inside hsmall hblocks hheader hleast

/-- A reply of one byte: the buffer has six bytes, and the first block fills it up to the eighth. -/
theorem mipiReply_overruns :
    (mipiReplyLoop endlessBlocks (mipiReplyLength .ilp32 1) 0 4 []).1 = [(4, 4)] ∧
      mipiReplyLength .ilp32 1 = 6 ∧
      ¬ReplyInside 1 (xmm626MipiCommandSend .ilp32 3 xmm626CommandFlashWriteBlock (some [0]) true true
        (endlessAnswers 1)) := by
  refine ⟨?_, rfl, ?_⟩
  · have hlength : mipiReplyLength .ilp32 1 = 6 := rfl
    simp [hlength, mipiReplyLoop, endlessBlocks]
  · have htests : ¬((endlessAnswers 1).ready ≤ 0 ∨ 1 = 0 ∨ mipiReplyLength .ilp32 1 < 4) := by decide
    rw [xmm626MipiCommandSend_eq_reply (by decide) (by simp) (by decide) (fun _ => rfl),
      mipiReply_of_length (by decide) rfl, if_neg htests]
    exact mipiReplyRead_not_inside endlessBlocks_keepsAnswering (by decide) (by decide)

end SamsungIpc

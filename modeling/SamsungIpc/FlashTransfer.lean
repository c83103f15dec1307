import SamsungIpc.FlashCommand
import SamsungIpc.FrameStream

/-! Writing data to the flash memory of an XMM626: the address is set, then the data are sent in blocks.
The frames of either bus can be parsed back into the address and the data. -/

namespace SamsungIpc

open ByteSplice FrameStream

def xmm626MipiModemDataChunk : Nat := 0xDF2

def xmm626HsicModemDataChunk : Nat := 0x4000

def xmm626HsicFlashSetAddressSize : Nat := 0x4000

def xmm626HsicFlashWriteBlockSize : Nat := 0x4000

/-- The frames given to `write`, and how the function ends. -/
structure FlashRun where
  frames : List Bytes
  status : Status

/-- A command, and what follows if it does not fail. -/
def CommandRun.andThen (run : CommandRun) (rest : FlashRun) : FlashRun :=
  match run.status with
  | .returned rc =>
      if rc < 0 then ⟨run.frame.toList, .returned (-1)⟩
      else ⟨run.frame.toList ++ rest.frames, rest.status⟩
  | status => ⟨run.frame.toList, status⟩

/-- `while (c < size)`, where the `k`th command of a run sends a block by `send k`. Every pass sends a
byte or more, so `size + 1` passes are enough. -/
def modemDataLoop (send : Nat → Bytes → CommandRun) (chunk : Nat) (data : Bytes) :
    Nat → Nat → Nat → FlashRun
  | 0, _, _ => ⟨[], .waiting⟩
  | passes + 1, k, c =>
      if c < data.length then
        let count := if chunk < data.length - c then chunk else data.length - c
        (send k ((data.drop c).take count)).andThen
          (modemDataLoop send chunk data passes (k + 1) (c + count))
      else ⟨[], .returned 0⟩

/-- The two functions differ in the commands they send and in the size of the blocks. -/
def modemDataSend (deviceFd : Int) (data : Option Bytes) (setAddress : CommandRun)
    (send : Nat → Bytes → CommandRun) (chunk : Nat) : FlashRun :=
  match data with
  | none => ⟨[], .returned (-1)⟩
  | some data =>
      if deviceFd < 0 ∨ data.length = 0 then ⟨[], .returned (-1)⟩
      else setAddress.andThen (modemDataLoop send chunk data (data.length + 1) 1 0)

/-- `answers k` are the answers to the `k`th command. -/
def xmm626MipiModemDataSend (abi : Abi) (deviceFd : Int) (data : Option Bytes) (address : UInt32)
    (answers : Nat → MipiAnswers) : FlashRun :=
  modemDataSend deviceFd data
    (xmm626MipiCommandSend abi deviceFd xmm626CommandFlashSetAddress
      (some (LittleEndian.encode 4 address.toNat)) true false (answers 0))
    (fun k block => xmm626MipiCommandSend abi deviceFd xmm626CommandFlashWriteBlock (some block)
      true true (answers k))
    xmm626MipiModemDataChunk

/-- `answers k` are the answers to the `k`th command. -/
def xmm626HsicModemDataSend (abi : Abi) (deviceFd : Int) (data : Option Bytes) (address : UInt32)
    (answers : Nat → HsicAnswers) : FlashRun :=
  modemDataSend deviceFd data
    (xmm626HsicCommandSend abi deviceFd xmm626CommandFlashSetAddress
      (some (LittleEndian.encode 4 address.toNat)) xmm626HsicFlashSetAddressSize true (answers 0))
    (fun k block => xmm626HsicCommandSend abi deviceFd xmm626CommandFlashWriteBlock (some block)
      xmm626HsicFlashWriteBlockSize false (answers k))
    xmm626HsicModemDataChunk

/-! ### The formats of the two buses -/

/-- A command as the modem sees it. -/
structure FlashFrame where
  code : Nat
  payload : Bytes

/-- The sum of the size, the code and the payload, in sixteen bits. -/
def flashChecksum (code : Nat) (payload : Bytes) : Nat :=
  (payload.length + code + (payload.map UInt8.toNat).sum) % 2 ^ 16

def mipiFormat : Format FlashFrame := fun bytes =>
  let size := LittleEndian.decode (bytes.take 4)
  let magic := LittleEndian.decode ((bytes.drop 4).take 2)
  let code := LittleEndian.decode ((bytes.drop 6).take 2)
  let dataSize := LittleEndian.decode ((bytes.drop 8).take 2)
  let payload := (bytes.drop 10).take dataSize
  let footerLength := if code = xmm626CommandFlashSetAddress.toNat then 6 else 4
  let footer := ((bytes.drop 10).drop dataSize).take footerLength
  if payload.length = dataSize ∧ footer.length = footerLength ∧ size = payload.length + 10 ∧
      magic = 2 ∧ LittleEndian.decode (footer.take 2) = flashChecksum code payload ∧
      LittleEndian.decode ((footer.drop 2).take 2) = 3 then
    some (⟨code, payload⟩, ((bytes.drop 10).drop dataSize).drop footerLength)
  else none

def hsicFormat : Format FlashFrame := fun bytes =>
  let checksum := LittleEndian.decode (bytes.take 2)
  let code := LittleEndian.decode ((bytes.drop 2).take 2)
  let dataSize := LittleEndian.decode ((bytes.drop 4).take 4)
  let block := (bytes.drop 8).take 0x4000
  let payload := block.take dataSize
  if block.length = 0x4000 ∧ payload.length = dataSize ∧ checksum = flashChecksum code payload ∧
      block.drop dataSize = List.replicate (0x4000 - dataSize) 0 then
    some (⟨code, payload⟩, (bytes.drop 8).drop 0x4000)
  else none

/-! ### Frames -/

section Frames

theorem toNat_foldl_add (bytes : Bytes) (start : UInt16) :
    (bytes.foldl (fun checksum byte => checksum + byte.toUInt16) start).toNat =
      (start.toNat + (bytes.map UInt8.toNat).sum) % 2 ^ 16 := by
  induction bytes generalizing start with
  | nil =>
      have hlt := start.toNat_lt
      rw [List.foldl_nil, List.map_nil, List.sum_nil, Nat.add_zero, Nat.mod_eq_of_lt hlt]
  | cons byte bytes ih =>
      rw [List.foldl_cons, ih, UInt16.toNat_add, UInt8.toNat_toUInt16, List.map_cons, List.sum_cons]
      omega

theorem toNat_xmm626CommandChecksum {code : UInt16} {data : Bytes} (hdata : data.length < 2 ^ 31) :
    (xmm626CommandChecksum code data).toNat = flashChecksum code.toNat data := by
  have hmask : data.length &&& 0xffff = data.length % 2 ^ 16 :=
    Nat.and_two_pow_sub_one_eq_mod data.length 16
  rw [xmm626CommandChecksum, cInt_of_lt hdata, Int.toNat_natCast, List.take_length, toNat_foldl_add,
    UInt16.toNat_add, UInt16.toNat_ofNat', hmask, flashChecksum]
  omega

/-- A number in a field that is wide enough. -/
theorem decode_encode_of_lt {width value : Nat} (hvalue : value < 256 ^ width) :
    LittleEndian.decode (LittleEndian.encode width value) = value := by
  rw [LittleEndian.decode_encode, Nat.mod_eq_of_lt hvalue]

theorem decode_encode_word (word : UInt16) :
    LittleEndian.decode (LittleEndian.encode 2 word.toNat) = word.toNat :=
  decode_encode_of_lt (show word.toNat < 256 ^ 2 from word.toNat_lt)

variable {code : UInt16} {data : Bytes}

theorem length_xmm626MipiFrame (shortFooter : Bool) :
    (xmm626MipiFrame code data shortFooter).length = 10 + data.length + mipiFooterLength shortFooter := by
  have hheader : (xmm626MipiCommandHeader code data.length).length = 10 := rfl
  have hfooter (checksum : UInt16) : ((xmm626MipiCommandFooter checksum).take
      (mipiFooterLength shortFooter)).length = mipiFooterLength shortFooter := by
    cases shortFooter <;> rfl
  rw [xmm626MipiFrame, List.length_append, List.length_append, hheader, hfooter]

/-- The modem finds the command in a frame with the footer it expects. -/
theorem mipiFormat_encodes {shortFooter : Bool} (hdata : data.length < 2 ^ 16)
    (hfooter : shortFooter = true ↔ code ≠ xmm626CommandFlashSetAddress) :
    mipiFormat.Encodes (xmm626MipiFrame code data shortFooter) ⟨code.toNat, data⟩ := by
  have hlength : (if code.toNat = xmm626CommandFlashSetAddress.toNat then 6 else 4) =
      mipiFooterLength shortFooter := by
    rw [mipiFooterLength]
    by_cases hcode : code = xmm626CommandFlashSetAddress
    · rw [if_pos (UInt16.toNat_inj.mpr hcode), if_neg (fun h => hfooter.mp h hcode)]
    · rw [if_neg (fun h => hcode (UInt16.toNat_inj.mp h)), if_pos (hfooter.mpr hcode)]
  refine ⟨List.ne_nil_of_length_pos (by rw [length_xmm626MipiFrame]; omega), fun rest => ?_⟩
  let header := xmm626MipiCommandHeader code data.length
  let footer := (xmm626MipiCommandFooter (xmm626CommandChecksum code data)).take
    (mipiFooterLength shortFooter)
  have hframe : xmm626MipiFrame code data shortFooter ++ rest = header ++ (data ++ (footer ++ rest)) := by
    rw [xmm626MipiFrame, List.append_assoc, List.append_assoc]
  -- the fields of the header
  have hsize : LittleEndian.decode ((header ++ (data ++ (footer ++ rest))).take 4) =
      data.length + 10 := decode_encode_of_lt (show data.length + 10 < 256 ^ 4 by omega)
  have hmagic : LittleEndian.decode (((header ++ (data ++ (footer ++ rest))).drop 4).take 2) = 2 := rfl
  have hcode : LittleEndian.decode (((header ++ (data ++ (footer ++ rest))).drop 6).take 2) =
      code.toNat := decode_encode_word code
  have hdataSize : LittleEndian.decode (((header ++ (data ++ (footer ++ rest))).drop 8).take 2) =
      data.length := decode_encode_of_lt (show data.length < 256 ^ 2 from hdata)
  have hbody : (header ++ (data ++ (footer ++ rest))).drop 10 = data ++ (footer ++ rest) := rfl
  -- the fields of the footer, which the short one has too
  have hfooterLength : footer.length = mipiFooterLength shortFooter := by
    cases shortFooter <;> rfl
  have hchecksum : LittleEndian.decode (footer.take 2) = flashChecksum code.toNat data := by
    have htake : footer.take 2 =
        LittleEndian.encode 2 (xmm626CommandChecksum code data).toNat := by
      cases shortFooter <;> rfl
    rw [htake, decode_encode_word,
      toNat_xmm626CommandChecksum (hdata.trans (by decide))]
  have hfooterMagic : LittleEndian.decode ((footer.drop 2).take 2) = 3 := by
    cases shortFooter <;> rfl
  have htakeFooter : (footer ++ rest).take (mipiFooterLength shortFooter) = footer :=
    List.take_left' hfooterLength
  have hdropFooter : (footer ++ rest).drop (mipiFooterLength shortFooter) = rest :=
    List.drop_left' hfooterLength
  rw [hframe, mipiFormat, hsize, hmagic, hcode, hdataSize, hbody, List.take_left, List.drop_left,
    hlength, htakeFooter, hdropFooter,
    if_pos ⟨rfl, hfooterLength, rfl, rfl, hchecksum, hfooterMagic⟩]

/-- An HSIC frame is the header, the data, and zeros up to the size of the block. -/
theorem xmm626HsicFrame_eq (commandDataSize : Nat) :
    xmm626HsicFrame code data commandDataSize =
      xmm626HsicCommandHeader (xmm626CommandChecksum code data) code data.length ++
        (data ++ List.replicate (commandDataSize - data.length) 0) := by
  have hheader : (xmm626HsicCommandHeader (xmm626CommandChecksum code data) code
      data.length).length = 8 := rfl
  have hpadding : commandDataSize + xmm626HsicCommandHeaderSize - (8 + data.length) =
      commandDataSize - data.length := by
    rw [xmm626HsicCommandHeaderSize]
    omega
  rw [xmm626HsicFrame, splice_replicate, List.length_append, hheader, hpadding, List.append_assoc]

theorem length_xmm626HsicFrame {commandDataSize : Nat} (hdata : data.length ≤ commandDataSize) :
    (xmm626HsicFrame code data commandDataSize).length = commandDataSize + 8 := by
  have hheader : (xmm626HsicCommandHeader (xmm626CommandChecksum code data) code
      data.length).length = 8 := rfl
  rw [xmm626HsicFrame_eq, List.length_append, List.length_append, List.length_replicate, hheader]
  omega

theorem hsicFormat_encodes (hdata : data.length ≤ 0x4000) :
    hsicFormat.Encodes (xmm626HsicFrame code data 0x4000) ⟨code.toNat, data⟩ := by
  refine ⟨List.ne_nil_of_length_pos (by rw [length_xmm626HsicFrame hdata]; omega), fun rest => ?_⟩
  let header := xmm626HsicCommandHeader (xmm626CommandChecksum code data) code data.length
  let block := data ++ List.replicate (0x4000 - data.length) 0
  have hframe : xmm626HsicFrame code data 0x4000 ++ rest = header ++ (block ++ rest) := by
    rw [xmm626HsicFrame_eq, List.append_assoc]
  have hchecksum : LittleEndian.decode ((header ++ (block ++ rest)).take 2) =
      flashChecksum code.toNat data := by
    rw [← toNat_xmm626CommandChecksum (hdata.trans_lt (by decide))]
    exact decode_encode_word _
  have hcode : LittleEndian.decode (((header ++ (block ++ rest)).drop 2).take 2) = code.toNat :=
    decode_encode_word code
  have hdataSize : LittleEndian.decode (((header ++ (block ++ rest)).drop 4).take 4) = data.length :=
    decode_encode_of_lt (show data.length < 256 ^ 4 by omega)
  have hbody : (header ++ (block ++ rest)).drop 8 = block ++ rest := rfl
  have hblock : block.length = 0x4000 := by
    rw [List.length_append, List.length_replicate]
    omega
  have htakeBlock : (block ++ rest).take 0x4000 = block := List.take_left' hblock
  have hdropBlock : (block ++ rest).drop 0x4000 = rest := List.drop_left' hblock
  have htakeData : block.take data.length = data := List.take_left
  have hpadding : block.drop data.length = List.replicate (0x4000 - data.length) 0 := List.drop_left
  rw [hframe, hsicFormat, hchecksum, hcode, hdataSize, hbody, htakeBlock, hdropBlock, htakeData,
    if_pos ⟨hblock, rfl, rfl, hpadding⟩]

end Frames

/-! ### Transfers -/

/-- The command was written as `frame` and succeeded. -/
structure CommandRun.Sent (run : CommandRun) (frame : Bytes) : Prop where
  frame_eq : run.frame = some frame
  status_eq : run.status = .returned 0

theorem CommandRun.Sent.andThen_eq {run : CommandRun} {frame : Bytes} (hrun : run.Sent frame)
    (rest : FlashRun) : run.andThen rest = ⟨frame :: rest.frames, rest.status⟩ := by
  rw [CommandRun.andThen, hrun.status_eq, hrun.frame_eq]
  rfl

/-- If every block is sent, the loop sends the data cut into blocks. -/
theorem modemDataLoop_eq {send : Nat → Bytes → CommandRun} {chunk : Nat} {data : Bytes}
    {encode : Bytes → Bytes} (hchunk : 0 < chunk)
    (hsend : ∀ k ≠ 0, ∀ block ≠ [], block.length ≤ chunk → (send k block).Sent (encode block))
    {passes k c : Nat} (hk : k ≠ 0) (hc : c ≤ data.length) (hpasses : data.length - c < passes) :
    modemDataLoop send chunk data passes k c =
      ⟨(blocks chunk passes (data.drop c)).map encode, .returned 0⟩ := by
  induction passes generalizing k c with
  | zero => exact absurd hpasses (Nat.not_lt_zero _)
  | succ passes ih =>
      rw [modemDataLoop]
      split
      · rename_i hmore
        have hlength : (data.drop c).length = data.length - c := List.length_drop
        have hcount : 0 < (if chunk < data.length - c then chunk else data.length - c) := by
          split <;> omega
        -- the last block may be shorter than a chunk
        have htake : (data.drop c).take (if chunk < data.length - c then chunk
            else data.length - c) = (data.drop c).take chunk := by
          rw [List.take_eq_take_iff, hlength]
          split <;> omega
        have hdrop : data.drop (c + if chunk < data.length - c then chunk else data.length - c) =
            (data.drop c).drop chunk := by
          rw [List.drop_drop]
          split
          · rfl
          · rw [List.drop_of_length_le (by omega), List.drop_of_length_le (by omega)]
        have hblock : (data.drop c).take chunk ≠ [] := by
          apply List.ne_nil_of_length_pos
          rw [List.length_take]
          omega
        obtain ⟨head, tail, hcons⟩ := List.exists_cons_of_ne_nil
          (show data.drop c ≠ [] from List.ne_nil_of_length_pos (by omega))
        dsimp only
        rw [htake, (hsend k hk _ hblock (List.length_take_le _ _)).andThen_eq,
          ih (Nat.succ_ne_zero k) (by split <;> omega) (by split <;> omega), hdrop, hcons, blocks,
          List.map_cons]
      · have hnil : data.drop c = [] := List.drop_of_length_le (by omega)
        rw [hnil, blocks, List.map_nil]

/-- What the modem is told: the address, then the data in blocks of at most `chunk` bytes. -/
structure CarriesTransfer (address : UInt32) (data : Bytes) (chunk : Nat) (frames : List FlashFrame) :
    Prop where
  frames_eq : ∃ payloads : List Bytes,
    frames = ⟨xmm626CommandFlashSetAddress.toNat, LittleEndian.encode 4 address.toNat⟩ ::
        payloads.map (FlashFrame.mk xmm626CommandFlashWriteBlock.toNat) ∧
      (∀ payload ∈ payloads, payload ≠ [] ∧ payload.length ≤ chunk) ∧ payloads.flatten = data

/-- The address and the data of a transfer. -/
def transferContents : List FlashFrame → Option (Nat × Bytes)
  | [] => none
  | first :: rest =>
      if first.code = xmm626CommandFlashSetAddress.toNat then
        some (LittleEndian.decode first.payload, rest.flatMap FlashFrame.payload)
      else none

theorem CarriesTransfer.contents_eq {address : UInt32} {data : Bytes} {chunk : Nat}
    {frames : List FlashFrame} (hframes : CarriesTransfer address data chunk frames) :
    transferContents frames = some (address.toNat, data) := by
  obtain ⟨payloads, rfl, -, rfl⟩ := hframes.frames_eq
  have haddress : LittleEndian.decode (LittleEndian.encode 4 address.toNat) = address.toNat :=
    decode_encode_of_lt (show address.toNat < 256 ^ 4 from address.toNat_lt)
  have hpayloads : (payloads.map (FlashFrame.mk xmm626CommandFlashWriteBlock.toNat)).flatMap
      FlashFrame.payload = payloads.flatten := by
    rw [List.flatMap_map]
    exact List.flatMap_id
  rw [transferContents, if_pos rfl, haddress, hpayloads]

/-- A transfer whose commands are all sent is parsed into the address and the data. -/
theorem modemDataSend_delivers {format : Format FlashFrame} {deviceFd : Int} {address : UInt32}
    {data : Bytes} {setAddress : CommandRun} {addressFrame : Bytes}
    {send : Nat → Bytes → CommandRun} {chunk : Nat} {encode : Bytes → Bytes} (hfd : 0 ≤ deviceFd)
    (hdata : data ≠ []) (hchunk : 0 < chunk) (haddress : setAddress.Sent addressFrame)
    (haddressFrame : format.Encodes addressFrame
      ⟨xmm626CommandFlashSetAddress.toNat, LittleEndian.encode 4 address.toNat⟩)
    (hsend : ∀ k ≠ 0, ∀ block ≠ [], block.length ≤ chunk → (send k block).Sent (encode block))
    (hencode : ∀ block : Bytes, block.length ≤ chunk →
      format.Encodes (encode block) ⟨xmm626CommandFlashWriteBlock.toNat, block⟩) :
    (modemDataSend deviceFd (some data) setAddress send chunk).status = .returned 0 ∧
      ∃ frames, format.parse
          (modemDataSend deviceFd (some data) setAddress send chunk).frames.flatten = some frames ∧
        CarriesTransfer address data chunk frames := by
  have hguard : ¬(deviceFd < 0 ∨ data.length = 0) := by
    rw [List.length_eq_zero_iff]
    exact not_or.mpr ⟨not_lt.mpr hfd, hdata⟩
  have hloop : modemDataLoop send chunk data (data.length + 1) 1 0 =
      ⟨(blocks chunk (data.length + 1) data).map encode, .returned 0⟩ :=
    modemDataLoop_eq hchunk hsend Nat.one_ne_zero (Nat.zero_le _) (Nat.lt_succ_self _)
  have hblocks : ∀ block ∈ blocks chunk (data.length + 1) data, block ≠ [] ∧ block.length ≤ chunk :=
    forall_mem_blocks hchunk
  have hrun : modemDataSend deviceFd (some data) setAddress send chunk =
      ⟨addressFrame :: (blocks chunk (data.length + 1) data).map encode, .returned 0⟩ := by
    rw [modemDataSend, if_neg hguard, haddress.andThen_eq, hloop]
  have hencoded : List.Forall₂ format.Encodes
      ((blocks chunk (data.length + 1) data).map encode)
      ((blocks chunk (data.length + 1) data).map
        (FlashFrame.mk xmm626CommandFlashWriteBlock.toNat)) := by
    rw [List.forall₂_map_left_iff, List.forall₂_map_right_iff, List.forall₂_same]
    exact fun block hblock => hencode block (hblocks block hblock).2
  rw [hrun]
  refine ⟨rfl, _, Format.parse_flatten (.cons haddressFrame hencoded), ⟨_, rfl, hblocks, ?_⟩⟩
  exact flatten_blocks hchunk (Nat.le_succ _)

/-- All bytes of the command are written, and the reply acknowledges it. -/
structure MipiAnswers.Acknowledge (abi : Abi) (answers : MipiAnswers) (code : UInt16) : Prop where
  write_complete : ∀ size, answers.write size = size
  reply_matches : ∀ frame, (mipiReply abi code answers frame).status = .returned 0

/-- All bytes of the command are written; if a reply is waited for, it acknowledges the command. -/
structure HsicAnswers.Acknowledge (answers : HsicAnswers) (code : UInt16) (ack : Bool) : Prop where
  write_complete : ∀ size, answers.write size = size
  reply_matches : ack = true → hsicReply code xmm626HsicFlashSetAddressSize answers = 0

section Buses

variable {abi : Abi} {deviceFd : Int} {code : UInt16} {data : Bytes}

theorem MipiAnswers.Acknowledge.sent {answers : MipiAnswers} {shortFooter : Bool}
    (hanswers : answers.Acknowledge abi code) (hfd : 0 ≤ deviceFd) (hdata : data ≠ [])
    (hlength : data.length < 2 ^ 16) :
    (xmm626MipiCommandSend abi deviceFd code (some data) true shortFooter answers).Sent
      (xmm626MipiFrame code data shortFooter) := by
  have hsmall : (xmm626MipiFrame code data shortFooter).length < 2 ^ 31 := by
    have hfooter : mipiFooterLength shortFooter ≤ 6 := by cases shortFooter <;> decide
    rw [length_xmm626MipiFrame]
    omega
  rw [xmm626MipiCommandSend_eq_reply hfd hdata hsmall hanswers.write_complete]
  exact ⟨mipiReply_frame .., hanswers.reply_matches _⟩

theorem HsicAnswers.Acknowledge.sent {answers : HsicAnswers} {ack : Bool}
    (hanswers : answers.Acknowledge code ack) (hfd : 0 ≤ deviceFd) (hdata : data ≠ [])
    (hlength : data.length ≤ 0x4000) :
    (xmm626HsicCommandSend abi deviceFd code (some data) 0x4000 ack answers).Sent
      (xmm626HsicFrame code data 0x4000) := by
  have hguard : ¬(deviceFd < 0 ∨ data.length = 0 ∨ 0x4000 = 0 ∨ 0x4000 < data.length) := by
    rw [List.length_eq_zero_iff]
    exact not_or.mpr ⟨not_lt.mpr hfd, not_or.mpr ⟨hdata, by omega⟩⟩
  have hframe : (xmm626HsicFrame code data 0x4000).length = 0x4000 + 8 :=
    length_xmm626HsicFrame hlength
  rw [xmm626HsicCommandSend, if_neg hguard]
  dsimp only
  rw [hframe, Abi.calloc_of_lt (lt_of_lt_of_le (by decide) abi.le_half)]
  dsimp only
  rw [hanswers.write_complete, cInt_of_lt (by decide), if_neg (lt_irrefl _)]
  cases ack with
  | false => exact ⟨rfl, rfl⟩
  | true =>
      rw [if_neg (by decide)]
      exact ⟨rfl, congrArg Status.returned (hanswers.reply_matches rfl)⟩

end Buses

/-- Both runs succeed. Their streams consist of whole frames with sizes and checksums that fit, and tell
the modem the address and the data: the same on both buses. -/
def Lossless (mipi hsic : FlashRun) (address : UInt32) (data : Bytes) : Prop :=
  mipi.status = .returned 0 ∧ hsic.status = .returned 0 ∧
    ∃ mipiFrames hsicFrames, mipiFormat.parse mipi.frames.flatten = some mipiFrames ∧
      hsicFormat.parse hsic.frames.flatten = some hsicFrames ∧
      CarriesTransfer address data 0xDF2 mipiFrames ∧ CarriesTransfer address data 0x4000 hsicFrames ∧
      transferContents mipiFrames = some (address.toNat, data) ∧
      transferContents hsicFrames = some (address.toNat, data)

/-- When all commands are written completely and every reply that is waited for acknowledges its
command, the transfers over both buses are lossless. -/
theorem modemDataSend_lossless (abi : Abi) (deviceFd : Int) (address : UInt32) (data : Bytes)
    (mipiAnswers : Nat → MipiAnswers) (hsicAnswers : Nat → HsicAnswers) (hfd : 0 ≤ deviceFd)
    (hdata : data ≠ [])
    (hmipi : ∀ k, (mipiAnswers k).Acknowledge abi
      (if k = 0 then xmm626CommandFlashSetAddress else xmm626CommandFlashWriteBlock))
    (hhsic : ∀ k, (hsicAnswers k).Acknowledge
      (if k = 0 then xmm626CommandFlashSetAddress else xmm626CommandFlashWriteBlock) (k = 0)) :
    Lossless (xmm626MipiModemDataSend abi deviceFd (some data) address mipiAnswers)
      (xmm626HsicModemDataSend abi deviceFd (some data) address hsicAnswers) address data := by
  have hlength : (LittleEndian.encode 4 address.toNat).length = 4 := LittleEndian.length_encode ..
  have haddress : LittleEndian.encode 4 address.toNat ≠ [] :=
    List.ne_nil_of_length_pos (by omega)
  have hmipiAddress := hmipi 0
  rw [if_pos rfl] at hmipiAddress
  have hhsicAddress := hhsic 0
  rw [if_pos rfl] at hhsicAddress
  have hmipiSend : ∀ k ≠ 0, ∀ block ≠ [], block.length ≤ 0xDF2 →
      (xmm626MipiCommandSend abi deviceFd xmm626CommandFlashWriteBlock (some block) true true
        (mipiAnswers k)).Sent (xmm626MipiFrame xmm626CommandFlashWriteBlock block true) := by
    intro k hk block hblock hlength
    have hanswers := hmipi k
    rw [if_neg hk] at hanswers
    exact hanswers.sent hfd hblock (by omega)
  have hhsicSend : ∀ k ≠ 0, ∀ block ≠ [], block.length ≤ 0x4000 →
      (xmm626HsicCommandSend abi deviceFd xmm626CommandFlashWriteBlock (some block) 0x4000 false
        (hsicAnswers k)).Sent (xmm626HsicFrame xmm626CommandFlashWriteBlock block 0x4000) := by
    intro k hk block hblock hlength
    have hanswers := hhsic k
    rw [if_neg hk, decide_eq_false hk] at hanswers
    exact hanswers.sent hfd hblock hlength
  have hmipiFrame : mipiFormat.Encodes
      (xmm626MipiFrame xmm626CommandFlashSetAddress (LittleEndian.encode 4 address.toNat) false)
      ⟨xmm626CommandFlashSetAddress.toNat, LittleEndian.encode 4 address.toNat⟩ :=
    mipiFormat_encodes (by omega) (by decide)
  obtain ⟨hmipiStatus, mipiFrames, hmipiParse, hmipiDelivers⟩ :=
    modemDataSend_delivers hfd hdata (show 0 < 0xDF2 by decide)
      (hmipiAddress.sent hfd haddress (by omega)) hmipiFrame hmipiSend
      (fun block hlength => mipiFormat_encodes (by omega) (by decide))
  obtain ⟨hhsicStatus, hsicFrames, hhsicParse, hhsicDelivers⟩ :=
    modemDataSend_delivers hfd hdata (show 0 < 0x4000 by decide)
      (hhsicAddress.sent hfd haddress (by omega)) (hsicFormat_encodes (by omega)) hhsicSend
      (fun block hlength => hsicFormat_encodes hlength)
  exact ⟨hmipiStatus, hhsicStatus, mipiFrames, hsicFrames, hmipiParse, hhsicParse, hmipiDelivers,
    hhsicDelivers, hmipiDelivers.contents_eq, hhsicDelivers.contents_eq⟩

/-- A modem that acknowledges every MIPI command: eight bytes follow the length of its reply, and the
third and fourth of them repeat the code. -/
def obligingMipi (k : Nat) : MipiAnswers where
  write size := size
  ready := 1
  length := some (LittleEndian.encode 4 8)
  blocks
    | 0 => ⟨1, some ([0, 0] ++ LittleEndian.encode 2
        (if k = 0 then xmm626CommandFlashSetAddress else xmm626CommandFlashWriteBlock).toNat)⟩
    | _ + 1 => ⟨1, some [0, 0, 0, 0]⟩

/-- A modem that acknowledges the address over HSIC. -/
def obligingHsic (_ : Nat) : HsicAnswers where
  write size := size
  readyHeader := 1
  header := some (xmm626HsicCommandHeader 0 xmm626CommandFlashSetAddress 0)
  readyData := 1
  data := some (List.replicate xmm626HsicFlashSetAddressSize 0)

theorem obligingMipi_acknowledge (k : Nat) :
    (obligingMipi k).Acknowledge .ilp32
      (if k = 0 then xmm626CommandFlashSetAddress else xmm626CommandFlashWriteBlock) := by
  refine ⟨fun _ => rfl, fun frame => ?_⟩
  have htests : ¬((obligingMipi k).ready ≤ 0 ∨ 8 = 0 ∨ mipiReplyLength .ilp32 8 < 4) :=
    not_or.mpr ⟨not_le.mpr Int.one_pos, by decide⟩
  have hlength : mipiReplyLength .ilp32 8 = 12 := rfl
  have hcalloc : Abi.ilp32.calloc 12 = some (List.replicate 12 0) := rfl
  have hsize : Abi.ilp32.sizeBytes = 4 := rfl
  rw [mipiReply_of_length (by decide) rfl, if_neg htests, hlength, mipiReplyRead, hcalloc, hsize]
  -- the loop makes two passes, and the first one brings the code
  cases k with
  | zero =>
      simp [mipiReplyLoop, obligingMipi, splice, LittleEndian.encode, LittleEndian.decode,
        xmm626CommandFlashSetAddress, xmm626MipiCommandHeaderSize]
  | succ k =>
      simp [mipiReplyLoop, obligingMipi, splice, LittleEndian.encode, LittleEndian.decode,
        xmm626CommandFlashWriteBlock, xmm626MipiCommandHeaderSize]

theorem obligingHsic_acknowledge (k : Nat) :
    (obligingHsic k).Acknowledge
      (if k = 0 then xmm626CommandFlashSetAddress else xmm626CommandFlashWriteBlock) (k = 0) := by
  refine ⟨fun _ => rfl, fun hk => ?_⟩
  obtain rfl := of_decide_eq_true hk
  have hlength : ((List.replicate xmm626HsicFlashSetAddressSize (0 : UInt8)).take
      xmm626HsicFlashSetAddressSize).length = xmm626HsicFlashSetAddressSize := by
    rw [List.length_take, List.length_replicate, Nat.min_self]
  have hint : cInt xmm626HsicFlashSetAddressSize = xmm626HsicFlashSetAddressSize :=
    cInt_of_lt (by decide)
  have hready : ¬(1 : Int) ≤ 0 := by decide
  rw [if_pos rfl, hsicReply, obligingHsic]
  dsimp only
  rw [if_neg hready, if_neg (by decide), if_neg hready, hlength, hint, if_neg (lt_irrefl _),
    if_neg (by decide)]

/-- Data that are one byte longer than a block, on either bus. -/
theorem modemDataSend_lossless_sample :
    Lossless
      (xmm626MipiModemDataSend .ilp32 3 (some (List.replicate 0x4001 7)) 0x60300000 obligingMipi)
      (xmm626HsicModemDataSend .ilp32 3 (some (List.replicate 0x4001 7)) 0x60300000 obligingHsic)
      0x60300000 (List.replicate 0x4001 7) :=
  modemDataSend_lossless .ilp32 3 0x60300000 (List.replicate 0x4001 7) obligingMipi obligingHsic
    (by decide) (List.ne_nil_of_length_pos (by rw [List.length_replicate]; decide))
    obligingMipi_acknowledge obligingHsic_acknowledge

end SamsungIpc

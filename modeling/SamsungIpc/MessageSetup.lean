import SamsungIpc.FrameTransport

/-! The setups of `sms.c` and `rfs.c` that build a message behind a header: one function says how large the
message is, the other allocates that many bytes and copies the pieces into them, one behind the other. -/

namespace SamsungIpc

open ByteSplice LittleEndian

/-- A message that was set up: the size of its allocation, how far the copies reach, and the memory from
its start on, also where the copies have left the allocation. -/
structure SetupRun where
  allocated : Nat
  stored : Nat
  memory : Bytes
  deriving DecidableEq

inductive SetupResult where
  | null
  /-- The copies are through `NULL`. -/
  | fault
  | message (run : SetupRun)
  deriving DecidableEq

/-- Copies behind each other: `memcpy(p, piece, ...)`, `p += ...`. -/
def copyPieces (memory : Bytes) (p : Nat) : List Bytes → Bytes × Nat
  | [] => (memory, p)
  | piece :: pieces => copyPieces (splice memory p piece) (p + piece.length) pieces

def allocateAndCopy (abi : Abi) (size : Nat) (pieces : List Bytes) : SetupResult :=
  match abi.calloc size with
  | none => .fault
  | some data =>
      let copied := copyPieces data 0 pieces
      .message ⟨size, copied.2, copied.1⟩

theorem copyPieces_eq (memory : Bytes) (p : Nat) (pieces : List Bytes) :
    copyPieces memory p pieces = (splice memory p pieces.flatten, p + pieces.flatten.length) := by
  induction pieces generalizing memory p with
  | nil => rfl
  | cons piece pieces ih =>
      rw [copyPieces, ih, splice_splice, List.flatten_cons, List.length_append, Nat.add_assoc]

/-- An allocation that is not larger than its pieces is covered by them. -/
theorem allocateAndCopy_eq {abi : Abi} {size : Nat} {pieces : List Bytes}
    (halloc : size < 2 ^ (abi.sizeBits - 1)) (hle : size ≤ pieces.flatten.length) :
    allocateAndCopy abi size pieces = .message ⟨size, pieces.flatten.length, pieces.flatten⟩ := by
  have hcover : splice (List.replicate size 0) 0 pieces.flatten = pieces.flatten :=
    splice_cover (by rwa [List.length_replicate])
  rw [allocateAndCopy, Abi.calloc_of_lt halloc]
  dsimp only
  rw [copyPieces_eq, hcover, Nat.zero_add]

theorem allocateAndCopy_fault {abi : Abi} {size : Nat} (halloc : 2 ^ (abi.sizeBits - 1) ≤ size)
    (pieces : List Bytes) : allocateAndCopy abi size pieces = .fault := by
  rw [allocateAndCopy, Abi.calloc_of_le halloc]

/-! ### The response to a read of NV data -/

/-- `struct ipc_rfs_nv_read_item_response_header`. -/
structure IpcRfsNvReadItemResponseHeader where
  confirm : UInt8
  offset : UInt32
  length : UInt32

def sizeofIpcRfsNvReadItemResponseHeader : Nat := 9

def IpcRfsNvReadItemResponseHeader.toBytes (header : IpcRfsNvReadItemResponseHeader) : Bytes :=
  header.confirm :: (encode 4 header.offset.toNat ++ encode 4 header.length.toNat)

@[simp] theorem IpcRfsNvReadItemResponseHeader.length_toBytes
    (header : IpcRfsNvReadItemResponseHeader) :
    header.toBytes.length = sizeofIpcRfsNvReadItemResponseHeader := by
  simp [toBytes, sizeofIpcRfsNvReadItemResponseHeader]

/-- `none` stands for `NULL`; the length of `nvData` is the argument `nv_size`. -/
def ipcRfsNvDataItemSizeSetup (header : Option IpcRfsNvReadItemResponseHeader)
    (nvData : Option Bytes) : Nat :=
  let size := 0
  match header, nvData with
  | some _, some nvData =>
      if nvData.length = 0 then 0 else sizeofIpcRfsNvReadItemResponseHeader + size
  | _, _ => 0

def ipcRfsNvReadItemSetup (abi : Abi) (header : Option IpcRfsNvReadItemResponseHeader)
    (nvData : Option Bytes) : SetupResult :=
  match header, nvData with
  | some header, some nvData =>
      if nvData.length = 0 then .null
      else
        let size := ipcRfsNvDataItemSizeSetup (some header) (some nvData)
        if size = 0 then .null else allocateAndCopy abi size [header.toBytes, nvData]
  | _, _ => .null

/-- The response is as large as what it carries, and the size function says so. -/
structure ReadItemSized (abi : Abi) (header : IpcRfsNvReadItemResponseHeader) (nvData : Bytes) :
    Prop where
  size_eq : ipcRfsNvDataItemSizeSetup (some header) (some nvData) =
    sizeofIpcRfsNvReadItemResponseHeader + nvData.length
  setup_eq : ipcRfsNvReadItemSetup abi (some header) (some nvData) =
    .message ⟨sizeofIpcRfsNvReadItemResponseHeader + nvData.length,
      sizeofIpcRfsNvReadItemResponseHeader + nvData.length, header.toBytes ++ nvData⟩

/-- **The size of a response is that of its header.** The data are copied behind the allocation, and a
caller that sends what the size function says transmits none of them. -/
theorem nvReadItem_undersized (abi : Abi) (header : IpcRfsNvReadItemResponseHeader) (nvData : Bytes)
    (hdata : nvData ≠ []) :
    ¬ReadItemSized abi header nvData ∧
      ∃ run, ipcRfsNvReadItemSetup abi (some header) (some nvData) = .message run ∧
        run.allocated < run.stored ∧
        run.memory.take (ipcRfsNvDataItemSizeSetup (some header) (some nvData)) = header.toBytes := by
  have hpos : 0 < nvData.length := List.length_pos_iff.mpr hdata
  have hsize : ipcRfsNvDataItemSizeSetup (some header) (some nvData) =
      sizeofIpcRfsNvReadItemResponseHeader := if_neg hpos.ne'
  refine ⟨fun hsized => ?_, ?_⟩
  · have hwhole := hsize.symm.trans hsized.size_eq
    omega
  · have hflatten : [header.toBytes, nvData].flatten = header.toBytes ++ nvData := by simp
    have hlength : [header.toBytes, nvData].flatten.length =
        sizeofIpcRfsNvReadItemResponseHeader + nvData.length := by
      rw [hflatten, List.length_append, header.length_toBytes]
    have hhalf := abi.le_half
    have hsetup : ipcRfsNvReadItemSetup abi (some header) (some nvData) =
        allocateAndCopy abi sizeofIpcRfsNvReadItemResponseHeader [header.toBytes, nvData] := by
      rw [ipcRfsNvReadItemSetup, if_neg hpos.ne', hsize]
      rfl
    refine ⟨_, hsetup.trans (allocateAndCopy_eq ?_ ?_), ?_, ?_⟩
    · rw [sizeofIpcRfsNvReadItemResponseHeader]
      omega
    · omega
    · dsimp only
      omega
    · dsimp only
      rw [hsize, hflatten, ← header.length_toBytes, List.take_left]

theorem nvReadItem_undersized_one :
    ¬ReadItemSized .ilp32 ⟨1, 0, 1⟩ [7] ∧
      ∃ run, ipcRfsNvReadItemSetup .ilp32 (some ⟨1, 0, 1⟩) (some [7]) = .message run ∧
        run.allocated < run.stored ∧
        run.memory.take (ipcRfsNvDataItemSizeSetup (some ⟨1, 0, 1⟩) (some [7])) =
          IpcRfsNvReadItemResponseHeader.toBytes ⟨1, 0, 1⟩ :=
  nvReadItem_undersized .ilp32 ⟨1, 0, 1⟩ [7] (by decide)

/-- For one byte of data, nine bytes are allocated and ten are stored. -/
theorem nvReadItem_overflows :
    ¬ReadItemSized .ilp32 ⟨1, 0, 1⟩ [7] ∧
      ipcRfsNvReadItemSetup .ilp32 (some ⟨1, 0, 1⟩) (some [7]) =
        .message ⟨9, 10, [1, 0, 0, 0, 0, 1, 0, 0, 0, 7]⟩ := by
  constructor
  · exact fun hsized => absurd hsized.size_eq (by decide)
  · rfl

/-! ### The requests that carry a message -/

/-- `struct ipc_sms_send_msg_request_header`. -/
structure IpcSmsSendMsgRequestHeader where
  type : UInt8
  msgType : UInt8
  unknown : UInt8
  length : UInt8

/-- `struct ipc_sms_save_msg_request_header`. -/
structure IpcSmsSaveMsgRequestHeader where
  magic : UInt8
  index : UInt16
  status : UInt8
  length : UInt8

def sizeofIpcSmsSendMsgRequestHeader : Nat := 4

def sizeofIpcSmsSaveMsgRequestHeader : Nat := 5

def IpcSmsSendMsgRequestHeader.toBytes (header : IpcSmsSendMsgRequestHeader) : Bytes :=
  [header.type, header.msgType, header.unknown, header.length]

def IpcSmsSaveMsgRequestHeader.toBytes (header : IpcSmsSaveMsgRequestHeader) : Bytes :=
  header.magic :: (encode 2 header.index.toNat ++ [header.status, header.length])

/-- The sum of the sizes in `size_t`. -/
def smsSize (abi : Abi) (headerSize smscSize pduSize : Nat) : Nat :=
  (headerSize + 1 + smscSize + pduSize) % 2 ^ abi.sizeBits

/-- `none` stands for `NULL`; the lengths of `smsc` and `pdu` are the arguments beside them. -/
def ipcSmsSendMsgSizeSetup (abi : Abi) (header : Option IpcSmsSendMsgRequestHeader)
    (smsc pdu : Option Bytes) : Nat :=
  match header, smsc, pdu with
  | some _, some smsc, some pdu =>
      if smsc.length = 0 ∨ pdu.length = 0 then 0
      else smsSize abi sizeofIpcSmsSendMsgRequestHeader smsc.length pdu.length
  | _, _, _ => 0

/-- The header as it is left behind, and the message. -/
def ipcSmsSendMsgSetup (abi : Abi) (header : Option IpcSmsSendMsgRequestHeader)
    (smsc pdu : Option Bytes) : Option IpcSmsSendMsgRequestHeader × SetupResult :=
  match header, smsc, pdu with
  | some header, some smsc, some pdu =>
      if smsc.length = 0 ∨ pdu.length = 0 then (some header, .null)
      else
        let smscLength := UInt8.ofNat smsc.length
        let header := { header with length := UInt8.ofNat (1 + smsc.length + pdu.length) }
        let size := ipcSmsSendMsgSizeSetup abi (some header) (some smsc) (some pdu)
        if size = 0 then (some header, .null)
        else (some header, allocateAndCopy abi size [header.toBytes, [smscLength], smsc, pdu])
  | _, _, _ => (header, .null)

def ipcSmsSaveMsgSizeSetup (abi : Abi) (header : Option IpcSmsSaveMsgRequestHeader)
    (smsc pdu : Option Bytes) : Nat :=
  match header, pdu with
  | some _, some pdu =>
      if pdu.length = 0 then 0
      else smsSize abi sizeofIpcSmsSaveMsgRequestHeader (smsc.getD []).length pdu.length
  | _, _ => 0

def ipcSmsSaveMsgSetup (abi : Abi) (header : Option IpcSmsSaveMsgRequestHeader)
    (smsc pdu : Option Bytes) : Option IpcSmsSaveMsgRequestHeader × SetupResult :=
  match header, pdu with
  | some header, some pdu =>
      if pdu.length = 0 then (some header, .null)
      else
        let smscSize := (smsc.getD []).length
        let smscLength := UInt8.ofNat smscSize
        let header := { header with
          magic := 2
          index := 12 - 1
          length := UInt8.ofNat (1 + smscSize + pdu.length) }
        let size := ipcSmsSaveMsgSizeSetup abi (some header) smsc (some pdu)
        if size = 0 then (some header, .null)
        else
          (some header, allocateAndCopy abi size
            [header.toBytes, [smscLength], smsc.getD [], pdu])
  | _, _ => (header, .null)

/-- What a reader finds that only knows the header's layout: the message is as large as it was said to
be, its two length bytes are right, and splitting it by them gives back its parts. -/
structure Decodable (headerSize lengthOffset size : Nat) (smsc pdu : Bytes) (run : SetupRun) : Prop where
  size_eq : run.allocated = size ∧ run.stored = size ∧ run.memory.length = size
  length_eq : (run.memory.getD lengthOffset 0).toNat = run.memory.length - headerSize
  smscLength_eq : (run.memory.getD headerSize 0).toNat = smsc.length
  smsc_eq : (run.memory.drop (headerSize + 1)).take (run.memory.getD headerSize 0).toNat = smsc
  pdu_eq : (run.memory.drop (headerSize + 1 + (run.memory.getD headerSize 0).toNat)).take
    ((run.memory.getD lengthOffset 0).toNat - 1 - (run.memory.getD headerSize 0).toNat) = pdu

/-- No message is returned: the sum of the sizes wraps around to zero, or it cannot be allocated. -/
def NoMessage (abi : Abi) (headerSize smscSize pduSize : Nat) : Prop :=
  smsSize abi headerSize smscSize pduSize = 0 ∨
    2 ^ (abi.sizeBits - 1) ≤ smsSize abi headerSize smscSize pduSize

section Sms

variable {abi : Abi} {headerSize lengthOffset : Nat} {header smsc pdu : Bytes}

theorem smsSize_le (abi : Abi) (headerSize smscSize pduSize : Nat) :
    smsSize abi headerSize smscSize pduSize ≤ headerSize + 1 + smscSize + pduSize := Nat.mod_le ..

theorem length_smsPieces (hheader : header.length = headerSize) (smscLength : UInt8) (smsc pdu : Bytes) :
    [header, [smscLength], smsc, pdu].flatten.length = headerSize + 1 + smsc.length + pdu.length := by
  simp [hheader]
  omega

theorem flatten_smsPieces (header : Bytes) (smscLength : UInt8) (smsc pdu : Bytes) :
    [header, [smscLength], smsc, pdu].flatten = header ++ smscLength :: (smsc ++ pdu) := by simp

theorem getD_smscLength (hheader : header.length = headerSize) (smscLength : UInt8) (rest : Bytes) :
    (header ++ smscLength :: rest).getD headerSize 0 = smscLength := by
  rw [List.getD_append_right _ _ _ _ hheader.le, hheader, Nat.sub_self, List.getD_cons_zero]

theorem drop_smscLength (hheader : header.length = headerSize) (smscLength : UInt8) (rest : Bytes)
    (n : Nat) : (header ++ smscLength :: rest).drop (headerSize + 1 + n) = rest.drop n := by
  rw [← hheader, Nat.add_assoc, List.drop_length_add_append, Nat.add_comm 1 n, List.drop_succ_cons]

/-- If the larger length is not cut to its byte, the smaller one is not either, and the parts lie where
the two say. -/
theorem decodable_of_fits (hheader : header.length = headerSize)
    (hlength : (header ++ UInt8.ofNat smsc.length :: (smsc ++ pdu)).getD lengthOffset 0 =
      UInt8.ofNat (1 + smsc.length + pdu.length))
    (hsize : smsSize abi headerSize smsc.length pdu.length =
      headerSize + 1 + smsc.length + pdu.length)
    (hfits : 1 + smsc.length + pdu.length ≤ 255) :
    Decodable headerSize lengthOffset (smsSize abi headerSize smsc.length pdu.length) smsc pdu
      ⟨smsSize abi headerSize smsc.length pdu.length, headerSize + 1 + smsc.length + pdu.length,
        [header, [UInt8.ofNat smsc.length], smsc, pdu].flatten⟩ := by
  have hpieces := length_smsPieces hheader (UInt8.ofNat smsc.length) smsc pdu
  have hsmscByte := getD_smscLength hheader (UInt8.ofNat smsc.length) (smsc ++ pdu)
  have hbehind := drop_smscLength hheader (UInt8.ofNat smsc.length) (smsc ++ pdu)
  have hsmscLength : (UInt8.ofNat smsc.length).toNat = smsc.length :=
    UInt8.toNat_ofNat'.trans (Nat.mod_eq_of_lt (by omega))
  have hlengthLength : (UInt8.ofNat (1 + smsc.length + pdu.length)).toNat =
      1 + smsc.length + pdu.length := UInt8.toNat_ofNat'.trans (Nat.mod_eq_of_lt (by omega))
  refine ⟨⟨rfl, hsize.symm, hpieces.trans hsize.symm⟩, ?_, ?_, ?_, ?_⟩
  · dsimp only
    rw [hpieces, flatten_smsPieces, hlength, hlengthLength]
    omega
  · dsimp only
    rw [flatten_smsPieces, hsmscByte, hsmscLength]
  · dsimp only
    rw [flatten_smsPieces, hsmscByte, hsmscLength, ← Nat.add_zero (headerSize + 1), hbehind,
      List.drop_zero, List.take_left]
  · dsimp only
    rw [flatten_smsPieces, hsmscByte, hsmscLength, hlength, hlengthLength, hbehind, List.drop_left,
      List.take_of_length_le (by omega)]

/-- A message with the two lengths cut to bytes can be decoded if the larger one is not cut. -/
theorem decodable_iff (hheader : header.length = headerSize) (hoffset : lengthOffset < headerSize)
    (hsmall : headerSize < 2 ^ 16)
    (hlength : header.getD lengthOffset 0 = UInt8.ofNat (1 + smsc.length + pdu.length)) {run : SetupRun}
    (hrun : run = ⟨smsSize abi headerSize smsc.length pdu.length,
      headerSize + 1 + smsc.length + pdu.length,
      [header, [UInt8.ofNat smsc.length], smsc, pdu].flatten⟩) :
    Decodable headerSize lengthOffset (smsSize abi headerSize smsc.length pdu.length) smsc pdu run ↔
      1 + smsc.length + pdu.length ≤ 255 := by
  subst hrun
  have hlengthByte : (header ++ UInt8.ofNat smsc.length :: (smsc ++ pdu)).getD lengthOffset 0 =
      UInt8.ofNat (1 + smsc.length + pdu.length) := by
    rw [List.getD_append _ _ _ _ (hheader ▸ hoffset), hlength]
  constructor
  · intro hdecodable
    have hbytes := hdecodable.length_eq
    dsimp only at hbytes
    rw [length_smsPieces hheader, flatten_smsPieces, hlengthByte, UInt8.toNat_ofNat'] at hbytes
    omega
  · intro hfits
    have hhalf := abi.le_half
    have htwo := abi.two_mul_half
    exact decodable_of_fits hheader hlengthByte (Nat.mod_eq_of_lt (by omega)) hfits

/-- A setup that allocates what its size function says and copies a header and the parts behind it. -/
theorem setup_decodable_iff {H : Type} (left : H) (hheader : header.length = headerSize)
    (hoffset : lengthOffset < headerSize) (hsmall : headerSize < 2 ^ 16)
    (hlength : header.getD lengthOffset 0 = UInt8.ofNat (1 + smsc.length + pdu.length)) :
    (∀ header' run, (if smsSize abi headerSize smsc.length pdu.length = 0 then (left, .null)
        else (left, allocateAndCopy abi (smsSize abi headerSize smsc.length pdu.length)
          [header, [UInt8.ofNat smsc.length], smsc, pdu])) = (header', SetupResult.message run) →
      Decodable headerSize lengthOffset (smsSize abi headerSize smsc.length pdu.length) smsc pdu run) ↔
      1 + smsc.length + pdu.length ≤ 255 ∨ NoMessage abi headerSize smsc.length pdu.length := by
  have hpieces := length_smsPieces hheader (UInt8.ofNat smsc.length) smsc pdu
  by_cases hzero : smsSize abi headerSize smsc.length pdu.length = 0
  · rw [if_pos hzero]
    exact iff_of_true nofun (.inr (.inl hzero))
  rw [if_neg hzero, NoMessage, or_iff_right hzero]
  rcases Nat.lt_or_ge (smsSize abi headerSize smsc.length pdu.length) (2 ^ (abi.sizeBits - 1)) with
    halloc | halloc
  · rw [allocateAndCopy_eq halloc (hpieces ▸ smsSize_le ..), hpieces, or_iff_left (by omega)]
    constructor
    · exact fun hruns => (decodable_iff hheader hoffset hsmall hlength rfl).mp (hruns _ _ rfl)
    · rintro hfits header' run ⟨⟩
      exact (decodable_iff hheader hoffset hsmall hlength rfl).mpr hfits
  · rw [allocateAndCopy_fault halloc]
    exact iff_of_true nofun (.inr halloc)

end Sms

theorem sendMsg_decodable_iff (abi : Abi) (header : IpcSmsSendMsgRequestHeader) (smsc : Bytes)
    {pdu : Bytes} (hpdu : pdu ≠ []) :
    (∀ header' run, ipcSmsSendMsgSetup abi (some header) (some smsc) (some pdu) =
        (header', .message run) →
      Decodable sizeofIpcSmsSendMsgRequestHeader 3
        (ipcSmsSendMsgSizeSetup abi (some header) (some smsc) (some pdu)) smsc pdu run) ↔
      1 + smsc.length + pdu.length ≤ 255 ∨ smsc = [] ∨
        NoMessage abi sizeofIpcSmsSendMsgRequestHeader smsc.length pdu.length := by
  by_cases hsmsc : smsc = []
  · subst hsmsc
    exact iff_of_true nofun (.inr (.inl rfl))
  · have hargs : ¬(smsc.length = 0 ∨ pdu.length = 0) := by
      simpa only [List.length_eq_zero_iff, not_or] using ⟨hsmsc, hpdu⟩
    rw [or_iff_right hsmsc]
    simp only [ipcSmsSendMsgSetup, ipcSmsSendMsgSizeSetup, if_neg hargs]
    exact setup_decodable_iff _ rfl (by decide) (by decide) rfl

theorem saveMsg_decodable_iff (abi : Abi) (header : IpcSmsSaveMsgRequestHeader) (smsc : Option Bytes)
    {pdu : Bytes} (hpdu : pdu ≠ []) :
    (∀ header' run, ipcSmsSaveMsgSetup abi (some header) smsc (some pdu) = (header', .message run) →
      Decodable sizeofIpcSmsSaveMsgRequestHeader 4
        (ipcSmsSaveMsgSizeSetup abi (some header) smsc (some pdu)) (smsc.getD []) pdu run) ↔
      1 + (smsc.getD []).length + pdu.length ≤ 255 ∨
        NoMessage abi sizeofIpcSmsSaveMsgRequestHeader (smsc.getD []).length pdu.length := by
  have hargs : ¬pdu.length = 0 := fun hzero => hpdu (List.length_eq_zero_iff.mp hzero)
  simp only [ipcSmsSaveMsgSetup, ipcSmsSaveMsgSizeSetup, if_neg hargs]
  exact setup_decodable_iff _ rfl (by decide) (by decide) rfl

/-- **A request can be decoded exactly if its larger length fits its byte.** -/
theorem sms_requests_decodable_iff (abi : Abi) :
    (∀ header smsc pdu, pdu ≠ [] →
      ((∀ header' run, ipcSmsSendMsgSetup abi (some header) (some smsc) (some pdu) =
          (header', .message run) →
        Decodable sizeofIpcSmsSendMsgRequestHeader 3
          (ipcSmsSendMsgSizeSetup abi (some header) (some smsc) (some pdu)) smsc pdu run) ↔
        1 + smsc.length + pdu.length ≤ 255 ∨ smsc = [] ∨
          NoMessage abi sizeofIpcSmsSendMsgRequestHeader smsc.length pdu.length)) ∧
    (∀ header smsc pdu, pdu ≠ [] →
      ((∀ header' run, ipcSmsSaveMsgSetup abi (some header) smsc (some pdu) = (header', .message run) →
        Decodable sizeofIpcSmsSaveMsgRequestHeader 4
          (ipcSmsSaveMsgSizeSetup abi (some header) smsc (some pdu)) (smsc.getD []) pdu run) ↔
        1 + (smsc.getD []).length + pdu.length ≤ 255 ∨
          NoMessage abi sizeofIpcSmsSaveMsgRequestHeader (smsc.getD []).length pdu.length)) :=
  ⟨fun header smsc _ hpdu => sendMsg_decodable_iff abi header smsc hpdu,
    fun header smsc _ hpdu => saveMsg_decodable_iff abi header smsc hpdu⟩

theorem sms_requests_decodable_short :
    (∀ header' run, ipcSmsSendMsgSetup .lp64 (some ⟨0, 0, 0, 0⟩) (some [1]) (some [2, 3]) =
        (header', .message run) →
      Decodable sizeofIpcSmsSendMsgRequestHeader 3
        (ipcSmsSendMsgSizeSetup .lp64 (some ⟨0, 0, 0, 0⟩) (some [1]) (some [2, 3])) [1] [2, 3] run) ↔
      1 + [(1 : UInt8)].length + [(2 : UInt8), 3].length ≤ 255 ∨ [(1 : UInt8)] = [] ∨
        NoMessage .lp64 sizeofIpcSmsSendMsgRequestHeader [(1 : UInt8)].length [(2 : UInt8), 3].length :=
  (sms_requests_decodable_iff .lp64).1 ⟨0, 0, 0, 0⟩ [1] [2, 3] (by decide)

/-- With an SMSC of 7 bytes, a PDU of 248 bytes is announced as nothing. -/
theorem sms_request_cut_short :
    ¬∀ header' run, ipcSmsSendMsgSetup .lp64 (some ⟨0, 0, 0, 0⟩) (some (List.replicate 7 1))
        (some (List.replicate 248 2)) = (header', .message run) →
      Decodable sizeofIpcSmsSendMsgRequestHeader 3
        (ipcSmsSendMsgSizeSetup .lp64 (some ⟨0, 0, 0, 0⟩) (some (List.replicate 7 1))
          (some (List.replicate 248 2))) (List.replicate 7 1) (List.replicate 248 2) run := by
  have hpdu : List.replicate 248 (2 : UInt8) ≠ [] := List.cons_ne_nil _ _
  rw [sendMsg_decodable_iff .lp64 ⟨0, 0, 0, 0⟩ _ hpdu, List.length_replicate, List.length_replicate,
    NoMessage]
  decide

end SamsungIpc

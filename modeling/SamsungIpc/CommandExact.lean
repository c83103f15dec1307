import SamsungIpc.SenderExact

/-! What the commands behind the EBL write in any of their runs, over either bus: the frame of a command at
once, and for a transfer the frame of its address and those of its blocks. -/

namespace SamsungIpc

open Computability Effect DeviceWrite FrameStream Upload Sender

namespace ModemBoot

section Commands

variable {abi : Abi} {fd : Int} {code : UInt16} {data frame : Bytes} {L : Language DeviceWrite}

theorem quiet_ofUpload {α : Type} {upload : Upload α} (hupload : Quiet deviceEnvironment upload.run) :
    Quiet deviceEnvironment (ofUpload upload).run := hupload.bind fun _ => .pure _

theorem canRead_ofUpload {α : Type} {upload : Upload α} {value : α} (hread : CanRead upload value) :
    CanRead (ofUpload upload) value := runs_map.mpr ⟨_, hread, rfl⟩

theorem quiet_readInt (count : Nat) : Quiet deviceEnvironment (readInt count).run := by
  refine quiet_ofUpload ((quiet_read count).except_bind fun answer => ?_)
  cases answer with
  | none => exact .pure _
  | some bytes => exact .ite (.pure _) (.pure _)

theorem canRead_readInt {count : Nat} (hcount : count < 2 ^ 31) {bytes : Bytes}
    (hbytes : bytes.length = count) : CanRead (readInt count) bytes := by
  have hread : CanRead (call (.read count)) (some bytes) := by
    refine runs_call.mpr ⟨?_, rfl⟩
    rintro _ ⟨⟩
    exact hbytes.le
  refine canRead_ofUpload (hread.bind ?_)
  dsimp only
  rw [hbytes, cInt_of_lt hcount, if_neg (lt_irrefl _)]
  exact ⟨rfl, rfl⟩

/-- What is read completely has the length that was asked for. -/
theorem length_of_readInt {count : Nat} (hcount : count < 2 ^ 31) {bytes : Bytes}
    {log : List DeviceWrite} (hrun : Runs deviceEnvironment (readInt count).run (.ok bytes) log) :
    bytes.length = count := by
  obtain ⟨result, hresult, hsame⟩ := runs_map.mp hrun
  cases result with
  | error exit => cases hsame
  | ok other =>
      obtain rfl : other = bytes := Except.ok.inj hsame
      obtain ⟨answer, first, second, hread, hrest, _⟩ := runs_except_bind_ok.mp hresult
      obtain ⟨hle, _⟩ := runs_call.mp hread
      cases answer with
      | none => exact absurd hrest.1 (by simp)
      | some delivered =>
          dsimp only at hrest
          rw [cInt_of_lt hcount] at hrest
          by_cases hshort : (delivered.length : Int) < count
          · rw [if_pos hshort] at hrest
            exact absurd hrest.1 (by simp)
          · rw [if_neg hshort] at hrest
            obtain rfl := Except.ok.inj hrest.1
            have hmost : delivered.length ≤ count := hle delivered rfl
            omega

theorem transmits_writeInt (hframe : frame.length < 2 ^ 31) :
    Transmits (writeInt frame) (wrote frame) fun _ => True := by
  have hwhole : writeInt frame = ofUpload (writeWhole frame) := by
    rw [writeInt, writeWhole, cInt_of_lt hframe]
  rw [hwhole]
  exact transmits_ofUpload (transmits_writeWhole frame)

/-- A command is written at once, and nothing is written for its reply. -/
theorem sends_command {reply : Sender Unit} {ack : Bool} (hframe : frame.length < 2 ^ 31)
    (hreply : Transmits reply 1 fun _ => True) :
    Sends (ended do
      writeInt frame
      if ack = false then pure () else reply) (wrote frame) := by
  refine follows_checked_ended ((transmits_writeInt hframe).bind_quiet fun _ _ => ?_)
  split
  · exact .pure trivial
  · exact hreply

theorem transmits_hsicReplyRead (code : UInt16) {commandDataSize : Nat}
    (hsize : commandDataSize < 2 ^ 31) :
    Transmits (hsicReplyRead code commandDataSize) 1 fun _ => True := by
  refine transmits_of_quiet ?_ ?_
  · refine (quiet_ofUpload quiet_awaitReady).except_bind fun _ => (quiet_readInt _).except_bind fun _ => ?_
    refine (quiet_ofUpload quiet_awaitReady).except_bind fun _ => (quiet_readInt _).except_bind fun _ => ?_
    exact .ite (.pure _) (.pure _)
  · have hheader : (xmm626HsicCommandHeader 0 code 0).length = xmm626HsicCommandHeaderSize := rfl
    have hcode : LittleEndian.decode (((xmm626HsicCommandHeader 0 code 0).drop 2).take 2) = code.toNat :=
      decode_encode_word code
    refine (canRead_ofUpload canRead_awaitReady).bind ((canRead_readInt (by decide) hheader).bind ?_)
    refine (canRead_ofUpload canRead_awaitReady).bind
      ((canRead_readInt hsize (List.length_replicate (a := 0))).bind ?_)
    rw [hcode, if_neg (not_not.mpr rfl)]
    exact ⟨rfl, rfl⟩

theorem sends_xmm626HsicCommandSend (hfd : 0 ≤ fd) (hdata : data ≠ []) {commandDataSize : Nat}
    (hlength : data.length ≤ commandDataSize) (hsize : commandDataSize + 8 < 2 ^ 31) (ack : Bool) :
    Sends (xmm626HsicCommandSend abi fd code (some data) commandDataSize ack)
      (wrote (xmm626HsicFrame code data commandDataSize)) := by
  have hpos : 0 < data.length := List.length_pos_iff.mpr hdata
  have hguard : ¬(fd < 0 ∨ data.length = 0 ∨ commandDataSize = 0 ∨ commandDataSize < data.length) := by
    omega
  have hframe : (xmm626HsicFrame code data commandDataSize).length < 2 ^ 31 := by
    rwa [length_xmm626HsicFrame hlength]
  rw [xmm626HsicCommandSend, if_neg hguard]
  dsimp only
  rw [Abi.calloc_of_lt (hframe.trans_le abi.le_half)]
  exact sends_command hframe (transmits_hsicReplyRead code (by omega))

/-! ### Transfers -/

/-- The data in blocks of at most `chunk` bytes, each of them in a frame of its own. -/
def transferred (encode : Bytes → Bytes) (chunk : Nat) (data : Bytes) : Language DeviceWrite :=
  {(blocks chunk data.length data).map fun block => whole (encode block)}

theorem wrote_mul_singleton (bytes : Bytes) (log : List DeviceWrite) :
    wrote bytes * ({log} : Language DeviceWrite) = {whole bytes :: log} := by
  ext word
  constructor
  · rintro ⟨_, rfl, _, rfl, rfl⟩
    rfl
  · rintro rfl
    exact ⟨_, rfl, _, rfl, rfl⟩

variable {chunk : ChunkSize} {send : Bytes → Prog DeviceCall (Option Int)} {encode : Bytes → Bytes}

theorem transmits_modemDataLoop
    (hsend : ∀ block ≠ [], block.length ≤ chunk → Sends (send block) (wrote (encode block))) (c : Nat) :
    Transmits (modemDataLoop send chunk data c) (transferred encode chunk (data.drop c))
      fun _ => True := by
  have hchunk : 0 < chunk.val := chunk.property
  induction hleft : data.length - c using Nat.strong_induction_on generalizing c with
  | _ left ih =>
      rw [modemDataLoop]
      by_cases hmore : c < data.length
      · have hlength : (data.drop c).length = data.length - c := List.length_drop
        -- the last block may be shorter than a chunk
        have htake : (data.drop c).take (if chunk.val < data.length - c then chunk.val
            else data.length - c) = (data.drop c).take chunk := by
          rw [List.take_eq_take_iff, hlength]
          split <;> omega
        have hdrop : data.drop (c + if chunk.val < data.length - c then chunk.val
            else data.length - c) = (data.drop c).drop chunk := by
          rw [List.drop_drop]
          split
          · rfl
          · rw [List.drop_of_length_le (by omega), List.drop_of_length_le (by omega)]
        obtain ⟨head, tail, hcons⟩ := List.exists_cons_of_ne_nil
          (show data.drop c ≠ [] from List.ne_nil_of_length_pos (by omega))
        have hblock : (data.drop c).take chunk ≠ [] := by
          apply List.ne_nil_of_length_pos
          rw [List.length_take]
          omega
        have hrest := ih _ (by split <;> omega)
          (c + if chunk.val < data.length - c then chunk.val else data.length - c) rfl
        rw [hdrop] at hrest
        have hword : transferred encode chunk (data.drop c) =
            wrote (encode ((data.drop c).take chunk)) *
              transferred encode chunk ((data.drop c).drop chunk) := by
          have htail : ((head :: tail).drop chunk).length ≤ tail.length := by
            rw [List.length_drop, List.length_cons]
            omega
          rw [hcons, transferred, List.length_cons, blocks, List.map_cons,
            blocks_of_length_le hchunk htail]
          exact (wrote_mul_singleton _ _).symm
        rw [if_pos hmore, hword]
        dsimp only
        rw [htake]
        exact (hsend _ hblock (List.length_take_le ..)).bind fun _ _ => hrest
      · rw [if_neg hmore, List.drop_eq_nil_of_le (not_lt.mp hmore)]
        exact .pure trivial

/-- The address is set, and the blocks follow. -/
theorem sends_modemDataSend {setAddress : Prog DeviceCall (Option Int)} {address : Bytes} (hfd : 0 ≤ fd)
    (hdata : data ≠ []) (haddress : Sends setAddress (wrote address))
    (hsend : ∀ block ≠ [], block.length ≤ chunk → Sends (send block) (wrote (encode block))) :
    Sends (modemDataSend fd (some data) setAddress send chunk)
      (wrote address * transferred encode chunk data) := by
  have hguard : ¬(fd < 0 ∨ data.length = 0) := by
    rw [List.length_eq_zero_iff]
    exact not_or.mpr ⟨not_lt.mpr hfd, hdata⟩
  rw [modemDataSend, if_neg hguard]
  exact follows_checked_ended (haddress.bind fun _ _ => transmits_modemDataLoop hsend 0)

theorem sends_dataSend {send : Option Bytes → Prog DeviceCall (Option Int)} (hfd : 0 ≤ fd)
    (hdata : data ≠ []) (hsend : Sends (send (some data)) L) : Sends (dataSend fd (some data) send) L := by
  have hguard : ¬(fd < 0 ∨ data.length = 0) := by
    rw [List.length_eq_zero_iff]
    exact not_or.mpr ⟨not_lt.mpr hfd, hdata⟩
  rw [dataSend, if_neg hguard]
  exact follows_checked_ended hsend

end Commands

/-! ### Over HSIC -/

section Hsic

variable {abi : Abi} {fd : Int} {data : Bytes}

/-- The configuration that the modem has sent, sent back. -/
def hsicPortConfig : Language DeviceWrite :=
  {log | ∃ config : Bytes, config.length = 0x4C ∧
    log ∈ wrote (xmm626HsicFrame xmm626CommandSetPortConfig config 0x800)}

/-- A command whose block has the common size. -/
def hsicCommandWrites (code : UInt16) (data : Bytes) : Language DeviceWrite :=
  wrote (xmm626HsicFrame code data 0x4000)

def hsicTransfer (address : UInt32) (data : Bytes) : Language DeviceWrite :=
  hsicCommandWrites xmm626CommandFlashSetAddress (LittleEndian.encode 4 address.toNat) *
    transferred (fun block => xmm626HsicFrame xmm626CommandFlashWriteBlock block 0x4000) 0x4000 data

theorem transmits_readInt {count : Nat} (hcount : count < 2 ^ 31) :
    Transmits (readInt count) 1 fun bytes => bytes.length = count :=
  (quiet_readInt count).follows (fun _ _ hrun => length_of_readInt hcount hrun)
    ⟨_, canRead_readInt hcount (List.length_replicate (a := 0))⟩

theorem sends_xmm626HsicPortConfigSend (hfd : 0 ≤ fd) :
    Sends (xmm626HsicPortConfigSend abi fd) hsicPortConfig := by
  rw [xmm626HsicPortConfigSend, if_neg (not_lt.mpr hfd)]
  refine follows_checked_ended ?_
  refine (transmits_ofUpload transmits_awaitReady).quiet_bind fun _ _ => ?_
  refine (transmits_ofUpload transmits_awaitReady).quiet_bind fun _ _ => ?_
  refine (transmits_readInt (by decide)).quiet_bind fun config hconfig => ?_
  have hne : config ≠ [] := List.ne_nil_of_length_pos (hconfig ▸ by decide)
  exact (sends_xmm626HsicCommandSend hfd hne (hconfig ▸ by decide) (by decide) true).mono
    fun log hlog => ⟨config, hconfig, hlog⟩

theorem sends_hsicCommand (hfd : 0 ≤ fd) (code : UInt16) (hdata : data ≠ [])
    (hlength : data.length ≤ 0x4000) (ack : Bool) :
    Sends (xmm626HsicCommandSend abi fd code (some data) 0x4000 ack) (hsicCommandWrites code data) :=
  sends_xmm626HsicCommandSend hfd hdata hlength (by decide) ack

theorem sends_xmm626HsicSecStartSend (hfd : 0 ≤ fd) (hdata : data ≠ []) (hlength : data.length ≤ 0x4000) :
    Sends (xmm626HsicSecStartSend abi fd (some data)) (hsicCommandWrites xmm626CommandSecStart data) :=
  sends_dataSend hfd hdata (sends_hsicCommand hfd _ hdata hlength true)

theorem sends_xmm626HsicSecEndSend (hfd : 0 ≤ fd) :
    Sends (xmm626HsicSecEndSend abi fd) (hsicCommandWrites xmm626CommandSecEnd secEndData) :=
  sends_dataSend hfd (by decide) (sends_hsicCommand hfd _ (by decide) (by decide) true)

theorem sends_xmm626HsicHwResetSend (hfd : 0 ≤ fd) :
    Sends (xmm626HsicHwResetSend abi fd) (hsicCommandWrites xmm626CommandHwReset hwResetData) :=
  sends_dataSend hfd (by decide) (sends_hsicCommand hfd _ (by decide) (by decide) false)

theorem sends_xmm626HsicModemDataSend (hfd : 0 ≤ fd) (hdata : data ≠ []) (address : UInt32) :
    Sends (xmm626HsicModemDataSend abi fd (some data) address) (hsicTransfer address data) := by
  have haddress : (LittleEndian.encode 4 address.toNat).length = 4 := LittleEndian.length_encode ..
  refine sends_modemDataSend hfd hdata ?_ fun block hblock hlength => ?_
  · exact sends_hsicCommand hfd _ (List.ne_nil_of_length_pos (by omega)) (by omega) true
  · exact sends_hsicCommand hfd _ hblock hlength false

theorem sends_xmm626HsicFirmwareSend (hfd : 0 ≤ fd) (hdata : data ≠ []) :
    Sends (xmm626HsicFirmwareSend abi fd (some data)) (hsicTransfer xmm626FirmwareAddress data) :=
  sends_dataSend hfd hdata (sends_xmm626HsicModemDataSend hfd hdata _)

end Hsic

/-! ### Over MIPI, on a machine of 32 bits -/

section Mipi

variable {fd : Int} {code : UInt16} {data : Bytes}

theorem calloc_ilp32_of_lt {size : Nat} (hsize : size < 2 ^ 31) :
    Abi.ilp32.calloc size = some (List.replicate size 0) := Abi.calloc_of_lt hsize

theorem calloc_ilp32_of_le {size : Nat} (hsize : 2 ^ 31 ≤ size) : Abi.ilp32.calloc size = none :=
  Abi.calloc_of_le hsize

theorem quiet_mipiReplyLoop (length c : Nat) (buffer : Bytes) :
    Quiet deviceEnvironment (mipiReplyLoop length c buffer).run := by
  fun_induction mipiReplyLoop length c buffer with
  | case1 c buffer _ ih =>
      exact (quiet_ofUpload quiet_awaitReady).except_bind fun _ =>
        (quiet_readInt 4).except_bind fun block => ih block
  | case2 => exact .pure _

theorem quiet_mipiReplyRead (abi : Abi) (code : UInt16) (length : Nat) :
    Quiet deviceEnvironment (mipiReplyRead abi code length).run := by
  rw [mipiReplyRead]
  split
  · exact .pure _
  · exact (quiet_mipiReplyLoop _ _ _).except_bind fun _ => .ite (.pure _) (.pure _)

/-- A reply whose eight bytes repeat the code. -/
theorem canRead_mipiReply (code : UInt16) : CanRead (mipiReply .ilp32 code) () := by
  have hawait : CanRead (ofUpload awaitReady) () := canRead_ofUpload canRead_awaitReady
  have hfirst : (LittleEndian.encode 4 8).length = 4 := rfl
  have hblock : ([0, 0] ++ LittleEndian.encode 2 code.toNat).length = 4 := rfl
  have hrest : List.length [(0 : UInt8), 0, 0, 0] = 4 := rfl
  have hlength : mipiReplyLength .ilp32 8 = 12 := rfl
  have hsize : Abi.ilp32.sizeBytes = 4 := rfl
  have hcalloc : Abi.ilp32.calloc 12 = some (List.replicate 12 0) := rfl
  have hstored : LittleEndian.decode (LittleEndian.encode 4 8) = 8 := rfl
  -- the loop makes two passes, and the first one brings the code
  have hloop : ∀ buffer, CanRead (mipiReplyLoop 12 4 buffer)
      (ByteSplice.splice (ByteSplice.splice buffer 4 ([0, 0] ++ LittleEndian.encode 2 code.toNat)) 8
        [0, 0, 0, 0]) := by
    intro buffer
    rw [mipiReplyLoop, if_pos (by decide)]
    refine hawait.bind ((canRead_readInt (by decide) hblock).bind ?_)
    rw [mipiReplyLoop, if_pos (by decide)]
    refine hawait.bind ((canRead_readInt (by decide) hrest).bind ?_)
    rw [mipiReplyLoop, if_neg (by decide)]
    exact ⟨rfl, rfl⟩
  refine hawait.bind ((canRead_readInt (by decide) hfirst).bind ?_)
  dsimp only
  rw [hstored, if_neg (by decide), hlength, if_neg (by decide), mipiReplyRead, hcalloc, hsize]
  refine (hloop _).bind ?_
  dsimp only
  rw [if_neg]
  · exact ⟨rfl, rfl⟩
  · rw [not_not]
    exact decode_encode_word code

theorem transmits_mipiReply (code : UInt16) : Transmits (mipiReply .ilp32 code) 1 fun _ => True := by
  refine transmits_of_quiet ?_ (canRead_mipiReply code)
  refine (quiet_ofUpload quiet_awaitReady).except_bind fun _ => (quiet_readInt _).except_bind fun _ => ?_
  exact .ite (.pure _) (.ite (.pure _) (quiet_mipiReplyRead _ _ _))

theorem sends_xmm626MipiCommandSend (hfd : 0 ≤ fd) (hdata : data ≠ []) (shortFooter : Bool)
    (hlength : data.length + 16 < 2 ^ 31) (ack : Bool) :
    Sends (xmm626MipiCommandSend .ilp32 fd code (some data) ack shortFooter)
      (wrote (xmm626MipiFrame code data shortFooter)) := by
  have hguard : ¬(fd < 0 ∨ data.length = 0) := by
    rw [List.length_eq_zero_iff]
    exact not_or.mpr ⟨not_lt.mpr hfd, hdata⟩
  have hframe : (xmm626MipiFrame code data shortFooter).length < 2 ^ 31 := by
    have hfooter : mipiFooterLength shortFooter ≤ 6 := by cases shortFooter <;> decide
    rw [length_xmm626MipiFrame]
    omega
  rw [xmm626MipiCommandSend, if_neg hguard]
  dsimp only
  rw [calloc_ilp32_of_lt hframe]
  exact sends_command hframe (transmits_mipiReply code)

/-- The configuration that the modem has sent, sent back. -/
def mipiPortConfig : Language DeviceWrite :=
  {log | ∃ config : Bytes, config ≠ [] ∧ config.length + 16 < 2 ^ 31 ∧
    log ∈ wrote (xmm626MipiFrame xmm626CommandSetPortConfig config false)}

def mipiTransfer (address : UInt32) (data : Bytes) : Language DeviceWrite :=
  wrote (xmm626MipiFrame xmm626CommandFlashSetAddress (LittleEndian.encode 4 address.toNat) false) *
    transferred (fun block => xmm626MipiFrame xmm626CommandFlashWriteBlock block true) 0xDF2 data

/-- Every pass reads as many bytes as it asks for. -/
theorem transmits_portConfigLoop {length : Nat} {read : Bytes}
    (hread : read.length ≤ length) {passes : Nat} (hpasses : length - read.length ≤ passes) :
    Transmits (portConfigLoop length read passes) 1 fun config => config.length = length := by
  induction passes generalizing read with
  | zero => exact .pure (by omega)
  | succ passes ih =>
      rw [portConfigLoop]
      by_cases hmore : read.length < length
      · rw [if_pos hmore]
        refine (transmits_ofUpload transmits_awaitReady).quiet_bind fun _ _ => ?_
        have hcount : (if 4 < length - read.length then 4 else length - read.length) < 2 ^ 31 := by
          split <;> omega
        refine (transmits_readInt hcount).quiet_bind fun block hblock => ?_
        apply ih
        · rw [List.length_append, hblock]
          split <;> omega
        · rw [List.length_append, hblock]
          split <;> omega
      · rw [if_neg hmore]
        exact .pure (by omega)

/-- A configuration that is too long for a buffer, or for the buffer of its command. -/
theorem abandons_portConfig {length : Nat} (hlength : 2 ^ 31 ≤ length + 16) :
    Abandons deviceEnvironment (portConfigRead .ilp32 length >>= fun buffer =>
      checked (xmm626MipiCommandSend .ilp32 fd xmm626CommandSetPortConfig (some buffer) true false)) := by
  rw [portConfigRead]
  by_cases hcalloc : length < 2 ^ 31
  · rw [calloc_ilp32_of_lt hcalloc]
    have hempty : ([] : Bytes).length ≤ length := Nat.zero_le length
    have hloop := transmits_portConfigLoop hempty (Nat.sub_le ..)
    refine Quiet.abandons (fun result events hrun => ?_) fun config events hrun => ?_
    · exact eq_nil_of_mem_begun_one (hloop.attempts result events hrun)
    · have hconfig := (hloop.emits config events hrun).2
      have hframe : 2 ^ 31 ≤ (xmm626MipiFrame xmm626CommandSetPortConfig config false).length := by
        rw [length_xmm626MipiFrame, hconfig]
        change 2 ^ 31 ≤ 10 + length + 6
        omega
      rw [xmm626MipiCommandSend]
      split
      · exact .throw _ SendExit.error
      · dsimp only
        rw [calloc_ilp32_of_le hframe]
        exact .throw _ SendExit.fault
  · rw [calloc_ilp32_of_le (not_lt.mp hcalloc)]
    refine Quiet.abandons ?_ fun config events hrun => ?_
    · exact (quiet_ofUpload quiet_awaitReady).except_bind fun _ => .pure _
    · obtain ⟨_, _, _, _, herror, _⟩ := runs_except_bind_ok.mp hrun
      cases herror.1

theorem sends_xmm626MipiPortConfigSend (hfd : 0 ≤ fd) :
    Sends (xmm626MipiPortConfigSend .ilp32 fd) mipiPortConfig := by
  have hsize : Abi.ilp32.sizeBytes = 4 := rfl
  have hcommand : ∀ length, length ≠ 0 → length + 16 < 2 ^ 31 →
      Transmits (portConfigRead .ilp32 length >>= fun buffer => checked (xmm626MipiCommandSend .ilp32 fd
        xmm626CommandSetPortConfig (some buffer) true false)) mipiPortConfig fun _ => True := by
    intro length hzero hlength
    rw [portConfigRead, calloc_ilp32_of_lt (by omega)]
    have hempty : ([] : Bytes).length ≤ length := Nat.zero_le length
    have hloop := transmits_portConfigLoop hempty (Nat.sub_le ..)
    refine hloop.quiet_bind fun config hconfig => ?_
    have hne : config ≠ [] := List.ne_nil_of_length_pos (by omega)
    have hframe : config.length + 16 < 2 ^ 31 := by omega
    exact (sends_xmm626MipiCommandSend hfd hne false hframe true).mono
      fun log hlog => ⟨config, hne, hframe, hlog⟩
  rw [xmm626MipiPortConfigSend, if_neg (not_lt.mpr hfd)]
  refine follows_checked_ended ?_
  refine (transmits_ofUpload transmits_awaitReady).quiet_bind fun _ _ => ?_
  rw [hsize, ← one_mul mipiPortConfig]
  refine (transmits_readInt (by decide)).bind_or_abandon (fun stored _ => ?_) ?_
  · by_cases hzero : LittleEndian.decode stored = 0
    · rw [if_pos hzero]
      exact .inl (.throw _ SendExit.error)
    · rw [if_neg hzero]
      by_cases hlength : LittleEndian.decode stored + 16 < 2 ^ 31
      · exact .inr (hcommand _ hzero hlength)
      · exact .inl (abandons_portConfig (not_lt.mp hlength))
  · refine ⟨LittleEndian.encode 4 4, [], canRead_readInt (by decide) rfl, ?_⟩
    exact hcommand 4 (by decide) (by decide)

theorem sends_xmm626MipiSecStartSend (hfd : 0 ≤ fd) (hdata : data ≠ [])
    (hlength : data.length + 16 < 2 ^ 31) :
    Sends (xmm626MipiSecStartSend .ilp32 fd (some data))
      (wrote (xmm626MipiFrame xmm626CommandSecStart data false)) :=
  sends_dataSend hfd hdata (sends_xmm626MipiCommandSend hfd hdata false hlength true)

theorem sends_xmm626MipiSecEndSend (hfd : 0 ≤ fd) :
    Sends (xmm626MipiSecEndSend .ilp32 fd)
      (wrote (xmm626MipiFrame xmm626CommandSecEnd secEndData true)) :=
  sends_dataSend hfd (by decide) (sends_xmm626MipiCommandSend hfd (by decide) true (by decide) true)

theorem sends_xmm626MipiHwResetSend (hfd : 0 ≤ fd) :
    Sends (xmm626MipiHwResetSend .ilp32 fd)
      (wrote (xmm626MipiFrame xmm626CommandHwReset hwResetData true)) :=
  sends_dataSend hfd (by decide) (sends_xmm626MipiCommandSend hfd (by decide) true (by decide) false)

theorem sends_xmm626MipiModemDataSend (hfd : 0 ≤ fd) (hdata : data ≠ []) (address : UInt32) :
    Sends (xmm626MipiModemDataSend .ilp32 fd (some data) address) (mipiTransfer address data) := by
  have haddress : (LittleEndian.encode 4 address.toNat).length = 4 := LittleEndian.length_encode ..
  refine sends_modemDataSend hfd hdata ?_ fun block hblock hlength => ?_
  · exact sends_xmm626MipiCommandSend hfd (List.ne_nil_of_length_pos (by omega)) false (by omega) true
  · have hchunk : block.length ≤ 0xDF2 := hlength
    exact sends_xmm626MipiCommandSend hfd hblock true (by omega) true

theorem sends_xmm626MipiFirmwareSend (hfd : 0 ≤ fd) (hdata : data ≠ []) :
    Sends (xmm626MipiFirmwareSend .ilp32 fd (some data)) (mipiTransfer xmm626FirmwareAddress data) :=
  sends_dataSend hfd hdata (sends_xmm626MipiModemDataSend hfd hdata _)

theorem sends_xmm626MipiMpsDataSend (hfd : 0 ≤ fd) (hdata : data ≠ []) :
    Sends (xmm626MipiMpsDataSend .ilp32 fd (some data)) (mipiTransfer xmm626MpsDataAddress data) :=
  sends_dataSend hfd hdata (sends_xmm626MipiModemDataSend hfd hdata _)

end Mipi

end ModemBoot

end SamsungIpc

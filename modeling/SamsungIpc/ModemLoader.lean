import SamsungIpc.BlockMemory
import SamsungIpc.GenericBootExact
import SamsungIpc.MipiBootExact

/-! What a boot leaves in the memory of the modem. The loader that the EBL starts takes its commands from
the stream of bytes that the boot device has taken. -/

namespace SamsungIpc

open BlockMemory DeviceWrite Effect FrameStream ModemBoot

/-! ### The loader -/

/-- The commands of a transfer. -/
def transferFrames (address : UInt32) (chunk : Nat) (data : Bytes) : List FlashFrame :=
  ⟨xmm626CommandFlashSetAddress.toNat, LittleEndian.encode 4 address.toNat⟩ ::
    (blocks chunk data.length data).map (FlashFrame.mk xmm626CommandFlashWriteBlock.toNat)

structure ModemLoader where
  memory : Memory UInt8
  address : Nat
  started : Bool

namespace ModemLoader

/-- A block is stored behind the one before it. The other commands do not change the memory. -/
def execute (loader : ModemLoader) (frame : FlashFrame) : ModemLoader :=
  if frame.code = xmm626CommandFlashSetAddress.toNat then
    { loader with address := LittleEndian.decode frame.payload }
  else if frame.code = xmm626CommandFlashWriteBlock.toNat then
    { loader with
      memory := store loader.memory loader.address frame.payload
      address := loader.address + frame.payload.length }
  else if frame.code = xmm626CommandHwReset.toNat then { loader with started := true }
  else loader

def run (loader : ModemLoader) (frames : List FlashFrame) : ModemLoader := frames.foldl execute loader

variable (loader : ModemLoader)

theorem run_append (first second : List FlashFrame) :
    loader.run (first ++ second) = (loader.run first).run second := List.foldl_append

theorem run_blocks (payloads : List Bytes) :
    loader.run (payloads.map (FlashFrame.mk xmm626CommandFlashWriteBlock.toNat)) =
      { loader with
        memory := store loader.memory loader.address payloads.flatten
        address := loader.address + payloads.flatten.length } := by
  induction payloads generalizing loader with
  | nil =>
      rw [List.flatten_nil, store_nil]
      rfl
  | cons payload payloads ih =>
      have hstep : loader.execute ⟨xmm626CommandFlashWriteBlock.toNat, payload⟩ =
          { loader with
            memory := store loader.memory loader.address payload
            address := loader.address + payload.length } := rfl
      rw [List.map_cons, run, List.foldl_cons, hstep, ← run, ih, List.flatten_cons, store_append,
        List.length_append, Nat.add_assoc]

/-- A transfer stores its data at its address, whatever the loader has done before. -/
theorem run_transferFrames (address : UInt32) {chunk : Nat} (hchunk : 0 < chunk) (data : Bytes) :
    loader.run (transferFrames address chunk data) =
      { loader with
        memory := store loader.memory address.toNat data
        address := address.toNat + data.length } := by
  have haddress : LittleEndian.decode (LittleEndian.encode 4 address.toNat) = address.toNat :=
    decode_encode_of_lt (show address.toNat < 256 ^ 4 from address.toNat_lt)
  have hstep : loader.execute ⟨xmm626CommandFlashSetAddress.toNat, LittleEndian.encode 4 address.toNat⟩ =
      { loader with address := address.toNat } := by
    rw [execute, if_pos rfl, haddress]
  have hblocks := run_blocks { loader with address := address.toNat } (blocks chunk data.length data)
  rw [flatten_blocks hchunk le_rfl] at hblocks
  rw [transferFrames, run, List.foldl_cons, hstep]
  exact hblocks

/-- The commands of the security section do not concern the memory. -/
theorem run_security {code : UInt16} (hcode : code = xmm626CommandSecStart ∨ code = xmm626CommandSecEnd)
    (data : Bytes) : loader.run [⟨code.toNat, data⟩] = loader := by
  have haddress : code.toNat ≠ xmm626CommandFlashSetAddress.toNat := by
    rcases hcode with rfl | rfl <;> decide
  have hblock : code.toNat ≠ xmm626CommandFlashWriteBlock.toNat := by
    rcases hcode with rfl | rfl <;> decide
  have hreset : code.toNat ≠ xmm626CommandHwReset.toNat := by
    rcases hcode with rfl | rfl <;> decide
  rw [run, List.foldl_cons, List.foldl_nil, execute, if_neg haddress, if_neg hblock, if_neg hreset]

theorem run_hwReset (data : Bytes) :
    loader.run [⟨xmm626CommandHwReset.toNat, data⟩] = { loader with started := true } := by
  have haddress : xmm626CommandHwReset.toNat ≠ xmm626CommandFlashSetAddress.toNat := by decide
  have hblock : xmm626CommandHwReset.toNat ≠ xmm626CommandFlashWriteBlock.toNat := by decide
  rw [run, List.foldl_cons, List.foldl_nil, execute, if_neg haddress, if_neg hblock, if_pos rfl]

end ModemLoader

/-! ### The stream -/

section Stream

variable {format : Format FlashFrame} {first second log : List DeviceWrite}
  {firstFrames secondFrames frames : List FlashFrame}

/-- Writes that were whole, of one frame each. -/
def WritesFrames (format : Format FlashFrame) (log : List DeviceWrite) (frames : List FlashFrame) : Prop :=
  ∃ encoded, log = encoded.map whole ∧ List.Forall₂ format.Encodes encoded frames

theorem WritesFrames.append (hfirst : WritesFrames format first firstFrames)
    (hsecond : WritesFrames format second secondFrames) :
    WritesFrames format (first ++ second) (firstFrames ++ secondFrames) := by
  obtain ⟨firstEncoded, rfl, hfirst⟩ := hfirst
  obtain ⟨secondEncoded, rfl, hsecond⟩ := hsecond
  exact ⟨firstEncoded ++ secondEncoded, (List.map_append ..).symm, List.rel_append hfirst hsecond⟩

theorem writesFrames_of_mem_wrote {bytes : Bytes} {frame : FlashFrame} (hlog : log ∈ wrote bytes)
    (hbytes : format.Encodes bytes frame) : WritesFrames format log [frame] := by
  obtain rfl := hlog
  exact ⟨[bytes], rfl, .cons hbytes .nil⟩

theorem writesFrames_of_mem_transferred {encode : Bytes → Bytes} {chunk : Nat} (hchunk : 0 < chunk)
    {data : Bytes} (hlog : log ∈ ModemBoot.transferred encode chunk data)
    (hencode : ∀ block : Bytes, block.length ≤ chunk →
      format.Encodes (encode block) ⟨xmm626CommandFlashWriteBlock.toNat, block⟩) :
    WritesFrames format log ((blocks chunk data.length data).map
      (FlashFrame.mk xmm626CommandFlashWriteBlock.toNat)) := by
  obtain rfl := hlog
  refine ⟨(blocks chunk data.length data).map encode, by rw [List.map_map]; rfl, ?_⟩
  rw [List.forall₂_map_left_iff, List.forall₂_map_right_iff, List.forall₂_same]
  exact fun block hblock => hencode block (forall_mem_blocks hchunk block hblock).2

/-- The device can read the frames back from the bytes it has taken. -/
theorem WritesFrames.parse (hlog : WritesFrames format log frames) :
    format.parse (log.flatMap accepted) = some frames := by
  obtain ⟨encoded, rfl, hencoded⟩ := hlog
  have hbytes : (encoded.map whole).flatMap accepted = encoded.flatten := by
    rw [List.flatMap_map]
    simp only [accepted_whole]
    exact List.flatMap_id
  rw [hbytes, Format.parse_flatten hencoded]

/-! ### Over HSIC -/

theorem writesFrames_hsicCommandWrites {code : UInt16} {data : Bytes} (hdata : data.length ≤ 0x4000)
    (hlog : log ∈ hsicCommandWrites code data) : WritesFrames hsicFormat log [⟨code.toNat, data⟩] :=
  writesFrames_of_mem_wrote hlog (hsicFormat_encodes hdata)

theorem writesFrames_hsicTransfer {address : UInt32} {data : Bytes}
    (hlog : log ∈ hsicTransfer address data) :
    WritesFrames hsicFormat log (transferFrames address 0x4000 data) := by
  have haddress : (LittleEndian.encode 4 address.toNat).length = 4 := LittleEndian.length_encode ..
  obtain ⟨first, hfirst, second, hsecond, rfl⟩ := hlog
  exact (writesFrames_hsicCommandWrites (by omega) hfirst).append
    (writesFrames_of_mem_transferred (by decide) hsecond fun block hblock => hsicFormat_encodes hblock)

/-! ### Over MIPI -/

/-- The command that starts the security section has the long footer, too. -/
def mipiCommandFormat : Format FlashFrame := fun bytes =>
  (mipiFormat bytes).map fun parsed =>
    if parsed.1.code = xmm626CommandSecStart.toNat then (parsed.1, parsed.2.drop 2) else parsed

theorem mipiCommandFormat_encodes {code : UInt16} {data : Bytes} {shortFooter : Bool}
    (hdata : data.length < 2 ^ 16) (hcode : code ≠ xmm626CommandSecStart)
    (hfooter : shortFooter = true ↔ code ≠ xmm626CommandFlashSetAddress) :
    mipiCommandFormat.Encodes (xmm626MipiFrame code data shortFooter) ⟨code.toNat, data⟩ := by
  have hencodes := mipiFormat_encodes hdata hfooter
  refine ⟨hencodes.ne_nil, fun rest => ?_⟩
  rw [mipiCommandFormat, hencodes.format_append, Option.map_some, if_neg]
  exact fun h => hcode (UInt16.toNat_inj.mp h)

/-- The long footer is the short one with two bytes behind it. -/
theorem xmm626MipiFrame_long (code : UInt16) (data : Bytes) :
    ∃ tail : Bytes, tail.length = 2 ∧
      xmm626MipiFrame code data false = xmm626MipiFrame code data true ++ tail := by
  refine ⟨((xmm626MipiCommandFooter (xmm626CommandChecksum code data)).drop 4).take 2, rfl, ?_⟩
  rw [xmm626MipiFrame, xmm626MipiFrame, List.append_assoc _ _ (List.take _ (List.drop _ _))]
  rfl

theorem mipiCommandFormat_encodes_secStart {data : Bytes} (hdata : data.length < 2 ^ 16) :
    mipiCommandFormat.Encodes (xmm626MipiFrame xmm626CommandSecStart data false)
      ⟨xmm626CommandSecStart.toNat, data⟩ := by
  have hencodes : mipiFormat.Encodes (xmm626MipiFrame xmm626CommandSecStart data true)
      ⟨xmm626CommandSecStart.toNat, data⟩ := mipiFormat_encodes hdata (by decide)
  obtain ⟨tail, htail, hframe⟩ := xmm626MipiFrame_long xmm626CommandSecStart data
  rw [hframe]
  refine ⟨List.append_ne_nil_of_left_ne_nil hencodes.ne_nil _, fun rest => ?_⟩
  rw [mipiCommandFormat, List.append_assoc, hencodes.format_append, Option.map_some, if_pos rfl,
    List.drop_left' htail]

theorem writesFrames_mipiTransfer {address : UInt32} {data : Bytes}
    (hlog : log ∈ mipiTransfer address data) :
    WritesFrames mipiCommandFormat log (transferFrames address 0xDF2 data) := by
  have haddress : (LittleEndian.encode 4 address.toNat).length = 4 := LittleEndian.length_encode ..
  obtain ⟨first, hfirst, second, hsecond, rfl⟩ := hlog
  refine (writesFrames_of_mem_wrote hfirst (mipiCommandFormat_encodes (by omega) (by decide)
    (by decide))).append (writesFrames_of_mem_transferred (by decide) hsecond fun block hblock => ?_)
  exact mipiCommandFormat_encodes (by omega) (by decide) (by decide)

end Stream

/-! ### The writes of a boot -/

/-- A write, with the descriptor it goes to. -/
def ModemEvent.write? : ModemEvent → Option (Int × DeviceWrite)
  | .wrote fd write => some (fd, write)
  | _ => none

/-- All that is written, to whichever descriptor. -/
def bootWrites (events : List ModemEvent) : List (Int × DeviceWrite) :=
  events.filterMap ModemEvent.write?

theorem bootWrites_append (first second : List ModemEvent) :
    bootWrites (first ++ second) = bootWrites first ++ bootWrites second := List.filterMap_append

theorem bootWrites_map_wrote (fd : Int) (log : List DeviceWrite) :
    bootWrites (log.map (.wrote fd)) = log.map (Prod.mk fd) := by
  rw [bootWrites, List.filterMap_map]
  exact congrFun List.filterMap_eq_map log

/-- The writes of `M`, all to one descriptor. -/
def writesTo (fd : Int) (M : Language DeviceWrite) : Language (Int × DeviceWrite) :=
  Language.map (Prod.mk fd) M

/-- The writes in a word of `L` are a word of `W`. -/
def Writes (L : Language ModemEvent) (W : Language (Int × DeviceWrite)) : Prop :=
  ∀ word ∈ L, bootWrites word ∈ W

section Writes

variable {L M : Language ModemEvent} {V W : Language (Int × DeviceWrite)}

theorem Writes.mul (hL : Writes L V) (hM : Writes M W) : Writes (L * M) (V * W) := by
  rintro _ ⟨first, hfirst, second, hsecond, rfl⟩
  rw [bootWrites_append]
  exact Language.append_mem_mul (hL first hfirst) (hM second hsecond)

theorem Writes.add (hL : Writes L W) (hM : Writes M W) : Writes (L + M) W := by
  rintro word (hword | hword)
  · exact hL word hword
  · exact hM word hword

/-- Nothing is written in two words in which nothing is written. -/
theorem Writes.mul_one (hL : Writes L 1) (hM : Writes M 1) : Writes (L * M) 1 := by
  have hmul := hL.mul hM
  rwa [one_mul] at hmul

theorem writes_once {word : List ModemEvent} (hword : bootWrites word = []) : Writes (once word) 1 := by
  rintro _ rfl
  exact hword

theorem writes_map_wrote (fd : Int) (M : Language DeviceWrite) :
    Writes (Language.map (.wrote fd) M) (writesTo fd M) := by
  rintro _ ⟨log, hlog, rfl⟩
  exact ⟨log, hlog, (bootWrites_map_wrote fd log).symm⟩

end Writes

/-! ### Boots -/

/-- What a loader does with these frames: it stores the regions, changes nothing else, and starts. -/
structure Loads (frames : List FlashFrame) (regions : List (Region UInt8)) : Prop where
  stores : ∀ (loader : ModemLoader), ∀ region ∈ regions, ∀ address, region.Covers address →
    (loader.run frames).memory address = region.content[address - region.base]?
  keeps : ∀ (loader : ModemLoader) (address : Nat), (∀ region ∈ regions, ¬region.Covers address) →
    (loader.run frames).memory address = loader.memory address
  starts : ∀ loader : ModemLoader, (loader.run frames).started = true

/-- A boot that reports success has written to its descriptors a word of `loaders`, then to the boot device
a stream that can be read as commands of this format and that loads the regions, and nothing behind it. -/
def LoadsModem (world : BootWorld) (boot : Prog ModemCall (Option Int)) (bootFd : Int)
    (loaders : Language (Int × DeviceWrite)) (format : Format FlashFrame)
    (regions : List (Region UInt8)) : Prop :=
  ∀ events, Runs world.environment boot (some 0) events →
    ∃ (before : List ModemEvent) (commands : List DeviceWrite) (after : List ModemEvent)
      (frames : List FlashFrame), events = before ++ commands.map (.wrote bootFd) ++ after ∧
      bootWrites before ∈ loaders ∧ bootWrites after = [] ∧
      format.parse (commands.flatMap accepted) = some frames ∧ Loads frames regions

theorem loads_of_run {frames : List FlashFrame} {regions : List (Region UInt8)}
    (hdisjoint : regions.Pairwise Region.Disjoint)
    (hrun : ∀ loader : ModemLoader, (loader.run frames).memory = storeAll loader.memory regions ∧
      (loader.run frames).started = true) : Loads frames regions where
  stores := by
    intro loader region hregion address hcovers
    rw [(hrun loader).1]
    exact storeAll_of_mem hdisjoint hregion hcovers
  keeps := by
    intro loader address houtside
    rw [(hrun loader).1]
    exact storeAll_of_outside houtside
  starts := fun loader => (hrun loader).2

/-- The commands of an upload: the security section with the transfers in it, and the reset. -/
def uploadFrames (chunk : Nat) (secStart : Bytes) (transfers : List (UInt32 × Bytes)) : List FlashFrame :=
  [⟨xmm626CommandSecStart.toNat, secStart⟩] ++
    transfers.flatMap (fun transfer => transferFrames transfer.1 chunk transfer.2) ++
    [⟨xmm626CommandSecEnd.toNat, secEndData⟩] ++ [⟨xmm626CommandHwReset.toNat, hwResetData⟩]

/-- Where the data of the transfers are to be stored. -/
def transferRegions (transfers : List (UInt32 × Bytes)) : List (Region UInt8) :=
  transfers.map fun transfer => ⟨transfer.1.toNat, transfer.2⟩

theorem run_transfers {chunk : Nat} (hchunk : 0 < chunk) (transfers : List (UInt32 × Bytes))
    (loader : ModemLoader) :
    (loader.run (transfers.flatMap fun transfer => transferFrames transfer.1 chunk transfer.2)).memory =
      storeAll loader.memory (transferRegions transfers) := by
  induction transfers generalizing loader with
  | nil => rfl
  | cons transfer transfers ih =>
      rw [List.flatMap_cons, ModemLoader.run_append, ih, ModemLoader.run_transferFrames _ _ hchunk]
      rfl

theorem loads_uploadFrames {chunk : Nat} (hchunk : 0 < chunk) (secStart : Bytes)
    {transfers : List (UInt32 × Bytes)}
    (hdisjoint : (transferRegions transfers).Pairwise Region.Disjoint) :
    Loads (uploadFrames chunk secStart transfers) (transferRegions transfers) := by
  refine loads_of_run hdisjoint fun loader => ?_
  rw [uploadFrames, ModemLoader.run_append, ModemLoader.run_append, ModemLoader.run_append,
    ModemLoader.run_hwReset, ModemLoader.run_security _ (.inr rfl), ModemLoader.run_security _ (.inl rfl)]
  exact ⟨run_transfers hchunk transfers loader, rfl⟩

/-- The writes of a word of `loaders`, and behind them those of the frames. -/
def EndsInFrames (loaders : Language DeviceWrite) (format : Format FlashFrame) (frames : List FlashFrame)
    (log : List DeviceWrite) : Prop :=
  ∃ first ∈ loaders, ∃ commands, log = first ++ commands ∧ WritesFrames format commands frames

section Boots

variable {world : BootWorld} {boot : Prog ModemCall (Option Int)} {before after : Language ModemEvent}
  {V : Language (Int × DeviceWrite)} {M loaders : Language DeviceWrite} {bootFd : Int}
  {format : Format FlashFrame} {frames : List FlashFrame} {regions : List (Region UInt8)}

theorem loadsModem_of_boots
    (hboots : Boots world boot (before * (Language.map (.wrote bootFd) M * after)))
    (hbefore : Writes before V) (hafter : Writes after 1)
    (hframes : ∀ log ∈ M, EndsInFrames loaders format frames log) (hloads : Loads frames regions) :
    LoadsModem world boot bootFd (V * writesTo bootFd loaders) format regions := by
  intro events hrun
  obtain ⟨opening, hopening, _, ⟨_, ⟨log, hlog, rfl⟩, last, hlast, rfl⟩, rfl⟩ :=
    hboots.succeeds events hrun
  obtain ⟨first, hfirst, commands, rfl, hcommands⟩ := hframes log hlog
  refine ⟨opening ++ first.map (.wrote bootFd), commands, last, frames, ?_, ?_, hafter last hlast,
    hcommands.parse, hloads⟩
  · dsimp only
    rw [List.map_append, List.append_assoc, List.append_assoc, List.append_assoc]
  · rw [bootWrites_append, bootWrites_map_wrote]
    exact Language.append_mem_mul (hbefore opening hopening) ⟨first, hfirst, rfl⟩

/-- What is sent over HSIC before the commands. -/
def hsicLoaders (layout : ImageLayout) (image : Bytes) : Language DeviceWrite :=
  (UploadRoutine.format .ilp32 .xmm626HsicPsi).uploads (layout.psi.of image) *
    ((UploadRoutine.format .ilp32 .xmm626HsicEbl).uploads (layout.ebl.of image) * hsicPortConfig)

theorem endsInFrames_hsic {layout : ImageLayout} {image nvData : Bytes} {log : List DeviceWrite}
    (hsec : (layout.secStart.of image).length ≤ 0x4000)
    (hlog : log ∈ hsicHead layout image * hsicTail nvData) :
    EndsInFrames (hsicLoaders layout image) hsicFormat (uploadFrames 0x4000 (layout.secStart.of image)
      [(xmm626FirmwareAddress, layout.firmware.of image), (xmm626NvDataAddress, nvData)]) log := by
  obtain ⟨_, ⟨psi, hpsi, _, ⟨ebl, hebl, _, ⟨config, hconfig, _, ⟨sec, hsecLog, firmware, hfirmware, rfl⟩,
    rfl⟩, rfl⟩, rfl⟩, _, ⟨nv, hnv, _, ⟨secEnd, hsecEnd, reset, hreset, rfl⟩, rfl⟩, rfl⟩ := hlog
  refine ⟨psi ++ (ebl ++ config), ?_, sec ++ (firmware ++ nv) ++ secEnd ++ reset, ?_, ?_⟩
  · exact Language.append_mem_mul hpsi (Language.append_mem_mul hebl hconfig)
  · simp only [List.append_assoc]
  · have hframes := (((writesFrames_hsicCommandWrites hsec hsecLog).append
      ((writesFrames_hsicTransfer hfirmware).append (writesFrames_hsicTransfer hnv))).append
      (writesFrames_hsicCommandWrites (by decide) hsecEnd)).append
      (writesFrames_hsicCommandWrites (by decide) hreset)
    simpa only [uploadFrames, List.flatMap_cons, List.flatMap_nil, List.append_nil] using hframes

/-- The firmware does not reach the NV data. -/
theorem disjoint_firmware_nvData {layout : ImageLayout} {image : Bytes} (nvData : Bytes)
    (hfirmware : layout.firmware.size ≤ 0xB80000) :
    (⟨xmm626FirmwareAddress.toNat, layout.firmware.of image⟩ : Region UInt8).Disjoint
      ⟨xmm626NvDataAddress.toNat, nvData⟩ := by
  have hlength : (layout.firmware.of image).length ≤ layout.firmware.size := List.length_take_le ..
  left
  change 0x60300000 + (layout.firmware.of image).length ≤ 0x60E80000
  omega

end Boots

namespace HsicDevice

variable {device : HsicDevice} {world : BootWorld} {nvData : Bytes}

theorem writes_openingWord : Writes (once (device.openingWord world)) 1 := by
  cases device <;> exact writes_once rfl

theorem loadsModem (hsize : world.image.length = device.layout.imageSize)
    (hnv : world.nvData = some nvData) :
    LoadsModem world (device.boot world.cfg.client) (world.fdOf xmm626SecModemBoot0Device)
      (writesTo (world.fdOf xmm626SecModemBoot0Device) (hsicLoaders device.layout world.image)) hsicFormat
      [⟨xmm626FirmwareAddress.toNat, device.layout.firmware.of world.image⟩,
        ⟨xmm626NvDataAddress.toNat, nvData⟩] := by
  have hsec : (device.layout.secStart.of world.image).length ≤ 0x4000 :=
    (List.length_take_le ..).trans device.layout_sendable.secStart_le
  have hfirmware : device.layout.firmware.size ≤ 0xB80000 := by cases device <;> decide
  rw [← one_mul (writesTo _ _)]
  refine loadsModem_of_boots (boots_bootWords hsize hnv) writes_openingWord (writes_once rfl)
    (fun log hlog => endsInFrames_hsic hsec hlog) (loads_uploadFrames (by decide) _ ?_)
  exact List.pairwise_pair.mpr (disjoint_firmware_nvData nvData hfirmware)

end HsicDevice

theorem writes_hciOnWords : Writes hciOnWords 1 := by
  have hwake : Writes (1 + once slaveWakeWord) 1 := Writes.add (writes_once rfl) (writes_once rfl)
  exact (writes_once rfl).mul_one (hwake.mul_one (writes_once rfl))

theorem writes_genericOpeningWords (world : BootWorld) : Writes (genericOpeningWords world) 1 := by
  have hopened : Writes (openedOne world radioPartitions) 1 := by
    rintro _ ⟨path, _, rfl⟩
    rfl
  exact hopened.mul_one (((writes_once rfl).mul_one writes_hciOnWords).mul_one (writes_once rfl))

theorem loadsModem_genericBoot {world : BootWorld} {nvData : Bytes}
    (hsize : world.image.length = i9300Image.imageSize) (hnv : world.nvData = some nvData) :
    LoadsModem world (genericBoot world.cfg.client) (world.fdOf xmm626KernelLinuxBoot0Device)
      (writesTo (world.fdOf xmm626KernelLinuxBoot0Device) (hsicLoaders i9300Image world.image)) hsicFormat
      [⟨xmm626FirmwareAddress.toNat, i9300Image.firmware.of world.image⟩,
        ⟨xmm626NvDataAddress.toNat, nvData⟩] := by
  have hsec : (i9300Image.secStart.of world.image).length ≤ 0x4000 :=
    (List.length_take_le ..).trans i9300Image_sendable.secStart_le
  rw [← one_mul (writesTo _ _)]
  refine loadsModem_of_boots (boots_genericWords hsize hnv) (writes_genericOpeningWords world)
    ((writes_once rfl).mul_one writes_hciOnWords) (fun log hlog => endsInFrames_hsic hsec hlog)
    (loads_uploadFrames (by decide) _ ?_)
  exact List.pairwise_pair.mpr (disjoint_firmware_nvData nvData (by decide))

namespace MipiDevice

variable {device : MipiDevice} {world : BootWorld} {nvData : Bytes}

/-- The MPS data follow the NV data, if they are sent. -/
def mpsTransfers (device : MipiDevice) (world : BootWorld) : List (UInt32 × Bytes) :=
  match device with
  | maguro => [(xmm626MpsDataAddress, world.mpsData.val)]
  | piranha => []

theorem writesFrames_mpsWords {log : List DeviceWrite} (hlog : log ∈ device.mpsWords world) :
    WritesFrames mipiCommandFormat log
      ((device.mpsTransfers world).flatMap fun transfer => transferFrames transfer.1 0xDF2 transfer.2) := by
  cases device with
  | maguro =>
      rw [mpsTransfers, List.flatMap_cons, List.flatMap_nil, List.append_nil]
      exact writesFrames_mipiTransfer hlog
  | piranha =>
      obtain rfl := hlog
      exact ⟨[], rfl, .nil⟩

/-- What is sent to the second device before the commands. -/
def loaders (device : MipiDevice) (image : Bytes) : Language DeviceWrite :=
  (UploadRoutine.format .ilp32 .xmm626MipiEbl).uploads (device.layout.ebl.of image) * mipiPortConfig

theorem endsInFrames {log : List DeviceWrite} (hsec : (device.layout.secStart.of world.image).length < 2 ^ 16)
    (hlog : log ∈ mipiHead device.layout world.image * mipiTail nvData (device.mpsWords world)) :
    EndsInFrames (device.loaders world.image) mipiCommandFormat
      (uploadFrames 0xDF2 (device.layout.secStart.of world.image)
      ((xmm626FirmwareAddress, device.layout.firmware.of world.image) :: (xmm626NvDataAddress, nvData) ::
        device.mpsTransfers world)) log := by
  obtain ⟨_, ⟨ebl, hebl, _, ⟨config, hconfig, _, ⟨sec, hsecLog, firmware, hfirmware, rfl⟩, rfl⟩, rfl⟩,
    _, ⟨nv, hnv, _, ⟨mps, hmps, _, ⟨secEnd, hsecEnd, reset, hreset, rfl⟩, rfl⟩, rfl⟩, rfl⟩ := hlog
  refine ⟨ebl ++ config, Language.append_mem_mul hebl hconfig,
    sec ++ (firmware ++ (nv ++ mps)) ++ secEnd ++ reset, ?_, ?_⟩
  · simp only [List.append_assoc]
  · have hframes := (((writesFrames_of_mem_wrote hsecLog (mipiCommandFormat_encodes_secStart hsec)).append
      ((writesFrames_mipiTransfer hfirmware).append ((writesFrames_mipiTransfer hnv).append
        (writesFrames_mpsWords hmps)))).append
      (writesFrames_of_mem_wrote hsecEnd (mipiCommandFormat_encodes (by decide) (by decide)
        (by decide)))).append
      (writesFrames_of_mem_wrote hreset (mipiCommandFormat_encodes (by decide) (by decide) (by decide)))
    simpa only [uploadFrames, List.flatMap_cons] using hframes

/-- The NV data do not reach the MPS data. -/
theorem disjoint_transfers (hnvSize : nvData.length ≤ xmm626NvDataSize) :
    (transferRegions ((xmm626FirmwareAddress, device.layout.firmware.of world.image) ::
      (xmm626NvDataAddress, nvData) :: device.mpsTransfers world)).Pairwise Region.Disjoint := by
  have hfirmware : (device.layout.firmware.of world.image).length ≤ 0xB80000 :=
    (List.length_take_le ..).trans (by cases device <;> decide)
  cases device with
  | maguro =>
      refine .cons ?_ (List.pairwise_pair.mpr ?_)
      · intro region hregion
        rcases List.mem_cons.mp hregion with rfl | hregion
        · exact disjoint_firmware_nvData nvData (by decide)
        · left
          rw [List.mem_singleton.mp hregion]
          change 0x60300000 + (maguro.layout.firmware.of world.image).length ≤ 0x61080000
          omega
      · left
        change 0x60E80000 + nvData.length ≤ 0x61080000
        have hsize : nvData.length ≤ 0x200000 := hnvSize
        omega
  | piranha => exact List.pairwise_pair.mpr (disjoint_firmware_nvData nvData (by decide))

/-- Before the second device is opened, the PSI is sent to the first one. -/
theorem writes_openingWords : Writes (device.openingWords world)
    (writesTo (world.fdOf xmm626SecModemBoot0Device)
      ((UploadRoutine.format .ilp32 .xmm626MipiPsi).uploads (device.layout.psi.of world.image))) := by
  have hwrites : Writes (device.openingWords world) (1 * (writesTo (world.fdOf xmm626SecModemBoot0Device)
      ((UploadRoutine.format .ilp32 .xmm626MipiPsi).uploads (device.layout.psi.of world.image)) * 1)) :=
    (writes_once rfl).mul ((writes_map_wrote _ _).mul (writes_once rfl))
  rwa [one_mul, mul_one] at hwrites

theorem loadsModem (hsize : world.image.length = device.layout.imageSize)
    (hnv : world.nvData = some nvData) (hnvSize : world.cfg.size ≤ xmm626NvDataSize) :
    LoadsModem world (device.boot world.cfg.client) (world.fdOf xmm626SecModemBoot1Device)
      (writesTo (world.fdOf xmm626SecModemBoot0Device)
          ((UploadRoutine.format .ilp32 .xmm626MipiPsi).uploads (device.layout.psi.of world.image)) *
        writesTo (world.fdOf xmm626SecModemBoot1Device) (device.loaders world.image))
      mipiCommandFormat (transferRegions ((xmm626FirmwareAddress, device.layout.firmware.of world.image) ::
        (xmm626NvDataAddress, nvData) :: device.mpsTransfers world)) := by
  have hsec : (device.layout.secStart.of world.image).length < 2 ^ 16 :=
    ((List.length_take_le ..).trans device.layout_sendable.secStart_le).trans_lt (by decide)
  have hlength := BootWorld.length_nvData hnv
  have hfinish : Writes (once (device.finishWord (world.fdOf xmm626SecModemBoot1Device))) 1 := by
    cases device <;> exact writes_once rfl
  exact loadsModem_of_boots (boots_bootWords hsize hnv) writes_openingWords hfinish
    (fun log hlog => endsInFrames hsec hlog)
    (loads_uploadFrames (by decide) _ (disjoint_transfers (hlength ▸ hnvSize)))

end MipiDevice

end SamsungIpc

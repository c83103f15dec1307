import SamsungIpc.ImageUpload

/-! The language of a successful upload: which writes the device has taken of it, for every answer of the
device and every short write. -/

namespace SamsungIpc

open Computability Effect DeviceWrite Upload

/-! ### The languages -/

/-- A `write` takes no more than it is given, a `read` delivers no more than it is asked for. -/
def DeviceAnswers : {β : Type} → DeviceCall β → β → Prop
  | _, .write bytes, rc => rc ≤ bytes.length
  | _, .read count, answer => ∀ bytes, answer = some bytes → bytes.length ≤ count
  | _, .select, _ => True

def deviceLog : {β : Type} → DeviceCall β → β → List DeviceWrite
  | _, .write bytes, rc => [⟨bytes, rc⟩]
  | _, .read _, _ => []
  | _, .select, _ => []

def deviceEnvironment : Environment DeviceCall DeviceWrite where
  Answers := DeviceAnswers
  events := deviceLog

/-- One write that is not short. -/
def wrote (bytes : Bytes) : Language DeviceWrite := {[whole bytes]}

/-- Writes of at most `chunk` bytes each, of which the device has taken the image, once and in order. -/
def pieces (chunk : Nat) (image : Bytes) : Language DeviceWrite :=
  {log | log.flatMap accepted = image ∧ ∀ write ∈ log, write.bytes.length ≤ chunk}

/-- The exclusive or of the bytes. -/
def xorSum : Bytes → UInt8
  | [] => 0
  | byte :: bytes => byte ^^^ xorSum bytes

/-- How an image is uploaded to a boot loader. -/
structure UploadFormat where
  opening : Language DeviceWrite
  /-- These bytes announce this number. -/
  Announces : Bytes → Nat → Prop
  /-- The numbers that are announced for an image of this size. -/
  sizes : Nat → List Nat
  chunk : Nat
  checksum : UInt8 → Bytes

namespace UploadFormat

variable (format : UploadFormat)

/-- The writes that announce an image of this size. -/
def announcement (size : Nat) : Language DeviceWrite :=
  {log | ∃ writes : List Bytes, log = writes.map whole ∧
    List.Forall₂ format.Announces writes (format.sizes size)}

/-- All that is written for an image. -/
def uploads (image : Bytes) : Language DeviceWrite :=
  format.opening * (format.announcement image.length *
    (pieces format.chunk image * wrote (format.checksum (xorSum image))))

end UploadFormat

inductive UploadRoutine where
  | xmm626MipiPsi
  | xmm626MipiEbl
  | xmm626HsicPsi
  | xmm626HsicEbl
  | xmm616Psi

namespace UploadRoutine

def send (abi : Abi) : UploadRoutine → Int → Option Bytes → Prog DeviceCall Int
  | xmm626MipiPsi => xmm626MipiPsiSend
  | xmm626MipiEbl => xmm626MipiEblSend abi
  | xmm626HsicPsi => xmm626HsicPsiSend
  | xmm626HsicEbl => xmm626HsicEblSend abi
  | xmm616Psi => xmm616PsiSend

/-- The largest size that an image can have: of an `unsigned short`, or of an object in memory, whose end
has an address as well. -/
def maxSize (abi : Abi) : UploadRoutine → Nat
  | xmm626MipiPsi | xmm626HsicPsi | xmm616Psi => 2 ^ 16 - 1
  | xmm626MipiEbl | xmm626HsicEbl => 2 ^ abi.sizeBits - 2

/-- A `size_t` in memory. -/
def AnnouncesSize (abi : Abi) (bytes : Bytes) (size : Nat) : Prop :=
  bytes.length = abi.sizeBytes ∧ LittleEndian.decode bytes = size

def format (abi : Abi) : UploadRoutine → UploadFormat
  | xmm626MipiPsi => {
      opening := (wrote xmm626At)∗
      Announces := fun bytes size =>
        ∃ high low : UInt8, bytes = [0xFF, high, low, 0x30] ∧ size = 256 * high.toNat + low.toNat
      sizes := fun size => [size]
      chunk := 2 ^ 16 - 1
      checksum := fun crc => [0xFF, 0xFF, 0xFF, crc] }
  | xmm626MipiEbl => {
      opening := wrote (LittleEndian.encode abi.sizeBytes 8) * (wrote [0, 0, 0, 0, 2, 0, 2, 0] *
        wrote (LittleEndian.encode abi.sizeBytes abi.sizeBytes))
      Announces := AnnouncesSize abi
      -- the second number is that of the frame with the checksum
      sizes := fun size => [size, size + 1]
      chunk := 0xDFC
      checksum := fun crc => [crc] }
  | xmm626HsicPsi => {
      opening := (wrote xmm626At)∗
      Announces := fun bytes size =>
        ∃ low high : UInt8, bytes = [0x30, low, high, 0xFF] ∧ size = 256 * high.toNat + low.toNat
      sizes := fun size => [size]
      chunk := 2 ^ 16 - 1
      checksum := fun crc => [crc] }
  | xmm626HsicEbl => {
      opening := 1
      Announces := AnnouncesSize abi
      sizes := fun size => [size]
      chunk := 0x4000
      checksum := fun crc => [crc] }
  | xmm616Psi => {
      opening := wrote xmm616At ^ 20 * wrote [0x30]
      Announces := fun bytes size =>
        ∃ low high : UInt8, bytes = [low, high] ∧ size = 256 * high.toNat + low.toNat
      sizes := fun size => [size]
      chunk := 1
      checksum := fun crc => [crc] }

end UploadRoutine

/-! ### Single calls -/

section Calls

variable {α : Type}

theorem runs_call {request : DeviceCall α} {answer : α} {log : List DeviceWrite} :
    Runs deviceEnvironment (Upload.call request).run (.ok answer) log ↔
      DeviceAnswers request answer ∧ log = deviceLog request answer := by
  refine runs_bind.trans ?_
  constructor
  · rintro ⟨_, first, _, hcall, ⟨hsame, rfl⟩, rfl⟩
    obtain rfl := Except.ok.inj hsame
    rw [List.append_nil]
    exact runs_perform.mp hcall
  · exact fun hcall => ⟨answer, log, [], runs_perform.mpr hcall, ⟨rfl, rfl⟩, (List.append_nil log).symm⟩

theorem emits_error {L : Language DeviceWrite} {P : α → Prop} :
    Emits deviceEnvironment (Upload.error : Upload α) L P := Emits.throw ()

theorem emits_select : Emits deviceEnvironment (Upload.call .select) 1 fun _ => True :=
  fun _ _ hrun => ⟨(runs_call.mp hrun).2, trivial⟩

theorem emits_read (count : Nat) :
    Emits deviceEnvironment (Upload.call (.read count)) 1 fun _ => True :=
  fun _ _ hrun => ⟨(runs_call.mp hrun).2, trivial⟩

theorem emits_writeWhole (bytes : Bytes) :
    Emits deviceEnvironment (writeWhole bytes) (wrote bytes) fun _ => True := by
  intro _ _ hrun
  obtain ⟨rc, _, _, hwrite, hrest, rfl⟩ := runs_except_bind_ok.mp hrun
  obtain ⟨hle, rfl⟩ := runs_call.mp hwrite
  by_cases hshort : rc < bytes.length
  · rw [if_pos hshort] at hrest
    exact absurd hrest.1 (by simp)
  · rw [if_neg hshort] at hrest
    obtain ⟨_, rfl⟩ := hrest
    obtain rfl : rc = bytes.length := le_antisymm hle (not_lt.mp hshort)
    exact ⟨rfl, trivial⟩

theorem emits_awaitReady : Emits deviceEnvironment awaitReady 1 fun _ => True :=
  emits_select.quiet_bind fun _ _ => .ite (fun _ => emits_error) fun _ => .pure trivial

theorem emits_readByte : Emits deviceEnvironment readByte 1 fun _ => True := by
  refine (emits_read 1).quiet_bind fun answer _ => ?_
  split
  · exact .pure trivial
  · exact emits_error

theorem emits_skipBytes (count : Nat) : Emits deviceEnvironment (skipBytes count) 1 fun _ => True := by
  induction count with
  | zero => exact .pure trivial
  | succ count ih =>
      exact emits_awaitReady.quiet_bind fun _ _ => emits_readByte.quiet_bind fun _ _ => ih

end Calls

/-! ### Loops -/

section Loops

theorem emits_ackLoop (width : Nat) (isAck : Nat → Bool) (tries : Nat) :
    Emits deviceEnvironment (ackLoop width isAck tries) 1 fun _ => True := by
  induction tries with
  | zero => exact emits_error
  | succ tries ih =>
      refine emits_awaitReady.quiet_bind fun _ _ => (emits_read width).quiet_bind fun answer _ => ?_
      cases answer with
      | none => exact ih
      | some bytes => exact .ite (fun _ => ih) fun _ => .ite (fun _ => .pure trivial) fun _ => ih

/-- The greeting is written some number of times. -/
theorem emits_bootupLoop (greeting : Bytes) (i : Nat) :
    Emits deviceEnvironment (bootupLoop greeting i) (wrote greeting)∗ fun _ => True := by
  induction hleft : 51 - i generalizing i with
  | zero =>
      rw [bootupLoop]
      refine ((emits_writeWhole greeting).bind fun _ _ => ?_).mono mul_kstar_le_kstar
      refine emits_select.quiet_bind fun rc _ => .ite (fun _ => emits_error) fun _ => ?_
      rw [if_pos (by omega)]
      exact emits_error
  | succ left ih =>
      rw [bootupLoop]
      refine ((emits_writeWhole greeting).bind fun _ _ => ?_).mono mul_kstar_le_kstar
      refine emits_select.quiet_bind fun rc _ => .ite (fun _ => emits_error) fun _ => ?_
      rw [if_neg (by omega)]
      exact .ite (fun _ => ih (i + 1) (by omega)) fun _ => (Emits.pure trivial).mono one_le_kstar

theorem emits_atLoop (count : Nat) :
    Emits deviceEnvironment (atLoop count) (wrote xmm616At ^ count) fun _ => True := by
  induction count with
  | zero => exact .pure trivial
  | succ count ih =>
      rw [pow_succ']
      exact (emits_writeWhole xmm616At).bind fun _ _ => ih

theorem emits_serialAckLoop (i : Nat) :
    Emits deviceEnvironment (serialAckLoop i) 1 fun _ => True := by
  induction hleft : 51 - i generalizing i with
  | zero =>
      rw [serialAckLoop]
      refine emits_awaitReady.quiet_bind fun _ _ => emits_readByte.quiet_bind fun psiAck _ => ?_
      rw [if_pos (by omega)]
      exact emits_error
  | succ left ih =>
      rw [serialAckLoop]
      refine emits_awaitReady.quiet_bind fun _ _ => emits_readByte.quiet_bind fun psiAck _ => ?_
      rw [if_neg (by omega)]
      exact .ite (fun _ => ih (i + 1) (by omega)) fun _ => .pure trivial

end Loops

/-! ### The image -/

section Image

variable {chunk : Nat} {image : Bytes}

theorem nil_mem_pieces : [] ∈ pieces chunk [] := ⟨rfl, List.forall_mem_nil _⟩

/-- A piece in front. -/
theorem cons_mem_pieces {w : DeviceWrite} {log : List DeviceWrite} (hchunk : w.bytes.length ≤ chunk)
    (hlog : log ∈ pieces chunk image) : w :: log ∈ pieces chunk (w.accepted ++ image) := by
  obtain ⟨himage, hchunks⟩ := hlog
  refine ⟨?_, List.forall_mem_cons.mpr ⟨hchunk, hchunks⟩⟩
  rw [List.flatMap_cons, himage]

theorem accepted_whole (bytes : Bytes) : (whole bytes).accepted = bytes := by
  rw [accepted, whole, Int.toNat_natCast, List.take_length]

/-- What a write from `wc` on has taken, and what is left behind it. -/
theorem accepted_append_drop {wc count : Nat} {rc : Int}
    (hle : rc ≤ ((image.drop wc).take count).length) :
    accepted ⟨(image.drop wc).take count, rc⟩ ++ image.drop (wc + rc.toNat) = image.drop wc := by
  have hlength : ((image.drop wc).take count).length ≤ count := List.length_take_le ..
  have hshort : rc.toNat ≤ count := by omega
  rw [accepted, List.take_take, min_eq_left hshort, ← List.drop_drop, List.take_append_drop]

/-- However short the writes are, what is left of the image is sent from where they have got to. -/
theorem emits_imageLoop {count : Nat → Nat} (hcount : ∀ wc < image.length, count wc ≤ chunk) (wc : Nat) :
    Emits deviceEnvironment (imageLoop image count wc) (pieces chunk (image.drop wc)) fun _ => True := by
  induction hleft : image.length - wc using Nat.strong_induction_on generalizing wc with
  | _ left ih =>
      rw [imageLoop]
      by_cases hmore : wc < image.length
      · rw [if_pos hmore]
        intro _ _ hrun
        obtain ⟨rc, _, later, hwrite, hrest, rfl⟩ := runs_except_bind_ok.mp hrun
        obtain ⟨hle, rfl⟩ := runs_call.mp hwrite
        by_cases hfailed : rc ≤ 0
        · rw [if_pos hfailed] at hrest
          exact absurd hrest.1 (by simp)
        · rw [if_neg hfailed] at hrest
          obtain ⟨hlater, _⟩ := ih _ (by omega) (wc + rc.toNat) rfl _ _ hrest
          have hpiece : ((image.drop wc).take (count wc)).length ≤ chunk :=
            (List.length_take_le ..).trans (hcount wc hmore)
          have hlog := cons_mem_pieces (w := ⟨(image.drop wc).take (count wc), rc⟩) hpiece hlater
          rw [accepted_append_drop hle] at hlog
          exact ⟨hlog, trivial⟩
      · rw [if_neg hmore, List.drop_eq_nil_of_le (not_lt.mp hmore)]
        refine (Emits.pure trivial).mono ?_
        rintro _ rfl
        exact nil_mem_pieces

theorem emits_psiLoop (hsize : image.length ≤ chunk) :
    Emits deviceEnvironment (psiLoop image) (pieces chunk image) fun _ => True :=
  emits_imageLoop (fun _ _ => (Nat.sub_le ..).trans hsize) 0

theorem emits_eblLoop (image : Bytes) (chunk : Nat) :
    Emits deviceEnvironment (eblLoop image chunk) (pieces chunk image) fun _ => True := by
  refine emits_imageLoop (fun wc _ => ?_) 0
  split <;> omega

/-- One byte in each write, and the checksum along with them. -/
theorem emits_serialLoop (image : Bytes) (psiCrc : UInt8) :
    Emits deviceEnvironment (serialLoop image psiCrc) (pieces 1 image)
      fun crc => crc = psiCrc ^^^ xorSum image := by
  induction image generalizing psiCrc with
  | nil =>
      refine (Emits.pure (P := fun crc => crc = psiCrc ^^^ 0) UInt8.xor_zero.symm).mono ?_
      rintro _ rfl
      exact nil_mem_pieces
  | cons byte image ih =>
      have hfirst : wrote [byte] * pieces 1 image ≤ pieces 1 (byte :: image) := by
        rintro _ ⟨_, rfl, log, hlog, rfl⟩
        exact accepted_whole [byte] ▸ cons_mem_pieces (w := whole [byte]) le_rfl hlog
      rw [xorSum, ← UInt8.xor_assoc]
      refine emits_awaitReady.quiet_bind fun _ _ => ?_
      exact ((emits_writeWhole [byte]).bind fun _ _ => ih (psiCrc ^^^ byte)).mono hfirst

end Image

/-! ### Sizes and checksums -/

section Numbers

theorem foldl_xor (crc : UInt8) (bytes : Bytes) :
    bytes.foldl (fun crc byte => crc ^^^ byte) crc = crc ^^^ xorSum bytes := by
  induction bytes generalizing crc with
  | nil => exact UInt8.xor_zero.symm
  | cons byte bytes ih => rw [List.foldl_cons, ih, xorSum, UInt8.xor_assoc]

theorem xmm626CrcCalculate_eq (image : Bytes) : xmm626CrcCalculate (some image) = xorSum image := by
  cases image with
  | nil => rfl
  | cons byte image => exact (foldl_xor 0 (byte :: image)).trans UInt8.zero_xor

theorem toNat_mipiCrc (crc : UInt8) :
    (crc.toUInt32 <<< 24 ||| 0xffffff).toNat = crc.toNat * 2 ^ 24 + 0xffffff := by
  have hcrc := crc.toNat_lt
  have hshift : (crc.toUInt32 <<< 24).toNat = crc.toNat <<< 24 := by
    rw [UInt32.toNat_shiftLeft, UInt8.toNat_toUInt32, Nat.shiftLeft_eq, Nat.shiftLeft_eq]
    change crc.toNat * 2 ^ 24 % 2 ^ 32 = _
    omega
  rw [UInt32.toNat_or, hshift, ← Nat.shiftLeft_eq]
  exact (Nat.shiftLeft_add_eq_or_of_lt (by decide) _).symm

/-- The checksum is the last of the four bytes in memory. -/
theorem encode_mipiCrc (image : Bytes) :
    LittleEndian.encode 4 (xmm626MipiCrcCalculate (some image)).toNat =
      [0xFF, 0xFF, 0xFF, xorSum image] := by
  rw [xmm626MipiCrcCalculate, xmm626CrcCalculate_eq, toNat_mipiCrc]
  generalize xorSum image = crc
  have hcrc := crc.toNat_lt
  have hones : ∀ n, n % 256 = 255 → UInt8.ofNat n = 0xFF := by
    intro n hn
    apply UInt8.toNat_inj.mp
    rw [UInt8.toNat_ofNat']
    exact hn
  have hlast : (crc.toNat * 2 ^ 24 + 0xffffff) / 256 / 256 / 256 = crc.toNat := by omega
  simp only [LittleEndian.encode, hlast, UInt8.ofNat_toNat]
  rw [hones _ (by omega), hones _ (by omega), hones _ (by omega)]

/-- The two bytes of a size, low byte first. -/
theorem toNat_bytes {size : Nat} (hsize : size ≤ 2 ^ 16 - 1) :
    size = 256 * (UInt8.ofNat ((UInt16.ofNat size).toNat / 256)).toNat +
      (UInt8.ofNat (UInt16.ofNat size).toNat).toNat := by
  rw [UInt16.toNat_ofNat', UInt8.toNat_ofNat', UInt8.toNat_ofNat']
  omega

theorem toNat_swap (size : UInt16) :
    ((size >>> 8 &&& (0xff : UInt16)) ||| ((size &&& 0xff) <<< 8) : UInt16).toNat =
      size.toNat % 256 * 256 + size.toNat / 256 := by
  have hsize := size.toNat_lt
  have hhigh : (size >>> 8 &&& (0xff : UInt16)).toNat = size.toNat / 256 := by
    rw [UInt16.toNat_and, UInt16.toNat_shiftRight, Nat.shiftRight_eq_div_pow]
    change size.toNat / 2 ^ 8 &&& 2 ^ 8 - 1 = _
    rw [Nat.and_two_pow_sub_one_eq_mod]
    omega
  have hlow : ((size &&& (0xff : UInt16)) <<< 8).toNat = (size.toNat % 256) <<< 8 := by
    rw [UInt16.toNat_shiftLeft, UInt16.toNat_and, Nat.shiftLeft_eq]
    change (size.toNat &&& 2 ^ 8 - 1) * 2 ^ 8 % 2 ^ 16 = _
    rw [Nat.and_two_pow_sub_one_eq_mod, Nat.shiftLeft_eq]
    omega
  rw [UInt16.toNat_or, hhigh, hlow, Nat.or_comm, ← Nat.shiftLeft_add_eq_or_of_lt (by omega),
    Nat.shiftLeft_eq]

theorem announces_mipiPsi {abi : Abi} {size : Nat} (hsize : size ≤ 2 ^ 16 - 1) :
    (UploadRoutine.format abi .xmm626MipiPsi).Announces (xmm626MipiPsiHeader (UInt16.ofNat size)) size := by
  have hmod : size % 2 ^ 16 = size := Nat.mod_eq_of_lt (by omega)
  have hhigh : (size % 256 * 256 + size / 256) % 256 = size / 256 := by omega
  have hlow : (size % 256 * 256 + size / 256) / 256 = size % 256 := by omega
  refine ⟨_, _, rfl, ?_⟩
  rw [UInt8.toNat_ofNat', UInt8.toNat_ofNat', toNat_swap, UInt16.toNat_ofNat', hmod, hlow]
  change size = 256 * ((size % 256 * 256 + size / 256) % 256) + size % 256 % 256
  rw [hhigh]
  omega

theorem announces_hsicPsi {abi : Abi} {size : Nat} (hsize : size ≤ 2 ^ 16 - 1) :
    (UploadRoutine.format abi .xmm626HsicPsi).Announces (xmm626HsicPsiHeader (UInt16.ofNat size)) size :=
  ⟨_, _, rfl, toNat_bytes hsize⟩

theorem announces_xmm616Psi {abi : Abi} {size : Nat} (hsize : size ≤ 2 ^ 16 - 1) :
    (UploadRoutine.format abi .xmm616Psi).Announces
      (LittleEndian.encode 2 (UInt16.ofNat size).toNat) size :=
  ⟨_, _, rfl, toNat_bytes hsize⟩

theorem announcesSize {abi : Abi} {size : Nat} (hsize : size < 2 ^ abi.sizeBits) :
    UploadRoutine.AnnouncesSize abi (LittleEndian.encode abi.sizeBytes size) size := by
  have hwidth : 256 ^ abi.sizeBytes = 2 ^ abi.sizeBits := by cases abi <;> rfl
  refine ⟨LittleEndian.length_encode .., ?_⟩
  rw [LittleEndian.decode_encode, hwidth, Nat.mod_eq_of_lt hsize]

end Numbers

/-! ### The routines -/

section Routines

variable {abi : Abi} {fd : Int} {image : Bytes} {log : List DeviceWrite}

/-- A result of `0` comes from an upload that has got to its end. -/
theorem runs_imageSend {upload : Bytes → Upload Unit} {L : Language DeviceWrite}
    (hupload : Emits deviceEnvironment (upload image) L fun _ => True)
    (hrun : Runs deviceEnvironment (imageSend fd (some image) upload) 0 log) : log ∈ L := by
  rw [imageSend] at hrun
  by_cases hguard : fd < 0 ∨ image.length = 0
  · rw [if_pos hguard] at hrun
    exact absurd hrun.1 (by decide)
  · rw [if_neg hguard] at hrun
    obtain ⟨result, first, _, hfirst, hrest, rfl⟩ := runs_bind.mp hrun
    cases result with
    | error exit => exact absurd hrest.1 (by decide)
    | ok value =>
        obtain ⟨_, rfl⟩ := hrest
        rw [List.append_nil]
        exact (hupload value first hfirst).1

variable {size : Nat} {bytes : Bytes}

theorem wrote_le_announcement (format : UploadFormat) (hsizes : format.sizes size = [size])
    (hbytes : format.Announces bytes size) : wrote bytes ≤ format.announcement size := by
  rintro _ rfl
  exact ⟨[bytes], rfl, hsizes ▸ .cons hbytes .nil⟩

theorem wrote_mul_wrote_le_announcement (format : UploadFormat) {next : Nat} {nextBytes : Bytes}
    (hsizes : format.sizes size = [size, next]) (hbytes : format.Announces bytes size)
    (hnext : format.Announces nextBytes next) :
    wrote bytes * wrote nextBytes ≤ format.announcement size := by
  rintro _ ⟨_, rfl, _, rfl, rfl⟩
  exact ⟨[bytes, nextBytes], rfl, hsizes ▸ .cons hbytes (.cons hnext .nil)⟩

/-- The calls nest to the right; an opening of three writes and an announcement of two are products of
their own. -/
theorem regroup_le {a b c d e announced rest : Language DeviceWrite} (hannounced : d * e ≤ announced) :
    a * (b * (c * (d * (e * rest)))) ≤ a * (b * c) * (announced * rest) :=
  calc
    a * (b * (c * (d * (e * rest)))) = a * (b * c) * (d * e * rest) := by simp only [mul_assoc]
    _ ≤ a * (b * c) * (announced * rest) := mul_le_mul' le_rfl (mul_le_mul' hannounced le_rfl)

theorem xmm626MipiPsiSend_exact (hsize : image.length ≤ 2 ^ 16 - 1)
    (hrun : Runs deviceEnvironment (xmm626MipiPsiSend fd (some image)) 0 log) :
    log ∈ (UploadRoutine.format abi .xmm626MipiPsi).uploads image := by
  refine runs_imageSend ?_ hrun
  have hheader := wrote_le_announcement (UploadRoutine.format abi .xmm626MipiPsi) rfl
    (announces_mipiPsi hsize)
  refine (emits_bootupLoop _ 0).bind fun _ _ => (emits_ackLoop _ _ _).quiet_bind fun _ _ => ?_
  refine ((emits_writeWhole _).mono hheader).bind fun _ _ => (emits_psiLoop hsize).bind fun _ _ => ?_
  rw [encode_mipiCrc]
  exact (emits_writeWhole _).bind_quiet fun _ _ => emits_ackLoop _ _ _

theorem xmm626HsicPsiSend_exact (hsize : image.length ≤ 2 ^ 16 - 1)
    (hrun : Runs deviceEnvironment (xmm626HsicPsiSend fd (some image)) 0 log) :
    log ∈ (UploadRoutine.format abi .xmm626HsicPsi).uploads image := by
  refine runs_imageSend ?_ hrun
  have hheader := wrote_le_announcement (UploadRoutine.format abi .xmm626HsicPsi) rfl
    (announces_hsicPsi hsize)
  refine (emits_bootupLoop _ 0).bind fun _ _ => (emits_skipBytes 2).quiet_bind fun _ _ => ?_
  refine ((emits_writeWhole _).mono hheader).bind fun _ _ => (emits_psiLoop hsize).bind fun _ _ => ?_
  rw [xmm626CrcCalculate_eq]
  refine (emits_writeWhole _).bind_quiet fun _ _ => (emits_skipBytes _).quiet_bind fun _ _ => ?_
  exact (emits_skipBytes _).quiet_bind fun _ _ => emits_ackLoop _ _ _

theorem xmm626MipiEblSend_exact (hsize : image.length ≤ 2 ^ abi.sizeBits - 2)
    (hrun : Runs deviceEnvironment (xmm626MipiEblSend abi fd (some image)) 0 log) :
    log ∈ (UploadRoutine.format abi .xmm626MipiEbl).uploads image := by
  have hbits : 2 ≤ 2 ^ abi.sizeBits := by cases abi <;> decide
  have hnext : (image.length + 1) % 2 ^ abi.sizeBits = image.length + 1 := Nat.mod_eq_of_lt (by omega)
  have hsizes := wrote_mul_wrote_le_announcement (UploadRoutine.format abi .xmm626MipiEbl) rfl
    (announcesSize (show image.length < _ by omega)) (announcesSize (show image.length + 1 < _ by omega))
  refine runs_imageSend (Emits.mono ?_ (regroup_le hsizes)) hrun
  refine (emits_writeWhole _).bind fun _ _ => (emits_writeWhole _).bind fun _ _ => ?_
  refine (emits_ackLoop _ _ _).quiet_bind fun _ _ => (emits_writeWhole _).bind fun _ _ => ?_
  refine (emits_writeWhole _).bind fun _ _ => (emits_ackLoop _ _ _).quiet_bind fun _ _ => ?_
  rw [hnext, xmm626CrcCalculate_eq]
  refine (emits_writeWhole _).bind fun _ _ => (emits_eblLoop image _).bind fun _ _ => ?_
  exact (emits_writeWhole _).bind_quiet fun _ _ => emits_ackLoop _ _ _

theorem xmm626HsicEblSend_exact (hsize : image.length ≤ 2 ^ abi.sizeBits - 2)
    (hrun : Runs deviceEnvironment (xmm626HsicEblSend abi fd (some image)) 0 log) :
    log ∈ (UploadRoutine.format abi .xmm626HsicEbl).uploads image := by
  have hbits : 2 ≤ 2 ^ abi.sizeBits := by cases abi <;> decide
  have hsizes := wrote_le_announcement (UploadRoutine.format abi .xmm626HsicEbl) rfl
    (announcesSize (show image.length < _ by omega))
  refine runs_imageSend (Emits.mono ?_ (one_mul _).ge) hrun
  refine ((emits_writeWhole _).mono hsizes).bind fun _ _ => (emits_ackLoop _ _ _).quiet_bind fun _ _ => ?_
  rw [xmm626CrcCalculate_eq]
  refine (emits_eblLoop image _).bind fun _ _ => ?_
  exact (emits_writeWhole _).bind_quiet fun _ _ => emits_ackLoop _ _ _

theorem xmm616PsiSend_exact (hsize : image.length ≤ 2 ^ 16 - 1)
    (hrun : Runs deviceEnvironment (xmm616PsiSend fd (some image)) 0 log) :
    log ∈ (UploadRoutine.format abi .xmm616Psi).uploads image := by
  have hsizes := wrote_le_announcement (UploadRoutine.format abi .xmm616Psi) rfl
    (announces_xmm616Psi hsize)
  refine runs_imageSend (Emits.mono ?_ (mul_assoc _ _ _).ge) hrun
  refine (emits_atLoop 20).bind fun _ _ => emits_readByte.quiet_bind fun version _ => ?_
  refine .ite (fun _ => emits_error) fun _ => emits_readByte.quiet_bind fun info _ => ?_
  refine (emits_writeWhole _).bind fun _ _ => ((emits_writeWhole _).mono hsizes).bind fun _ _ => ?_
  refine (emits_serialLoop image 0).bind fun psiCrc hpsiCrc => ?_
  rw [hpsiCrc, UInt8.zero_xor]
  refine emits_awaitReady.quiet_bind fun _ _ => ?_
  exact (emits_writeWhole _).bind_quiet fun _ _ => emits_serialAckLoop 0

end Routines

/-- Whatever the device answers and however short the writes of the image are, an upload that returns `0`
has written the opening, the size of the image, the image and its checksum. -/
theorem upload_exact (abi : Abi) (routine : UploadRoutine) (deviceFd : Int) (image : Bytes)
    (log : List DeviceWrite) (hsize : image.length ≤ routine.maxSize abi)
    (hrun : Runs deviceEnvironment (routine.send abi deviceFd (some image)) 0 log) :
    log ∈ (routine.format abi).uploads image := by
  cases routine with
  | xmm626MipiPsi => exact xmm626MipiPsiSend_exact hsize hrun
  | xmm626MipiEbl => exact xmm626MipiEblSend_exact hsize hrun
  | xmm626HsicPsi => exact xmm626HsicPsiSend_exact hsize hrun
  | xmm626HsicEbl => exact xmm626HsicEblSend_exact hsize hrun
  | xmm616Psi => exact xmm616PsiSend_exact hsize hrun

/-- Two bytes over HSIC, in two writes. -/
theorem upload_exact_short :
    [whole [2, 0, 0, 0, 0, 0, 0, 0], ⟨[0x42, 0x17], 1⟩, ⟨[0x17], 1⟩, whole [0x55]] ∈
      (UploadRoutine.format .lp64 .xmm626HsicEbl).uploads [0x42, 0x17] := by
  have hread : ∀ delivered bytes : Bytes, delivered.length = 2 → some delivered = some bytes →
      bytes.length ≤ 2 := by
    rintro delivered _ htwo ⟨⟩
    exact htwo.le
  have hsizeAck : Runs deviceEnvironment (xmm626HsicAckRead 0xCCCC).run (.ok ()) [] :=
    ⟨1, [], trivial, ⟨some [0xCC, 0xCC], [], fun _ => hread _ _ rfl, ⟨rfl, rfl⟩, rfl⟩, rfl⟩
  have heblAck : Runs deviceEnvironment (xmm626HsicAckRead 0xA551).run (.ok ()) [] :=
    ⟨1, [], trivial, ⟨some [0x51, 0xA5], [], fun _ => hread _ _ rfl, ⟨rfl, rfl⟩, rfl⟩, rfl⟩
  have hwhole : ∀ bytes, Runs deviceEnvironment (writeWhole bytes).run (.ok ()) [whole bytes] := by
    intro bytes
    refine runs_except_bind_ok.mpr ⟨bytes.length, _, [], runs_call.mpr ⟨le_rfl, rfl⟩, ?_, rfl⟩
    rw [if_neg (lt_irrefl _)]
    exact ⟨rfl, rfl⟩
  have hone : ∀ {bytes : Bytes}, 1 ≤ bytes.length → (1 : Int) ≤ bytes.length := Int.ofNat_le.mpr
  have hloop : Runs deviceEnvironment (eblLoop [0x42, 0x17] xmm626HsicEblChunk).run (.ok ())
      [⟨[0x42, 0x17], 1⟩, ⟨[0x17], 1⟩] := by
    rw [eblLoop, imageLoop, if_pos (by decide)]
    refine runs_except_bind_ok.mpr ⟨1, _, [⟨[0x17], 1⟩], runs_call.mpr ⟨hone (by decide), rfl⟩, ?_, rfl⟩
    rw [if_neg (by decide), imageLoop, if_pos (by decide)]
    refine runs_except_bind_ok.mpr ⟨1, _, [], runs_call.mpr ⟨hone (by decide), rfl⟩, ?_, rfl⟩
    rw [if_neg (by decide), imageLoop, if_neg (by decide)]
    exact ⟨rfl, rfl⟩
  refine upload_exact .lp64 .xmm626HsicEbl 3 [0x42, 0x17] _ (by decide) ?_
  refine runs_bind.mpr ⟨.ok (), _, [], ?_, ⟨rfl, rfl⟩, (List.append_nil _).symm⟩
  refine runs_except_bind_ok.mpr ⟨(), _, _, hwhole _, ?_, rfl⟩
  refine runs_except_bind_ok.mpr ⟨(), _, _, hsizeAck, ?_, rfl⟩
  refine runs_except_bind_ok.mpr ⟨(), _, _, hloop, ?_, rfl⟩
  exact runs_except_bind_ok.mpr ⟨(), _, _, hwhole _, heblAck, rfl⟩

end SamsungIpc

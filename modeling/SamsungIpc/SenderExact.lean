import SamsungIpc.BootSenders
import SamsungIpc.UploadExact

/-! What the senders of the boot code write to the device in any of their runs: a run that succeeds writes a
word of the sender's language, and every other one the start of such a word, where the last write may not
have been complete. -/

namespace SamsungIpc

open Computability Effect DeviceWrite FrameStream Upload Sender

/-- A write that was to be whole, as it has become of it. -/
def CutWrite (write planned : DeviceWrite) : Prop := planned = whole write.bytes

theorem cutWrite_whole (bytes : Bytes) (rc : Int) : CutWrite ⟨bytes, rc⟩ (whole bytes) := rfl

/-- Every run writes the start of a word of `L`, every run that ends a whole word, and one does end. -/
abbrev Transmits {ε α : Type} (p : ExceptT ε (Prog DeviceCall) α) (L : Language DeviceWrite)
    (P : α → Prop) : Prop := Follows deviceEnvironment CutWrite p L P

/-- The run can end with this value and write nothing. -/
def CanRead {ε α : Type} (p : ExceptT ε (Prog DeviceCall) α) (value : α) : Prop :=
  Runs deviceEnvironment p.run (.ok value) []

/-! ### Reading -/

section Reading

variable {ε α β : Type} {P : α → Prop}

theorem CanRead.bind {p : ExceptT ε (Prog DeviceCall) α} {rest : α → ExceptT ε (Prog DeviceCall) β}
    {value : α} {result : β} (hp : CanRead p value) (hrest : CanRead (rest value) result) :
    CanRead (p >>= rest) result := runs_bind_ok hp hrest

theorem quiet_select : Quiet deviceEnvironment (call .select).run := by
  intro result events hrun
  obtain ⟨_, _, _, rfl⟩ := runs_lift.mp hrun
  rfl

theorem quiet_read (count : Nat) : Quiet deviceEnvironment (call (.read count)).run := by
  intro result events hrun
  obtain ⟨_, _, _, rfl⟩ := runs_lift.mp hrun
  rfl

theorem quiet_awaitReady : Quiet deviceEnvironment awaitReady.run :=
  quiet_select.except_bind fun _ => .ite (.pure _) (.pure _)

theorem canRead_select (rc : Int) : CanRead (call .select) rc := runs_call.mpr ⟨trivial, rfl⟩

theorem canRead_awaitReady : CanRead awaitReady () := (canRead_select 1).bind ⟨rfl, rfl⟩

theorem quiet_readByte : Quiet deviceEnvironment readByte.run := by
  refine (quiet_read 1).except_bind fun answer => ?_
  split
  · exact .pure _
  · exact .pure _

theorem canRead_readByte (byte : UInt8) : CanRead readByte byte := by
  have hread : CanRead (call (.read 1)) (some [byte]) := by
    refine runs_call.mpr ⟨?_, rfl⟩
    rintro _ ⟨⟩
    exact le_rfl
  exact hread.bind ⟨rfl, rfl⟩

theorem quiet_skipBytes (count : Nat) : Quiet deviceEnvironment (skipBytes count).run := by
  induction count with
  | zero => exact .pure _
  | succ count ih =>
      exact quiet_awaitReady.except_bind fun _ => quiet_readByte.except_bind fun _ => ih

theorem canRead_skipBytes (count : Nat) : CanRead (skipBytes count) () := by
  induction count with
  | zero => exact ⟨rfl, rfl⟩
  | succ count ih => exact canRead_awaitReady.bind ((canRead_readByte 0).bind ih)

theorem quiet_ackLoop (width : Nat) (isAck : Nat → Bool) (tries : Nat) :
    Quiet deviceEnvironment (ackLoop width isAck tries).run := by
  induction tries with
  | zero => exact .pure _
  | succ tries ih =>
      refine quiet_awaitReady.except_bind fun _ => (quiet_read width).except_bind fun answer => ?_
      cases answer with
      | none => exact ih
      | some bytes => exact .ite ih (.ite (.pure _) ih)

/-- The device can send the acknowledgement at once. -/
theorem canRead_ackLoop {width : Nat} {isAck : Nat → Bool} {ack : Nat} (hack : isAck ack = true)
    (hwidth : ack < 256 ^ width) (tries : Nat) : CanRead (ackLoop width isAck (tries + 1)) () := by
  have hlength : (LittleEndian.encode width ack).length = width := LittleEndian.length_encode ..
  have hread : CanRead (call (.read width)) (some (LittleEndian.encode width ack)) := by
    refine runs_call.mpr ⟨?_, rfl⟩
    rintro _ ⟨⟩
    exact hlength.le
  refine canRead_awaitReady.bind (hread.bind ?_)
  dsimp only
  rw [if_neg (not_lt.mpr hlength.ge), decode_encode_of_lt hwidth, if_pos hack]
  exact ⟨rfl, rfl⟩

/-- Reading only follows the language of the empty word. -/
theorem transmits_of_quiet {p : ExceptT ε (Prog DeviceCall) Unit} (hp : Quiet deviceEnvironment p.run)
    (hread : CanRead p ()) : Transmits p 1 fun _ => True :=
  hp.follows (fun _ _ _ => trivial) ⟨(), hread⟩

theorem transmits_awaitReady : Transmits awaitReady 1 fun _ => True :=
  transmits_of_quiet quiet_awaitReady canRead_awaitReady

theorem transmits_skipBytes (count : Nat) : Transmits (skipBytes count) 1 fun _ => True :=
  transmits_of_quiet (quiet_skipBytes count) (canRead_skipBytes count)

theorem transmits_ackLoop {width : Nat} {isAck : Nat → Bool} (ack : Nat) (hack : isAck ack = true)
    (hwidth : ack < 256 ^ width) (tries : Nat) :
    Transmits (ackLoop width isAck (tries + 1)) 1 fun _ => True :=
  transmits_of_quiet (quiet_ackLoop width isAck _) (canRead_ackLoop hack hwidth tries)

end Reading

/-! ### Writing -/

section Writing

theorem runs_writeWhole (bytes : Bytes) :
    Runs deviceEnvironment (writeWhole bytes).run (.ok ()) [whole bytes] := by
  have hwrite : Runs deviceEnvironment (call (.write bytes)).run (.ok (bytes.length : Int))
      [whole bytes] := runs_call.mpr ⟨le_rfl, rfl⟩
  have hdone : Runs deviceEnvironment
      (if (bytes.length : Int) < bytes.length then Upload.error else pure ()).run (.ok ()) [] := by
    rw [if_neg (lt_irrefl _)]
    exact ⟨rfl, rfl⟩
  exact runs_bind_ok hwrite hdone

theorem transmits_writeWhole (bytes : Bytes) :
    Transmits (writeWhole bytes) (wrote bytes) fun _ => True where
  emits := emits_writeWhole bytes
  attempts := by
    intro result events hrun
    obtain ⟨_, first, second, hfirst, hsecond, rfl⟩ := runs_bind.mp hrun
    obtain ⟨rc, rfl, _, rfl⟩ := runs_lift.mp hfirst
    have hnil : second = [] := by
      change Runs deviceEnvironment (if rc < bytes.length then Upload.error else pure ()).run result
        second at hsecond
      split at hsecond
      · exact hsecond.2
      · exact hsecond.2
    rw [hnil, List.append_nil]
    exact ⟨[whole bytes], rfl, .cut (cutWrite_whole bytes rc) []⟩
  completes := ⟨(), _, runs_writeWhole bytes⟩

/-- The greeting is written some number of times, the last one perhaps not to its end. -/
theorem transmits_bootupLoop (greeting : Bytes) {i : Nat} (hi : i ≤ 50) :
    Transmits (bootupLoop greeting i) (wrote greeting)∗ fun _ => True where
  emits := emits_bootupLoop greeting i
  attempts := by
    clear hi
    intro result events hrun
    induction hleft : 52 - i using Nat.strong_induction_on generalizing i events with
    | _ left ih =>
        rw [bootupLoop] at hrun
        obtain ⟨value, first, second, hfirst, hsecond, rfl⟩ := runs_bind.mp hrun
        have hwritten := (transmits_writeWhole greeting).attempts value first hfirst
        cases value with
        | error exit =>
            obtain ⟨_, rfl⟩ := hsecond
            rw [List.append_nil]
            exact begun_mono mul_kstar_le_kstar
              (begun_le_begun_mul ⟨[], Language.nil_mem_kstar _⟩ hwritten)
        | ok value =>
            obtain ⟨hword, _⟩ := emits_writeWhole greeting value first hfirst
            refine begun_mono mul_kstar_le_kstar (append_mem_begun_mul hword ?_)
            obtain ⟨_, third, last, hthird, hlast, rfl⟩ := runs_bind.mp hsecond
            obtain ⟨rc, rfl, _, rfl⟩ := runs_lift.mp hthird
            change Runs deviceEnvironment (if rc < 0 then Upload.error else if 50 < i then Upload.error
              else if rc = 0 then bootupLoop greeting (i + 1) else pure ()).run result last at hlast
            have hnil : [] ∈ begun CutWrite (wrote greeting)∗ :=
              nil_mem_begun ⟨[], Language.nil_mem_kstar _⟩
            split_ifs at hlast
            · exact hlast.2 ▸ hnil
            · exact hlast.2 ▸ hnil
            · exact ih _ (by omega) last hlast rfl
            · exact hlast.2 ▸ hnil
  completes := by
    rw [bootupLoop]
    refine ⟨(), _, runs_bind_ok (runs_writeWhole greeting) ((canRead_select 1).bind ?_)⟩
    rw [if_neg (by decide), if_neg (by omega), if_neg (by decide)]
    exact ⟨rfl, rfl⟩

end Writing

/-! ### Images -/

section Images

variable {chunk : Nat} {image : Bytes} {count : Nat → Nat}

/-- A part of the image, written at once, in front of pieces of the rest. -/
theorem whole_cons_mem_pieces {piece rest : Bytes} {log : List DeviceWrite}
    (hchunk : piece.length ≤ chunk) (hlog : log ∈ pieces chunk rest) :
    whole piece :: log ∈ pieces chunk (piece ++ rest) := by
  have hword := cons_mem_pieces (w := whole piece) hchunk hlog
  rwa [accepted_whole] at hword

theorem exists_mem_pieces (hchunk : 0 < chunk) (image : Bytes) : ∃ log, log ∈ pieces chunk image := by
  induction image with
  | nil => exact ⟨[], nil_mem_pieces⟩
  | cons byte image ih =>
      obtain ⟨log, hlog⟩ := ih
      have hpiece : [byte].length ≤ chunk := hchunk
      exact ⟨_, whole_cons_mem_pieces hpiece hlog⟩

theorem take_append_drop_add (image : Bytes) (wc n : Nat) :
    (image.drop wc).take n ++ image.drop (wc + n) = image.drop wc := by
  rw [← List.drop_drop, List.take_append_drop]

/-- A write that fails was to be a piece like the others. -/
theorem attempts_imageLoop (hcount : ∀ wc < image.length, count wc ≤ chunk) (hchunk : 0 < chunk)
    (wc : Nat) : ∀ result events, Runs deviceEnvironment (imageLoop image count wc).run result events →
      events ∈ begun CutWrite (pieces chunk (image.drop wc)) := by
  induction hleft : image.length - wc using Nat.strong_induction_on generalizing wc with
  | _ left ih =>
      intro result events hrun
      rw [imageLoop] at hrun
      by_cases hmore : wc < image.length
      · rw [if_pos hmore] at hrun
        obtain ⟨_, first, later, hfirst, hlater, rfl⟩ := runs_bind.mp hrun
        obtain ⟨rc, rfl, hle, rfl⟩ := runs_lift.mp hfirst
        have hpiece : ((image.drop wc).take (count wc)).length ≤ chunk :=
          (List.length_take_le ..).trans (hcount wc hmore)
        change Runs deviceEnvironment (if rc ≤ 0 then Upload.error
          else imageLoop image count (wc + rc.toNat)).run result later at hlater
        by_cases hfailed : rc ≤ 0
        · rw [if_pos hfailed] at hlater
          obtain ⟨_, rfl⟩ := hlater
          obtain ⟨log, hlog⟩ := exists_mem_pieces hchunk (image.drop (wc + count wc))
          have hword := whole_cons_mem_pieces hpiece hlog
          rw [take_append_drop_add] at hword
          exact ⟨_, hword, .cut (cutWrite_whole _ rc) log⟩
        · rw [if_neg hfailed] at hlater
          obtain ⟨word, hword, hbegun⟩ := ih _ (by omega) (wc + rc.toNat) rfl result later hlater
          have hlog := cons_mem_pieces (w := ⟨(image.drop wc).take (count wc), rc⟩) hpiece hword
          rw [accepted_append_drop hle] at hlog
          exact ⟨_, hlog, hbegun.cons _⟩
      · rw [if_neg hmore] at hrun
        obtain ⟨_, rfl⟩ := hrun
        exact nil_mem_begun (exists_mem_pieces hchunk _)

theorem completes_imageLoop (hcount : ∀ wc < image.length, 0 < count wc) (wc : Nat) :
    ∃ value events, Runs deviceEnvironment (imageLoop image count wc).run (.ok value) events := by
  induction hleft : image.length - wc using Nat.strong_induction_on generalizing wc with
  | _ left ih =>
      rw [imageLoop]
      by_cases hmore : wc < image.length
      · have hpiece : 0 < ((image.drop wc).take (count wc)).length := by
          have hpos := hcount wc hmore
          rw [List.length_take, List.length_drop]
          omega
        have hwrite : Runs deviceEnvironment
            (call (.write ((image.drop wc).take (count wc)))).run
            (.ok (((image.drop wc).take (count wc)).length : Int)) _ := runs_call.mpr ⟨le_rfl, rfl⟩
        obtain ⟨value, later, hlater⟩ :=
          ih _ (by omega) (wc + ((image.drop wc).take (count wc)).length) rfl
        rw [if_pos hmore]
        refine ⟨value, _ ++ later, runs_bind_ok hwrite ?_⟩
        rw [if_neg (by omega)]
        exact hlater
      · rw [if_neg hmore]
        exact ⟨(), [], rfl, rfl⟩

theorem transmits_imageLoop (hcount : ∀ wc < image.length, 0 < count wc ∧ count wc ≤ chunk)
    (hchunk : 0 < chunk) :
    Transmits (imageLoop image count 0) (pieces chunk image) fun _ => True where
  emits := emits_imageLoop (fun wc hwc => (hcount wc hwc).2) 0
  attempts := attempts_imageLoop (fun wc hwc => (hcount wc hwc).2) hchunk 0
  completes := completes_imageLoop (fun wc hwc => (hcount wc hwc).1) 0

theorem transmits_psiLoop (hsize : image.length ≤ chunk) (hchunk : 0 < chunk) :
    Transmits (psiLoop image) (pieces chunk image) fun _ => True :=
  transmits_imageLoop (fun _ _ => by omega) hchunk

theorem transmits_eblLoop (image : Bytes) (hchunk : 0 < chunk) :
    Transmits (eblLoop image chunk) (pieces chunk image) fun _ => True := by
  refine transmits_imageLoop (fun wc hwc => ?_) hchunk
  split <;> omega

end Images

/-! ### Functions and their results -/

theorem checkResult_endResult (result : Except SendExit Unit) :
    checkResult (endResult result) = result := by
  match result with
  | .ok () => rfl
  | .error .error => rfl
  | .error .fault => rfl

section Functions

variable {F : Type → Type} {E ε ε' α : Type} {env : Environment F E} {Cut : E → E → Prop}
  {L : Language E} {P : α → Prop}

/-- Exceptions under other names. -/
theorem follows_mapError {p : ExceptT ε (Prog F) α} (hp : Follows env Cut p L P) (f : ε → ε') :
    Follows env Cut (ExceptT.mk (p.run >>= fun result => pure (result.mapError f))) L P := by
  refine hp.of_runs (fun value events => runs_map.trans ?_) fun exit events hrun => ?_
  · constructor
    · rintro ⟨result, hresult, hsame⟩
      cases result with
      | ok other =>
          obtain rfl : other = value := Except.ok.inj hsame
          exact hresult
      | error exit => cases hsame
    · exact fun hrun => ⟨.ok value, hrun, rfl⟩
  · obtain ⟨result, hresult, _⟩ := runs_map.mp hrun
    exact ⟨result, hresult⟩

/-- The end of a function and the test of its result behind a call undo one another. -/
theorem follows_checked_ended {body : ExceptT SendExit (Prog F) Unit}
    (hbody : Follows env Cut body L fun _ => True) :
    Follows env Cut (checked (ended body)) L fun _ => True := by
  have hruns : ∀ result events, Runs env (checked (ended body)).run result events ↔
      Runs env body.run result events := by
    intro result events
    refine runs_map.trans ⟨?_, fun hrun => ?_⟩
    · rintro ⟨_, hended, rfl⟩
      obtain ⟨result, hrun, rfl⟩ := runs_map.mp hended
      rwa [checkResult_endResult]
    · exact ⟨endResult result, runs_map.mpr ⟨result, hrun, rfl⟩, checkResult_endResult result⟩
  exact hbody.of_runs (fun _ _ => hruns _ _) fun exit events hrun => ⟨_, (hruns _ _).mp hrun⟩

end Functions

/-- The test of the result is that of the caller. -/
abbrev Sends (function : Prog DeviceCall (Option Int)) (L : Language DeviceWrite) : Prop :=
  Transmits (checked function) L fun _ => True

section Senders

variable {α : Type} {L : Language DeviceWrite} {P : α → Prop} {fd : Int} {image : Bytes}

theorem transmits_ofUpload {upload : Upload α} (hupload : Transmits upload L P) :
    Transmits (ofUpload upload) L P := follows_mapError hupload fun _ => SendExit.error

/-- What an upload makes of the result of its body. -/
def uploadResult : Except Unit Unit → Int
  | .ok _ => 0
  | .error _ => -1

theorem runs_imageSend_iff {upload : Bytes → Upload Unit} (hfd : 0 ≤ fd) (himage : image ≠ [])
    {rc : Int} {log : List DeviceWrite} :
    Runs deviceEnvironment (imageSend fd (some image) upload) rc log ↔
      ∃ result, Runs deviceEnvironment (upload image).run result log ∧ uploadResult result = rc := by
  have hguard : ¬(fd < 0 ∨ image.length = 0) := by
    rw [List.length_eq_zero_iff]
    exact not_or.mpr ⟨not_lt.mpr hfd, himage⟩
  have hresult : imageSend fd (some image) upload =
      (upload image).run >>= fun result => pure (uploadResult result) := by
    rw [imageSend, if_neg hguard]
    refine congrArg ((upload image).run >>= ·) (funext fun result => ?_)
    cases result <;> rfl
  rw [hresult]
  exact runs_map

/-- An upload of an image that is there. -/
theorem sends_imageSend {upload : Bytes → Upload Unit} (hfd : 0 ≤ fd) (himage : image ≠ [])
    (hupload : Transmits (upload image) L fun _ => True) :
    Sends (some <$> imageSend fd (some image) upload) L := by
  have hruns : ∀ result log, Runs deviceEnvironment
      (checked (some <$> imageSend fd (some image) upload)).run result log ↔
        ∃ exit, Runs deviceEnvironment (upload image).run exit log ∧
          checkResult (some (uploadResult exit)) = result := by
    intro result log
    refine runs_map.trans ⟨?_, ?_⟩
    · rintro ⟨_, hsome, rfl⟩
      obtain ⟨_, hrun, rfl⟩ := runs_map.mp hsome
      obtain ⟨exit, hexit, rfl⟩ := (runs_imageSend_iff hfd himage).mp hrun
      exact ⟨exit, hexit, rfl⟩
    · rintro ⟨exit, hexit, rfl⟩
      exact ⟨_, runs_map.mpr ⟨_, (runs_imageSend_iff hfd himage).mpr ⟨exit, hexit, rfl⟩, rfl⟩, rfl⟩
  refine hupload.of_runs (fun value log => (hruns _ _).trans ?_) fun exit log hrun => ?_
  · constructor
    · rintro ⟨exit, hexit, hsame⟩
      cases exit with
      | ok value => exact hexit
      | error exit => exact absurd hsame (by simp [checkResult, uploadResult])
    · exact fun hrun => ⟨_, hrun, rfl⟩
  · obtain ⟨exit, hexit, _⟩ := (hruns _ _).mp hrun
    exact ⟨exit, hexit⟩

variable {abi : Abi}

theorem sends_xmm626HsicPsiSend (hfd : 0 ≤ fd) (himage : image ≠ []) (hsize : image.length ≤ 2 ^ 16 - 1) :
    Sends (some <$> xmm626HsicPsiSend fd image)
      ((UploadRoutine.format abi .xmm626HsicPsi).uploads image) := by
  refine sends_imageSend hfd himage ?_
  have hheader := wrote_le_announcement (UploadRoutine.format abi .xmm626HsicPsi) rfl
    (announces_hsicPsi hsize)
  refine (transmits_bootupLoop _ (Nat.zero_le 50)).bind fun _ _ => ?_
  refine (transmits_skipBytes 2).quiet_bind fun _ _ => ?_
  refine ((transmits_writeWhole _).mono hheader).bind fun _ _ => ?_
  refine (transmits_psiLoop hsize (by decide)).bind fun _ _ => ?_
  rw [xmm626CrcCalculate_eq]
  refine (transmits_writeWhole _).bind_quiet fun _ _ => (transmits_skipBytes _).quiet_bind fun _ _ => ?_
  exact (transmits_skipBytes _).quiet_bind fun _ _ =>
    transmits_ackLoop 0xAA00 (by decide) (by decide) 49

theorem sends_xmm626HsicEblSend (hfd : 0 ≤ fd) (himage : image ≠ [])
    (hsize : image.length ≤ 2 ^ abi.sizeBits - 2) :
    Sends (some <$> xmm626HsicEblSend abi fd image)
      ((UploadRoutine.format abi .xmm626HsicEbl).uploads image) := by
  have hbits : 2 ≤ 2 ^ abi.sizeBits := by cases abi <;> decide
  have hsizes := wrote_le_announcement (UploadRoutine.format abi .xmm626HsicEbl) rfl
    (announcesSize (show image.length < _ by omega))
  refine sends_imageSend hfd himage (Follows.mono ?_ (one_mul _).ge)
  refine ((transmits_writeWhole _).mono hsizes).bind fun _ _ => ?_
  refine (transmits_ackLoop 0xCCCC (by decide) (by decide) 49).quiet_bind
    fun _ _ => ?_
  rw [xmm626CrcCalculate_eq]
  refine (transmits_eblLoop image (by decide)).bind fun _ _ => ?_
  exact (transmits_writeWhole _).bind_quiet fun _ _ =>
    transmits_ackLoop 0xA551 (by decide) (by decide) 49

theorem sends_xmm626MipiPsiSend (hfd : 0 ≤ fd) (himage : image ≠ []) (hsize : image.length ≤ 2 ^ 16 - 1) :
    Sends (some <$> xmm626MipiPsiSend fd image)
      ((UploadRoutine.format abi .xmm626MipiPsi).uploads image) := by
  refine sends_imageSend hfd himage ?_
  have hheader := wrote_le_announcement (UploadRoutine.format abi .xmm626MipiPsi) rfl
    (announces_mipiPsi hsize)
  refine (transmits_bootupLoop _ (Nat.zero_le 50)).bind fun _ _ => ?_
  refine (transmits_ackLoop 0xFFFF (by decide) (by decide) 49).quiet_bind fun _ _ => ?_
  refine ((transmits_writeWhole _).mono hheader).bind fun _ _ => ?_
  refine (transmits_psiLoop hsize (by decide)).bind fun _ _ => ?_
  rw [encode_mipiCrc]
  exact (transmits_writeWhole _).bind_quiet fun _ _ =>
    transmits_ackLoop 0xDD01 (by decide) (by decide) 49

theorem sends_xmm626MipiEblSend (hfd : 0 ≤ fd) (himage : image ≠ [])
    (hsize : image.length ≤ 2 ^ abi.sizeBits - 2) :
    Sends (some <$> xmm626MipiEblSend abi fd image)
      ((UploadRoutine.format abi .xmm626MipiEbl).uploads image) := by
  have hbits : 2 ≤ 2 ^ abi.sizeBits := by cases abi <;> decide
  have hnext : (image.length + 1) % 2 ^ abi.sizeBits = image.length + 1 := Nat.mod_eq_of_lt (by omega)
  have hsizes := wrote_mul_wrote_le_announcement (UploadRoutine.format abi .xmm626MipiEbl) rfl
    (announcesSize (show image.length < _ by omega)) (announcesSize (show image.length + 1 < _ by omega))
  refine sends_imageSend hfd himage (Follows.mono ?_ (regroup_le hsizes))
  refine (transmits_writeWhole _).bind fun _ _ => (transmits_writeWhole _).bind fun _ _ => ?_
  refine (transmits_ackLoop 0xAA00 (by decide) (by decide) 49).quiet_bind fun _ _ => ?_
  refine (transmits_writeWhole _).bind fun _ _ => (transmits_writeWhole _).bind fun _ _ => ?_
  refine (transmits_ackLoop 0xCCCC (by decide) (by decide) 49).quiet_bind fun _ _ => ?_
  rw [hnext, xmm626CrcCalculate_eq]
  refine (transmits_writeWhole _).bind fun _ _ => (transmits_eblLoop image (by decide)).bind fun _ _ => ?_
  exact (transmits_writeWhole _).bind_quiet fun _ _ =>
    transmits_ackLoop 0xA551 (by decide) (by decide) 49

end Senders

end SamsungIpc

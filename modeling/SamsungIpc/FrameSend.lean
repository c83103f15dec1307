import SamsungIpc.FrameTransport

/-! What the sends put on the wire. A frame is as long as its header says, and a length field that is
too narrow for the message cuts it short without a failure. -/

namespace SamsungIpc

open ByteSplice TransferLoop

/-- `data` points to `size` bytes, or is `NULL` when there are none. -/
def IpcMessage.WellFormed (message : IpcMessage) : Prop :=
  (message.data.getD []).length = message.size

theorem IpcMessage.WellFormed.payload_eq {message : IpcMessage} (hmessage : message.WellFormed) :
    message.payload = message.data.getD [] := by
  rw [payload, ← hmessage, List.take_length]

variable {H : Type} {abi : Abi} {format : HeaderFormat H} {transport : Transport}
  {message : IpcMessage}

/-- The memory the header and the payload were copied to, whether or not they fit into the buffer. -/
theorem frame_memory (format : HeaderFormat H) (header : H) (payload : Bytes) {length : Nat}
    (hlength : length ≤ format.size + payload.length) :
    splice (splice (List.replicate length 0) 0 (format.toBytes header)) format.size payload =
      format.toBytes header ++ payload := by
  have hoffset : format.size = 0 + (format.toBytes header).length := by
    rw [format.length_toBytes, Nat.zero_add]
  rw [hoffset, splice_splice, splice_cover]
  rw [List.length_replicate, List.length_append, format.length_toBytes]
  exact hlength

/-- A send transmits the first `length` bytes of the header and the payload, where `length` is what
is left of the frame's length in the header field. -/
theorem frameSend_eq (hmessage : message.WellFormed) (writes : List (Option Nat))
    (halloc : format.length (format.headerSetup message) < 2 ^ (abi.sizeBits - 1)) :
    frameSend abi format transport message writes =
      let length := (message.size + format.size) % 2 ^ format.lengthBits
      let frame := format.toBytes (format.headerSetup message) ++ message.data.getD []
      let loop := sendLoop transport.policy writes (frame.take length)
      ⟨length, format.size + message.size, loop.2, .ofOutcome loop.1⟩ := by
  have hfits : format.length (format.headerSetup message) ≤
      format.size + (message.data.getD []).length := by
    rw [format.length_headerSetup, hmessage, Nat.add_comm format.size]
    exact Nat.mod_le _ _
  simp only [frameSend, Abi.calloc_of_lt halloc, hmessage.payload_eq,
    frame_memory format _ _ hfits]
  rw [format.length_headerSetup, hmessage]

/-- The whole frame fits its length field: everything is transmitted, in the pieces the handler took. -/
theorem frameSend_fits (hmessage : message.WellFormed) {writes : List (Option Nat)}
    (halloc : message.size + format.size < 2 ^ (abi.sizeBits - 1))
    (hfits : message.size + format.size < 2 ^ format.lengthBits)
    (hdone : (frameSend abi format transport message writes).status = .returned 0) :
    (frameSend abi format transport message writes).sent.flatten =
      format.toBytes (format.headerSetup message) ++ message.data.getD [] := by
  have hlength := format.length_headerSetup message
  rw [Nat.mod_eq_of_lt hfits] at hlength
  have hwhole : (format.toBytes (format.headerSetup message) ++ message.data.getD []).take
      (message.size + format.size) =
        format.toBytes (format.headerSetup message) ++ message.data.getD [] := by
    apply List.take_of_length_le
    rw [List.length_append, format.length_toBytes, hmessage, Nat.add_comm]
  rw [frameSend_eq hmessage writes (hlength ▸ halloc), Nat.mod_eq_of_lt hfits] at hdone ⊢
  simp only [hwhole, Status.ofOutcome_eq_zero_iff] at hdone ⊢
  exact flatten_sendLoop hdone

/-- A send that returns `0` has transmitted the header and the whole payload, with the length of the
frame in the header, and has copied nothing past its buffer. -/
def SendExact (send : IpcMessage → List (Option Nat) → SendRun) (message : IpcMessage) : Prop :=
  ∀ writes : List Nat, (∀ taken ∈ writes, 0 < taken) →
    let run := send message (writes.map some)
    run.status = .returned 0 →
      run.sent.flatten = (ipcFmtHeaderSetup message).toBytes ++ message.data.getD [] ∧
      (ipcFmtHeaderSetup message).length.toNat = message.size + sizeofIpcFmtHeader ∧
      run.filled ≤ run.allocated

theorem fmtSend_exact_iff (transport : Transport) (hmessage : message.WellFormed) :
    SendExact (frameSend abi fmtFormat transport) message ↔
      message.size + sizeofIpcFmtHeader < 2 ^ 16 := by
  have hheader : (ipcFmtHeaderSetup message).length.toNat =
      (message.size + sizeofIpcFmtHeader) % 2 ^ 16 := fmtFormat.length_headerSetup message
  have half := abi.le_half
  have halloc : fmtFormat.length (fmtFormat.headerSetup message) < 2 ^ (abi.sizeBits - 1) := by
    have hlt : fmtFormat.length (fmtFormat.headerSetup message) < 2 ^ 16 := fmtFormat.length_lt _
    omega
  constructor
  · -- a pattern that takes one byte at a time lets the send finish
    intro hexact
    have hpositive : ∀ taken ∈ List.replicate (message.size + sizeofIpcFmtHeader) 1, 0 < taken :=
      fun taken htaken => (List.eq_of_mem_replicate htaken).symm ▸ Nat.one_pos
    have hdone : (frameSend abi fmtFormat transport message
        ((List.replicate (message.size + sizeofIpcFmtHeader) 1).map some)).status =
          .returned 0 := by
      rw [frameSend_eq hmessage _ halloc]
      apply Status.ofOutcome_eq_zero_iff.mpr
      apply sendLoop_of_length_le hpositive
      rw [List.length_take, List.length_append, fmtFormat.length_toBytes, hmessage,
        List.length_replicate]
      exact (Nat.min_le_right _ _).trans (Nat.add_comm _ _).le
    have hlength := (hexact _ hpositive hdone).2.1
    rw [← hlength]
    exact (ipcFmtHeaderSetup message).length.toNat_lt
  · intro hfits writes _ run hdone
    have hmod := Nat.mod_eq_of_lt hfits
    have hsize : message.size + fmtFormat.size < 2 ^ (abi.sizeBits - 1) := by
      show message.size + sizeofIpcFmtHeader < _
      omega
    refine ⟨frameSend_fits hmessage hsize hfits hdone, hheader.trans hmod, ?_⟩
    change (frameSend abi fmtFormat transport message _).filled ≤ (frameSend ..).allocated
    rw [frameSend_eq hmessage _ halloc]
    change sizeofIpcFmtHeader + message.size ≤ (message.size + sizeofIpcFmtHeader) % 2 ^ 16
    omega

/-- **An FMT send is exact up to the width of its length field.** From there on it transmits a part
of the message and returns `0`. -/
theorem fmt_send_exact_iff (abi : Abi) (message : IpcMessage) (hmessage : message.WellFormed) :
    (SendExact (xmm626KernelSmdk4412FmtSend abi) message ↔
      message.size + sizeofIpcFmtHeader < 2 ^ 16) ∧
    (SendExact (ariesFmtSend abi) message ↔ message.size + sizeofIpcFmtHeader < 2 ^ 16) :=
  ⟨fmtSend_exact_iff xmm626Transport hmessage, fmtSend_exact_iff ariesTransport hmessage⟩

/-- An SMS command with `size` bytes of payload. -/
def sampleMessage (size : Nat) : IpcMessage :=
  ⟨1, 0, ipcCommand 0x04 0x01, 0x01, some (List.replicate size 0), size⟩

theorem sampleMessage_wellFormed (size : Nat) : (sampleMessage size).WellFormed :=
  List.length_replicate

theorem fmt_send_exact_iff_sample :
    (SendExact (xmm626KernelSmdk4412FmtSend .lp64) (sampleMessage 3) ↔
      (sampleMessage 3).size + sizeofIpcFmtHeader < 2 ^ 16) ∧
    (SendExact (ariesFmtSend .lp64) (sampleMessage 3) ↔
      (sampleMessage 3).size + sizeofIpcFmtHeader < 2 ^ 16) :=
  fmt_send_exact_iff .lp64 (sampleMessage 3) (sampleMessage_wellFormed 3)

/-- A payload of 65530 bytes is sent as a frame of one byte. -/
theorem fmt_send_cut_short :
    (sampleMessage 65530).WellFormed ∧
      ¬SendExact (xmm626KernelSmdk4412FmtSend .lp64) (sampleMessage 65530) ∧
      ¬SendExact (ariesFmtSend .ilp32) (sampleMessage 65530) := by
  have hlong : ¬(sampleMessage 65530).size + sizeofIpcFmtHeader < 2 ^ 16 := by
    show ¬65530 + 7 < 2 ^ 16
    decide
  refine ⟨sampleMessage_wellFormed 65530, ?_, ?_⟩
  · exact fun hexact =>
      hlong ((fmtSend_exact_iff xmm626Transport (sampleMessage_wellFormed 65530)).mp hexact)
  · exact fun hexact =>
      hlong ((fmtSend_exact_iff ariesTransport (sampleMessage_wellFormed 65530)).mp hexact)

end SamsungIpc

import SamsungIpc.FrameAgreement
import SamsungIpc.FrameSend

/-! Receiving what was sent. The sender cuts a frame into the pieces its writes accept, the device
delivers it in other pieces, and the receiver finds the message again. -/

namespace SamsungIpc

open ByteSplice TransferLoop

variable {H : Type} {abi : Abi} {format : HeaderFormat H} {transport : Transport}
  {limit : Option Nat} {message : IpcMessage}

/-- A way to deliver `frame`: the first read returns at least the header, and each later one some
bytes that the receive may have asked for at once. -/
structure Delivers (headerSize bufferLength : Nat) (granted : Bytes → Prop) (frame first : Bytes)
    (later : List Bytes) : Prop where
  frame_eq : first ++ later.flatten = frame
  header_le : headerSize ≤ first.length
  first_le : first.length ≤ bufferLength
  later_ne_nil : ∀ piece ∈ later, piece ≠ []
  later_granted : ∀ piece ∈ later, granted piece

/-- A header and the rest of the first read, followed by the later ones, are the frame. -/
theorem split_frame {header payload first rest : Bytes} (hframe : first ++ rest = header ++ payload)
    (hheader : header.length ≤ first.length) :
    ∃ head, first = header ++ head ∧ head ++ rest = payload := by
  rcases List.append_eq_append_iff.mp hframe with ⟨tail, hfirst, hrest⟩ | ⟨head, hfirst, hpayload⟩
  · obtain rfl : tail = [] := by
      have hlength := congrArg List.length hfirst
      rw [List.length_append] at hlength
      exact List.length_eq_zero_iff.mp (by omega)
    exact ⟨[], by rw [hfirst, List.append_nil, List.append_nil], hrest⟩
  · exact ⟨head, hfirst, hpayload.symm⟩

/-- The abstract receiver puts the message together again. -/
theorem assemble_frame (hmessage : message.WellFormed) {first : Bytes} {later : List Bytes}
    (hfits : message.size + format.size < 2 ^ format.lengthBits)
    (hframe : first ++ later.flatten =
      format.toBytes (format.headerSetup message) ++ message.data.getD [])
    (hheader : format.size ≤ first.length) :
    announced format first = message.size + format.size ∧
      (assemble format first later).status = .returned 0 ∧
      (assemble format first later).message =
        { format.messageSetup (format.headerSetup message) with
          data := if message.size = 0 then none else message.data
          size := message.size } := by
  obtain ⟨head, rfl, hpayload⟩ := split_frame hframe (by rw [format.length_toBytes]; exact hheader)
  have hofBytes := format.ofBytes_toBytes (format.headerSetup message) head
  have hannounced : announced format (format.toBytes (format.headerSetup message) ++ head) =
      message.size + format.size := by
    rw [announced, hofBytes, format.length_headerSetup, Nat.mod_eq_of_lt hfits]
  have hsize : announced format (format.toBytes (format.headerSetup message) ++ head) - format.size =
      message.size := by omega
  have hdrop : (format.toBytes (format.headerSetup message) ++ head).drop format.size = head := by
    rw [← format.length_toBytes (format.headerSetup message), List.drop_left]
  refine ⟨hannounced, ?_⟩
  by_cases hempty : message.size = 0
  · rw [assemble, if_pos (hsize.trans hempty), hofBytes, if_pos hempty, hempty,
      ← format.data_messageSetup (format.headerSetup message),
      ← format.size_messageSetup (format.headerSetup message)]
    exact ⟨rfl, rfl⟩
  · have hdata : message.data = some (message.data.getD []) := by
      cases hnull : message.data with
      | none =>
          rw [IpcMessage.WellFormed, hnull] at hmessage
          exact absurd hmessage.symm hempty
      | some data => rfl
    have hlength : (message.data.getD []).length = message.size := hmessage
    simp only [assemble, hsize, if_neg hempty, hdrop, hpayload, hofBytes, hlength, if_pos]
    rw [Nat.sub_self, List.replicate_zero, List.append_nil, ← hdata]
    exact ⟨trivial, rfl⟩

/-- For every pattern of writes that accept something, the send puts `frame` on the wire unless the
pattern ends before, and however the frame is then delivered, the receive returns `received`. A
write for each byte always lasts. -/
def RoundTrips (send : IpcMessage → List (Option Nat) → SendRun)
    (recv : List (Option Bytes) → IpcMessage → RecvRun) (headerSize bufferLength : Nat)
    (granted : Bytes → Prop) (message : IpcMessage) (frame : Bytes) (received : IpcMessage) : Prop :=
  ∀ writes : List Nat, (∀ taken ∈ writes, 0 < taken) →
    let sent := send message (writes.map some)
    (headerSize + message.size ≤ writes.length → sent.status ≠ .waiting) ∧
    (sent.status ≠ .waiting → sent.status = .returned 0 ∧ sent.sent.flatten = frame ∧
      ∀ first later, Delivers headerSize bufferLength granted frame first later →
        ∀ before, let run := recv ((first :: later).map some) before
          run.status = .returned 0 ∧ run.message = received)

/-- A send with working writes returns `0` unless its pattern ends early. -/
theorem frameSend_returns (abi : Abi) (transport : Transport) (hmessage : message.WellFormed)
    (halloc : format.length (format.headerSetup message) < 2 ^ (abi.sizeBits - 1))
    {writes : List Nat} (hwrites : ∀ taken ∈ writes, 0 < taken) :
    (format.size + message.size ≤ writes.length →
      (frameSend abi format transport message (writes.map some)).status ≠ .waiting) ∧
    ((frameSend abi format transport message (writes.map some)).status ≠ .waiting →
      (frameSend abi format transport message (writes.map some)).status = .returned 0) := by
  rw [frameSend_eq hmessage (writes.map some) halloc]
  refine ⟨fun hlength => ?_, Status.ofOutcome_eq_zero (sendLoop_of_positive hwrites _)⟩
  refine ne_of_eq_of_ne (Status.ofOutcome_eq_zero_iff.mpr (sendLoop_of_length_le hwrites ?_)) nofun
  rw [List.length_take, List.length_append, format.length_toBytes, hmessage]
  exact (Nat.min_le_right _ _).trans hlength

theorem frame_roundTrips (hmessage : message.WellFormed) {granted : Bytes → Prop}
    (hfits : message.size + format.size < 2 ^ format.lengthBits)
    (hbound : message.size + format.size < 2 ^ 31)
    (hlimit : ¬limit.any (message.size + format.size > ·) = true)
    (hpayload : ∀ buffer, announced format buffer = message.size + format.size →
      announcedPayload abi format transport buffer = announced format buffer - format.size)
    (hgranted : ∀ piece, granted piece → ∀ left, piece.length ≤ left →
      piece.length ≤ transport.policy.request left) :
    RoundTrips (frameSend abi format transport) (frameRecv abi format transport limit) format.size
      transport.bufferLength granted message
      (format.toBytes (format.headerSetup message) ++ message.data.getD [])
      { format.messageSetup (format.headerSetup message) with
        data := if message.size = 0 then none else message.data
        size := message.size } := by
  intro writes hwrites sent
  have hhalf := abi.le_half
  have halloc : format.length (format.headerSetup message) < 2 ^ (abi.sizeBits - 1) := by
    rw [format.length_headerSetup, Nat.mod_eq_of_lt hfits]
    omega
  obtain ⟨hlasts, hreturns⟩ := frameSend_returns abi transport hmessage halloc hwrites
  refine ⟨hlasts, fun hdone =>
    ⟨hreturns hdone, frameSend_fits hmessage (by omega) hfits (hreturns hdone), ?_⟩⟩
  intro first later hdelivers before
  have hframe := hdelivers.frame_eq
  obtain ⟨hannounced, hstatus, hreceived⟩ :=
    assemble_frame hmessage hfits hframe hdelivers.header_le
  have htotal : first.length + later.flatten.length ≤ announced format first := by
    rw [← List.length_append, hframe, List.length_append, format.length_toBytes, hmessage, hannounced,
      Nat.add_comm]
  have hrun : frameRecv abi format transport limit ((first :: later).map some) before =
      assemble format first later :=
    frameRecv_eq_assemble hdelivers.header_le hdelivers.first_le htotal (hpayload first hannounced)
      (hannounced.symm ▸ hlimit) (hannounced.symm ▸ hbound) hdelivers.later_ne_nil
      fun piece hpiece => hgranted piece (hdelivers.later_granted piece hpiece)
  rw [hrun]
  exact ⟨hstatus, hreceived⟩

/-! ### The four pairs -/

theorem xmm626_roundTrips (hmessage : message.WellFormed)
    (hfits : message.size + format.size < 2 ^ format.lengthBits)
    (hbound : message.size + format.size < 2 ^ 31)
    (hlimit : ¬limit.any (message.size + format.size > ·) = true) :
    RoundTrips (frameSend abi format xmm626Transport) (frameRecv abi format xmm626Transport limit)
      format.size xmm626DataSize (fun _ => True) message
      (format.toBytes (format.headerSetup message) ++ message.data.getD [])
      { format.messageSetup (format.headerSetup message) with
        data := if message.size = 0 then none else message.data
        size := message.size } := by
  apply frame_roundTrips hmessage hfits hbound hlimit
  · exact fun buffer _ => xmm626_announcedPayload abi format buffer
  · exact fun _ _ _ hleft => hleft

theorem aries_roundTrips (hmessage : message.WellFormed)
    (hfits : message.size + format.size < 2 ^ format.lengthBits)
    (hbound : message.size + format.size < 2 ^ 31)
    (hlimit : ¬limit.any (message.size + format.size > ·) = true) :
    RoundTrips (frameSend abi format ariesTransport) (frameRecv abi format ariesTransport limit)
      format.size ariesBufferLength (fun piece => piece.length ≤ ariesBufferLength) message
      (format.toBytes (format.headerSetup message) ++ message.data.getD [])
      { format.messageSetup (format.headerSetup message) with
        data := if message.size = 0 then none else message.data
        size := message.size } := by
  apply frame_roundTrips hmessage hfits hbound hlimit
  · intro buffer hannounced
    exact aries_announcedPayload_of_le (by omega) (by omega)
  · exact fun _ hpiece _ hleft => aries_request_of_le hpiece hleft

/-- What the receiver of an FMT message gets back: the message. -/
theorem fmt_messageSetup_headerSetup (message : IpcMessage) :
    ipcFmtMessageSetup (ipcFmtHeaderSetup message) = { message with data := none, size := 0 } := by
  rw [ipcFmtMessageSetup, ipcFmtHeaderSetup, ipcCommand_group_index]

/-- **Frames survive the way.** Whatever the short writes and reads are, the header and the payload
are what goes over the wire, an FMT message is received as it was sent, and an RFS message with its
sequence number as the `aseq` and with the group that the header does not carry. -/
theorem frame_round_trip (abi : Abi) (message : IpcMessage) (hmessage : message.WellFormed) :
    let payload := if message.size = 0 then none else message.data
    let fmtFrame := (ipcFmtHeaderSetup message).toBytes ++ message.data.getD []
    let rfsFrame := (ipcRfsHeaderSetup message).toBytes ++ message.data.getD []
    let rfsReceived : IpcMessage :=
      { mseq := 0
        aseq := message.mseq
        command := ipcCommand ipcGroupRfs (ipcIndex message.command)
        type := 0
        data := payload
        size := message.size }
    (message.size ≤ 65528 →
      RoundTrips (xmm626KernelSmdk4412FmtSend abi) (xmm626KernelSmdk4412FmtRecv abi)
        sizeofIpcFmtHeader xmm626DataSize (fun _ => True) message fmtFrame
        { message with data := payload } ∧
      RoundTrips (ariesFmtSend abi) (ariesFmtRecv abi) sizeofIpcFmtHeader ariesBufferLength
        (fun piece => piece.length ≤ ariesBufferLength) message fmtFrame
        { message with data := payload }) ∧
    (message.size + sizeofIpcRfsHeader ≤ 0x80000 →
      RoundTrips (xmm626KernelSmdk4412RfsSend abi) (xmm626KernelSmdk4412RfsRecv abi)
        sizeofIpcRfsHeader xmm626DataSize (fun _ => True) message rfsFrame rfsReceived ∧
      RoundTrips (ariesRfsSend abi) (ariesRfsRecv abi) sizeofIpcRfsHeader ariesBufferLength
        (fun piece => piece.length ≤ ariesBufferLength) message rfsFrame rfsReceived) := by
  intro payload fmtFrame rfsFrame rfsReceived
  constructor
  · intro hsize
    have hfits : message.size + fmtFormat.size < 2 ^ 16 := by
      show message.size + 7 < 2 ^ 16
      omega
    have hlimit : ¬(none : Option Nat).any (message.size + fmtFormat.size > ·) = true :=
      Bool.false_ne_true
    have hreceived : { fmtFormat.messageSetup (fmtFormat.headerSetup message) with
        data := payload, size := message.size } = { message with data := payload } := by
      change { ipcFmtMessageSetup (ipcFmtHeaderSetup message) with
        data := payload, size := message.size } = _
      rw [fmt_messageSetup_headerSetup]
    have hbound : message.size + fmtFormat.size < 2 ^ 31 := hfits.trans (by decide)
    rw [← hreceived]
    exact ⟨xmm626_roundTrips hmessage hfits hbound hlimit,
      aries_roundTrips hmessage hfits hbound hlimit⟩
  · intro hsize
    have hbound : message.size + rfsFormat.size < 2 ^ 31 := by
      show message.size + sizeofIpcRfsHeader < 2 ^ 31
      omega
    have hfits : message.size + rfsFormat.size < 2 ^ 32 := hbound.trans (by decide)
    have hlimit : ¬(some 0x80000).any (message.size + rfsFormat.size > ·) = true := by
      rw [Option.any_some, decide_eq_true_iff]
      exact not_lt.mpr hsize
    exact ⟨xmm626_roundTrips hmessage hfits hbound hlimit,
      aries_roundTrips hmessage hfits hbound hlimit⟩

/-- Three bytes of payload on their way, as an FMT frame in two writes and three reads, and as an RFS
frame in one write and two reads. -/
theorem frame_round_trip_sample :
    let message : IpcMessage := ⟨1, 2, ipcCommand 0x04 0x05, 0x03, some [7, 8, 9], 3⟩
    let fmtSent := xmm626KernelSmdk4412FmtSend .lp64 message [some 4, some 6]
    let fmtRun := xmm626KernelSmdk4412FmtRecv .lp64
      [some [10, 0, 1, 2, 4, 5, 3, 7], some [8], some [9]] (sampleMessage 0)
    let rfsSent := ariesRfsSend .lp64 message [some 9]
    let rfsRun := ariesRfsRecv .lp64 [some [9, 0, 0, 0, 5, 1], some [7, 8, 9]] (sampleMessage 0)
    (fmtSent.status = .returned 0 ∧ fmtSent.sent.flatten = [10, 0, 1, 2, 4, 5, 3, 7, 8, 9] ∧
      fmtRun.status = .returned 0 ∧ fmtRun.message = message) ∧
    (rfsSent.status = .returned 0 ∧ rfsSent.sent.flatten = [9, 0, 0, 0, 5, 1, 7, 8, 9] ∧
      rfsRun.status = .returned 0 ∧
      rfsRun.message = ⟨0, 1, ipcCommand ipcGroupRfs 0x05, 0, some [7, 8, 9], 3⟩) := by
  intro message fmtSent fmtRun rfsSent rfsRun
  have hmessage : message.WellFormed := rfl
  have htrips := frame_round_trip .lp64 message hmessage
  obtain ⟨hfmtSent, hfmtFrame, hfmt⟩ :=
    ((htrips.1 (by decide)).1 [4, 6] (by decide)).2 (by decide)
  obtain ⟨hrfsSent, hrfsFrame, hrfs⟩ := ((htrips.2 (by decide)).2 [9] (by decide)).2 (by decide)
  have hfmtDelivers : Delivers sizeofIpcFmtHeader xmm626DataSize (fun _ => True)
      ((ipcFmtHeaderSetup message).toBytes ++ [7, 8, 9]) [10, 0, 1, 2, 4, 5, 3, 7] [[8], [9]] :=
    ⟨by decide, by decide, by decide, by decide, fun _ _ => trivial⟩
  have hrfsDelivers : Delivers sizeofIpcRfsHeader ariesBufferLength
      (fun piece => piece.length ≤ ariesBufferLength)
      ((ipcRfsHeaderSetup message).toBytes ++ [7, 8, 9]) [9, 0, 0, 0, 5, 1] [[7, 8, 9]] :=
    ⟨by decide, by decide, by decide, by decide, by decide⟩
  obtain ⟨hrfsStatus, hrfsMessage⟩ := hrfs _ _ hrfsDelivers (sampleMessage 0)
  exact ⟨⟨hfmtSent, hfmtFrame.trans (by decide), hfmt _ _ hfmtDelivers (sampleMessage 0)⟩,
    hrfsSent, hrfsFrame.trans (by decide), hrfsStatus, hrfsMessage.trans (by decide)⟩

end SamsungIpc

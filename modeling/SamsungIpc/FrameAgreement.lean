import SamsungIpc.FrameReceive

/-! The receives of the two transports against one abstract receiver, which puts a frame together from
the pieces it is delivered in. Both follow it for every length field a header of its own size or more
can have; below that Aries goes astray. -/

namespace SamsungIpc

open ByteSplice TransferLoop

variable {H : Type} {abi : Abi} {format : HeaderFormat H} {transport : Transport}
  {limit : Option Nat} {first : Bytes} {later : List Bytes} {message : IpcMessage}

/-- The abstract receiver: the message of the header with the payload there is so far, zeros where it
is missing. It returns once nothing is missing. -/
def assemble (format : HeaderFormat H) (first : Bytes) (later : List Bytes) : RecvRun :=
  let message := format.messageSetup (format.ofBytes first)
  let size := announced format first - format.size
  if size = 0 then ⟨message, 0, .returned 0⟩
  else
    let payload := first.drop format.size ++ later.flatten
    let data := payload ++ List.replicate (size - payload.length) 0
    ⟨{ message with data := some data, size := size }, payload.length,
      if payload.length = size then .returned 0 else .waiting⟩

/-- A frame as a stream device delivers it: the first read is at least the header, every later one is
within what the transports ask for, and together they are no more than was announced, if that is
at least the header itself. -/
structure Delivery (format : HeaderFormat H) (first : Bytes) (later : List Bytes) : Prop where
  header_le : format.size ≤ first.length
  first_le : first.length ≤ ariesBufferLength
  later_ne_nil : ∀ piece ∈ later, piece ≠ []
  later_le : ∀ piece ∈ later, piece.length ≤ ariesBufferLength
  total_le : format.size ≤ announced format first →
    first.length + later.flatten.length ≤ announced format first

theorem firstRead_eq (hbuffer : first.length ≤ transport.bufferLength) :
    firstRead transport (some first) = first := List.take_of_length_le hbuffer

/-- A receive that reads the length field right and is granted its pieces does what the abstract
receiver does. -/
theorem frameRecv_eq_assemble (hheader : format.size ≤ first.length)
    (hbuffer : first.length ≤ transport.bufferLength)
    (htotal : first.length + later.flatten.length ≤ announced format first)
    (hpayload : announcedPayload abi format transport first = announced format first - format.size)
    (hlimit : ¬limit.any (announced format first > ·) = true)
    (hbound : announced format first < 2 ^ 31) (hlater : ∀ piece ∈ later, piece ≠ [])
    (hgranted : ∀ piece ∈ later, ∀ left, piece.length ≤ left →
      piece.length ≤ transport.policy.request left) :
    frameRecv abi format transport limit ((first :: later).map some) message =
      assemble format first later := by
  have hfirst := firstRead_eq hbuffer
  rw [List.map_cons]
  by_cases hempty : announced format first - format.size = 0
  · rw [frameRecv_empty (hfirst.symm ▸ hheader) (hfirst.symm ▸ hlimit)
      (by rw [hfirst, hpayload, hempty]), hfirst]
    exact (if_pos hempty).symm
  · rw [frameRecv_payload (hfirst.symm ▸ hheader) (hfirst.symm ▸ hlimit)
      (by rw [hfirst, hpayload]; exact hempty), hfirst, hpayload]
    have hhalf := abi.le_half
    have hcopied : (first.drop format.size).length = first.length - format.size := List.length_drop
    have hloop : recvLoop transport.policy (later.map some)
        (announced format first - format.size - (first.drop format.size).length) = _ :=
      recvLoop_pieces hlater hgranted (by omega)
    have hcalloc : abi.calloc (announced format first - format.size) = _ :=
      Abi.calloc_of_lt (by omega)
    have hcomplete : later.flatten.length =
        announced format first - format.size - (first.drop format.size).length ↔
          (first.drop format.size ++ later.flatten).length =
            announced format first - format.size := by
      rw [List.length_append]
      omega
    simp only [payloadRecv, hloop, hcalloc, splice_replicate, hcomplete, assemble, if_neg hempty]
    congr 1
    split <;> rfl

theorem xmm626Recv_eq_assemble (hdelivery : Delivery format first later)
    (hle : format.size ≤ announced format first) (hbound : announced format first < 2 ^ 31)
    (hlimit : ¬limit.any (announced format first > ·) = true) :
    frameRecv abi format xmm626Transport limit ((first :: later).map some) message =
      assemble format first later := by
  apply frameRecv_eq_assemble hdelivery.header_le _ (hdelivery.total_le hle)
    (xmm626_announcedPayload ..) hlimit hbound hdelivery.later_ne_nil
  · exact fun _ _ _ hpiece => hpiece
  · exact hdelivery.first_le.trans (by decide)

/-- Aries asks for up to `ARIES_BUFFER_LENGTH` bytes at once. -/
theorem aries_request_of_le {count left : Nat} (hchunk : count ≤ ariesBufferLength)
    (hleft : count ≤ left) : count ≤ ariesTransport.policy.request left := by
  show count ≤ if left < ariesBufferLength then left else ariesBufferLength
  split
  · exact hleft
  · exact hchunk

theorem ariesRecv_eq_assemble (hdelivery : Delivery format first later)
    (hle : format.size ≤ announced format first) (hbound : announced format first < 2 ^ 31)
    (hlimit : ¬limit.any (announced format first > ·) = true) :
    frameRecv abi format ariesTransport limit ((first :: later).map some) message =
      assemble format first later := by
  apply frameRecv_eq_assemble hdelivery.header_le hdelivery.first_le (hdelivery.total_le hle)
    (aries_announcedPayload_of_le hle hbound) hlimit hbound hdelivery.later_ne_nil
  exact fun piece hpiece left hleft => aries_request_of_le (hdelivery.later_le piece hpiece) hleft

/-- The two receives return the same status and the same message. -/
def RecvAgree (recv recv' : List (Option Bytes) → IpcMessage → RecvRun) (reads : List (Option Bytes))
    (message : IpcMessage) : Prop :=
  (recv reads message).status = (recv' reads message).status ∧
    (recv reads message).message = (recv' reads message).message

theorem frameRecv_agree_of_le (hdelivery : Delivery format first later)
    (hbound : ¬limit.any (announced format first > ·) = true → announced format first < 2 ^ 31)
    (hle : format.size ≤ announced format first) :
    RecvAgree (frameRecv abi format ariesTransport limit)
      (frameRecv abi format xmm626Transport limit) ((first :: later).map some) message := by
  have haries : first.length ≤ ariesTransport.bufferLength := hdelivery.first_le
  have hxmm626 : first.length ≤ xmm626Transport.bufferLength := haries.trans (by decide)
  by_cases hlimit : limit.any (announced format first > ·) = true
  · rw [RecvAgree, List.map_cons, frameRecv_refused (Or.inr ((firstRead_eq haries).symm ▸ hlimit)),
      frameRecv_refused (Or.inr ((firstRead_eq hxmm626).symm ▸ hlimit))]
    exact ⟨rfl, rfl⟩
  · rw [RecvAgree, ariesRecv_eq_assemble hdelivery hle (hbound hlimit) hlimit,
      xmm626Recv_eq_assemble hdelivery hle (hbound hlimit) hlimit]
    exact ⟨rfl, rfl⟩

/-- A length field smaller than the header: no payload on one side, a huge one on the other. -/
theorem frameRecv_differ_of_lt (hdelivery : Delivery format first later)
    (hsize : format.size < 2 ^ 31) (hlimit : ¬limit.any (announced format first > ·) = true)
    (hlt : announced format first < format.size) :
    ¬RecvAgree (frameRecv abi format ariesTransport limit)
      (frameRecv abi format xmm626Transport limit) ((first :: later).map some) message := by
  have haries : firstRead ariesTransport (some first) = first := firstRead_eq hdelivery.first_le
  have hxmm626 : firstRead xmm626Transport (some first) = first :=
    firstRead_eq (hdelivery.first_le.trans (by decide))
  have hhuge : 2 ^ (abi.sizeBits - 1) ≤ announcedPayload abi format ariesTransport first :=
    aries_announcedPayload_of_lt hlt hsize
  have hpos : announcedPayload abi format ariesTransport first ≠ 0 :=
    (lt_of_lt_of_le (Nat.two_pow_pos _) hhuge).ne'
  have hempty : announcedPayload abi format xmm626Transport first = 0 := by
    rw [xmm626_announcedPayload]
    omega
  rintro ⟨-, hmessage⟩
  have hsizes := congrArg IpcMessage.size hmessage
  rw [List.map_cons,
    frameRecv_payload (haries.symm ▸ hdelivery.header_le) (haries.symm ▸ hlimit)
      (haries.symm ▸ hpos), payloadRecv_size, haries,
    frameRecv_empty (hxmm626.symm ▸ hdelivery.header_le) (hxmm626.symm ▸ hlimit)
      (hxmm626.symm ▸ hempty), format.size_messageSetup] at hsizes
  exact hpos hsizes

/-- **The two transports agree on every header that announces at least itself.** On a smaller length
field the XMM626 receives return an empty message, and the Aries ones go on with a payload of
almost the whole address space. -/
theorem recv_agree_iff (abi : Abi) (first : Bytes) (later : List Bytes) (message : IpcMessage) :
    (Delivery fmtFormat first later →
      (RecvAgree (ariesFmtRecv abi) (xmm626KernelSmdk4412FmtRecv abi) ((first :: later).map some)
        message ↔ sizeofIpcFmtHeader ≤ announced fmtFormat first)) ∧
    (Delivery rfsFormat first later →
      (RecvAgree (ariesRfsRecv abi) (xmm626KernelSmdk4412RfsRecv abi) ((first :: later).map some)
        message ↔ sizeofIpcRfsHeader ≤ announced rfsFormat first)) := by
  constructor
  · intro hdelivery
    constructor
    · intro hagree
      by_contra hlt
      have hlimit : ¬(none : Option Nat).any (announced fmtFormat first > ·) = true :=
        Bool.false_ne_true
      exact frameRecv_differ_of_lt hdelivery (by decide) hlimit (not_le.mp hlt) hagree
    · exact frameRecv_agree_of_le hdelivery fun _ => fmt_announced_lt first
  · intro hdelivery
    constructor
    · intro hagree
      by_contra hlt
      have hlimit : ¬(some xmm626DataSizeLimit).any (announced rfsFormat first > ·) = true := by
        rw [Option.any_some, decide_eq_true_iff, xmm626DataSizeLimit]
        have hsmall : announced rfsFormat first < 6 := not_le.mp hlt
        omega
      exact frameRecv_differ_of_lt hdelivery (by decide) hlimit (not_le.mp hlt) hagree
    · exact frameRecv_agree_of_le hdelivery (rfs_announced_lt xmm626DataSizeLimit le_rfl)

/-- A frame of two bytes of payload, the second of which comes by itself. -/
theorem recv_agree_iff_sample :
    RecvAgree (ariesFmtRecv .lp64) (xmm626KernelSmdk4412FmtRecv .lp64)
        (([9, 0, 1, 0, 2, 1, 3, 0xaa] :: [[0xbb]]).map some) ⟨0, 0, 0, 0, none, 0⟩ ↔
      sizeofIpcFmtHeader ≤ announced fmtFormat [9, 0, 1, 0, 2, 1, 3, 0xaa] :=
  (recv_agree_iff .lp64 [9, 0, 1, 0, 2, 1, 3, 0xaa] [[0xbb]] ⟨0, 0, 0, 0, none, 0⟩).1
    ⟨by decide, by decide, by decide, by decide, by decide⟩

/-- A header whose length field is `0`, alone. -/
theorem recv_differ_on_empty_frame :
    Delivery fmtFormat [0, 0, 1, 0, 2, 1, 3] [] ∧
      ¬RecvAgree (ariesFmtRecv .ilp32) (xmm626KernelSmdk4412FmtRecv .ilp32)
        (([0, 0, 1, 0, 2, 1, 3] :: []).map some) ⟨0, 0, 0, 0, none, 0⟩ := by
  have hdelivery : Delivery fmtFormat [0, 0, 1, 0, 2, 1, 3] [] :=
    ⟨by decide, by decide, by decide, by decide, by decide⟩
  have hlimit : ¬(none : Option Nat).any (announced fmtFormat [0, 0, 1, 0, 2, 1, 3] > ·) = true :=
    Bool.false_ne_true
  exact ⟨hdelivery, frameRecv_differ_of_lt hdelivery (by decide) hlimit (by decide)⟩

end SamsungIpc

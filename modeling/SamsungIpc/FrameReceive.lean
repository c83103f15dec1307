import SamsungIpc.FrameTransport

/-! What the receives store. The payload buffer is as large as the header announces, while the first
copy into it is as large as the first read; the two transports differ in what they make of a length
field that is smaller than the header. -/

namespace SamsungIpc

open ByteSplice TransferLoop

variable {H : Type} {abi : Abi} {format : HeaderFormat H} {transport : Transport}
  {limit : Option Nat} {first : Option Bytes} {message : IpcMessage}

/-- What the first read puts into the buffer. -/
def firstRead (transport : Transport) (first : Option Bytes) : Bytes :=
  (first.getD []).take transport.bufferLength

/-- The length field of the header at the start of `buffer`. -/
def announced (format : HeaderFormat H) (buffer : Bytes) : Nat :=
  format.length (format.ofBytes buffer)

/-- The payload a header at the start of `buffer` announces, as the transport computes it. -/
def announcedPayload (abi : Abi) (format : HeaderFormat H) (transport : Transport) (buffer : Bytes) :
    Nat :=
  transport.payloadLength abi (announced format buffer) format.size

/-- Without a whole header, or with a length past the limit, a receive fails at once. -/
theorem frameRecv_refused (hrefused : (firstRead transport first).length < format.size ∨
      limit.any (announced format (firstRead transport first) > ·) = true)
    (reads : List (Option Bytes)) :
    frameRecv abi format transport limit (first :: reads) message =
      ⟨message, 0, .returned (-1)⟩ := by
  cases first with
  | none => rfl
  | some delivered =>
      rw [frameRecv]
      by_cases hshort : (delivered.take transport.bufferLength).length < format.size
      · exact if_pos hshort
      · exact (if_neg hshort).trans (if_pos (hrefused.resolve_left hshort))

theorem frameRecv_accepted (hheader : format.size ≤ (firstRead transport first).length)
    (hlimit : ¬limit.any (announced format (firstRead transport first) > ·) = true)
    (reads : List (Option Bytes)) :
    frameRecv abi format transport limit (first :: reads) message =
      let buffer := firstRead transport first
      let message := format.messageSetup (format.ofBytes buffer)
      let length := announcedPayload abi format transport buffer
      if length > 0 then
        payloadRecv abi transport message length (buffer.drop format.size) reads
      else ⟨message, 0, .returned 0⟩ := by
  cases first with
  | none =>
      have hpos := format.size_pos
      rw [firstRead, Option.getD_none, List.take_nil, List.length_nil] at hheader
      omega
  | some delivered =>
      have hlong : ¬(delivered.take transport.bufferLength).length < format.size := not_lt.mpr hheader
      rw [frameRecv]
      exact (if_neg hlong).trans (if_neg hlimit)

/-- A header that announces no payload ends the receive; what came with it is dropped. -/
theorem frameRecv_empty (hheader : format.size ≤ (firstRead transport first).length)
    (hlimit : ¬limit.any (announced format (firstRead transport first) > ·) = true)
    (hlength : announcedPayload abi format transport (firstRead transport first) = 0)
    (reads : List (Option Bytes)) :
    frameRecv abi format transport limit (first :: reads) message =
      ⟨format.messageSetup (format.ofBytes (firstRead transport first)), 0, .returned 0⟩ :=
  (frameRecv_accepted hheader hlimit reads).trans (if_neg (by rw [hlength]; exact Nat.lt_irrefl 0))

theorem frameRecv_payload (hheader : format.size ≤ (firstRead transport first).length)
    (hlimit : ¬limit.any (announced format (firstRead transport first) > ·) = true)
    (hlength : announcedPayload abi format transport (firstRead transport first) ≠ 0)
    (reads : List (Option Bytes)) :
    frameRecv abi format transport limit (first :: reads) message =
      payloadRecv abi transport (format.messageSetup (format.ofBytes (firstRead transport first)))
        (announcedPayload abi format transport (firstRead transport first))
        ((firstRead transport first).drop format.size) reads :=
  (frameRecv_accepted hheader hlimit reads).trans (if_pos (Nat.pos_of_ne_zero hlength))

/-! ### The payload buffer -/

variable {length : Nat} {copied : Bytes}

theorem payloadRecv_size (reads : List (Option Bytes)) :
    (payloadRecv abi transport message length copied reads).message.size = length := by
  simp only [payloadRecv]
  split
  · rfl
  · split <;> rfl

/-- A first copy that fits is followed by reads that fit. -/
theorem payloadRecv_fits (halloc : length < 2 ^ (abi.sizeBits - 1)) (hcopied : copied.length ≤ length)
    (reads : List (Option Bytes)) :
    (payloadRecv abi transport message length copied reads).status ≠ .fault ∧
      (payloadRecv abi transport message length copied reads).stored ≤ length := by
  have hloop : (recvLoop transport.policy reads (length - copied.length)).2.length ≤
      length - copied.length := length_recvLoop_le reads _
  simp only [payloadRecv, Abi.calloc_of_lt halloc]
  refine ⟨Status.ofOutcome_ne_fault _, ?_⟩
  rw [List.length_append]
  omega

theorem payloadRecv_overflows (halloc : length < 2 ^ (abi.sizeBits - 1))
    (hcopied : length < copied.length) (reads : List (Option Bytes)) :
    length < (payloadRecv abi transport message length copied reads).stored := by
  simp only [payloadRecv, Abi.calloc_of_lt halloc]
  rw [List.length_append]
  omega

/-- A payload too large to be allocated is stored through `NULL`: from the first read, or else from
the next one. -/
theorem payloadRecv_faults (halloc : 2 ^ (abi.sizeBits - 1) ≤ length) :
    (payloadRecv abi transport message length copied [some [0]]).status = .fault := by
  have hpos : 0 < length := lt_of_lt_of_le (Nat.two_pow_pos _) halloc
  have hstored : copied ++ (recvLoop transport.policy [some [0]] (length - copied.length)).2 ≠ [] := by
    intro hempty
    obtain ⟨rfl, hloop⟩ := List.append_eq_nil_iff.mp hempty
    obtain ⟨rest, rfl⟩ := Nat.exists_eq_succ_of_ne_zero hpos.ne'
    have hrequest := transport.policy.request_pos (Nat.succ_pos rest)
    have hmoved : ([0] : Bytes).take (transport.policy.request (rest + 1)) = [0] :=
      List.take_of_length_le hrequest
    rw [List.length_nil, Nat.sub_zero, recvLoop, hmoved, if_neg (fun h => List.cons_ne_nil 0 [] h.1)] at hloop
    cases hloop
  simp only [payloadRecv, Abi.calloc_of_le halloc, if_neg hstored]

/-- Whatever follows the first read, the bytes stored in `message.data` stay in its allocation. -/
def StaysInAllocation (recv : List (Option Bytes) → IpcMessage → RecvRun) (first : Option Bytes) :
    Prop :=
  ∀ reads message,
    let run := recv (first :: reads) message
    run.status ≠ .fault ∧ run.stored ≤ run.message.size

/-- What the first read has delivered is refused, announces no payload, or announces one that can be
allocated and that holds what came with the header. -/
def FirstReadFits (abi : Abi) (format : HeaderFormat H) (transport : Transport) (limit : Option Nat)
    (buffer : Bytes) : Prop :=
  buffer.length < format.size ∨ limit.any (announced format buffer > ·) = true ∨
    announcedPayload abi format transport buffer = 0 ∨
    announcedPayload abi format transport buffer < 2 ^ (abi.sizeBits - 1) ∧
      buffer.length ≤ announcedPayload abi format transport buffer + format.size

theorem frameRecv_stays
    (hfits : FirstReadFits abi format transport limit (firstRead transport first)) :
    StaysInAllocation (frameRecv abi format transport limit) first := by
  intro reads message
  by_cases hrefused : (firstRead transport first).length < format.size ∨
      limit.any (announced format (firstRead transport first) > ·) = true
  · rw [frameRecv_refused hrefused]
    exact ⟨nofun, Nat.zero_le _⟩
  obtain ⟨hheader, hlimit⟩ := not_or.mp hrefused
  by_cases hlength : announcedPayload abi format transport (firstRead transport first) = 0
  · rw [frameRecv_empty (not_lt.mp hheader) hlimit hlength]
    exact ⟨nofun, Nat.zero_le _⟩
  obtain ⟨halloc, hcopied⟩ := ((hfits.resolve_left hheader).resolve_left hlimit).resolve_left hlength
  rw [frameRecv_payload (not_lt.mp hheader) hlimit hlength]
  change _ ∧ _ ≤ (payloadRecv ..).message.size
  rw [payloadRecv_size]
  apply payloadRecv_fits halloc
  rw [List.length_drop]
  omega

theorem fits_of_frameRecv_stays (message : IpcMessage)
    (hstays : StaysInAllocation (frameRecv abi format transport limit) first) :
    FirstReadFits abi format transport limit (firstRead transport first) := by
  by_contra hcase
  obtain ⟨hheader, hcase⟩ := not_or.mp hcase
  obtain ⟨hlimit, hcase⟩ := not_or.mp hcase
  obtain ⟨hlength, hfits⟩ := not_or.mp hcase
  rcases Nat.lt_or_ge (announcedPayload abi format transport (firstRead transport first))
    (2 ^ (abi.sizeBits - 1)) with halloc | halloc
  · -- the first copy alone is too large
    have hover := not_le.mp fun hle => hfits ⟨halloc, hle⟩
    have hcopied : announcedPayload abi format transport (firstRead transport first) <
        ((firstRead transport first).drop format.size).length := by
      rw [List.length_drop]
      omega
    have hstored := (hstays [] message).2
    rw [frameRecv_payload (not_lt.mp hheader) hlimit hlength, payloadRecv_size] at hstored
    exact absurd hstored (not_le.mpr (payloadRecv_overflows halloc hcopied []))
  · -- one more byte is enough to store something through `NULL`
    have hfault := (hstays [some [0]] message).1
    rw [frameRecv_payload (not_lt.mp hheader) hlimit hlength] at hfault
    exact hfault (payloadRecv_faults halloc)

theorem frameRecv_stays_iff :
    StaysInAllocation (frameRecv abi format transport limit) first ↔
      FirstReadFits abi format transport limit (firstRead transport first) :=
  ⟨fits_of_frameRecv_stays (format.messageSetup (format.ofBytes [])), frameRecv_stays⟩

/-! ### The two transports -/

variable {buffer : Bytes}

theorem xmm626_announcedPayload (abi : Abi) (format : HeaderFormat H) (buffer : Bytes) :
    announcedPayload abi format xmm626Transport buffer = announced format buffer - format.size := by
  simp only [announcedPayload, xmm626Transport]
  split <;> omega

theorem aries_announcedPayload_of_le (hle : format.size ≤ announced format buffer)
    (hlt : announced format buffer < 2 ^ 31) :
    announcedPayload abi format ariesTransport buffer = announced format buffer - format.size := by
  have hhalf := abi.le_half
  have htwo := abi.two_mul_half
  exact Abi.sub_of_le hle (by omega)

/-- A length field smaller than the header wraps around to a payload no allocation can hold. -/
theorem aries_announcedPayload_of_lt (hlt : announced format buffer < format.size)
    (hsize : format.size < 2 ^ 31) :
    2 ^ (abi.sizeBits - 1) ≤ announcedPayload abi format ariesTransport buffer := by
  have hhalf := abi.le_half
  have htwo := abi.two_mul_half
  change _ ≤ abi.sub (announced format buffer) format.size
  rw [Abi.sub_of_lt hlt (by omega)]
  omega

theorem xmm626_firstReadFits_iff
    (hbound : ¬limit.any (announced format buffer > ·) = true → announced format buffer < 2 ^ 31) :
    FirstReadFits abi format xmm626Transport limit buffer ↔
      buffer.length < format.size ∨ limit.any (announced format buffer > ·) = true ∨
        announced format buffer ≤ format.size ∨ buffer.length ≤ announced format buffer := by
  rw [FirstReadFits, xmm626_announcedPayload]
  by_cases hlimit : limit.any (announced format buffer > ·) = true
  · simp only [hlimit, true_or, or_true]
  · have hhalf := abi.le_half
    have hlt := hbound hlimit
    simp only [or_iff_right hlimit]
    omega

theorem aries_firstReadFits_iff (hsize : format.size < 2 ^ 31)
    (hbound : ¬limit.any (announced format buffer > ·) = true → announced format buffer < 2 ^ 31) :
    FirstReadFits abi format ariesTransport limit buffer ↔
      buffer.length < format.size ∨ limit.any (announced format buffer > ·) = true ∨
        announced format buffer = format.size ∨ buffer.length ≤ announced format buffer := by
  rw [FirstReadFits]
  by_cases hlimit : limit.any (announced format buffer > ·) = true
  · simp only [hlimit, true_or, or_true]
  · have hhalf := abi.le_half
    have hlt := hbound hlimit
    simp only [or_iff_right hlimit]
    rcases Nat.lt_or_ge (announced format buffer) format.size with hshort | hwhole
    · have hhuge : 2 ^ (abi.sizeBits - 1) ≤ announcedPayload abi format ariesTransport buffer :=
        aries_announcedPayload_of_lt hshort hsize
      omega
    · rw [aries_announcedPayload_of_le hwhole hlt]
      omega

theorem fmt_announced_lt (buffer : Bytes) : announced fmtFormat buffer < 2 ^ 31 :=
  (fmtFormat.length_lt _).trans (by decide)

theorem rfs_announced_lt (bound : Nat) (hbound : bound ≤ 0x80000) {buffer : Bytes}
    (hlimit : ¬(some bound).any (announced rfsFormat buffer > ·) = true) :
    announced rfsFormat buffer < 2 ^ 31 := by
  rw [Option.any_some, decide_eq_true_iff] at hlimit
  omega

/-- **The payload stays in its allocation exactly when the first read delivers no more than the frame
announces.** A frame without payload takes nothing from the read on the XMM626 transport; Aries only
sees that when the length field is exactly the size of the header. -/
theorem stored_in_allocation_iff (abi : Abi) (first : Option Bytes) :
    (StaysInAllocation (xmm626KernelSmdk4412FmtRecv abi) first ↔
      let buffer := firstRead xmm626Transport first
      buffer.length < sizeofIpcFmtHeader ∨ announced fmtFormat buffer ≤ sizeofIpcFmtHeader ∨
        buffer.length ≤ announced fmtFormat buffer) ∧
    (StaysInAllocation (xmm626KernelSmdk4412RfsRecv abi) first ↔
      let buffer := firstRead xmm626Transport first
      buffer.length < sizeofIpcRfsHeader ∨ xmm626DataSizeLimit < announced rfsFormat buffer ∨
        announced rfsFormat buffer ≤ sizeofIpcRfsHeader ∨
        buffer.length ≤ announced rfsFormat buffer) ∧
    (StaysInAllocation (ariesFmtRecv abi) first ↔
      let buffer := firstRead ariesTransport first
      buffer.length < sizeofIpcFmtHeader ∨ announced fmtFormat buffer = sizeofIpcFmtHeader ∨
        buffer.length ≤ announced fmtFormat buffer) ∧
    (StaysInAllocation (ariesRfsRecv abi) first ↔
      let buffer := firstRead ariesTransport first
      buffer.length < sizeofIpcRfsHeader ∨ ariesDataSizeLimit < announced rfsFormat buffer ∨
        announced rfsFormat buffer = sizeofIpcRfsHeader ∨
        buffer.length ≤ announced rfsFormat buffer) := by
  refine ⟨frameRecv_stays_iff.trans ?_, frameRecv_stays_iff.trans ?_, frameRecv_stays_iff.trans ?_,
    frameRecv_stays_iff.trans ?_⟩
  · rw [xmm626_firstReadFits_iff fun _ => fmt_announced_lt _]
    simp only [Option.any_none, Bool.false_eq_true, false_or]
    rfl
  · rw [xmm626_firstReadFits_iff (rfs_announced_lt xmm626DataSizeLimit le_rfl)]
    simp only [Option.any_some, decide_eq_true_iff]
    rfl
  · rw [aries_firstReadFits_iff (by decide) fun _ => fmt_announced_lt _]
    simp only [Option.any_none, Bool.false_eq_true, false_or]
    rfl
  · rw [aries_firstReadFits_iff (by decide) (rfs_announced_lt ariesDataSizeLimit le_rfl)]
    simp only [Option.any_some, decide_eq_true_iff]
    rfl

/-- Two frames that one read delivers: the first has one byte of payload, and all of the second is
copied behind it. -/
theorem two_frames_overflow :
    ¬StaysInAllocation (xmm626KernelSmdk4412FmtRecv .lp64)
      (some [8, 0, 1, 0, 2, 1, 3, 0xaa, 8, 0, 2, 0, 2, 1, 3, 0xbb]) := by
  intro hstays
  have hstored := (hstays [] ⟨0, 0, 0, 0, none, 0⟩).2
  exact absurd hstored (by decide)

end SamsungIpc

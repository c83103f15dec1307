import SamsungIpc.FrameReceive
import SamsungIpc.FrameSend
import SamsungIpc.TransferEnd

/-! Whether a send or a receive returns when its handler goes on for ever: the loops of Aries do not
mind a result of zero, with which a closed peer answers every call. -/

namespace SamsungIpc

open ByteSplice TransferLoop

/-- The function has returned after some of the results of its handler. -/
def Returns {γ : Type} (status : List γ → Status) (results : Stream' γ) : Prop :=
  ∃ n rc, status (results.take n) = .returned rc

theorem Status.ofOutcome_returned_iff {outcome : Outcome} :
    (∃ rc, Status.ofOutcome outcome = .returned rc) ↔ outcome ≠ .waiting := by
  cases outcome with
  | complete => exact iff_of_true ⟨0, rfl⟩ nofun
  | failed => exact iff_of_true ⟨-1, rfl⟩ nofun
  | waiting => exact iff_of_false nofun fun h => h rfl

section Functions

variable {H : Type} {abi : Abi} {format : HeaderFormat H} {transport : Transport}
  {message : IpcMessage}

/-- A send that has a buffer returns exactly if its loop ends. -/
theorem frameSend_returns_iff (writes : Stream' (Option Nat)) :
    Returns (fun results => (frameSend abi format transport message results).status) writes ↔
      format.length (format.headerSetup message) < 2 ^ (abi.sizeBits - 1) ∧
        Ends transport.policy writes (format.length (format.headerSetup message)) := by
  rcases Nat.lt_or_ge (format.length (format.headerSetup message)) (2 ^ (abi.sizeBits - 1)) with
    halloc | halloc
  · rw [and_iff_right halloc, Returns, Ends]
    refine exists_congr fun n => ?_
    simp only [frameSend, Abi.calloc_of_lt halloc]
    rw [Status.ofOutcome_returned_iff, sendLoop_outcome, List.length_take_of_le]
    exact (Nat.le_of_eq List.length_replicate.symm).trans
      ((le_length_splice _ _ _).trans (le_length_splice _ _ _))
  · refine iff_of_false ?_ fun h => absurd h.1 (not_lt.mpr halloc)
    rintro ⟨n, rc, hreturned⟩
    simp only [frameSend, Abi.calloc_of_le halloc] at hreturned
    cases hreturned

variable {length : Nat} {copied : Bytes}

theorem payloadRecv_returns_iff (halloc : length < 2 ^ (abi.sizeBits - 1))
    (reads : Stream' (Option Bytes)) :
    Returns (fun results => (payloadRecv abi transport message length copied results).status) reads ↔
      Ends transport.policy (reads.map (Option.map List.length)) (length - copied.length) := by
  refine exists_congr fun n => ?_
  simp only [payloadRecv, Abi.calloc_of_lt halloc]
  rw [Status.ofOutcome_returned_iff, recvLoop_outcome, Stream'.map_take]

/-- Without a buffer, a receive only returns from a failing call that nothing was received before. -/
theorem payloadRecv_null_returns_iff (halloc : 2 ^ (abi.sizeBits - 1) ≤ length)
    (hzero : transport.policy.zeroFails = false) (reads : Stream' (Option Bytes)) :
    Returns (fun results => (payloadRecv abi transport message length copied results).status) reads ↔
      copied = [] ∧ FailsFirst reads := by
  obtain ⟨left, rfl⟩ : ∃ left, length = left + 1 :=
    Nat.exists_eq_add_one_of_ne_zero (Nat.ne_of_gt (lt_of_lt_of_le (Nat.two_pow_pos _) halloc))
  cases copied with
  | nil =>
      rw [← failsFirst_iff hzero reads left, and_iff_right rfl]
      refine exists_congr fun n => ?_
      simp only [payloadRecv, Abi.calloc_of_le halloc, List.nil_append, List.length_nil, Nat.sub_zero]
      by_cases hnothing : (recvLoop transport.policy (reads.take n) (left + 1)).2 = []
      · rw [if_pos hnothing, Status.ofOutcome_returned_iff, and_iff_right hnothing]
      · rw [if_neg hnothing]
        exact iff_of_false (by simp) fun h => hnothing h.1
  | cons first rest =>
      refine iff_of_false ?_ fun h => absurd h.1 (List.cons_ne_nil first rest)
      rintro ⟨n, rc, hreturned⟩
      simp only [payloadRecv, Abi.calloc_of_le halloc, List.cons_append, reduceCtorEq, if_false]
        at hreturned

/-- What follows an accepted header decides. -/
theorem frameRecv_returns_iff {limit : Option Nat} (reads : Stream' (Option Bytes)) :
    let buffer := firstRead transport reads.head
    let payload := announcedPayload abi format transport buffer
    Returns (fun results => (frameRecv abi format transport limit results message).status) reads ↔
      buffer.length < format.size ∨ limit.any (announced format buffer > ·) = true ∨ payload = 0 ∨
        Returns (fun results => (payloadRecv abi transport (format.messageSetup (format.ofBytes buffer))
          payload (buffer.drop format.size) results).status) reads.tail := by
  intro buffer payload
  have hstart : Returns (fun results =>
      (frameRecv abi format transport limit results message).status) reads ↔
      Returns (fun results =>
        (frameRecv abi format transport limit (reads.head :: results) message).status) reads.tail := by
    constructor
    · rintro ⟨_ | n, rc, hreturned⟩
      · cases hreturned
      · exact ⟨n, rc, hreturned⟩
    · rintro ⟨n, rc, hreturned⟩
      exact ⟨n + 1, rc, hreturned⟩
  rw [hstart]
  by_cases hrefused : buffer.length < format.size ∨ limit.any (announced format buffer > ·) = true
  · rw [← or_assoc]
    refine iff_of_true ⟨0, -1, ?_⟩ (.inl hrefused)
    dsimp only
    rw [frameRecv_refused hrefused]
  obtain ⟨hheader, hlimit⟩ := not_or.mp hrefused
  rw [or_iff_right hheader, or_iff_right hlimit]
  by_cases hpayload : payload = 0
  · refine iff_of_true ⟨0, 0, ?_⟩ (.inl hpayload)
    dsimp only
    rw [frameRecv_empty (not_lt.mp hheader) hlimit hpayload]
  · rw [or_iff_right hpayload]
    refine exists_congr fun n => exists_congr fun rc => ?_
    dsimp only
    rw [frameRecv_payload (not_lt.mp hheader) hlimit hpayload]

end Functions

/-! ### Aries -/

/-- The results end a loop of Aries that misses `left` bytes: one is negative, or they add up. -/
def Suffice (results : Stream' (Option Nat)) (left : Nat) : Prop :=
  none ∈ results ∨ ∃ n, left ≤ total ariesBufferLength (results.take n)

theorem aries_ends_iff (results : Stream' (Option Nat)) (left : Nat) :
    Ends ariesTransport.policy results left ↔ Suffice results left := by
  refine ends_iff rfl (fun left => ?_) results left
  change (if left < ariesBufferLength then left else ariesBufferLength) = min left ariesBufferLength
  split_ifs
  · omega
  · omega

/-- When a receive of Aries returns, by what the first read has delivered and by the later ones. -/
def RecvEnds {H : Type} (format : HeaderFormat H) (limit : Option Nat)
    (reads : Stream' (Option Bytes)) : Prop :=
  let buffer := firstRead ariesTransport reads.head
  buffer.length < format.size ∨ limit.any (announced format buffer > ·) = true ∨
    format.size ≤ announced format buffer ∧
      Suffice (reads.tail.map (Option.map List.length)) (announced format buffer - buffer.length) ∨
    announced format buffer < format.size ∧ buffer.length = format.size ∧ FailsFirst reads.tail

theorem ariesRecv_returns_iff {H : Type} {abi : Abi} {format : HeaderFormat H} {limit : Option Nat}
    (hsize : format.size < 2 ^ 31)
    (hbound : ∀ buffer, ¬limit.any (announced format buffer > ·) = true →
      announced format buffer < 2 ^ 31) (message : IpcMessage) (reads : Stream' (Option Bytes)) :
    Returns (fun results => (frameRecv abi format ariesTransport limit results message).status) reads ↔
      RecvEnds format limit reads := by
  refine (frameRecv_returns_iff reads).trans ?_
  rw [RecvEnds]
  generalize firstRead ariesTransport reads.head = buffer
  by_cases hrefused : buffer.length < format.size ∨ limit.any (announced format buffer > ·) = true
  · simp only [← or_assoc, hrefused, true_or]
  obtain ⟨hheader, hlimit⟩ := not_or.mp hrefused
  rw [or_iff_right hheader, or_iff_right hlimit, or_iff_right hheader, or_iff_right hlimit]
  rcases Nat.lt_or_ge (announced format buffer) format.size with hshort | hwhole
  · have halloc : 2 ^ (abi.sizeBits - 1) ≤ announcedPayload abi format ariesTransport buffer :=
      aries_announcedPayload_of_lt hshort hsize
    have hpos := Nat.two_pow_pos (abi.sizeBits - 1)
    have hcopied : buffer.drop format.size = [] ↔ buffer.length = format.size := by
      rw [List.drop_eq_nil_iff]
      omega
    rw [or_iff_right (by omega), or_iff_right (fun h => not_lt.mpr h.1 hshort),
      payloadRecv_null_returns_iff halloc rfl, hcopied, and_iff_right hshort]
  · have hpayload : announcedPayload abi format ariesTransport buffer =
        announced format buffer - format.size :=
      aries_announcedPayload_of_le hwhole (hbound buffer hlimit)
    have hhalf := abi.le_half
    have hlt := hbound buffer hlimit
    have hleft : announced format buffer - format.size - (buffer.drop format.size).length =
        announced format buffer - buffer.length := by
      rw [List.length_drop]
      omega
    rw [hpayload, payloadRecv_returns_iff (by omega), aries_ends_iff, hleft, and_iff_right hwhole,
      or_iff_left (a := Suffice _ _) fun h => not_lt.mpr hwhole h.1]
    refine or_iff_right_of_imp fun hzero => .inr ⟨0, ?_⟩
    omega

/-- Nothing adds up to nothing. -/
theorem not_suffice_const {left : Nat} (hleft : 0 < left) : ¬Suffice (Stream'.const (some 0)) left := by
  have htotal : ∀ n, total ariesBufferLength ((Stream'.const (some 0)).take n) = 0 := by
    intro n
    induction n with
    | zero => rfl
    | succ n ih =>
        rw [Stream'.take_succ, total, Stream'.tail_const, ih]
        rfl
  rintro (hnone | ⟨n, hn⟩)
  · obtain ⟨n, hn⟩ := Stream'.mem_iff_exists_get_eq.mp hnone
    cases hn
  · rw [htotal] at hn
    omega

/-! ### The XMM626 kernel driver -/

/-- A loop that gives up when nothing moves ends whatever the handler does. -/
theorem xmm626Recv_returns {H : Type} {abi : Abi} {format : HeaderFormat H} {limit : Option Nat}
    (hbound : ∀ buffer, ¬limit.any (announced format buffer > ·) = true →
      announced format buffer < 2 ^ 31) (message : IpcMessage) (reads : Stream' (Option Bytes)) :
    Returns (fun results => (frameRecv abi format xmm626Transport limit results message).status)
      reads := by
  refine (frameRecv_returns_iff reads).mpr ?_
  generalize firstRead xmm626Transport reads.head = buffer
  by_cases hlimit : limit.any (announced format buffer > ·) = true
  · exact .inr (.inl hlimit)
  · have hhalf := abi.le_half
    have hlt := hbound buffer hlimit
    have halloc : announcedPayload abi format xmm626Transport buffer < 2 ^ (abi.sizeBits - 1) := by
      rw [xmm626_announcedPayload]
      omega
    exact .inr (.inr (.inr ((payloadRecv_returns_iff halloc reads.tail).mpr
      (ends_of_zeroFails rfl _ _))))

/-- An FMT frame can always be allocated. -/
theorem fmt_length_lt_half (abi : Abi) (message : IpcMessage) :
    fmtFormat.length (fmtFormat.headerSetup message) < 2 ^ (abi.sizeBits - 1) := by
  have hhalf := abi.le_half
  have hlt : fmtFormat.length (fmtFormat.headerSetup message) < 2 ^ 16 := fmtFormat.length_lt _
  omega

/-- **Aries returns exactly where a result is negative or the results add up**; before a header that is
smaller than itself there is no buffer to add up in. Where a result of zero is an error, there is always
an end. -/
theorem transfers_return_iff (abi : Abi) (message : IpcMessage) :
    (∀ writes, Returns (fun results => (ariesFmtSend abi message results).status) writes ↔
      Suffice writes ((message.size + sizeofIpcFmtHeader) % 2 ^ 16)) ∧
    (∀ writes, Returns (fun results => (ariesRfsSend abi message results).status) writes ↔
      (message.size + sizeofIpcRfsHeader) % 2 ^ 32 < 2 ^ (abi.sizeBits - 1) ∧
        Suffice writes ((message.size + sizeofIpcRfsHeader) % 2 ^ 32)) ∧
    (∀ reads, Returns (fun results => (ariesFmtRecv abi results message).status) reads ↔
      RecvEnds fmtFormat none reads) ∧
    (∀ reads, Returns (fun results => (ariesRfsRecv abi results message).status) reads ↔
      RecvEnds rfsFormat (some ariesDataSizeLimit) reads) ∧
    (∀ writes, Returns (fun results => (xmm626KernelSmdk4412FmtSend abi message results).status)
      writes) ∧
    (∀ writes, Returns (fun results => (xmm626KernelSmdk4412RfsSend abi message results).status)
      writes ↔ (message.size + sizeofIpcRfsHeader) % 2 ^ 32 < 2 ^ (abi.sizeBits - 1)) ∧
    (∀ reads, Returns (fun results => (xmm626KernelSmdk4412FmtRecv abi results message).status)
      reads) ∧
    (∀ reads, Returns (fun results => (xmm626KernelSmdk4412RfsRecv abi results message).status)
      reads) := by
  have hfmt : fmtFormat.length (fmtFormat.headerSetup message) =
      (message.size + sizeofIpcFmtHeader) % 2 ^ 16 := fmtFormat.length_headerSetup message
  have hrfs : rfsFormat.length (rfsFormat.headerSetup message) =
      (message.size + sizeofIpcRfsHeader) % 2 ^ 32 := rfsFormat.length_headerSetup message
  refine ⟨fun writes => ?_, fun writes => ?_, fun reads => ?_, fun reads => ?_, fun writes => ?_,
    fun writes => ?_, fun reads => ?_, fun reads => ?_⟩
  · rw [← hfmt, ← aries_ends_iff]
    exact (frameSend_returns_iff writes).trans (and_iff_right (fmt_length_lt_half abi message))
  · rw [← hrfs, ← aries_ends_iff]
    exact frameSend_returns_iff writes
  · exact ariesRecv_returns_iff (by decide) (fun buffer _ => fmt_announced_lt buffer) message reads
  · exact ariesRecv_returns_iff (by decide) (fun _ => rfs_announced_lt ariesDataSizeLimit le_rfl)
      message reads
  · exact (frameSend_returns_iff writes).mpr
      ⟨fmt_length_lt_half abi message, ends_of_zeroFails rfl _ _⟩
  · rw [← hrfs]
    exact (frameSend_returns_iff writes).trans (and_iff_left (ends_of_zeroFails rfl _ _))
  · exact xmm626Recv_returns (fun buffer _ => fmt_announced_lt buffer) message reads
  · exact xmm626Recv_returns (fun _ => rfs_announced_lt xmm626DataSizeLimit le_rfl) message reads

/-- A closed peer: after a header that announces a byte of payload, every call moves nothing. -/
theorem closed_peer_hangs :
    ¬Returns (fun results => (ariesFmtSend .lp64 (sampleMessage 3) results).status)
      (Stream'.const (some 0)) ∧
    ¬Returns (fun results => (ariesFmtRecv .lp64 results (sampleMessage 0)).status)
      (Stream'.cons (some [8, 0, 1, 0, 2, 1, 3]) (Stream'.const (some []))) := by
  constructor
  · intro hreturns
    have hends := ((frameSend_returns_iff _).mp hreturns).2
    exact not_suffice_const (by decide) ((aries_ends_iff _ _).mp hends)
  · intro hreturns
    rcases (ariesRecv_returns_iff (by decide) (fun buffer _ => fmt_announced_lt buffer) _ _).mp
      hreturns with hheader | hlimit | ⟨-, hsuffice⟩ | ⟨hshort, -⟩
    · exact absurd hheader (by decide)
    · cases hlimit
    · exact not_suffice_const (by decide) hsuffice
    · exact absurd hshort (by decide)

end SamsungIpc

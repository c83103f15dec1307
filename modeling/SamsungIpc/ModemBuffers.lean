import SamsungIpc.ModemLoop

/-! Who frees the payload buffers: the loop does, once for every turn, and again when the next receive
fails before it has set up the message. -/

namespace SamsungIpc

open ByteSplice StepTrace

/-- What the receive of the SMDK4412 transport does with the message, from the results of the `read`
handler. -/
def xmm626Receipt (abi : Abi) : List (Option Bytes) → Receipt
  | [] => .blocked
  | first :: reads =>
      if (firstRead xmm626Transport first).length < sizeofIpcFmtHeader then .refused
      else
        let run := xmm626KernelSmdk4412FmtRecv abi (first :: reads) ModemLoop.clearedMessage
        .parsed run.message run.status

/-- Behind a header, nothing depends on the message before. -/
theorem xmm626Recv_eq_receipt (abi : Abi) (reads : List (Option Bytes)) (message : IpcMessage) :
    match xmm626Receipt abi reads with
    | .blocked => xmm626KernelSmdk4412FmtRecv abi reads message = ⟨message, 0, .waiting⟩
    | .refused => xmm626KernelSmdk4412FmtRecv abi reads message = ⟨message, 0, .returned (-1)⟩
    | .parsed parsed status =>
        (xmm626KernelSmdk4412FmtRecv abi reads message).message = parsed ∧
          (xmm626KernelSmdk4412FmtRecv abi reads message).status = status := by
  cases reads with
  | nil => rfl
  | cons first reads =>
      by_cases hheader : (firstRead xmm626Transport first).length < sizeofIpcFmtHeader
      · rw [xmm626Receipt, if_pos hheader]
        exact frameRecv_refused (.inl hheader) reads
      · rw [xmm626Receipt, if_neg hheader]
        have hlimit : ¬(none : Option Nat).any
            (announced fmtFormat (firstRead xmm626Transport first) > ·) = true :=
          Bool.false_ne_true
        have hsame : xmm626KernelSmdk4412FmtRecv abi (first :: reads) message =
            xmm626KernelSmdk4412FmtRecv abi (first :: reads) ModemLoop.clearedMessage :=
          (frameRecv_accepted (not_lt.mp hheader) hlimit reads).trans
            (frameRecv_accepted (not_lt.mp hheader) hlimit reads).symm
        rw [hsame]
        exact ⟨rfl, rfl⟩

/-- An input of the loop over that transport. -/
inductive DeviceInput where
  | call (newState : UInt32)
  | turn (poll : Int) (reads : List (Option Bytes)) (behind : Nat → UInt8) (appResult : Int)

def DeviceInput.toLoop (abi : Abi) : DeviceInput → LoopInput
  | .call newState => .call newState
  | .turn poll reads behind appResult =>
      .turn {
        poll := poll
        receipt := xmm626Receipt abi reads
        behind := behind
        appResult := appResult }

namespace ModemLoop

/-- No buffer has been freed twice, and none is left when the loop returns. -/
structure ReleasedOnce (loop : ModemLoop) : Prop where
  nodup : loop.released.Nodup
  complete : ∀ rc, loop.status = .stopped (.returned rc) →
    ∀ buffer < loop.allocated, buffer ∈ loop.released

/-- The first read delivers a header, unless `resp.data` is `NULL`. -/
def HeaderArrives (loop : ModemLoop) : DeviceInput → Prop
  | .call _ => True
  | .turn poll reads _ _ =>
      loop.status = .running → 0 ≤ poll → loop.respData ≠ none →
        ∀ first ∈ reads.head?, sizeofIpcFmtHeader ≤ (firstRead xmm626Transport first).length

/-- Every buffer is freed in its turn. A loop that hangs or has crashed may still own the last one. -/
structure Accounted (loop : ModemLoop) : Prop where
  released : ∃ count ≤ loop.allocated, loop.released = List.range count ∧
    (loop.status ≠ .stopped .waiting → loop.status ≠ .stopped .fault → count = loop.allocated)
  allocated : ∀ buffer ∈ loop.respData, buffer < loop.allocated

section Buffers

variable {abi : Abi} {loop : ModemLoop} {input : DeviceInput} {message : IpcMessage}

theorem Accounted.releasedOnce (haccounted : Accounted loop) : ReleasedOnce loop := by
  obtain ⟨count, _, hreleased, hcount⟩ := haccounted.released
  refine ⟨hreleased ▸ List.nodup_range, fun rc hreturned buffer hbuffer => ?_⟩
  rw [hreleased, hcount (by rw [hreturned]; nofun) (by rw [hreturned]; nofun)]
  exact List.mem_range.mpr hbuffer

theorem Accounted.released_eq (haccounted : Accounted loop) (hrunning : loop.status = .running) :
    loop.released = List.range loop.allocated := by
  obtain ⟨count, _, hreleased, hcount⟩ := haccounted.released
  rw [hreleased, hcount (by rw [hrunning]; nofun) (by rw [hrunning]; nofun)]

theorem setUp_allocated (message : IpcMessage) :
    ∀ buffer ∈ (loop.setUp message).respData, buffer < (loop.setUp message).allocated := by
  rw [setUp_eq]
  cases message.data with
  | none => nofun
  | some data =>
      rintro buffer ⟨⟩
      exact Nat.lt_succ_self _

theorem setUp_le_allocated (message : IpcMessage) :
    loop.allocated ≤ (loop.setUp message).allocated := by
  rw [setUp_eq]
  exact Nat.le_add_right _ _

theorem setUp_release (haccounted : Accounted loop) (hrunning : loop.status = .running)
    (message : IpcMessage) :
    (loop.setUp message).release.released = List.range (loop.setUp message).allocated := by
  have hreleased := haccounted.released_eq hrunning
  rw [setUp_eq]
  cases message.data with
  | none => exact (List.append_nil _).trans hreleased
  | some data =>
      change loop.released ++ [loop.allocated] = List.range (loop.allocated + 1)
      rw [hreleased, List.range_succ]

/-- A turn that hangs or crashes before it frees the payload. -/
theorem accounted_stuck (haccounted : Accounted loop) (hrunning : loop.status = .running)
    {status : Status} (hstatus : ∀ rc, status ≠ .returned rc) (message : IpcMessage) :
    Accounted ((loop.setUp message).stop status) where
  released := by
    refine ⟨loop.allocated, setUp_le_allocated message, ?_, fun hwaiting hfault => ?_⟩
    · have hreleased := haccounted.released_eq hrunning
      rw [setUp_eq]
      exact hreleased
    · cases status with
      | waiting => exact absurd rfl hwaiting
      | fault => exact absurd rfl hfault
      | returned rc => exact absurd rfl (hstatus rc)
  allocated := setUp_allocated message

/-- A turn that frees the payload, however it goes on. -/
theorem accounted_release (haccounted : Accounted loop) (hrunning : loop.status = .running)
    (message : IpcMessage) {next : ModemLoop}
    (hreleased : next.released = (loop.setUp message).release.released)
    (hdata : next.respData = (loop.setUp message).respData)
    (hallocated : next.allocated = (loop.setUp message).allocated) : Accounted next where
  released := by
    refine ⟨next.allocated, le_rfl, ?_, fun _ _ => rfl⟩
    rw [hreleased, hallocated, setUp_release haccounted hrunning]
  allocated := by
    rw [hdata, hallocated]
    exact setUp_allocated message

theorem accounted_initial : Accounted initial where
  released := ⟨0, le_rfl, rfl, fun _ _ => rfl⟩
  allocated buffer hbuffer := by cases hbuffer

/-- A call of the loop after one that has returned. -/
theorem accounted_enter (haccounted : Accounted loop) (newState : UInt32)
    (hreturned : loop.status = .idle ∨ ∃ rc, loop.status = .stopped (.returned rc)) :
    Accounted (loop.enter newState) := by
  obtain ⟨count, hle, hreleased, hcount⟩ := haccounted.released
  have hall : count = loop.allocated := by
    rcases hreturned with hidle | ⟨rc, hstopped⟩
    · exact hcount (by rw [hidle]; nofun) (by rw [hidle]; nofun)
    · exact hcount (by rw [hstopped]; nofun) (by rw [hstopped]; nofun)
  exact ⟨⟨count, hle, hreleased, fun _ _ => hall⟩, nofun⟩

/-- A receive that fails before its header finds `resp.data` cleared. -/
theorem respData_of_refused {poll appResult : Int} {reads : List (Option Bytes)}
    {behind : Nat → UInt8} (hheader : HeaderArrives loop (.turn poll reads behind appResult))
    (hrunning : loop.status = .running) (hpoll : 0 ≤ poll)
    (hreceipt : xmm626Receipt abi reads = .refused) : loop.respData = none := by
  by_contra hdata
  cases reads with
  | nil => cases hreceipt
  | cons first reads =>
      have hwhole := hheader hrunning hpoll hdata first rfl
      rw [xmm626Receipt, if_neg (not_lt.mpr hwhole)] at hreceipt
      cases hreceipt

theorem accounted_modemReadLoop (haccounted : Accounted loop) (hheader : HeaderArrives loop input) :
    Accounted (loop.modemReadLoop (input.toLoop abi)) := by
  have heffects := effects_modemReadLoop loop (input.toLoop abi)
  generalize hinput : input.toLoop abi = loopInput at heffects
  generalize loop.modemReadLoop loopInput = next at heffects ⊢
  cases heffects with
  | nothing => exact haccounted
  | entered newState hreturned => exact accounted_enter haccounted newState hreturned
  | blocked hrunning =>
      refine ⟨⟨loop.allocated, le_rfl, haccounted.released_eq hrunning, fun _ _ => rfl⟩, ?_⟩
      exact haccounted.allocated
  | refused hrunning hpoll hreceipt =>
      have hnull : loop.respData = none := by
        cases input with
        | call => cases hinput
        | turn poll reads behind appResult =>
            cases hinput
            exact respData_of_refused hheader hrunning hpoll hreceipt
      have hreleased : loop.release.released = List.range loop.allocated := by
        rw [release, hnull, ← haccounted.released_eq hrunning]
        exact List.append_nil _
      exact ⟨⟨loop.allocated, le_rfl, hreleased, fun _ _ => rfl⟩, haccounted.allocated⟩
  | stuck hrunning _ hstatus => exact accounted_stuck haccounted hrunning hstatus _
  | failed hrunning => exact accounted_release haccounted hrunning _ rfl rfl rfl
  | application hrunning =>
      obtain ⟨_, _, hconclude⟩ := conclude_eq _ _
      rw [hconclude]
      exact accounted_release haccounted hrunning _ rfl rfl rfl
  | unanswered hrunning =>
      have hstatus : ∀ rc, Status.fault ≠ .returned rc := nofun
      exact accounted_stuck haccounted hrunning hstatus _
  | answered hrunning =>
      obtain ⟨_, _, hconclude⟩ := conclude_eq _ _
      rw [hconclude]
      exact accounted_release haccounted hrunning _ rfl rfl rfl

/-- The buffer of the turn before is freed again. -/
theorem headerArrives_of_releasedOnce (haccounted : Accounted loop)
    (honce : ReleasedOnce (loop.modemReadLoop (input.toLoop abi))) : HeaderArrives loop input := by
  cases input with
  | call => trivial
  | turn poll reads behind appResult =>
      intro hrunning hpoll hdata first hfirst
      by_contra hshort
      obtain ⟨buffer, hbuffer⟩ := Option.ne_none_iff_exists'.mp hdata
      obtain ⟨reads, rfl⟩ : ∃ rest, reads = first :: rest := by
        cases reads with
        | nil => cases hfirst
        | cons head rest =>
            cases hfirst
            exact ⟨rest, rfl⟩
      have hnext : loop.modemReadLoop ((DeviceInput.turn poll (first :: reads) behind appResult).toLoop
          abi) = loop.release.stop (.returned (-1)) := by
        simp only [modemReadLoop, DeviceInput.toLoop, hrunning, modemReadLoopTurn, xmm626Receipt,
          if_neg (not_lt.mpr hpoll), if_pos (not_le.mp hshort)]
      have hnodup := honce.nodup
      rw [hnext] at hnodup
      change (loop.released ++ loop.respData.toList).Nodup at hnodup
      rw [haccounted.released_eq hrunning, hbuffer] at hnodup
      have hfreed : buffer ∈ List.range loop.allocated :=
        List.mem_range.mpr (haccounted.allocated buffer hbuffer)
      exact (List.nodup_append.mp hnodup).2.2 buffer hfreed buffer (List.mem_singleton_self _) rfl

/-- **Every payload is freed exactly once throughout a run exactly when no receive that follows a
payload within one call fails before its header.** -/
theorem payloads_released_once_iff (abi : Abi) (inputs : List DeviceInput) :
    Throughout (fun loop input => loop.modemReadLoop (DeviceInput.toLoop abi input))
        (fun loop input => ReleasedOnce (loop.modemReadLoop (input.toLoop abi))) initial inputs ↔
      Throughout (fun loop input => loop.modemReadLoop (DeviceInput.toLoop abi input)) HeaderArrives
        initial inputs :=
  throughout_iff (I := Accounted)
    (fun _ _ haccounted => ⟨headerArrives_of_releasedOnce haccounted,
      fun hheader => (accounted_modemReadLoop haccounted hheader).releasedOnce⟩)
    (fun _ _ haccounted hheader => accounted_modemReadLoop haccounted hheader)
    accounted_initial inputs

/-- A PHONE_STATE response with a payload, and then a read that fails. -/
theorem failed_read_frees_again :
    ¬Throughout (fun loop input => loop.modemReadLoop (DeviceInput.toLoop .lp64 input))
      (fun loop input => ReleasedOnce (loop.modemReadLoop (input.toLoop .lp64))) initial
      [.call Modem.modemStateNormal,
        .turn 0 [some [8, 0, 0, 0, 1, 7, 2, 1]] (fun _ => 0) 0,
        .turn 0 [none] (fun _ => 0) 0] := by
  rintro ⟨_, _, honce, _⟩
  exact absurd honce.nodup (by decide)

end Buffers

end ModemLoop

end SamsungIpc

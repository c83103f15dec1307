import SamsungIpc.BootDevice

/-! `data_read` and `data_write` on descriptors with something behind them: what they leave in the
buffer, what they consume or deliver, and when they return at all. -/

namespace SamsungIpc

open ByteSplice Effect

/-- What is behind the descriptors of a boot: what can be read and from where on, what was written, and
the ioctls that were issued. -/
structure BootFiles where
  content : Fd → Bytes
  position : Fd → Nat
  accepted : Fd → Bytes
  requests : List (Fd × IoctlRequest)

namespace BootFiles

/-- What is left to be read. -/
def left (files : BootFiles) (fd : Fd) : Bytes := (files.content fd).drop (files.position fd)

def seek (files : BootFiles) (fd : Fd) (position : Nat) : BootFiles :=
  { files with position := Function.update files.position fd position }

def accept (files : BootFiles) (fd : Fd) (bytes : Bytes) : BootFiles :=
  { files with accepted := Function.update files.accepted fd (files.accepted fd ++ bytes) }

def request (files : BootFiles) (fd : Fd) (request : IoctlRequest) : BootFiles :=
  { files with requests := files.requests ++ [(fd, request)] }

variable {files : BootFiles} {fd : Fd}

@[simp] theorem left_seek (position : Nat) :
    (files.seek fd position).left fd = (files.content fd).drop position := by
  rw [left, seek]
  simp

theorem left_consume (count : Nat) :
    (files.seek fd (files.position fd + count)).left fd = (files.left fd).drop count := by
  rw [left_seek, left, List.drop_drop]

@[simp] theorem left_request (sink : Fd) (ioctl : IoctlRequest) :
    (files.request sink ioctl).left fd = files.left fd := rfl

@[simp] theorem requests_request (ioctl : IoctlRequest) :
    (files.request fd ioctl).requests = files.requests ++ [(fd, ioctl)] := rfl

@[simp] theorem accepted_accept (bytes : Bytes) :
    (files.accept fd bytes).accepted fd = files.accepted fd ++ bytes := by
  simp [accept]

theorem accepted_accept_of_ne {sink : Fd} (hne : fd ≠ sink) (bytes : Bytes) :
    (files.accept sink bytes).accepted fd = files.accepted fd := Function.update_of_ne hne ..

end BootFiles

/-- How much a transfer moves of what was asked for: not nothing. -/
def BootChoice.transfer (choice : BootChoice) (count : Nat) : Nat := min (max 1 choice.count) count

/-- The call does not fail. -/
def BootChoice.Faultless (choice : BootChoice) : Prop := choice.errno = none

/-- A transfer is as short as the environment chooses, and a read ends where the file ends. -/
def filesHandler (abi : Abi) : Handler BootCall BootChoice BootFiles
  | _, choice, .openFile _ _, files => (choice.answer choice.fd, files)
  | _, choice, .read fd count, files =>
      match choice.errno with
      | some errno => (.error errno, files)
      | none =>
          let bytes := (files.left fd).take (choice.transfer count)
          (.ok bytes, files.seek fd (files.position fd + bytes.length))
  | _, choice, .write fd bytes, files =>
      match choice.errno with
      | some errno => (.error errno, files)
      | none =>
          let count := choice.transfer bytes.length
          (.ok count, files.accept fd (bytes.take count))
  | _, choice, .lseek fd offset, files =>
      match choice.errno with
      | some errno => (.error errno, files)
      | none =>
          if abi.offT offset < 0 then (.error ⟨EINVAL, by decide⟩, files)
          else (.ok (), files.seek fd (abi.seekPosition offset))
  | _, choice, .ioctl fd request, files => (choice.answer (), files.request fd request)
  | _, _, .test _ _, files => ((), files)

theorem faultless_or_failing (choices : Stream' BootChoice) :
    (∃ faultless : Stream' { choice : BootChoice // choice.Faultless },
      faultless.map Subtype.val = choices) ∨ ∃ n, ¬(choices.get n).Faultless := by
  by_cases hfaultless : ∀ n, (choices.get n).Faultless
  · exact .inl ⟨fun n => ⟨choices.get n, hfaultless n⟩, rfl⟩
  · exact .inr (not_forall.mp hfaultless)

section Handler

variable {abi : Abi} {choice : BootChoice} {files : BootFiles} {fd : Fd}

theorem BootChoice.transfer_le (choice : BootChoice) (count : Nat) : choice.transfer count ≤ count :=
  Nat.min_le_right ..

theorem BootChoice.exists_transfer_eq_succ (choice : BootChoice) {count : Nat} (hcount : 0 < count) :
    ∃ moved, choice.transfer count = moved + 1 := by
  apply Nat.exists_eq_add_one_of_ne_zero
  rw [transfer]
  omega

theorem filesHandler_read (hchoice : choice.Faultless) (count : Nat) :
    filesHandler abi _ choice (.read fd count) files =
      (.ok ((files.left fd).take (choice.transfer count)), files.seek fd
        (files.position fd + ((files.left fd).take (choice.transfer count)).length)) := by
  rw [filesHandler, hchoice]

theorem filesHandler_write (hchoice : choice.Faultless) (bytes : Bytes) :
    filesHandler abi _ choice (.write fd bytes) files =
      (.ok (choice.transfer bytes.length), files.accept fd (bytes.take (choice.transfer bytes.length)))
    := by
  rw [filesHandler, hchoice]

theorem filesHandler_ioctl (hchoice : choice.Faultless) (request : IoctlRequest) :
    filesHandler abi _ choice (.ioctl fd request) files = (.ok (), files.request fd request) := by
  rw [filesHandler, BootChoice.answer, hchoice]

end Handler

/-! ### The loops -/

namespace Boot

section Rules

variable {α β C σ : Type} {h : Handler BootCall C σ}

theorem exec_call_bind (request : BootCall α) (next : α → Boot β) (choices : Stream' C) (s : σ) :
    exec h (call request >>= next).run choices s =
      exec h (next (h α choices.head request s).1).run choices.tail
        (h α choices.head request s).2 := rfl

theorem wp_call_bind {request : BootCall α} {next : α → Boot β} {Q : Except BootExit β → σ → Prop}
    {s : σ} :
    wp h (fun _ => True) (call request >>= next).run Q s ↔
      ∀ choice, wp h (fun _ => True) (next (h α choice request s).1).run Q
        (h α choice request s).2 := ⟨fun hp => hp.2, fun hp => ⟨trivial, hp⟩⟩

end Rules

theorem dataReadLoop_done {remaining : Int} (hremaining : remaining ≤ 0) (fd : Fd)
    (count fuel : Nat) (buffer : Bytes) :
    dataReadLoop fd count (fuel + 1) remaining buffer = pure (.ok buffer) := by
  rw [dataReadLoop, if_neg (by omega)]

theorem dataReadLoop_more {remaining : Int} (hremaining : 0 < remaining) (fd : Fd)
    (count fuel : Nat) (buffer : Bytes) :
    dataReadLoop fd count (fuel + 1) remaining buffer = (do
      let rc ← call (.read fd count)
      match rc with
      | .error errno => pure (.error errno)
      | .ok bytes =>
          dataReadLoop fd count fuel (remaining - bytes.length) (splice buffer 0 bytes)) := by
  rw [dataReadLoop]
  exact if_pos hremaining

theorem dataWriteLoop_done {remaining : Int} (hremaining : remaining ≤ 0) (fd : Fd) (buffer : Bytes)
    (fuel : Nat) : dataWriteLoop fd buffer (fuel + 1) remaining = pure (.ok ()) := by
  rw [dataWriteLoop, if_neg (by omega)]

theorem dataWriteLoop_more {remaining : Int} (hremaining : 0 < remaining) (fd : Fd) (buffer : Bytes)
    (fuel : Nat) :
    dataWriteLoop fd buffer (fuel + 1) remaining = (do
      let rc ← call (.write fd buffer)
      match rc with
      | .error errno => pure (.error errno)
      | .ok count => dataWriteLoop fd buffer fuel (remaining - count)) := by
  rw [dataWriteLoop]
  exact if_pos hremaining

theorem head?_splice_zeros {buffer bytes : Bytes} (hbytes : ∀ byte ∈ bytes, byte = 0)
    (hbuffer : buffer.head? = some 0) : (splice buffer 0 bytes).head? = some 0 := by
  cases bytes with
  | nil => exact hbuffer
  | cons byte bytes => rw [head?_splice_cons, hbytes byte List.mem_cons_self]

/-- Zeros that are read over a buffer leave it with a zero in front. -/
theorem wp_dataReadLoop_zeros {abi : Abi} {fd : Fd} (count fuel : Nat) (remaining : Int)
    {buffer : Bytes} {files : BootFiles} (hzeros : ∀ byte ∈ files.left fd, byte = 0)
    (hbuffer : buffer.head? = some 0) :
    wp ((filesHandler abi).restrict BootChoice.Faultless) (fun _ => True)
      (dataReadLoop fd count fuel remaining buffer).run
      (fun result _ => ∀ final, result = .ok (.ok final) → final.head? = some 0) files := by
  induction fuel generalizing remaining buffer files with
  | zero => exact ⟨trivial, nofun⟩
  | succ fuel ih =>
      by_cases hremaining : 0 < remaining
      · rw [dataReadLoop_more hremaining, wp_call_bind]
        intro choice
        rw [Handler.restrict, filesHandler_read choice.property]
        refine ih _ (fun byte hbyte => hzeros byte ?_) ?_
        · rw [BootFiles.left_consume] at hbyte
          exact List.mem_of_mem_drop hbyte
        · exact head?_splice_zeros (fun byte hbyte => hzeros byte (List.mem_of_mem_take hbyte)) hbuffer
      · rw [dataReadLoop_done (by omega)]
        refine ⟨trivial, ?_⟩
        rintro final ⟨⟩
        exact hbuffer

/-- A read that is still to come puts the zero there. -/
theorem wp_dataReadLoop_zeros_of_pos {abi : Abi} {fd : Fd} {count : Nat} (hcount : 0 < count)
    (fuel : Nat) {remaining : Int} (hremaining : 0 < remaining) (buffer : Bytes) {files : BootFiles}
    (hzeros : ∀ byte ∈ files.left fd, byte = 0) (hleft : files.left fd ≠ []) :
    wp ((filesHandler abi).restrict BootChoice.Faultless) (fun _ => True)
      (dataReadLoop fd count fuel remaining buffer).run
      (fun result _ => ∀ final, result = .ok (.ok final) → final.head? = some 0) files := by
  cases fuel with
  | zero => exact ⟨trivial, nofun⟩
  | succ fuel =>
      rw [dataReadLoop_more hremaining, wp_call_bind]
      intro choice
      obtain ⟨moved, hmoved⟩ := choice.val.exists_transfer_eq_succ hcount
      rw [Handler.restrict, filesHandler_read choice.property]
      apply wp_dataReadLoop_zeros
      · intro byte hbyte
        rw [BootFiles.left_consume] at hbyte
        exact hzeros byte (List.mem_of_mem_drop hbyte)
      · obtain ⟨byte, bytes, hsource⟩ := List.exists_cons_of_ne_nil hleft
        have hbyte : byte = 0 := hzeros byte (hsource ▸ List.mem_cons_self)
        rw [hsource, hbyte, hmoved, List.take_succ_cons, head?_splice_cons]

/-- What was accepted stays accepted. -/
theorem wp_accepted {abi : Abi} {fd : Fd} {α : Type} (p : Boot α) {bytes : Bytes} {files : BootFiles}
    (hbytes : bytes <+: files.accepted fd) :
    wp ((filesHandler abi).restrict BootChoice.Faultless) (fun _ => True) p.run
      (fun _ files' => bytes <+: files'.accepted fd) files := by
  refine wp_of_kept (fun _ choice request files' hfiles => ?_) hbytes
  cases request with
  | openFile => exact hfiles
  | read source count =>
      rw [Handler.restrict, filesHandler_read choice.property]
      exact hfiles
  | write sink bytes' =>
      rw [Handler.restrict, filesHandler_write choice.property]
      refine hfiles.trans ?_
      by_cases hsink : fd = sink
      · subst hsink
        rw [BootFiles.accepted_accept]
        exact List.prefix_append ..
      · dsimp only
        rw [BootFiles.accepted_accept_of_ne hsink]
  | lseek source offset =>
      rw [Handler.restrict, filesHandler, choice.property]
      dsimp only
      split_ifs
      · exact hfiles
      · exact hfiles
  | ioctl => exact hfiles
  | test => exact hfiles

/-- A write that is still to come starts with the first byte of the buffer. -/
theorem wp_dataWriteLoop_again {abi : Abi} {fd : Fd} (byte : UInt8) (bytes : Bytes) (fuel : Nat)
    {remaining : Int} (hremaining : 0 < remaining) {files : BootFiles} :
    wp ((filesHandler abi).restrict BootChoice.Faultless) (fun _ => True)
      (dataWriteLoop fd (byte :: bytes) fuel remaining).run
      (fun result files' => result = .ok (.ok ()) →
        files.accepted fd ++ [byte] <+: files'.accepted fd) files := by
  cases fuel with
  | zero => exact ⟨trivial, nofun⟩
  | succ fuel =>
      rw [dataWriteLoop_more hremaining, wp_call_bind]
      intro choice
      obtain ⟨moved, hmoved⟩ := choice.val.exists_transfer_eq_succ (Nat.succ_pos bytes.length)
      rw [Handler.restrict, filesHandler_write choice.property]
      refine wp_mono (wp_accepted _ ?_) fun _ _ hprefix _ => hprefix
      rw [BootFiles.accepted_accept, List.length_cons, hmoved, List.take_succ_cons,
        List.prefix_append_right_inj]
      exact ⟨bytes.take moved, rfl⟩

end Boot

/-! ### Truncated sources -/

namespace Boot

section Truncated

variable {abi : Abi} {fd : Fd} {remaining : Int} {files : BootFiles}

/-- Without a failing call, the loop is cut or has consumed as much as was asked for. -/
theorem wp_dataReadLoop_faultless (abi : Abi) (count fuel : Nat) (buffer : Bytes) :
    wp ((filesHandler abi).restrict BootChoice.Faultless) (fun _ => True)
      (dataReadLoop fd count fuel remaining buffer).run
      (fun result files' => result = .error .unfinished ∨ (∃ final, result = .ok (.ok final)) ∧
        remaining + (files'.left fd).length ≤ (files.left fd).length) files := by
  induction fuel generalizing remaining buffer files with
  | zero => exact ⟨trivial, .inl rfl⟩
  | succ fuel ih =>
      by_cases hremaining : 0 < remaining
      · rw [dataReadLoop_more hremaining, wp_call_bind]
        intro choice
        rw [Handler.restrict, filesHandler_read choice.property]
        refine wp_mono (ih _) fun result files' hresult => hresult.imp_right ?_
        rintro ⟨hfinal, hconsumed⟩
        rw [BootFiles.left_consume, List.length_drop, List.length_take] at hconsumed
        exact ⟨hfinal, by omega⟩
      · rw [dataReadLoop_done (by omega)]
        exact ⟨trivial, .inr ⟨⟨buffer, rfl⟩, by omega⟩⟩

/-- So a source that ends too early is read for as long as the run is followed. -/
theorem wp_dataReadLoop_truncated (abi : Abi) (count fuel : Nat) (buffer : Bytes)
    (hleft : (files.left fd).length < remaining) :
    wp ((filesHandler abi).restrict BootChoice.Faultless) (fun _ => True)
      (dataReadLoop fd count fuel remaining buffer).run
      (fun result _ => result = .error .unfinished) files := by
  refine wp_mono (wp_dataReadLoop_faultless abi count fuel buffer) ?_
  rintro result files' (hunfinished | ⟨-, hconsumed⟩)
  · exact hunfinished
  · omega

section Failing

variable {β : Type} {choices : Stream' BootChoice}

theorem exec_dataReadLoop_error {errno : CallErrno} (herrno : choices.head.errno = some errno)
    (hremaining : 0 < remaining) (count fuel : Nat) (buffer : Bytes)
    (next : Except CallErrno Bytes → Boot β) :
    exec (filesHandler abi) (dataReadLoop fd count (fuel + 1) remaining buffer >>= next).run choices
        files = exec (filesHandler abi) (next (.error errno)).run choices.tail files := by
  rw [dataReadLoop_more hremaining, bind_assoc, exec_call_bind, filesHandler, herrno]
  rfl

theorem exec_dataReadLoop_ok (hhead : choices.head.Faultless) (hremaining : 0 < remaining)
    (count fuel : Nat) (buffer : Bytes) (next : Except CallErrno Bytes → Boot β) :
    exec (filesHandler abi) (dataReadLoop fd count (fuel + 1) remaining buffer >>= next).run choices
        files =
      let bytes := (files.left fd).take (choices.head.transfer count)
      exec (filesHandler abi)
        (dataReadLoop fd count fuel (remaining - bytes.length) (splice buffer 0 bytes) >>= next).run
        choices.tail (files.seek fd (files.position fd + bytes.length)) := by
  rw [dataReadLoop_more hremaining, bind_assoc, exec_call_bind, filesHandler_read hhead]

/-- A loop that comes to a failing call ends there at the latest: with the call's error, or before
it with as much consumed as was asked for. -/
theorem exec_dataReadLoop_of_failing (count : Nat) (next : Except CallErrno Bytes → Boot β)
    {n fuel : Nat} (hfuel : n < fuel) (buffer : Bytes) (hfails : ¬(choices.get n).Faultless) :
    (∃ errno choices' files', exec (filesHandler abi)
        (dataReadLoop fd count fuel remaining buffer >>= next).run choices files =
      exec (filesHandler abi) (next (.error errno)).run choices' files') ∨
    (∃ final k files', k ≤ n ∧ remaining + (files'.left fd).length ≤ (files.left fd).length ∧
      exec (filesHandler abi) (dataReadLoop fd count fuel remaining buffer >>= next).run choices files =
        exec (filesHandler abi) (next (.ok final)).run (choices.drop k) files') := by
  induction fuel generalizing n remaining buffer choices files with
  | zero => exact absurd hfuel (Nat.not_lt_zero n)
  | succ fuel ih =>
      by_cases hremaining : 0 < remaining
      · cases herrno : choices.head.errno with
        | some errno =>
            exact .inl ⟨errno, _, _, exec_dataReadLoop_error herrno hremaining count fuel buffer next⟩
        | none =>
            cases n with
            | zero => exact absurd herrno hfails
            | succ n =>
                rw [exec_dataReadLoop_ok herrno hremaining]
                have hfails' : ¬(choices.tail.get n).Faultless := hfails
                refine (ih (Nat.lt_of_succ_lt_succ hfuel) _ hfails').imp_right ?_
                rintro ⟨final, k, files', hk, hconsumed, hexec⟩
                refine ⟨final, k + 1, files', Nat.succ_le_succ hk, ?_, hexec⟩
                rw [BootFiles.left_consume, List.length_drop, List.length_take] at hconsumed
                omega
      · rw [dataReadLoop_done (by omega)]
        exact .inr ⟨buffer, 0, files, Nat.zero_le n, by omega, rfl⟩

/-- Of a source that ends too early, the loop returns exactly if a call fails. -/
theorem dataRead_returns_iff {count : Nat} (buffer : Bytes) (choices : Stream' BootChoice)
    (hleft : (files.left fd).length < count) :
    (∃ fuel errno, (exec (filesHandler abi) (dataRead fuel fd buffer count).run choices files).1 =
      .ok (.error errno)) ↔ ∃ n, ¬(choices.get n).Faultless := by
  constructor
  · rintro ⟨fuel, errno, hresult⟩
    rcases faultless_or_failing choices with ⟨faultless, rfl⟩ | hfails
    · rw [← exec_restrict] at hresult
      have hrun := wp_exec
        (wp_dataReadLoop_truncated abi count fuel buffer (Int.ofNat_lt.mpr hleft)) faultless
      exact absurd (hresult.symm.trans hrun) nofun
    · exact hfails
  · rintro ⟨n, hfails⟩
    refine ⟨n + 1, ?_⟩
    rw [← bind_pure (dataRead (n + 1) fd buffer count), dataRead]
    rcases exec_dataReadLoop_of_failing count pure (Nat.lt_succ_self n) buffer hfails with
      ⟨errno, _, _, hexec⟩ | ⟨_, _, _, _, hconsumed, _⟩
    · exact ⟨errno, congrArg Prod.fst hexec⟩
    · omega

end Failing

end Truncated

end Boot

/-! ### Short transfers -/

open Boot

/-- `data_read` has returned `count`, the buffer starts with the next `count` bytes of the source, and
these are consumed. -/
structure ReadExactly (files : BootFiles) (fd : Fd) (count : Nat)
    (run : Except BootExit (Except CallErrno Bytes) × BootFiles) : Prop where
  returned : ∃ buffer, run.1 = .ok (.ok buffer) ∧ buffer.take count = (files.left fd).take count
  consumed : run.2 = files.seek fd (files.position fd + count)

/-- `data_write` has returned the length of the buffer, and its bytes were accepted. -/
structure WroteExactly (files : BootFiles) (fd : Fd) (buffer : Bytes)
    (run : Except BootExit (Except CallErrno Unit) × BootFiles) : Prop where
  returned : run.1 = .ok (.ok ())
  accepted : run.2 = files.accept fd buffer

/-- A source of a one and then zeros. -/
def oneThenZeros (count : Nat) : BootFiles where
  content _ := 1 :: List.replicate (2 * count) 0
  position _ := 0
  accepted _ := []
  requests := []

theorem length_left_oneThenZeros (count : Nat) (fd : Fd) :
    ((oneThenZeros count).left fd).length = 2 * count + 1 := by
  simp [BootFiles.left, oneThenZeros]

theorem zero_of_mem_drop_oneThenZeros {count moved : Nat} {fd : Fd} :
    ∀ byte ∈ ((oneThenZeros count).left fd).drop (moved + 1), byte = 0 :=
  fun _ hbyte => List.eq_of_mem_replicate (List.mem_of_mem_drop hbyte)

section ShortTransfers

variable {abi : Abi} {fd : Fd} {count : Nat}
  {choices : Stream' { choice : BootChoice // choice.Faultless }} {files : BootFiles}

theorem readExactly_of_full (hcount : 0 < count) (hfull : choices.head.val.transfer count = count)
    (hleft : count ≤ (files.left fd).length) {fuel : Nat} (hfuel : count < fuel) (buffer : Bytes) :
    ReadExactly files fd count
      (exec ((filesHandler abi).restrict BootChoice.Faultless) (dataRead fuel fd buffer count).run
        choices files) := by
  obtain ⟨fuel, rfl⟩ : ∃ k, fuel = k + 2 := ⟨fuel - 2, by omega⟩
  have hlength : ((files.left fd).take count).length = count := List.length_take_of_le hleft
  rw [dataRead, dataReadLoop_more (by omega), exec_call_bind, Handler.restrict,
    filesHandler_read choices.head.property, hfull, hlength]
  dsimp only
  rw [dataReadLoop_done (by omega)]
  refine ⟨⟨_, rfl, ?_⟩, rfl⟩
  calc (splice buffer 0 ((files.left fd).take count)).take count
      = (splice buffer 0 ((files.left fd).take count)).take ((files.left fd).take count).length := by
        rw [hlength]
    _ = (files.left fd).take count := take_splice_zero ..

/-- After a first transfer that is short, the second one is read over it. -/
theorem not_readExactly_of_short (hcount : 0 < count)
    (hshort : choices.head.val.transfer count < count) {fuel : Nat} (hfuel : count < fuel) :
    ¬ReadExactly (oneThenZeros count) fd count
      (exec ((filesHandler abi).restrict BootChoice.Faultless)
        (dataRead fuel fd (List.replicate count 0) count).run choices (oneThenZeros count)) := by
  obtain ⟨fuel, rfl⟩ : ∃ k, fuel = k + 2 := ⟨fuel - 2, by omega⟩
  obtain ⟨moved, hmoved⟩ := choices.head.val.exists_transfer_eq_succ hcount
  rintro ⟨⟨buffer, hbuffer, htake⟩, -⟩
  rw [dataRead, dataReadLoop_more (by omega), exec_call_bind, Handler.restrict,
    filesHandler_read choices.head.property] at hbuffer
  have hlength : (((oneThenZeros count).left fd).take (choices.head.val.transfer count)).length =
      choices.head.val.transfer count := by
    apply List.length_take_of_le
    rw [length_left_oneThenZeros]
    omega
  have hzero : buffer.head? = some 0 := by
    refine wp_exec (wp_dataReadLoop_zeros_of_pos hcount (fuel + 1) (by omega) _ ?_ ?_) _ buffer hbuffer
    · rw [hlength, BootFiles.left_consume]
      rw [hmoved]
      exact fun byte hbyte => zero_of_mem_drop_oneThenZeros byte hbyte
    · rw [hlength, BootFiles.left_consume, ← List.length_pos_iff, List.length_drop,
        length_left_oneThenZeros]
      omega
  have hone : buffer.head? = some 1 := by
    calc buffer.head? = (buffer.take count).head? := by rw [List.head?_take, if_neg hcount.ne']
      _ = (((oneThenZeros count).left fd).take count).head? := by rw [htake]
      _ = some 1 := by rw [List.head?_take, if_neg hcount.ne']; rfl
  exact absurd (hone.symm.trans hzero) (by decide)

theorem wroteExactly_of_full (hfull : choices.head.val.transfer count = count) (hcount : 0 < count)
    {buffer : Bytes} (hbuffer : buffer.length = count) {fuel : Nat} (hfuel : count < fuel) :
    WroteExactly files fd buffer
      (exec ((filesHandler abi).restrict BootChoice.Faultless) (dataWrite fuel fd buffer).run
        choices files) := by
  subst hbuffer
  obtain ⟨fuel, rfl⟩ : ∃ k, fuel = k + 2 := ⟨fuel - 2, by omega⟩
  rw [dataWrite, dataWriteLoop_more (by omega), exec_call_bind, Handler.restrict,
    filesHandler_write choices.head.property, hfull, List.take_length]
  dsimp only
  rw [dataWriteLoop_done (by omega)]
  exact ⟨rfl, rfl⟩

/-- After a first transfer that is short, the second one starts again. -/
theorem not_wroteExactly_of_short (hcount : 0 < count)
    (hshort : choices.head.val.transfer count < count) {fuel : Nat} (hfuel : count < fuel) :
    ¬WroteExactly (oneThenZeros count) fd (1 :: List.replicate (count - 1) 0)
      (exec ((filesHandler abi).restrict BootChoice.Faultless)
        (dataWrite fuel fd (1 :: List.replicate (count - 1) 0)).run choices (oneThenZeros count)) := by
  obtain ⟨fuel, rfl⟩ : ∃ k, fuel = k + 2 := ⟨fuel - 2, by omega⟩
  obtain ⟨moved, hmoved⟩ := choices.head.val.exists_transfer_eq_succ hcount
  have hlength : (1 :: List.replicate (count - 1) (0 : UInt8)).length = count := by
    rw [List.length_cons, List.length_replicate]
    omega
  rintro ⟨hreturned, haccepted⟩
  rw [dataWrite, dataWriteLoop_more (by omega), exec_call_bind, Handler.restrict,
    filesHandler_write choices.head.property, hlength] at hreturned haccepted
  have hprefix := wp_exec (wp_dataWriteLoop_again 1 (List.replicate (count - 1) 0) (fuel + 1)
    (by omega)) choices.tail hreturned
  rw [haccepted, BootFiles.accepted_accept, BootFiles.accepted_accept, List.append_assoc,
    List.prefix_append_right_inj, hmoved, List.take_succ_cons, List.cons_append,
    List.cons_prefix_cons] at hprefix
  -- the one that was written again is where the buffer has a zero
  have hone : (1 : UInt8) ∈ List.replicate (count - 1) 0 :=
    hprefix.2.subset (List.mem_append_right _ (List.mem_singleton_self 1))
  exact absurd (List.eq_of_mem_replicate hone) (by decide)

/-- Both transfers are exact, whatever the source, exactly where the first transfer moves everything:
neither loop ever moves its pointer. -/
theorem dataTransfer_exact_iff (abi : Abi) (fd : Fd) {count : Nat} (hcount : 0 < count)
    (choices : Stream' { choice : BootChoice // choice.Faultless }) :
    ((∀ files buffer fuel, count ≤ (files.left fd).length → count ≤ buffer.length → count < fuel →
        ReadExactly files fd count
          (exec ((filesHandler abi).restrict BootChoice.Faultless)
            (dataRead fuel fd buffer count).run choices files)) ↔
      choices.head.val.transfer count = count) ∧
    ((∀ files buffer fuel, buffer.length = count → count < fuel →
        WroteExactly files fd buffer
          (exec ((filesHandler abi).restrict BootChoice.Faultless)
            (dataWrite fuel fd buffer).run choices files)) ↔
      choices.head.val.transfer count = count) := by
  have hle := choices.head.val.transfer_le count
  refine ⟨⟨fun hexact => ?_, fun hfull files buffer fuel hleft _ hfuel => ?_⟩,
    ⟨fun hexact => ?_, fun hfull files buffer fuel hbuffer hfuel => ?_⟩⟩
  · by_contra hne
    refine not_readExactly_of_short hcount (lt_of_le_of_ne hle hne) (Nat.lt_succ_self count)
      (hexact _ _ _ ?_ ?_ (Nat.lt_succ_self count))
    · rw [length_left_oneThenZeros]
      omega
    · rw [List.length_replicate]
  · exact readExactly_of_full hcount hfull hleft hfuel buffer
  · by_contra hne
    refine not_wroteExactly_of_short hcount (lt_of_le_of_ne hle hne) (Nat.lt_succ_self count)
      (hexact _ _ _ ?_ (Nat.lt_succ_self count))
    rw [List.length_cons, List.length_replicate]
    omega
  · exact wroteExactly_of_full hfull hcount hbuffer hfuel

end ShortTransfers

/-- Transfers of one byte each. -/
def singleBytes : Stream' { choice : BootChoice // choice.Faultless } :=
  Stream'.const ⟨{ errno := none, fd := 0, bytes := [], count := 1 }, rfl⟩

theorem dataTransfer_exact_two :
    ((∀ files buffer fuel, 2 ≤ (files.left 0).length → 2 ≤ buffer.length → 2 < fuel →
        ReadExactly files 0 2
          (exec ((filesHandler .lp64).restrict BootChoice.Faultless)
            (dataRead fuel 0 buffer 2).run singleBytes files)) ↔
      singleBytes.head.val.transfer 2 = 2) ∧
    ((∀ files buffer fuel, buffer.length = 2 → 2 < fuel →
        WroteExactly files 0 buffer
          (exec ((filesHandler .lp64).restrict BootChoice.Faultless)
            (dataWrite fuel 0 buffer).run singleBytes files)) ↔
      singleBytes.head.val.transfer 2 = 2) :=
  dataTransfer_exact_iff .lp64 0 (by decide) singleBytes

/-- Of `1, 0` read a byte at a time `0, 0` is returned, and of `1, 0` written so `1, 1` is accepted. -/
theorem dataTransfer_short_first :
    ¬ReadExactly (oneThenZeros 2) 0 2
      (exec ((filesHandler .lp64).restrict BootChoice.Faultless) (dataRead 3 0 [0, 0] 2).run
        singleBytes (oneThenZeros 2)) ∧
    ¬WroteExactly (oneThenZeros 2) 0 [1, 0]
      (exec ((filesHandler .lp64).restrict BootChoice.Faultless) (dataWrite 3 0 [1, 0]).run
        singleBytes (oneThenZeros 2)) :=
  ⟨not_readExactly_of_short (by decide) (by decide) (by decide),
    not_wroteExactly_of_short (by decide) (by decide) (by decide)⟩

end SamsungIpc

import SamsungIpc.MarkedList

/-! The poll handlers that wait with `select` for the client's descriptor and those of the caller, and
tell the caller in its own array which of them are ready. -/

namespace SamsungIpc

open MarkedList

/-- What `FD_ISSET` finds at a negative number is not specified. -/
abbrev FdSet := Int → Bool

def fdZero : FdSet := fun _ => false

def fdSet (fd : Int) (set : FdSet) : FdSet := fun other => decide (other = fd) || set other

theorem fdSet_iff {fd other : Int} {set : FdSet} : fdSet fd set other ↔ other = fd ∨ set other := by
  rw [fdSet, Bool.or_eq_true, decide_eq_true_iff]

/-- `count` entries at `fds`; more may follow. -/
structure IpcPollFds where
  fds : List Int
  count : Nat
  count_le : count ≤ fds.length
  deriving DecidableEq

def IpcPollFds.entries (fds : IpcPollFds) : List Int := fds.fds.take fds.count

/-- What `select` returns, and the set it leaves behind. -/
structure SelectAnswer where
  rc : Int
  set : FdSet

/-- `select`, given the first number that it does not look at and the set to watch. -/
abbrev Select := Int → FdSet → SelectAnswer

/-- The first loop: the set to watch, and the largest number in it. -/
def watchEntries : List Int → FdSet × Int → FdSet × Int
  | [], watched => watched
  | fd :: rest, (set, fdMax) =>
      if fd ≥ 0 then watchEntries rest (fdSet fd set, if fd > fdMax then fd else fdMax)
      else watchEntries rest (set, fdMax)

/-- The second loop, with the count that is left. -/
def markEntries (set : FdSet) : List Int → Nat → List Int × Nat
  | [], count => ([], count)
  | fd :: rest, count =>
      if ¬ set fd then
        let marked := markEntries set rest (count - 1)
        (-1 :: marked.1, marked.2)
      else
        let marked := markEntries set rest count
        (fd :: marked.1, marked.2)

theorem markEntries_eq (set : FdSet) (entries : List Int) {count : Nat}
    (hcount : entries.length ≤ count) :
    markEntries set entries count =
      (marked set (-1) entries, count - entries.length + entries.countP set) := by
  induction entries generalizing count with
  | nil => rfl
  | cons fd rest ih =>
      rw [List.length_cons] at hcount
      by_cases hset : set fd
      · rw [markEntries, if_neg (not_not.mpr hset), ih (Nat.le_of_succ_le hcount),
          List.countP_cons_of_pos hset, List.length_cons]
        refine Prod.ext ?_ ?_
        · simp only [marked, List.map_cons, if_pos hset]
        · dsimp only
          omega
      · rw [markEntries, if_pos hset, ih (show rest.length ≤ count - 1 by omega),
          List.countP_cons_of_neg hset, List.length_cons]
        refine Prod.ext ?_ ?_
        · simp only [marked, List.map_cons, if_neg hset]
        · dsimp only
          omega

namespace IpcPollFds

variable (fds : IpcPollFds)

theorem length_entries : fds.entries.length = fds.count := by
  rw [entries, List.length_take, Nat.min_eq_left fds.count_le]

theorem markEntries_entries (set : FdSet) :
    markEntries set fds.entries fds.count =
      (marked set (-1) fds.entries, fds.entries.countP set) := by
  rw [markEntries_eq set fds.entries (Nat.le_of_eq fds.length_entries), length_entries,
    Nat.sub_self, Nat.zero_add]

/-- The array after the second loop, which touches the first `count` entries. -/
def mark (set : FdSet) : IpcPollFds where
  fds := (markEntries set fds.entries fds.count).1 ++ fds.fds.drop fds.count
  count := (markEntries set fds.entries fds.count).2
  count_le := by
    rw [markEntries_entries, List.length_append, marked, List.length_map]
    exact Nat.le_trans List.countP_le_length (Nat.le_add_right _ _)

theorem fds_mark (set : FdSet) :
    (fds.mark set).fds = marked set (-1) fds.entries ++ fds.fds.drop fds.count :=
  congrArg (· ++ _) (congrArg Prod.fst (fds.markEntries_entries set))

theorem count_mark (set : FdSet) : (fds.mark set).count = fds.entries.countP set :=
  congrArg Prod.snd (fds.markEntries_entries set)

theorem entries_mark (set : FdSet) :
    (fds.mark set).entries = (marked set (-1) fds.entries).take (fds.entries.countP set) := by
  have hlength : fds.entries.countP set ≤ (marked set (-1) fds.entries).length := by
    rw [marked, List.length_map]
    exact List.countP_le_length
  rw [entries, count_mark, fds_mark, List.take_append_of_le_length hlength]

end IpcPollFds

section Poll

variable (select : Select)

/-- What `select` is asked; the caller's descriptors are `none` where `fds` or `fds->fds` is `NULL`. -/
def watched (fd : Int) (fds : Option IpcPollFds) : FdSet × Int :=
  match fds with
  | none => (fdSet fd fdZero, fd)
  | some fds => watchEntries fds.entries (fdSet fd fdZero, fd)

def selected (fd : Int) (fds : Option IpcPollFds) : SelectAnswer :=
  select ((watched fd fds).2 + 1) (watched fd fds).1

/-- The handlers up to what ends them after `select`. -/
def pollDescriptors (ends : FdSet → Bool) (fd : Int) (fds : Option IpcPollFds) :
    Int × Option IpcPollFds :=
  if fd < 0 then (-1, fds)
  else
    let answer := selected select fd fds
    if ends answer.set then (-1, fds)
    else (answer.rc, fds.map fun fds => fds.mark answer.set)

def stateBooting : Int := 3

def stateOnline : Int := 4

/-- `status` is the answer to `IOCTL_MODEM_STATUS`. -/
def xmm626KernelSmdk4412Poll (status : Int) (fd : Int) : Option IpcPollFds → Int × Option IpcPollFds :=
  pollDescriptors select (fun set => set fd && decide (status ≠ stateOnline ∧ status ≠ stateBooting)) fd

def genericKernelPoll (fd : Int) : Option IpcPollFds → Int × Option IpcPollFds :=
  pollDescriptors select (fun set => set fd) fd

/-- `data` is the descriptor of the transport data; `none` is `NULL`. -/
def ariesPoll (data : Option Int) (fds : Option IpcPollFds) : Int × Option IpcPollFds :=
  match data with
  | none => (-1, fds)
  | some fd => pollDescriptors select (fun _ => false) fd fds

def crespoPoll (data : Option Int) (fds : Option IpcPollFds) : Int × Option IpcPollFds :=
  match data with
  | none => (-1, fds)
  | some fd => pollDescriptors select (fun _ => false) fd fds

theorem pollDescriptors_eq {ends : FdSet → Bool} {fd : Int} (hfd : 0 ≤ fd) (fds : IpcPollFds)
    (hgoes : ends (selected select fd (some fds)).set = false) :
    pollDescriptors select ends fd (some fds) =
      ((selected select fd (some fds)).rc,
        some (fds.mark (selected select fd (some fds)).set)) := by
  rw [pollDescriptors, if_neg (Int.not_lt.mpr hfd)]
  simp only [hgoes, Bool.false_eq_true, if_false, Option.map_some]

end Poll

/-! ### What `select` is asked -/

theorem watchEntries_iff (entries : List Int) {set : FdSet} {fdMax : Int}
    (hset : ∀ other, set other → other ≤ fdMax) :
    (∀ other, (watchEntries entries (set, fdMax)).1 other ↔
        set other ∨ 0 ≤ other ∧ other ∈ entries) ∧
      ∀ other, (watchEntries entries (set, fdMax)).1 other →
        other ≤ (watchEntries entries (set, fdMax)).2 := by
  induction entries generalizing set fdMax with
  | nil => exact ⟨fun other => by simp [watchEntries], hset⟩
  | cons fd rest ih =>
      rw [watchEntries]
      by_cases hfd : fd ≥ 0
      · rw [if_pos hfd]
        have hnext : ∀ other, fdSet fd set other → other ≤ if fd > fdMax then fd else fdMax := by
          intro other hother
          rcases fdSet_iff.mp hother with rfl | hother
          · split <;> omega
          · have hle := hset other hother
            split <;> omega
        obtain ⟨hwatched, hmax⟩ := ih hnext
        refine ⟨fun other => ?_, hmax⟩
        rw [hwatched, fdSet_iff, List.mem_cons]
        constructor
        · rintro ((rfl | hother) | ⟨hpos, hother⟩)
          · exact Or.inr ⟨hfd, Or.inl rfl⟩
          · exact Or.inl hother
          · exact Or.inr ⟨hpos, Or.inr hother⟩
        · rintro (hother | ⟨hpos, rfl | hother⟩)
          · exact Or.inl (Or.inr hother)
          · exact Or.inl (Or.inl rfl)
          · exact Or.inr ⟨hpos, hother⟩
      · rw [if_neg hfd]
        obtain ⟨hwatched, hmax⟩ := ih hset
        refine ⟨fun other => ?_, hmax⟩
        rw [hwatched, List.mem_cons]
        refine or_congr_right (and_congr_right fun hpos => (or_iff_right ?_).symm)
        rintro rfl
        exact hfd hpos

/-- `select` watches the client's descriptor and those of the caller, and looks at all of them. -/
theorem watched_iff (fd : Int) (fds : IpcPollFds) (other : Int) :
    ((watched fd (some fds)).1 other ↔ other = fd ∨ 0 ≤ other ∧ other ∈ fds.entries) ∧
      ((watched fd (some fds)).1 other → other < (watched fd (some fds)).2 + 1) := by
  have honly (other : Int) : fdSet fd fdZero other ↔ other = fd := by
    rw [fdSet_iff, fdZero, or_iff_left Bool.false_ne_true]
  obtain ⟨hwatched, hmax⟩ := watchEntries_iff fds.entries fun other hother =>
    Int.le_of_eq ((honly other).mp hother)
  refine ⟨?_, fun hother => Int.lt_add_one_of_le (hmax other hother)⟩
  rw [watched, hwatched, honly]

/-! ### Which ready descriptors the caller finds -/

/-- `select` reports the descriptor ready. -/
def SelectAnswer.ready (answer : SelectAnswer) (fd : Int) : Bool :=
  decide (0 ≤ answer.rc ∧ 0 ≤ fd) && answer.set fd

/-- The caller's array afterwards: as many entries as are ready, among them every ready descriptor. -/
def KeepsReady (answer : SelectAnswer) (before : IpcPollFds) (result : Int × Option IpcPollFds) :
    Prop :=
  ∃ after, result.2 = some after ∧ after.count = before.entries.countP answer.ready ∧
    ∀ fd ∈ before.entries, answer.ready fd → fd ∈ after.entries

/-- The entries that `select` leaves in the set are ready, and they stand in front. -/
def ReadyInFront (answer : SelectAnswer) (fds : IpcPollFds) : Prop :=
  (∀ fd ∈ fds.entries, answer.set fd → answer.ready fd) ∧ InFront answer.ready fds.entries

theorem SelectAnswer.ready_iff {answer : SelectAnswer} {fd : Int} :
    answer.ready fd ↔ (0 ≤ answer.rc ∧ 0 ≤ fd) ∧ answer.set fd := by
  rw [ready, Bool.and_eq_true, decide_eq_true_iff]

theorem SelectAnswer.set_of_ready {answer : SelectAnswer} {fd : Int} (hready : answer.ready fd) :
    answer.set fd := (ready_iff.mp hready).2

/-- No ready descriptor looks like the mark. -/
theorem SelectAnswer.ne_mark_of_ready {answer : SelectAnswer} {fd : Int} (hready : answer.ready fd) :
    fd ≠ -1 := by
  have hpos := (ready_iff.mp hready).1.2
  omega

theorem keepsReady_mark_iff (answer : SelectAnswer) (rc : Int) (fds : IpcPollFds) :
    KeepsReady answer fds (rc, some (fds.mark answer.set)) ↔ ReadyInFront answer fds := by
  have hcount : fds.entries.countP answer.set = fds.entries.countP answer.ready ↔
      ∀ fd ∈ fds.entries, answer.set fd → answer.ready fd :=
    countP_eq_iff fun _ => SelectAnswer.set_of_ready
  have hplace (fd : Int) (hfd : fd ∈ fds.entries) (hready : answer.ready fd) :
      fd ∈ (fds.mark answer.set).entries ↔
        fds.entries.idxOf fd < fds.entries.countP answer.set := by
    rw [IpcPollFds.entries_mark]
    exact mem_take_marked hfd (SelectAnswer.set_of_ready hready)
      (SelectAnswer.ne_mark_of_ready hready)
  rw [ReadyInFront, ← hcount, KeepsReady]
  constructor
  · rintro ⟨_, hafter, hsame, hkept⟩
    obtain rfl := Option.some.inj hafter
    rw [IpcPollFds.count_mark] at hsame
    refine ⟨hsame, fun fd hfd hready => ?_⟩
    rw [← hsame, ← hplace fd hfd hready]
    exact hkept fd hfd hready
  · rintro ⟨hsame, hfront⟩
    refine ⟨_, rfl, (fds.count_mark answer.set).trans hsame, fun fd hfd hready => ?_⟩
    rw [hplace fd hfd hready, hsame]
    exact hfront fd hfd hready

/-- After the handler the caller finds every ready descriptor of its array. -/
def LosesNone (select : Select) (fd : Int) (poll : Option IpcPollFds → Int × Option IpcPollFds)
    (fds : IpcPollFds) : Prop :=
  KeepsReady (selected select fd (some fds)) fds (poll (some fds))

theorem losesNone_pollDescriptors (select : Select) {ends : FdSet → Bool} {fd : Int} (hfd : 0 ≤ fd)
    (fds : IpcPollFds) (hgoes : ends (selected select fd (some fds)).set = false) :
    LosesNone select fd (pollDescriptors select ends fd) fds ↔
      ReadyInFront (selected select fd (some fds)) fds := by
  rw [LosesNone, pollDescriptors_eq select hfd fds hgoes, keepsReady_mark_iff]

/-- The four handlers lose no ready descriptor exactly when the ready entries are in front already, and
nothing but ready entries is left in the set; without repeated descriptors, when no ready entry
stands behind one that is not. -/
theorem poll_losesNone_iff (select : Select) (fd : Int) (fds : IpcPollFds) (hfd : 0 ≤ fd) :
    (∀ status, status = stateOnline ∨ status = stateBooting →
        (LosesNone select fd (xmm626KernelSmdk4412Poll select status fd) fds ↔
          ReadyInFront (selected select fd (some fds)) fds)) ∧
      (LosesNone select fd (ariesPoll select (some fd)) fds ↔
        ReadyInFront (selected select fd (some fds)) fds) ∧
      (LosesNone select fd (crespoPoll select (some fd)) fds ↔
        ReadyInFront (selected select fd (some fds)) fds) ∧
      (0 ≤ (genericKernelPoll select fd (some fds)).1 →
        (LosesNone select fd (genericKernelPoll select fd) fds ↔
          ReadyInFront (selected select fd (some fds)) fds)) ∧
      (fds.entries.Nodup →
        (InFront (selected select fd (some fds)).ready fds.entries ↔
          fds.entries.Pairwise fun first second =>
            (selected select fd (some fds)).ready second →
              (selected select fd (some fds)).ready first)) := by
  refine ⟨fun status hstatus => ?_, ?_, ?_, fun hreturned => ?_, inFront_iff_pairwise⟩
  · refine losesNone_pollDescriptors select hfd fds ?_
    rcases hstatus with rfl | rfl <;> simp
  · exact losesNone_pollDescriptors select hfd fds rfl
  · exact losesNone_pollDescriptors select hfd fds rfl
  · refine losesNone_pollDescriptors select hfd fds ?_
    by_contra hset
    rw [Bool.not_eq_false] at hset
    rw [genericKernelPoll, pollDescriptors, if_neg (Int.not_lt.mpr hfd)] at hreturned
    simp [hset] at hreturned

/-- Descriptor 4 is ready. -/
def sampleSelect : Select := fun _ _ => ⟨1, fun fd => decide (fd = 4)⟩

theorem poll_losesNone_sample :
    LosesNone sampleSelect 0 (ariesPoll sampleSelect (some 0)) ⟨[4, 3], 2, by decide⟩ :=
  (poll_losesNone_iff sampleSelect 0 ⟨[4, 3], 2, by decide⟩ (by decide)).2.1.mpr
    ⟨by decide, by decide⟩

/-- The ready descriptor stands second, and the caller is told of one entry. -/
theorem poll_loses_second :
    ¬ LosesNone sampleSelect 0 (xmm626KernelSmdk4412Poll sampleSelect stateOnline 0)
        ⟨[3, 4], 2, by decide⟩ ∧
      ¬ LosesNone sampleSelect 0 (ariesPoll sampleSelect (some 0)) ⟨[3, 4], 2, by decide⟩ ∧
      ¬ LosesNone sampleSelect 0 (crespoPoll sampleSelect (some 0)) ⟨[3, 4], 2, by decide⟩ ∧
      ¬ LosesNone sampleSelect 0 (genericKernelPoll sampleSelect 0) ⟨[3, 4], 2, by decide⟩ := by
  refine ⟨?_, ?_, ?_, ?_⟩ <;>
  · rintro ⟨_, hafter, -, hkept⟩
    obtain rfl := Option.some.inj hafter
    exact absurd (hkept 4 (by decide) (by decide)) (by decide)

end SamsungIpc

import Mathlib.Data.Finset.Insert
import Mathlib.Data.Finset.Lattice.Lemmas
import SamsungIpc.ModemBoots

/-! The calls of a boot in a process that keeps account of the descriptors and the mappings: which ones the
boot has, and whether it has used others. What a function does beside descriptors of its caller. -/

namespace SamsungIpc

open Effect

def EMFILE : Errno := 24

/-- What the kernel decides at a call; each call takes what it needs. -/
structure ModemChoice where
  opened : Except CallErrno Fd
  mapping : Mapping
  rc : Int
  data : Option Bytes

/-- What a boot has open, the sizes of its mappings, the mappings that have failed and whose pointer has not
been given to `munmap`, and whether it has used something that it did not have. -/
structure BootResources where
  own : Finset Int
  mappings : List Nat
  failedMappings : Nat
  misused : Bool

namespace BootResources

/-- These descriptors are open, and nothing is mapped. -/
def clean (own : Finset Int) : BootResources := ⟨own, [], 0, false⟩

def initial : BootResources := clean ∅

def use (s : BootResources) (fd : Int) : BootResources :=
  if fd ∈ s.own then s else { s with misused := true }

def close (s : BootResources) (fd : Int) : BootResources :=
  if fd ∈ s.own then { s with own := s.own.erase fd } else { s with misused := true }

def map (s : BootResources) (size : Nat) : Mapping → BootResources
  | .null => s
  | .failed => { s with failedMappings := s.failedMappings + 1 }
  | .mapped _ => { s with mappings := size :: s.mappings }

/-- A mapping is unmapped as a whole. The pointer of one that has failed may be given to `munmap` once, which
unmaps nothing. -/
def unmap (s : BootResources) (size : Nat) : Mapping → BootResources
  | .null => { s with misused := true }
  | .failed =>
      if s.failedMappings = 0 then { s with misused := true }
      else { s with failedMappings := s.failedMappings - 1 }
  | .mapped _ =>
      if size ∈ s.mappings then { s with mappings := s.mappings.erase size }
      else { s with misused := true }

/-- No descriptor is given out that is in use, in the boot or elsewhere in the process. -/
def openFile (s : BootResources) (others : Finset Int) (answer : Except CallErrno Fd) :
    Except CallErrno Fd × BootResources :=
  match answer with
  | .error errno => (.error errno, s)
  | .ok fd =>
      if (fd : Int) ∈ others ∪ s.own then (.error ⟨EMFILE, by decide⟩, s)
      else (.ok fd, { s with own := insert (fd : Int) s.own })

/-- The calls, in a process that has other descriptors open. -/
def handler (others : Finset Int) : Handler ModemCall ModemChoice BootResources
  | _, choice, .openFile _, s => s.openFile others choice.opened
  | _, _, .close fd, s => ((), s.close fd)
  | _, choice, .mmap fd size, s => (choice.mapping, (s.use fd).map size choice.mapping)
  | _, _, .munmap mapping size, s => ((), s.unmap size mapping)
  | _, choice, .ioctl fd _, s => (choice.rc, s.use fd)
  | _, choice, .write fd _, s => (choice.rc, s.use fd)
  | _, choice, .read fd _, s => (choice.data, s.use fd)
  | _, choice, .select fd, s => (choice.rc, s.use fd)
  | _, choice, .sysfsValueWrite _ _, s => (choice.rc, s)
  | _, choice, .sysfsValueRead _, s => (choice.rc, s)
  | _, choice, .nvDataLoad, s => (choice.data, s)
  | _, choice, .fileDataRead _ _ _ _, s => (choice.data, s)

end BootResources

/-- Nothing has been used that is not the boot's. -/
def Rightful (s : BootResources) : Prop := s.misused = false

variable {others : Finset Int} {α : Type} {s : BootResources}

/-! ### Beside the descriptors of the caller -/

section Beside

/-- The same, with descriptors of the caller that the function does not know. -/
def BootResources.beside (s : BootResources) (held : Finset Int) : BootResources :=
  { s with own := held ∪ s.own }

variable {held : Finset Int}

theorem use_beside {fd : Int} (hmem : fd ∈ s.own) : (s.beside held).use fd = (s.use fd).beside held := by
  have hheld : fd ∈ (s.beside held).own := Finset.mem_union_right _ hmem
  rw [BootResources.use, if_pos hheld, BootResources.use, if_pos hmem]

theorem close_beside {fd : Int} (hmem : fd ∈ s.own) (hdisjoint : Disjoint held s.own) :
    (s.beside held).close fd = (s.close fd).beside held := by
  have hheld : fd ∈ (s.beside held).own := Finset.mem_union_right _ hmem
  have hnot : fd ∉ held := fun h => Finset.disjoint_left.mp hdisjoint h hmem
  have herase : (held ∪ s.own).erase fd = held ∪ s.own.erase fd := by
    rw [Finset.erase_union_distrib, Finset.erase_eq_of_notMem hnot]
  rw [BootResources.close, if_pos hheld, BootResources.close, if_pos hmem]
  simp only [BootResources.beside, herase]

theorem misused_use_of_notMem {fd : Int} (hmem : fd ∉ s.own) : (s.use fd).misused = true := by
  rw [BootResources.use, if_neg hmem]

theorem misused_close_of_notMem {fd : Int} (hmem : fd ∉ s.own) : (s.close fd).misused = true := by
  rw [BootResources.close, if_neg hmem]

/-- Unless it is misused, a descriptor is used in the same way beside others. -/
theorem use_beside_of_rightful {fd : Int} (hnext : (s.use fd).misused = false) :
    fd ∈ s.own ∧ (s.beside held).use fd = (s.use fd).beside held := by
  have hmem : fd ∈ s.own := by
    by_contra hmem
    rw [misused_use_of_notMem hmem] at hnext
    cases hnext
  exact ⟨hmem, use_beside hmem⟩

theorem openFile_beside (answer : Except CallErrno Fd) :
    (s.beside held).openFile others answer =
      ((s.openFile (others ∪ held) answer).1, (s.openFile (others ∪ held) answer).2.beside held) := by
  cases answer with
  | error errno => rfl
  | ok fd =>
      have hunion : others ∪ (held ∪ s.own) = others ∪ held ∪ s.own := (Finset.union_assoc ..).symm
      simp only [BootResources.openFile, BootResources.beside, hunion]
      split_ifs
      · rfl
      · rw [Finset.union_insert]

theorem misused_map (size : Nat) (mapping : Mapping) : (s.map size mapping).misused = s.misused := by
  cases mapping <;> rfl

theorem own_map (size : Nat) (mapping : Mapping) : (s.map size mapping).own = s.own := by
  cases mapping <;> rfl

theorem map_beside (size : Nat) (mapping : Mapping) :
    (s.beside held).map size mapping = (s.map size mapping).beside held := by
  cases mapping <;> rfl

theorem unmap_beside (size : Nat) (mapping : Mapping) :
    (s.beside held).unmap size mapping = (s.unmap size mapping).beside held := by
  cases mapping with
  | null => rfl
  | failed =>
      change (if s.failedMappings = 0 then _ else _) =
        BootResources.beside (if s.failedMappings = 0 then _ else _) held
      split_ifs
      · rfl
      · rfl
  | mapped content =>
      change (if size ∈ s.mappings then _ else _) =
        BootResources.beside (if size ∈ s.mappings then _ else _) held
      split_ifs
      · rfl
      · rfl

theorem own_unmap (size : Nat) (mapping : Mapping) : (s.unmap size mapping).own = s.own := by
  cases mapping with
  | null => rfl
  | failed =>
      change BootResources.own (if s.failedMappings = 0 then _ else _) = s.own
      split_ifs
      · rfl
      · rfl
  | mapped content =>
      change BootResources.own (if size ∈ s.mappings then _ else _) = s.own
      split_ifs
      · rfl
      · rfl

theorem misused_unmap (size : Nat) (mapping : Mapping) (hmisused : s.misused = true) :
    (s.unmap size mapping).misused = true := by
  cases mapping with
  | null => rfl
  | failed =>
      change BootResources.misused (if s.failedMappings = 0 then _ else _) = true
      split_ifs
      · rfl
      · exact hmisused
  | mapped content =>
      change BootResources.misused (if size ∈ s.mappings then _ else _) = true
      split_ifs
      · exact hmisused
      · rfl

/-- A misuse is never forgotten. -/
theorem BootResources.misused_handler {choice : ModemChoice} (request : ModemCall α)
    (hmisused : s.misused = true) : (handler others α choice request s).2.misused = true := by
  have huse : ∀ fd, (s.use fd).misused = true := by
    intro fd
    unfold BootResources.use
    split_ifs
    · exact hmisused
    · rfl
  cases request with
  | openFile path =>
      change (s.openFile others choice.opened).2.misused = true
      cases choice.opened with
      | error errno => exact hmisused
      | ok fd =>
          rw [BootResources.openFile]
          split_ifs
          · exact hmisused
          · exact hmisused
  | close fd =>
      change (s.close fd).misused = true
      unfold BootResources.close
      split_ifs
      · exact hmisused
      · rfl
  | mmap fd size => exact (misused_map _ _).trans (huse fd)
  | munmap mapping size => exact misused_unmap size mapping hmisused
  | ioctl fd request => exact huse fd
  | write fd bytes => exact huse fd
  | read fd count => exact huse fd
  | select fd => exact huse fd
  | sysfsValueWrite path value => exact hmisused
  | sysfsValueRead path => exact hmisused
  | nvDataLoad => exact hmisused
  | fileDataRead path size chunkSize offset => exact hmisused

/-- A call that misuses nothing does the same beside other descriptors, and leaves those alone. -/
theorem handler_beside {choice : ModemChoice} (request : ModemCall α)
    (hdisjoint : Disjoint held s.own)
    (hnext : (BootResources.handler (others ∪ held) α choice request s).2.misused = false) :
    BootResources.handler others α choice request (s.beside held) =
        ((BootResources.handler (others ∪ held) α choice request s).1,
          (BootResources.handler (others ∪ held) α choice request s).2.beside held) ∧
      Disjoint held (BootResources.handler (others ∪ held) α choice request s).2.own := by
  have huse : ∀ fd, (s.use fd).misused = false →
      (s.beside held).use fd = (s.use fd).beside held ∧ Disjoint held (s.use fd).own := by
    intro fd hrightful
    obtain ⟨hmem, hbeside⟩ := use_beside_of_rightful hrightful
    refine ⟨hbeside, ?_⟩
    rw [BootResources.use, if_pos hmem]
    exact hdisjoint
  cases request with
  | openFile path =>
      refine ⟨openFile_beside choice.opened, ?_⟩
      change Disjoint held (s.openFile (others ∪ held) choice.opened).2.own
      cases choice.opened with
      | error errno => exact hdisjoint
      | ok fd =>
          rw [BootResources.openFile]
          split_ifs with hused
          · exact hdisjoint
          · have hfree : (fd : Int) ∉ held := fun h =>
              hused (Finset.mem_union_left _ (Finset.mem_union_right _ h))
            exact Finset.disjoint_insert_right.mpr ⟨hfree, hdisjoint⟩
  | close fd =>
      have hmem : fd ∈ s.own := by
        by_contra hmem
        exact absurd hnext (by rw [show (BootResources.handler (others ∪ held) _ choice (.close fd) s).2 =
          s.close fd from rfl, misused_close_of_notMem hmem]; nofun)
      refine ⟨congrArg (Prod.mk ()) (close_beside hmem hdisjoint), ?_⟩
      change Disjoint held (s.close fd).own
      rw [BootResources.close, if_pos hmem]
      exact hdisjoint.mono_right (Finset.erase_subset _ _)
  | mmap fd size =>
      have hrightful : (s.use fd).misused = false := (misused_map _ _).symm.trans hnext
      obtain ⟨hbeside, hkept⟩ := huse fd hrightful
      refine ⟨congrArg (Prod.mk _) ?_, ?_⟩
      · change ((s.beside held).use fd).map size choice.mapping =
          ((s.use fd).map size choice.mapping).beside held
        rw [hbeside, map_beside]
      · change Disjoint held ((s.use fd).map size choice.mapping).own
        rw [own_map]
        exact hkept
  | munmap mapping size =>
      refine ⟨congrArg (Prod.mk _) (unmap_beside size mapping), ?_⟩
      change Disjoint held (s.unmap size mapping).own
      rw [own_unmap]
      exact hdisjoint
  | ioctl fd request => exact ⟨congrArg (Prod.mk _) (huse fd hnext).1, (huse fd hnext).2⟩
  | write fd bytes => exact ⟨congrArg (Prod.mk _) (huse fd hnext).1, (huse fd hnext).2⟩
  | read fd count => exact ⟨congrArg (Prod.mk _) (huse fd hnext).1, (huse fd hnext).2⟩
  | select fd => exact ⟨congrArg (Prod.mk _) (huse fd hnext).1, (huse fd hnext).2⟩
  | sysfsValueWrite path value => exact ⟨rfl, hdisjoint⟩
  | sysfsValueRead path => exact ⟨rfl, hdisjoint⟩
  | nvDataLoad => exact ⟨rfl, hdisjoint⟩
  | fileDataRead path size chunkSize offset => exact ⟨rfl, hdisjoint⟩

/-- A program that misuses nothing runs beside other descriptors as it does alone. -/
theorem wp_beside {p : Prog ModemCall α} {Q : α → BootResources → Prop}
    (hp : wp (BootResources.handler (others ∪ held)) Rightful p Q s) (hdisjoint : Disjoint held s.own) :
    wp (BootResources.handler others) Rightful p (fun value s' => ∃ t, Q value t ∧ s' = t.beside held)
      (s.beside held) := by
  induction p generalizing s with
  | pure value => exact ⟨hp.1, s, hp.2, rfl⟩
  | call request next ih =>
      refine ⟨hp.1, fun choice => ?_⟩
      have hrest := hp.2 choice
      have hnext : Rightful (BootResources.handler (others ∪ held) _ choice request s).2 := wp_inv hrest
      obtain ⟨hsame, hkept⟩ := handler_beside request hdisjoint hnext
      rw [hsame]
      exact ih _ hrest hkept

end Beside

end SamsungIpc

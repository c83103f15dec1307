import SamsungIpc.NvRedundancy
import SamsungIpc.StepTrace

/-! The primary NV data as a byte array. Requests of the modem read and write sections of them; as
long as every write stays inside, a run of requests is a run of the array, and the digest file is
valid after each of them. A write that does not stay inside damages the data before it is refused. -/

namespace SamsungIpc

open ByteSplice StepTrace Sys

variable {platform : Platform} {cfg : NvConfig} {σ : Kernel}

/-- A write that stays inside returns `0`, and data and digest are the new ones. -/
theorem write_inside {old bytes : Bytes} {offset : UInt32} {position : Nat}
    (hposition : platform.abi.seekPosition offset = position)
    (hold : cfg.PrimaryHolds platform σ.files old) (hbytes : bytes ≠ [])
    (hle : position + bytes.length ≤ cfg.size) (choices : Stream' Nat) :
    ((ipcNvDataWrite platform cfg.client (some bytes) offset).run choices σ).1 = 0 ∧
      ((ipcNvDataWrite platform cfg.client (some bytes) offset).run choices σ).2.files =
        cfg.written platform σ.files old position bytes := by
  have hspec : wp (fun _ => True) (ipcNvDataWrite platform cfg.client (some bytes) offset)
      (fun rc σ' => rc = 0 ∧ σ'.files = cfg.written platform σ.files old position bytes) σ := by
    apply wp_ipcNvDataWrite hposition hold.data_eq hold.length_eq hbytes trivial
    · exact fun _ => trivial
    · exact fun _ _ _ => trivial
    · exact fun hover => absurd hle hover
    · intro hnone
      rw [hold.digest_eq] at hnone
      cases hnone
    · exact fun _ σ' hσ' => ⟨rfl, hσ'⟩
  exact wp_run hspec choices

/-- A write past the end returns `-1`, after the data file has grown. -/
theorem write_outside {old bytes : Bytes} {offset : UInt32} {position : Nat}
    (hposition : platform.abi.seekPosition offset = position)
    (hold : cfg.PrimaryHolds platform σ.files old) (hbytes : bytes ≠ [])
    (hover : cfg.size < position + bytes.length) (choices : Stream' Nat) :
    ((ipcNvDataWrite platform cfg.client (some bytes) offset).run choices σ).1 = -1 ∧
      ((ipcNvDataWrite platform cfg.client (some bytes) offset).run choices σ).2.files =
        σ.files.put cfg.path (splice old position bytes) := by
  have hspec : wp (fun _ => True) (ipcNvDataWrite platform cfg.client (some bytes) offset)
      (fun rc σ' => rc = -1 ∧ σ'.files = σ.files.put cfg.path (splice old position bytes)) σ := by
    apply wp_ipcNvDataWrite hposition hold.data_eq hold.length_eq hbytes trivial
    · exact fun _ => trivial
    · exact fun _ _ _ => trivial
    · exact fun _ σ' hσ' => ⟨rfl, hσ'⟩
    · exact fun _ hle => absurd hle (by omega)
    · exact fun hle => absurd hle (by omega)
  exact wp_run hspec choices

theorem write_nothing {data : Option Bytes} {offset : UInt32} (hdata : data.getD [] = [])
    (choices : Stream' Nat) :
    ((ipcNvDataWrite platform cfg.client data offset).run choices σ).1 = -1 ∧
      ((ipcNvDataWrite platform cfg.client data offset).run choices σ).2.files = σ.files := by
  have hspec : wp (fun _ => True) (ipcNvDataWrite platform cfg.client data offset)
      (fun rc σ' => rc = -1 ∧ σ'.files = σ.files) σ :=
    wp_ipcNvDataWrite_refused (Or.inr hdata) trivial fun σ' hσ' => ⟨rfl, hσ'⟩
  exact wp_run hspec choices

theorem NvConfig.written_primary (fs : FileSystem) {old bytes : Bytes} {offset : Nat}
    (hlength : old.length = cfg.size) (hle : offset + bytes.length ≤ cfg.size) :
    cfg.PrimaryHolds platform (cfg.written platform fs old offset bytes)
      (splice old offset bytes) := by
  refine ⟨?_, ?_, FileSystem.put_self _ _ _⟩
  · rw [NvConfig.written, FileSystem.put_of_ne cfg.distinct.1, FileSystem.put_self]
  · rw [length_splice_of_le (hlength ▸ hle), hlength]

theorem NvConfig.written_backup (platform : Platform) (cfg : NvConfig) (fs : FileSystem)
    (old bytes : Bytes) (offset : Nat) :
    cfg.written platform fs old offset bytes cfg.backupPath = fs cfg.backupPath ∧
      cfg.written platform fs old offset bytes cfg.backupMd5Path = fs cfg.backupMd5Path := by
  obtain ⟨-, hpb, hpbm, hmb, hmbm, -⟩ := cfg.distinct
  constructor
  · exact FileSystem.put_put_of_ne hpb.symm hmb.symm ..
  · exact FileSystem.put_put_of_ne hpbm.symm hmbm.symm ..

/-- A read returns the section if there is one, and changes nothing. -/
theorem read_section {content : Bytes} {size : Nat} {offset : UInt32}
    (hold : cfg.PrimaryHolds platform σ.files content) (choices : Stream' Nat) :
    ((ipcNvDataRead platform cfg.client size offset).run choices σ).1 =
        (if size = 0 then none else slice content (platform.abi.seekPosition offset) size) ∧
      ((ipcNvDataRead platform cfg.client size offset).run choices σ).2.files = σ.files := by
  have hspec : wp (fun _ => True) (ipcNvDataRead platform cfg.client size offset)
      (fun result σ' => result =
          (if size = 0 then none else slice content (platform.abi.seekPosition offset) size) ∧
        σ'.files = σ.files) σ := by
    apply wp_ipcNvDataRead trivial
    · exact fun hno => absurd hold.hasSize hno
    · intro data hdata _ σ' hσ'
      obtain rfl : content = data := Option.some.inj (hold.data_eq.symm.trans hdata)
      exact ⟨rfl, hσ'⟩
  exact wp_run hspec choices

/-! ### Runs of requests -/

inductive NvRequest where
  | write (data : Bytes) (offset : UInt32)
  | read (size : Nat) (offset : UInt32)

inductive NvReply where
  | written (rc : Int)
  | data (data : Option Bytes)

/-- A request as the library serves it, with the choices for its transfers. -/
def serve (platform : Platform) (cfg : NvConfig) (σ : Kernel) :
    NvRequest × Stream' Nat → NvReply × Kernel
  | (.write data offset, choices) =>
      let write := (ipcNvDataWrite platform cfg.client (some data) offset).run choices σ
      (.written write.1, write.2)
  | (.read size offset, choices) =>
      let read := (ipcNvDataRead platform cfg.client size offset).run choices σ
      (.data read.1, read.2)

/-- A request as a byte array serves it. -/
def serveArray (content : Bytes) : NvRequest → NvReply × Bytes
  | .write data offset => (.written 0, splice content offset.toNat data)
  | .read size offset =>
      (.data (if size = 0 then none else slice content offset.toNat size), content)

/-- Writes have to stay inside the array; reads need not. -/
def NvRequest.Inside (size : Nat) : NvRequest → Prop
  | .write data offset => data ≠ [] ∧ offset.toNat + data.length ≤ size
  | .read _ _ => True

/-- The seek of the request goes to its offset, or it makes no difference: what is read is larger than
the array, or nothing. -/
def NvRequest.Sought (abi : Abi) (arraySize : Nat) : NvRequest → Prop
  | .write _ offset => abi.Reaches offset
  | .read size offset => abi.Reaches offset ∨ size = 0 ∨ arraySize < size

/-- The disk holds the array `content` as valid primary data, beside the backup files of `start`. -/
structure HoldsArray (platform : Platform) (cfg : NvConfig) (start : FileSystem) (σ : Kernel)
    (content : Bytes) : Prop where
  primary : cfg.PrimaryHolds platform σ.files content
  backup_eq : σ.files cfg.backupPath = start cfg.backupPath
  backupMd5_eq : σ.files cfg.backupMd5Path = start cfg.backupMd5Path

theorem HoldsArray.passes {start : FileSystem} {content : Bytes}
    (h : HoldsArray platform cfg start σ content) : (ipcNvDataCheck platform cfg.client).Passes σ :=
  passes_ipcNvDataCheck_iff.mpr ⟨content, h.primary⟩

/-- No section is as long as that, wherever it starts. -/
theorem slice_of_lt {content : Bytes} {size : Nat} (hlt : content.length < size) (offset : Nat) :
    slice content offset size = none := if_neg (by omega)

/-- Every request keeps the disk in step with the array. -/
theorem serve_follows (platform : Platform) (cfg : NvConfig) (start : FileSystem) :
    Follows (serve platform cfg) serveArray Prod.fst
      (fun request => request.1.Inside cfg.size ∧ request.1.Sought platform.abi cfg.size)
      (HoldsArray platform cfg start) where
  output := by
    rintro σ content ⟨request, choices⟩ hholds ⟨hinside, hsought⟩
    cases request with
    | write data offset =>
        obtain ⟨hdata, hle⟩ := hinside
        have hposition := Abi.seekPosition_of_reaches hsought
        exact congrArg NvReply.written (write_inside hposition hholds.primary hdata hle choices).1
    | read size offset =>
        have hread : ((ipcNvDataRead platform cfg.client size offset).run choices σ).1 = _ :=
          (read_section hholds.primary choices).1
        refine congrArg NvReply.data (hread.trans ?_)
        rcases hsought with hreaches | hempty | hlarge
        · rw [Abi.seekPosition_of_reaches hreaches]
        · rw [if_pos hempty, if_pos hempty]
        · rw [slice_of_lt (hholds.primary.length_eq ▸ hlarge),
            slice_of_lt (hholds.primary.length_eq ▸ hlarge)]
  related := by
    rintro σ content ⟨request, choices⟩ hholds ⟨hinside, hsought⟩
    cases request with
    | write data offset =>
        obtain ⟨hdata, hle⟩ := hinside
        have hposition := Abi.seekPosition_of_reaches hsought
        have hfiles := (write_inside hposition hholds.primary hdata hle choices).2
        have hkept := cfg.written_backup platform σ.files content data offset.toNat
        constructor
        · have hnew : cfg.PrimaryHolds platform _ (splice content offset.toNat data) :=
            NvConfig.written_primary σ.files hholds.primary.length_eq hle
          exact PairHolds.congr hnew (congrFun hfiles _) (congrFun hfiles _)
        · exact (congrFun hfiles _).trans (hkept.1.trans hholds.backup_eq)
        · exact (congrFun hfiles _).trans (hkept.2.trans hholds.backupMd5_eq)
    | read size offset =>
        have hfiles : ((ipcNvDataRead platform cfg.client size offset).run choices σ).2.files =
            σ.files := (read_section hholds.primary choices).2
        constructor
        · exact PairHolds.congr hholds.primary (congrFun hfiles _) (congrFun hfiles _)
        · exact (congrFun hfiles _).trans hholds.backup_eq
        · exact (congrFun hfiles _).trans hholds.backupMd5_eq

/-- The array after a run: its writes are spliced in, in their order. -/
def splicedAll (content : Bytes) (requests : List NvRequest) : Bytes :=
  requests.foldl (fun content request => match request with
    | .write data offset => splice content offset.toNat data
    | .read _ _ => content) content

theorem final_serveArray (content : Bytes) (requests : List NvRequest) :
    final serveArray content requests = splicedAll content requests := by
  induction requests generalizing content with
  | nil => rfl
  | cons request requests ih =>
      cases request with
      | write data offset => exact ih _
      | read size offset => exact ih _

/-- A run of requests answers as the array `content` does, with valid primary data and an untouched
backup after each request, and ends with the data the writes were spliced into. -/
def StoreIsArray (platform : Platform) (cfg : NvConfig) (σ : Kernel) (content : Bytes)
    (requests : List (NvRequest × Stream' Nat)) : Prop :=
  List.Forall₂ (fun served expected =>
      served.1 = expected.1 ∧ served.2.files cfg.path = some expected.2 ∧
      (ipcNvDataCheck platform cfg.client).Passes served.2 ∧
      served.2.files cfg.backupPath = σ.files cfg.backupPath ∧
      served.2.files cfg.backupMd5Path = σ.files cfg.backupMd5Path)
    (trace (serve platform cfg) σ requests) (trace serveArray content (requests.map Prod.fst)) ∧
  (final (serve platform cfg) σ requests).files cfg.path =
    some (splicedAll content (requests.map Prod.fst))

/-- **The NV store is a byte array** under every run of reads and of writes inside the data, as long
as `off_t` can hold the offsets of the requests. -/
theorem nv_store_is_array (platform : Platform) (cfg : NvConfig) (σ : Kernel) (content : Bytes)
    (requests : List (NvRequest × Stream' Nat))
    (hpasses : (ipcNvDataCheck platform cfg.client).Passes σ)
    (hcontent : σ.files cfg.path = some content)
    (hinside : ∀ request ∈ requests, request.1.Inside cfg.size)
    (hsought : ∀ request ∈ requests, request.1.Sought platform.abi cfg.size) :
    StoreIsArray platform cfg σ content requests := by
  obtain ⟨data, hdata⟩ := passes_ipcNvDataCheck_iff.mp hpasses
  obtain rfl : data = content := Option.some.inj (hdata.data_eq.symm.trans hcontent)
  have hstart : HoldsArray platform cfg σ.files σ data := ⟨hdata, rfl, rfl⟩
  have hfollows := serve_follows platform cfg σ.files
  have hvalid : ∀ request ∈ requests,
      request.1.Inside cfg.size ∧ request.1.Sought platform.abi cfg.size :=
    fun request hrequest => ⟨hinside request hrequest, hsought request hrequest⟩
  constructor
  · apply (hfollows.forall₂_trace hvalid hstart).imp
    rintro served expected ⟨hreply, hholds⟩
    exact ⟨hreply, hholds.primary.data_eq, hholds.passes, hholds.backup_eq, hholds.backupMd5_eq⟩
  · rw [← final_serveArray]
    exact (hfollows.final_related hvalid hstart).primary.data_eq

theorem sampleDisk_passes :
    (ipcNvDataCheck samplePlatform xmm626NvConfig.client).Passes (Kernel.boot (sampleDisk 0)) :=
  passes_ipcNvDataCheck_iff.mpr ⟨_, sampleDisk_blank⟩

/-- A byte is written and the first two are read back. -/
theorem nv_store_is_array_sample :
    StoreIsArray samplePlatform xmm626NvConfig (Kernel.boot (sampleDisk 0)) (sampleNvData 0)
      [(.write [7] 1, Stream'.const 0), (.read 2 0, Stream'.const 0)] := by
  apply nv_store_is_array samplePlatform xmm626NvConfig (Kernel.boot (sampleDisk 0))
    (sampleNvData 0) _ sampleDisk_passes (sampleDisk_path 0)
  · intro request hrequest
    simp only [List.mem_cons, List.not_mem_nil, or_false] at hrequest
    rcases hrequest with rfl | rfl
    · exact ⟨List.cons_ne_nil 7 [], by decide⟩
    · trivial
  · intro request hrequest
    simp only [List.mem_cons, List.not_mem_nil, or_false] at hrequest
    rcases hrequest with rfl | rfl
    · exact Or.inr (by decide)
    · exact Or.inl (Or.inr (by decide))

/-- Where `off_t` has 32 bits, the first byte is what a read at two gigabytes returns. -/
theorem nv_store_strays :
    (ipcNvDataCheck samplePlatform xmm626NvConfig.client).Passes (Kernel.boot (sampleDisk 0)) ∧
      ¬StoreIsArray samplePlatform xmm626NvConfig (Kernel.boot (sampleDisk 0)) (sampleNvData 0)
        [(.read 1 0x80000000, Stream'.const 0)] := by
  refine ⟨sampleDisk_passes, ?_⟩
  rintro ⟨hreplies, -⟩
  have hread : ((ipcNvDataRead samplePlatform xmm626NvConfig.client 1 0x80000000).run
      (Stream'.const 0) (Kernel.boot (sampleDisk 0))).1 = _ :=
    (read_section sampleDisk_blank (Stream'.const 0)).1
  have hreaches : ¬samplePlatform.abi.Reaches 0x80000000 := by
    rintro (habi | hlt)
    · exact absurd habi (by decide)
    · exact absurd hlt (by decide)
  have hstart := Abi.seekPosition_of_not_reaches hreaches
  have hlength := length_sampleNvData 0
  have hfirst : slice (sampleNvData 0) 0 1 ≠ none := by
    rw [slice, if_pos (by rw [hlength]; decide)]
    exact Option.some_ne_none _
  have hbeyond : slice (sampleNvData 0) (0x80000000 : UInt32).toNat 1 = none :=
    if_neg (by rw [hlength]; decide)
  obtain ⟨⟨hreply, -⟩, -⟩ := List.forall₂_cons.mp hreplies
  have hsame := hread.symm.trans (NvReply.data.inj hreply)
  rw [if_neg Nat.one_ne_zero, if_neg Nat.one_ne_zero, hstart, hbeyond] at hsame
  exact hfirst hsame

/-! ### Refused writes -/

/-- A write that returns `-1` leaves the data and their digest file as they were. -/
def RefusedWriteHarmless (platform : Platform) (cfg : NvConfig) (σ : Kernel) (data : Option Bytes)
    (offset : UInt32) : Prop :=
  ∀ choices,
    let write := (ipcNvDataWrite platform cfg.client data offset).run choices σ
    write.1 = -1 → write.2.files cfg.path = σ.files cfg.path ∧
      write.2.files cfg.md5Path = σ.files cfg.md5Path ∧
      (ipcNvDataCheck platform cfg.client).Passes write.2

/-- A refused write is harmless exactly when it writes nothing or stays inside, from where it is
written on; in the second case it is not refused. -/
theorem refused_write_harmless_iff (platform : Platform) (cfg : NvConfig) (σ : Kernel)
    (data : Option Bytes) (offset : UInt32)
    (hpasses : (ipcNvDataCheck platform cfg.client).Passes σ) :
    RefusedWriteHarmless platform cfg σ data offset ↔
      data.getD [] = [] ∨
        platform.abi.seekPosition offset + (data.getD []).length ≤ cfg.size := by
  obtain ⟨old, hold⟩ := passes_ipcNvDataCheck_iff.mp hpasses
  constructor
  · intro hharmless
    by_contra hcase
    obtain ⟨hbytes, hover⟩ := not_or.mp hcase
    cases data with
    | none => exact hbytes rfl
    | some bytes =>
        rw [Option.getD_some] at hbytes hover
        obtain ⟨hrc, hfiles⟩ := write_outside rfl hold hbytes (not_le.mp hover) (Stream'.const 0)
        have hsame := (hharmless (Stream'.const 0) hrc).1
        rw [hfiles, FileSystem.put_self, hold.data_eq] at hsame
        have hgrown := congrArg List.length (Option.some.inj hsame)
        rw [length_splice hbytes, hold.length_eq] at hgrown
        omega
  · intro hcase choices write hrc
    by_cases hempty : data.getD [] = []
    · have hfiles : write.2.files = σ.files := (write_nothing hempty choices).2
      refine ⟨congrFun hfiles _, congrFun hfiles _, ?_⟩
      rw [passes_ipcNvDataCheck_iff, hfiles]
      exact ⟨old, hold⟩
    · cases data with
      | none => exact absurd rfl hempty
      | some bytes =>
          have hle := hcase.resolve_left hempty
          have hzero : write.1 = 0 := (write_inside rfl hold hempty hle choices).1
          rw [hzero] at hrc
          exact absurd hrc (by decide)

theorem refused_write_harmless_iff_blank :
    RefusedWriteHarmless samplePlatform xmm626NvConfig (Kernel.boot (sampleDisk 0)) (some [7]) 0 ↔
      (some [7]).getD [] = ([] : Bytes) ∨
        samplePlatform.abi.seekPosition 0 + ((some [7]).getD ([] : Bytes)).length ≤
          xmm626NvConfig.size :=
  refused_write_harmless_iff samplePlatform xmm626NvConfig (Kernel.boot (sampleDisk 0)) (some [7]) 0
    sampleDisk_passes

/-- A byte written just past the end is refused and stays in the file. -/
theorem refused_write_harms :
    (ipcNvDataCheck samplePlatform xmm626NvConfig.client).Passes (Kernel.boot (sampleDisk 0)) ∧
      ¬RefusedWriteHarmless samplePlatform xmm626NvConfig (Kernel.boot (sampleDisk 0)) (some [7])
        0x200000 := by
  refine ⟨sampleDisk_passes, ?_⟩
  intro hharmless
  have hold : xmm626NvConfig.PrimaryHolds samplePlatform (Kernel.boot (sampleDisk 0)).files
    (sampleNvData 0) := sampleDisk_blank
  have hposition : samplePlatform.abi.seekPosition 0x200000 = 0x200000 := by decide
  have hover : xmm626NvConfig.size < 0x200000 + ([7] : Bytes).length := by decide
  obtain ⟨hrc, hfiles⟩ :=
    write_outside hposition hold (List.cons_ne_nil 7 []) hover (Stream'.const 0)
  have hsame := (hharmless (Stream'.const 0) hrc).1
  rw [hfiles, FileSystem.put_self, hold.data_eq] at hsame
  have hgrown := congrArg List.length (Option.some.inj hsame)
  rw [length_splice (List.cons_ne_nil 7 []), hold.length_eq] at hgrown
  exact absurd hgrown (by decide)

end SamsungIpc

import Mathlib.Data.Bool.AllAny
import SamsungIpc.NvDataSpec

/-! The IMEI in the NV data, as `nv_data-imei` stores and shows it: fifteen digits packed into eight
bytes, and a digest file that is renewed with the data. -/

namespace SamsungIpc

open ByteSplice Sys

def imeiLength : Nat := 15

/-- The hex digits a text starts with, at most `width`. -/
def hexPrefix : Nat → CString → List Nat
  | 0, _ => []
  | _ + 1, [] => []
  | width + 1, c :: text =>
      match hexValue c with
      | none => []
      | some digit => digit :: hexPrefix width text

/-- What `sscanf(text, "%0<width>x", &v)` stores, if it counts one conversion. The blanks, the sign and
the `0x` it would skip do not occur between decimal digits. -/
def sscanfHex (width : Nat) (text : CString) : Option Nat :=
  match hexPrefix width text with
  | [] => none
  | digit :: digits => some ((digit :: digits).foldl (fun v digit => 16 * v + digit) 0)

/-- The loop of `encode_imei`; `none` is a failed assertion. -/
def encodeImeiLoop (imei : CString) : Nat → Nat → Option Bytes
  | 0, _ => some []
  | passes + 1, i =>
      if i < imeiLength then
        match sscanfHex 2 (imei.drop i) with
        | none => none
        | some v =>
            (encodeImeiLoop imei passes (i + 2)).map fun buf =>
              UInt8.ofNat (v <<< 4 ||| (v &&& 0xf0) >>> 4) :: buf
      else some []

def encodeImei (imei : CString) : Option Bytes :=
  match sscanfHex 1 imei with
  | none => none
  | some v =>
      (encodeImeiLoop imei imeiLength 1).map fun buf => UInt8.ofNat (v <<< 4 ||| 0xA) :: buf

/-- The loop of `decode_imei`: `text` has been printed, `i` characters long, and what `snprintf` prints
next is cut to the room that is left. -/
def decodeImeiLoop : Bytes → Nat → CString → CString
  | [], _, text => text
  | byte :: buf, i, text =>
      if i < imeiLength then
        let printed := sprintf02x (byte >>> 4 ||| (byte &&& 0x0f) <<< 4)
        decodeImeiLoop buf (i + printed.length) (text ++ printed.take (imeiLength - i))
      else text

def decodeImei : Bytes → CString
  | [] => []
  | byte :: buf => decodeImeiLoop buf 1 [hexDigit ((byte &&& 0xf0) >>> 4).toNat]

def xmm616NvDataSecret : CString := cString "Samsung_Android_RIL"

def xmm616NvDataSize : Nat := 0x200000

def xmm616NvDataChunkSize : Nat := 0x1000

def nvDataImeiMd5Path (nvDataPath : Path) : Path := nvDataPath ++ cString ".md5"

section Commands

variable (platform : Platform)

/-- The bytes of a stored IMEI, all of which `decode_imei` looks at. -/
def imeiBufferLength : Nat := (imeiLength + 1) / 2

/-- The return code and the IMEI the command shows. `offset` is a `size_t` that is not compared with the
size of the buffer: without a return code, `decode_imei` has read behind it. -/
def readImei (nvDataPath : Path) (offset : Nat) : Sys (Option Int × Option CString) := do
  match ← fileDataRead platform.abi (some nvDataPath) xmm616NvDataSize xmm616NvDataChunkSize 0 with
  | none => pure (some (-1), none)
  | some buffer =>
      if offset + imeiBufferLength ≤ buffer.length then
        pure (some 0, some (decodeImei (buffer.drop offset)))
      else pure (none, none)

/-- The return code; `none` is a failed assertion. -/
def writeImei (nvDataPath : Path) (offset : Nat) (imei : CString) : Sys (Option Int) :=
  let md5Path := nvDataImeiMd5Path nvDataPath
  if imei.length ≠ imeiLength then pure none
  else
    match encodeImei imei with
    | none => pure none
    | some buffer => do
        match ← fileDataWrite platform.abi (some nvDataPath) (some buffer) buffer.length
            (UInt32.ofNat offset) with
        | .error errno => pure (some errno)
        | .ok _ =>
            match ← ipcNvDataMd5Calculate platform nvDataPath (some xmm616NvDataSecret)
                xmm616NvDataSize xmm616NvDataChunkSize with
            | none => pure (some (-1))
            | some md5String => do
                let _ ← unlink md5Path
                match ← fileDataWrite platform.abi (some md5Path) (some md5String)
                    md5String.length 0 with
                | .error errno => pure (some errno)
                | .ok _ => pure (some 0)

end Commands

/-! ### The packed digits -/

/-- Two digits in one byte: the first one is in the low nibble. -/
def packDigits (digits : Nat × Nat) : UInt8 := UInt8.ofNat (16 * digits.2 + digits.1)

def printDigits (digits : Nat × Nat) : CString := [hexDigit digits.1, hexDigit digits.2]

def Decimal (digits : Nat × Nat) : Prop := digits.1 < 10 ∧ digits.2 < 10

theorem hexValue_hexDigit : ∀ m < 10, hexValue (hexDigit m) = some m := by decide

theorem swap_nibbles : ∀ m < 10, ∀ n < 10,
    UInt8.ofNat ((16 * m + n) <<< 4 ||| ((16 * m + n) &&& 0xf0) >>> 4) = packDigits (m, n) := by
  decide

theorem sprintf_packDigits : ∀ m < 10, ∀ n < 10,
    sprintf02x (packDigits (m, n) >>> 4 ||| (packDigits (m, n) &&& 0x0f) <<< 4) =
      printDigits (m, n) := by
  decide

theorem sscanfHex_printDigits {digits : Nat × Nat} (hdigits : Decimal digits) (rest : CString) :
    sscanfHex 2 (printDigits digits ++ rest) = some (16 * digits.1 + digits.2) := by
  have hfirst := hexValue_hexDigit digits.1 hdigits.1
  have hsecond := hexValue_hexDigit digits.2 hdigits.2
  simp [sscanfHex, printDigits, hexPrefix, hfirst, hsecond]

/-- The loop packs the digits behind `head`. -/
theorem encodeImeiLoop_print {pairs : List (Nat × Nat)} (hpairs : ∀ pair ∈ pairs, Decimal pair)
    {head : CString} {passes : Nat} (hlength : head.length + 2 * pairs.length = imeiLength)
    (hpasses : pairs.length ≤ passes) :
    encodeImeiLoop (head ++ pairs.flatMap printDigits) passes head.length =
      some (pairs.map packDigits) := by
  induction pairs generalizing head passes with
  | nil =>
      cases passes with
      | zero => rfl
      | succ passes =>
          rw [List.length_nil] at hlength
          rw [encodeImeiLoop, if_neg (by omega), List.map_nil]
  | cons pair pairs ih =>
      obtain ⟨hpair, hrest⟩ := List.forall_mem_cons.mp hpairs
      rw [List.length_cons] at hlength hpasses
      obtain ⟨passes, rfl⟩ := Nat.exists_eq_add_one_of_ne_zero (show passes ≠ 0 by omega)
      have hhead : (head ++ printDigits pair).length = head.length + 2 := List.length_append
      have htail := ih hrest
        (show (head ++ printDigits pair).length + 2 * pairs.length = imeiLength by omega)
        (show pairs.length ≤ passes by omega)
      rw [hhead, List.append_assoc] at htail
      rw [encodeImeiLoop, if_pos (by omega), List.flatMap_cons, List.drop_left,
        sscanfHex_printDigits hpair]
      dsimp only
      rw [htail, Option.map_some, swap_nibbles _ hpair.1 _ hpair.2, List.map_cons]

theorem decodeImeiLoop_pack {pairs : List (Nat × Nat)} (hpairs : ∀ pair ∈ pairs, Decimal pair)
    {i : Nat} (text : CString) (rest : Bytes) (hlength : i + 2 * pairs.length = imeiLength) :
    decodeImeiLoop (pairs.map packDigits ++ rest) i text =
      text ++ pairs.flatMap printDigits := by
  induction pairs generalizing i text with
  | nil =>
      rw [List.length_nil] at hlength
      rw [List.map_nil, List.nil_append, List.flatMap_nil, List.append_nil]
      cases rest with
      | nil => rfl
      | cons byte rest => rw [decodeImeiLoop, if_neg (by omega)]
  | cons pair pairs ih =>
      obtain ⟨hpair, hrest⟩ := List.forall_mem_cons.mp hpairs
      rw [List.length_cons] at hlength
      have hprinted : (printDigits pair).length = 2 := rfl
      have hroom : (printDigits pair).take (imeiLength - i) = printDigits pair :=
        List.take_of_length_le (by omega)
      rw [List.map_cons, List.cons_append, decodeImeiLoop, if_pos (by omega),
        sprintf_packDigits _ hpair.1 _ hpair.2]
      dsimp only
      rw [hprinted, hroom, ih hrest _ (by omega), List.append_assoc, List.flatMap_cons]

/-- What a stored IMEI is: a digit beside a nibble that is not in use, then two digits a byte. -/
def storedImei (first : Nat) (pairs : List (Nat × Nat)) : Bytes :=
  UInt8.ofNat (first <<< 4 ||| 0xA) :: pairs.map packDigits

def printImei (first : Nat) (pairs : List (Nat × Nat)) : CString :=
  hexDigit first :: pairs.flatMap printDigits

theorem decode_first : ∀ m < 10, ((UInt8.ofNat (m <<< 4 ||| 0xA) &&& 0xf0) >>> 4).toNat = m := by
  decide

section Digits

variable {first : Nat} {pairs : List (Nat × Nat)}

theorem encodeImei_print (hfirst : first < 10) (hpairs : ∀ pair ∈ pairs, Decimal pair)
    (hlength : pairs.length = 7) :
    encodeImei (printImei first pairs) = some (storedImei first pairs) := by
  have hscan : sscanfHex 1 (printImei first pairs) = some first := by
    simp [sscanfHex, printImei, hexPrefix, hexValue_hexDigit first hfirst]
  have hloop : encodeImeiLoop (printImei first pairs) imeiLength 1 = some (pairs.map packDigits) :=
    encodeImeiLoop_print hpairs
      (show [hexDigit first].length + 2 * pairs.length = imeiLength by rw [hlength]; rfl)
      (by rw [hlength]; decide)
  rw [encodeImei, hscan]
  dsimp only
  rw [hloop, Option.map_some, storedImei]

theorem decodeImei_stored (hfirst : first < 10) (hpairs : ∀ pair ∈ pairs, Decimal pair)
    (hlength : pairs.length = 7) (rest : Bytes) :
    decodeImei (storedImei first pairs ++ rest) = printImei first pairs := by
  rw [storedImei, List.cons_append, decodeImei, decode_first first hfirst,
    decodeImeiLoop_pack hpairs _ rest (by rw [hlength]; rfl)]
  rfl

end Digits

/-- The text of an IMEI, as the command line is checked for it. -/
structure Imei where
  text : CString
  length_eq : text.length = imeiLength
  digits : ∀ c ∈ text, 0x30 ≤ c ∧ c ≤ 0x39

theorem exists_hexDigit {c : UInt8} (hdigit : 0x30 ≤ c ∧ c ≤ 0x39) : ∃ m < 10, hexDigit m = c := by
  obtain ⟨hlow, hhigh⟩ := hdigit
  rw [UInt8.le_iff_toNat_le] at hlow hhigh
  change 48 ≤ c.toNat at hlow
  change c.toNat ≤ 57 at hhigh
  refine ⟨c.toNat - 48, by omega, ?_⟩
  rw [hexDigit, if_pos (by omega), Nat.add_sub_of_le hlow, UInt8.ofNat_toNat]

theorem exists_pairs {n : Nat} {text : CString} (hlength : text.length = 2 * n)
    (hdigits : ∀ c ∈ text, 0x30 ≤ c ∧ c ≤ 0x39) :
    ∃ pairs : List (Nat × Nat), pairs.length = n ∧ (∀ pair ∈ pairs, Decimal pair) ∧
      pairs.flatMap printDigits = text := by
  induction n generalizing text with
  | zero =>
      obtain rfl := List.length_eq_zero_iff.mp hlength
      exact ⟨[], rfl, by simp, rfl⟩
  | succ n ih =>
      match text, hlength, hdigits with
      | a :: b :: text, hlength, hdigits =>
          rw [List.forall_mem_cons, List.forall_mem_cons] at hdigits
          obtain ⟨ha, hb, hrest⟩ := hdigits
          obtain ⟨m, hm, rfl⟩ := exists_hexDigit ha
          obtain ⟨k, hk, rfl⟩ := exists_hexDigit hb
          obtain ⟨pairs, hpairs, hdecimal, rfl⟩ := ih
            (show text.length = 2 * n by simpa [Nat.mul_add] using hlength) hrest
          exact ⟨(m, k) :: pairs, congrArg (· + 1) hpairs,
            List.forall_mem_cons.mpr ⟨⟨hm, hk⟩, hdecimal⟩, rfl⟩

theorem Imei.exists_digits (imei : Imei) :
    ∃ first < 10, ∃ pairs : List (Nat × Nat), pairs.length = 7 ∧ (∀ pair ∈ pairs, Decimal pair) ∧
      imei.text = printImei first pairs := by
  obtain ⟨text, hlength, hdigits⟩ := imei
  match text, hlength, hdigits with
  | c :: text, hlength, hdigits =>
      obtain ⟨hc, hrest⟩ := List.forall_mem_cons.mp hdigits
      obtain ⟨first, hfirst, rfl⟩ := exists_hexDigit hc
      obtain ⟨pairs, hpairs, hdecimal, rfl⟩ := exists_pairs
        (show text.length = 2 * 7 from Nat.succ.inj hlength) hrest
      exact ⟨first, hfirst, pairs, hpairs, hdecimal, rfl⟩

/-- What a decimal digit stands for. -/
def digitValue (c : UInt8) : Nat := c.toNat - 0x30

def packText : CString → Bytes
  | a :: b :: text => packDigits (digitValue a, digitValue b) :: packText text
  | _ => []

/-- The bytes an IMEI is stored as: its first digit above an unused `0xA`, then two digits a byte, the
first of them in the low nibble. -/
def Imei.packed (imei : Imei) : Bytes :=
  packDigits (0xA, digitValue (imei.text.headD 0)) :: packText imei.text.tail

theorem digitValue_hexDigit : ∀ m < 10, digitValue (hexDigit m) = m := by decide

theorem packText_print {pairs : List (Nat × Nat)} (hpairs : ∀ pair ∈ pairs, Decimal pair) :
    packText (pairs.flatMap printDigits) = pairs.map packDigits := by
  induction pairs with
  | nil => rfl
  | cons pair pairs ih =>
      obtain ⟨hpair, hrest⟩ := List.forall_mem_cons.mp hpairs
      rw [List.flatMap_cons, printDigits, List.cons_append, List.cons_append, List.nil_append, packText,
        digitValue_hexDigit _ hpair.1, digitValue_hexDigit _ hpair.2, ih hrest, List.map_cons]

theorem Imei.encode_eq (imei : Imei) :
    encodeImei imei.text = some imei.packed ∧ imei.packed.length = 8 := by
  obtain ⟨first, hfirst, pairs, hlength, hpairs, htext⟩ := imei.exists_digits
  have hmark : ∀ m < 10, UInt8.ofNat (m <<< 4 ||| 0xA) = packDigits (0xA, m) := by decide
  have hpacked : imei.packed = storedImei first pairs := by
    rw [packed, htext, printImei, List.headD_cons, List.tail_cons, digitValue_hexDigit _ hfirst,
      packText_print hpairs, storedImei, hmark _ hfirst]
  rw [hpacked, htext]
  refine ⟨encodeImei_print hfirst hpairs hlength, ?_⟩
  rw [storedImei, List.length_cons, List.length_map, hlength]

/-- Eight bytes whose nibbles are those of a stored IMEI. -/
structure HoldsDigits (bytes : Bytes) : Prop where
  length_eq : bytes.length = 8
  mark_eq : ∀ first ∈ bytes.head?, first.toNat % 16 = 0xA ∧ first.toNat / 16 < 10
  digits : ∀ byte ∈ bytes.tail, byte.toNat % 16 < 10 ∧ byte.toNat / 16 < 10

theorem HoldsDigits.exists_digits {bytes : Bytes} (hbytes : HoldsDigits bytes) :
    ∃ first < 10, ∃ pairs : List (Nat × Nat), pairs.length = 7 ∧ (∀ pair ∈ pairs, Decimal pair) ∧
      bytes = storedImei first pairs := by
  obtain ⟨hlength, hmark, hdigits⟩ := hbytes
  cases bytes with
  | nil => exact absurd hlength (by decide)
  | cons byte bytes =>
      obtain ⟨hmark, hfirst⟩ := hmark byte rfl
      have hbyte : ∀ m < 10, UInt8.ofNat (m <<< 4 ||| 0xA) = UInt8.ofNat (16 * m + 0xA) := by decide
      have hpack : bytes.map (packDigits ∘ fun b => (b.toNat % 16, b.toNat / 16)) = bytes := by
        refine List.map_id'' (fun b => ?_) bytes
        have hsplit : 16 * (b.toNat / 16) + b.toNat % 16 = b.toNat := by omega
        rw [Function.comp_apply, packDigits, hsplit, UInt8.ofNat_toNat]
      refine ⟨byte.toNat / 16, hfirst, bytes.map fun b => (b.toNat % 16, b.toNat / 16), ?_, ?_, ?_⟩
      · rw [List.length_map]
        exact Nat.succ.inj hlength
      · intro pair hpair
        obtain ⟨b, hb, rfl⟩ := List.mem_map.mp hpair
        exact hdigits b hb
      · have hsplit : 16 * (byte.toNat / 16) + 0xA = byte.toNat := by omega
        rw [storedImei, List.map_map, hpack, hbyte _ hfirst, hsplit, UInt8.ofNat_toNat]

/-- The IMEI is packed into eight bytes, which show it again whatever follows them. -/
theorem Imei.encode_decode (imei : Imei) :
    ∃ bytes, encodeImei imei.text = some bytes ∧ bytes.length = 8 ∧
      ∀ rest, decodeImei (bytes ++ rest) = imei.text := by
  obtain ⟨first, hfirst, pairs, hlength, hpairs, htext⟩ := imei.exists_digits
  refine ⟨storedImei first pairs, ?_, ?_, ?_⟩
  · rw [htext, encodeImei_print hfirst hpairs hlength]
  · rw [storedImei, List.length_cons, List.length_map, hlength]
  · intro rest
    rw [htext, decodeImei_stored hfirst hpairs hlength]

theorem HoldsDigits.decode_encode {bytes : Bytes} (hbytes : HoldsDigits bytes) (rest : Bytes) :
    encodeImei (decodeImei (bytes ++ rest)) = some bytes := by
  obtain ⟨first, hfirst, pairs, hlength, hpairs, rfl⟩ := hbytes.exists_digits
  rw [decodeImei_stored hfirst hpairs hlength, encodeImei_print hfirst hpairs hlength]

/-! ### The commands -/

section Storage

variable {platform : Platform} {σ : Kernel} {path : Path} {old : Bytes} {offset : Nat}

theorem nvDataImeiMd5Path_ne (path : Path) : path ≠ nvDataImeiMd5Path path := by
  intro heq
  have hlength := congrArg List.length heq
  rw [nvDataImeiMd5Path, List.length_append] at hlength
  exact absurd hlength (Nat.ne_of_lt (Nat.lt_add_of_pos_right (by decide)))

theorem seekPosition_of_inside (abi : Abi) (hoffset : offset + 8 ≤ xmm616NvDataSize) :
    abi.seekPosition (UInt32.ofNat offset) = offset := by
  rw [xmm616NvDataSize] at hoffset
  have htoNat : (UInt32.ofNat offset).toNat = offset := by
    rw [UInt32.toNat_ofNat']
    omega
  rw [Abi.seekPosition_of_reaches (Or.inr (by rw [htoNat]; omega)), htoNat]

/-- The data with eight bytes replaced, and the digest file that belongs to them. -/
def imeiWritten (platform : Platform) (fs : FileSystem) (path : Path) (data : Bytes) : FileSystem :=
  (fs.put path data).put (nvDataImeiMd5Path path) (digestText platform xmm616NvDataSecret data)

/-- Eight bytes are written before the size is looked at; only data of the right size gets its digest. -/
theorem wp_writeImei_anywhere {imei : Imei} {Q : Option Int → Kernel → Prop} {bytes : Bytes}
    {position : Nat} (hbytes : encodeImei imei.text = some bytes) (hsize : bytes.length = 8)
    (hposition : platform.abi.seekPosition (UInt32.ofNat offset) = position)
    (hdone : (splice ((σ.files path).getD []) position bytes).length = xmm616NvDataSize → ∀ σ',
      σ'.files = imeiWritten platform σ.files path (splice ((σ.files path).getD []) position bytes) →
      Q (some 0) σ')
    (hrefused : (splice ((σ.files path).getD []) position bytes).length ≠ xmm616NvDataSize → ∀ σ',
      σ'.files = σ.files.write path position bytes → Q (some (-1)) σ') :
    wp (fun _ => True) (writeImei platform path offset imei.text) Q σ := by
  rw [writeImei, if_neg (not_not.mpr imei.length_eq), hbytes]
  apply wp_bind
  apply wp_fileDataWrite (by omega) le_rfl trivial (fun _ _ => trivial)
  intro σ₁ hσ₁
  rw [hposition] at hσ₁
  have hpath : σ₁.files path = some (splice ((σ.files path).getD []) position bytes) := by
    rw [hσ₁, FileSystem.write, FileSystem.put_self]
  apply wp_bind
  apply wp_ipcNvDataMd5Calculate (by decide) (by decide) trivial
  · intro data hdata hlength σ₂ hσ₂
    rw [hpath] at hdata
    obtain rfl := Option.some.inj hdata
    have hdigest : 0 < (digestText platform xmm616NvDataSecret
        (splice ((σ.files path).getD []) position bytes)).length := by
      rw [length_digestText]
      decide
    apply wp_replace hdigest le_rfl trivial (fun _ _ => trivial)
    intro σ₃ hσ₃
    rw [hσ₂, hσ₁] at hσ₃
    exact wp_pure trivial (hdone hlength σ₃ hσ₃)
  · intro hno σ₂ hσ₂
    exact wp_pure trivial (hrefused (fun hlength => hno ⟨_, hpath, hlength⟩) σ₂ (hσ₂.trans hσ₁))

theorem wp_writeImei {imei : Imei} {Q : Option Int → Kernel → Prop} {bytes : Bytes}
    (hbytes : encodeImei imei.text = some bytes) (hsize : bytes.length = 8)
    (hold : σ.files path = some old) (hlength : old.length = xmm616NvDataSize)
    (hoffset : offset + 8 ≤ xmm616NvDataSize)
    (hQ : ∀ σ', σ'.files = imeiWritten platform σ.files path (splice old offset bytes) →
      Q (some 0) σ') :
    wp (fun _ => True) (writeImei platform path offset imei.text) Q σ := by
  have hcontent : (σ.files path).getD [] = old := by rw [hold, Option.getD_some]
  have hnew : (splice old offset bytes).length = xmm616NvDataSize := by
    rw [length_splice_of_le (by omega), hlength]
  apply wp_writeImei_anywhere hbytes hsize (seekPosition_of_inside platform.abi hoffset)
  · rw [hcontent]
    exact fun _ => hQ
  · rw [hcontent]
    exact fun hne => absurd hnew hne

theorem wp_readImei {Q : Option Int × Option CString → Kernel → Prop} {data : Bytes}
    (hdata : σ.files path = some data) (hlength : data.length = xmm616NvDataSize)
    (hoffset : offset + 8 ≤ xmm616NvDataSize)
    (hQ : ∀ σ', σ'.files = σ.files → Q (some 0, some (decodeImei (data.drop offset))) σ') :
    wp (fun _ => True) (readImei platform path offset) Q σ := by
  rw [readImei]
  apply wp_bind
  apply wp_fileDataRead_whole hdata hlength (by decide) (by decide) trivial
  intro σ' hσ'
  dsimp only
  rw [if_pos (show offset + imeiBufferLength ≤ data.length from hlength ▸ hoffset)]
  exact wp_pure trivial (hQ σ' hσ')

theorem drop_splice {bytes : Bytes} (hle : offset + bytes.length ≤ old.length) :
    (splice old offset bytes).drop offset = bytes ++ old.drop (offset + bytes.length) := by
  by_cases hbytes : bytes = []
  · rw [hbytes, splice_nil, List.length_nil, Nat.add_zero, List.nil_append]
  · have htake : (old.take offset).length = offset := List.length_take_of_le (by omega)
    have hgap : offset - old.length = 0 := by omega
    rw [splice_of_ne_nil hbytes, hgap, List.replicate_zero, List.append_nil, List.append_assoc,
      List.drop_append, htake, Nat.sub_self, List.drop_zero, List.drop_of_length_le htake.le,
      List.nil_append]

/-- What `ipc_nv_data_check` answers about the two files. -/
def nvDataPairCheck (platform : Platform) (path : Path) : Sys Int :=
  let client : IpcClient := ⟨some
    { nvDataPath := some path
      nvDataMd5Path := some (nvDataImeiMd5Path path)
      nvDataBackupPath := none
      nvDataBackupMd5Path := none
      nvDataSecret := some xmm616NvDataSecret
      nvDataSize := xmm616NvDataSize
      nvDataChunkSize := xmm616NvDataChunkSize }⟩
  ipcNvDataCheck platform (some client)

/-- What a write of an IMEI leaves behind, for whoever looks at the disk afterwards. -/
structure ImeiStored (platform : Platform) (path : Path) (old : Bytes) (offset : Nat) (imei : Imei)
    (fs : FileSystem) : Prop where
  shown : ∀ σ : Kernel, σ.files = fs → ∀ choices,
    ((readImei platform path offset).run choices σ).1 = (some 0, some imei.text)
  content : ∃ data, fs path = some data ∧ data.length = old.length ∧
    (∀ k, k < offset ∨ offset + 8 ≤ k → data[k]? = old[k]?) ∧
    fs (nvDataImeiMd5Path path) =
      some (hexDigits (platform.md5 (data ++ xmm616NvDataSecret)).val)
  checked : ∀ σ : Kernel, σ.files = fs → (nvDataPairCheck platform path).Passes σ

theorem imeiStored {imei : Imei} {fs : FileSystem} {bytes : Bytes} (hsize : bytes.length = 8)
    (hdecode : ∀ rest, decodeImei (bytes ++ rest) = imei.text)
    (hlength : old.length = xmm616NvDataSize) (hoffset : offset + 8 ≤ xmm616NvDataSize) :
    ImeiStored platform path old offset imei
      (imeiWritten platform fs path (splice old offset bytes)) := by
  have hnew : (splice old offset bytes).length = old.length := length_splice_of_le (by omega)
  have hdata : imeiWritten platform fs path (splice old offset bytes) path =
      some (splice old offset bytes) := by
    rw [imeiWritten, FileSystem.put_of_ne (nvDataImeiMd5Path_ne path), FileSystem.put_self]
  have hdigest : imeiWritten platform fs path (splice old offset bytes) (nvDataImeiMd5Path path) =
      some (digestText platform xmm616NvDataSecret (splice old offset bytes)) := by
    rw [imeiWritten, FileSystem.put_self]
  refine ⟨?_, ⟨splice old offset bytes, hdata, hnew, ?_, hdigest⟩, ?_⟩
  · intro σ hσ choices
    refine wp_run (Q := fun answer _ => answer = (some 0, some imei.text))
      (wp_readImei (hσ ▸ hdata) (hnew.trans hlength) hoffset fun _ _ => ?_) choices
    rw [drop_splice (by omega), hdecode]
  · intro k hk
    have hbytes : bytes ≠ [] := List.ne_nil_of_length_pos (by omega)
    rw [getElem?_splice hbytes]
    rcases hk with hk | hk
    · rw [if_pos hk, if_pos (by omega)]
    · rw [if_neg (by omega), if_neg (by omega)]
  · intro σ hσ choices
    have hpair : PairHolds platform xmm616NvDataSecret xmm616NvDataSize path
        (nvDataImeiMd5Path path) σ.files (splice old offset bytes) :=
      ⟨hσ ▸ hdata, hnew.trans hlength, hσ ▸ hdigest⟩
    have hchunk : 0 < xmm616NvDataChunkSize := by decide
    have hle : xmm616NvDataChunkSize ≤ xmm616NvDataSize := by decide
    exact wp_run (wp_nvDataDigestCheck (I := fun _ => True) (Q := fun rc _ => rc = 0) hchunk hle
      trivial (fun _ _ _ _ => rfl) (fun hno => absurd ⟨_, hpair⟩ hno)) choices

end Storage

/-- Writing an IMEI into complete NV data succeeds however the transfers go. The command that reads it
shows the same IMEI, the other bytes are as before, and the digest is the one of the new data. A stored
IMEI that is shown and packed again gives the bytes it was stored in. -/
theorem imei_round_trip :
    (∀ (platform : Platform) (path : Path) (imei : Imei) (old : Bytes) (offset : Nat) (σ : Kernel)
        (choices : Stream' Nat),
      σ.files path = some old → old.length = xmm616NvDataSize → offset + 8 ≤ xmm616NvDataSize →
        ((writeImei platform path offset imei.text).run choices σ).1 = some 0 ∧
          ImeiStored platform path old offset imei
            ((writeImei platform path offset imei.text).run choices σ).2.files) ∧
      ∀ bytes rest : Bytes, HoldsDigits bytes →
        encodeImei (decodeImei (bytes ++ rest)) = some bytes := by
  refine ⟨?_, fun bytes rest hbytes => hbytes.decode_encode rest⟩
  intro platform path imei old offset σ choices hold hlength hoffset
  obtain ⟨bytes, hbytes, hsize, hdecode⟩ := imei.encode_decode
  refine wp_run (Q := fun rc σ' => rc = some 0 ∧ ImeiStored platform path old offset imei σ'.files)
    (wp_writeImei hbytes hsize hold hlength hoffset fun σ' hσ' => ⟨rfl, ?_⟩) choices
  rw [hσ']
  exact imeiStored hsize hdecode hlength hoffset

/-- The IMEI of the tests of the tool. -/
def sampleImei : Imei where
  text := cString "123456789012345"
  length_eq := by decide
  digits := List.all_iff_forall_prop.mp (by decide)

def sampleImeiPath : Path := cString "/efs/nv_data.bin"

/-- A device with blank NV data. -/
def sampleImeiKernel : Kernel :=
  .boot (FileSystem.put (fun _ => none) sampleImeiPath (List.replicate xmm616NvDataSize 0))

/-- The MD5 of the blank data with the test IMEI at `0x100` and of the secret. -/
def sampleImeiDigest : Digest :=
  ⟨[0x2f, 0xd3, 0x8d, 0x72, 0xf0, 0xb1, 0xdd, 0xe4, 0x2c, 0x3b, 0x06, 0x5f, 0x50, 0xae, 0x98,
    0x5a], rfl⟩

/-- Built for a 32-bit device. The digest is asked for once, of the data just written. -/
def sampleImeiPlatform : Platform := ⟨.ilp32, fun _ => sampleImeiDigest⟩

theorem imei_round_trip_sample :
    ((writeImei sampleImeiPlatform sampleImeiPath 0x100 sampleImei.text).run (Stream'.const 0)
        sampleImeiKernel).1 = some 0 ∧
      ImeiStored sampleImeiPlatform sampleImeiPath (List.replicate xmm616NvDataSize 0) 0x100 sampleImei
        ((writeImei sampleImeiPlatform sampleImeiPath 0x100 sampleImei.text).run (Stream'.const 0)
          sampleImeiKernel).2.files ∧
      encodeImei (decodeImei ([0x1a, 0x32, 0x54, 0x76, 0x98, 0x10, 0x32, 0x54] ++ [])) =
        some [0x1a, 0x32, 0x54, 0x76, 0x98, 0x10, 0x32, 0x54] := by
  have hfile : sampleImeiKernel.files sampleImeiPath = some (List.replicate xmm616NvDataSize 0) := by
    rw [sampleImeiKernel, Kernel.boot_files, FileSystem.put_self]
  obtain ⟨hwrite, hstored⟩ := imei_round_trip.1 sampleImeiPlatform sampleImeiPath sampleImei
    (List.replicate xmm616NvDataSize 0) 0x100 sampleImeiKernel (Stream'.const 0) hfile
    List.length_replicate (by decide)
  have hdigits : HoldsDigits [0x1a, 0x32, 0x54, 0x76, 0x98, 0x10, 0x32, 0x54] := by
    refine ⟨rfl, ?_, ?_⟩
    · rintro first ⟨⟩
      decide
    · exact List.all_iff_forall_prop.mp (by rfl)
  exact ⟨hwrite, hstored, imei_round_trip.2 _ [] hdigits⟩

end SamsungIpc

import Mathlib.Data.Bool.AllAny
import SamsungIpc.CStrings

/-! Hex strings to data and back, `utils.c`: the nibbles of a string are stored through a pointer that
moves on behind each low one. -/

namespace SamsungIpc

/-- `sscanf(text, "%01x", &b)`: blanks are skipped, then one character is read. -/
def sscanf01x (text : CString) : Option Nat := (text.dropWhile isSpace).head?.bind hexValue

def string2dataSize (string : Option CString) : Nat :=
  match string with
  | none => 0
  | some string =>
      let length := string.length
      if length = 0 then 0
      else if length % 2 = 0 then length / 2
      else (length - length % 2) / 2 + 1

/-- `*p |= value`; `none` is a store outside of `data`. -/
def orStore (data : Bytes) (p : Nat) (value : UInt8) : Option Bytes :=
  match data[p]? with
  | none => none
  | some byte => some (data.set p (byte ||| value))

/-- The loop of `string2data`. Of `shift` only the parity is read. -/
def string2dataLoop : CString → Nat → Nat → Bytes → Option Bytes
  | [], _, _, data => some data
  | c :: text, shift, p, data =>
      let b := (sscanf01x (c :: text)).getD 0
      if shift % 2 = 0 then
        (orStore data p (UInt8.ofNat ((b &&& 0x0f) <<< 4))).bind
          (string2dataLoop text (shift + 1) p)
      else
        (orStore data p (UInt8.ofNat (b &&& 0x0f))).bind (string2dataLoop text (shift + 1) (p + 1))

/-- The pointer that is returned, `none` for `NULL`, with what it points to. The outer `none` is a store
outside of the allocation. -/
def string2data (string : Option CString) : Option (Option Bytes) :=
  match string with
  | none => some none
  | some text =>
      let length := text.length
      if length = 0 then some none
      else
        let shift := if length % 2 = 0 then 0 else 1
        let size := string2dataSize string
        if size = 0 then some none
        else (string2dataLoop text shift 0 (List.replicate size 0)).map some

/-- `isxdigit`. -/
def isXDigit (c : UInt8) : Prop :=
  (0x30 ≤ c ∧ c ≤ 0x39) ∨ (0x61 ≤ c ∧ c ≤ 0x66) ∨ (0x41 ≤ c ∧ c ≤ 0x46)

instance (c : UInt8) : Decidable (isXDigit c) := decidable_of_iff (_ ∨ _ ∨ _) Iff.rfl

/-- `tolower` in the C locale. -/
def toLower (c : UInt8) : UInt8 := if 0x41 ≤ c ∧ c ≤ 0x5a then c + 0x20 else c

/-! ### One digit -/

theorem isXDigit_hexDigit : ∀ n < 16, isXDigit (hexDigit n) := by decide

theorem toLower_hexDigit : ∀ n < 16, toLower (hexDigit n) = hexDigit n := by decide

/-- A character that is scanned as a nibble and is, in lower case, the one printed for it. -/
def ScansAs (c : UInt8) (n : Nat) : Prop :=
  isSpace c = false ∧ hexValue c = some n ∧ toLower c = hexDigit n

instance (c : UInt8) (n : Nat) : Decidable (ScansAs c n) := decidable_of_iff (_ ∧ _ ∧ _) Iff.rfl

theorem scansAs_decimal : ∀ n < 10, ScansAs (UInt8.ofNat (0x30 + n)) n := by decide

theorem scansAs_lower : ∀ n < 6, ScansAs (UInt8.ofNat (0x61 + n)) (n + 10) := by decide

theorem scansAs_upper : ∀ n < 6, ScansAs (UInt8.ofNat (0x41 + n)) (n + 10) := by decide

/-- A byte in a range is counted from the start of the range. -/
theorem exists_ofNat_add (low high : Nat) {c : UInt8} (hlow : UInt8.ofNat low ≤ c)
    (hhigh : c ≤ UInt8.ofNat high) (hbyte : high < 256) (hle : low ≤ high) :
    ∃ n ≤ high - low, c = UInt8.ofNat (low + n) := by
  rw [UInt8.le_iff_toNat_le, UInt8.toNat_ofNat'] at hlow hhigh
  rw [Nat.mod_eq_of_lt (by omega)] at hlow hhigh
  refine ⟨c.toNat - low, by omega, ?_⟩
  rw [Nat.add_sub_of_le hlow, UInt8.ofNat_toNat]

theorem exists_scansAs {c : UInt8} (hc : isXDigit c) : ∃ n < 16, ScansAs c n := by
  rcases hc with ⟨hlow, hhigh⟩ | ⟨hlow, hhigh⟩ | ⟨hlow, hhigh⟩
  · obtain ⟨n, hn, rfl⟩ := exists_ofNat_add 0x30 0x39 hlow hhigh (by decide) (by decide)
    exact ⟨n, by omega, scansAs_decimal n (by omega)⟩
  · obtain ⟨n, hn, rfl⟩ := exists_ofNat_add 0x61 0x66 hlow hhigh (by decide) (by decide)
    exact ⟨n + 10, by omega, scansAs_lower n (by omega)⟩
  · obtain ⟨n, hn, rfl⟩ := exists_ofNat_add 0x41 0x46 hlow hhigh (by decide) (by decide)
    exact ⟨n + 10, by omega, scansAs_upper n (by omega)⟩

theorem ScansAs.sscanf01x {c : UInt8} {n : Nat} (hc : ScansAs c n) (text : CString) :
    sscanf01x (c :: text) = some n := by
  obtain ⟨hspace, hvalue, _⟩ := hc
  rw [SamsungIpc.sscanf01x, List.dropWhile_cons_of_neg (by simp [hspace]), List.head?_cons,
    Option.bind_some, hvalue]

/-! ### The loop -/

theorem orStore_append (done : Bytes) (byte value : UInt8) (rest : Bytes) :
    orStore (done ++ byte :: rest) done.length value = some (done ++ (byte ||| value) :: rest) := by
  have hget : (done ++ byte :: rest)[done.length]? = some byte := by simp
  rw [orStore, hget]
  dsimp only
  rw [List.set_append_right _ _ (Nat.le_refl _), Nat.sub_self, List.set_cons_zero]

theorem low_nibble : ∀ n < 16, (0 : UInt8) ||| UInt8.ofNat (n &&& 0x0f) = UInt8.ofNat n := by decide

theorem both_nibbles : ∀ m < 16, ∀ n < 16,
    ((0 : UInt8) ||| UInt8.ofNat ((m &&& 0x0f) <<< 4)) ||| UInt8.ofNat (n &&& 0x0f) =
      UInt8.ofNat (16 * m + n) := by
  decide

theorem sprintf02x_ofNat {m n : Nat} (hm : m < 16) (hn : n < 16) :
    sprintf02x (UInt8.ofNat (16 * m + n)) = [hexDigit m, hexDigit n] := by
  have hbyte : (UInt8.ofNat (16 * m + n)).toNat = 16 * m + n := by
    rw [UInt8.toNat_ofNat']
    omega
  have hhigh : (16 * m + n) / 16 = m := by omega
  have hlow : (16 * m + n) % 16 = n := by omega
  rw [sprintf02x, hbyte, hhigh, hlow]

section Loop

variable {c : UInt8} {n shift : Nat} (text : CString) (done rest : Bytes) (byte : UInt8)

theorem string2dataLoop_high (hc : ScansAs c n) (hshift : shift % 2 = 0) :
    string2dataLoop (c :: text) shift done.length (done ++ byte :: rest) =
      string2dataLoop text (shift + 1) done.length
        (done ++ (byte ||| UInt8.ofNat ((n &&& 0x0f) <<< 4)) :: rest) := by
  rw [string2dataLoop, hc.sscanf01x]
  dsimp only [Option.getD_some]
  rw [if_pos hshift, orStore_append, Option.bind_some]

theorem string2dataLoop_low (hc : ScansAs c n) (hshift : shift % 2 = 1) :
    string2dataLoop (c :: text) shift done.length (done ++ byte :: rest) =
      string2dataLoop text (shift + 1) (done ++ [byte ||| UInt8.ofNat (n &&& 0x0f)]).length
        ((done ++ [byte ||| UInt8.ofNat (n &&& 0x0f)]) ++ rest) := by
  rw [string2dataLoop, hc.sscanf01x]
  dsimp only [Option.getD_some]
  rw [if_neg (by omega), orStore_append, Option.bind_some, List.length_append, List.append_assoc]
  rfl

end Loop

/-- Digits from a high nibble on fill the zeros behind what is done, two to a byte. -/
theorem string2dataLoop_pairs {k : Nat} {text : CString} (hlength : text.length = 2 * k)
    (hdigits : ∀ c ∈ text, isXDigit c) :
    ∃ data : Bytes, data.length = k ∧ hexDigits data = text.map toLower ∧
      ∀ (done : Bytes) (shift : Nat), shift % 2 = 0 →
        string2dataLoop text shift done.length (done ++ List.replicate k 0) = some (done ++ data) := by
  induction k generalizing text with
  | zero =>
      obtain rfl := List.length_eq_zero_iff.mp hlength
      exact ⟨[], rfl, rfl, fun done shift _ => rfl⟩
  | succ k ih =>
      match text, hlength, hdigits with
      | a :: b :: text, hlength, hdigits =>
          rw [List.forall_mem_cons, List.forall_mem_cons] at hdigits
          obtain ⟨ha, hb, hrest⟩ := hdigits
          obtain ⟨m, hm, ha⟩ := exists_scansAs ha
          obtain ⟨n, hn, hb⟩ := exists_scansAs hb
          obtain ⟨data, hdata, htext, hloop⟩ := ih
            (show text.length = 2 * k by simpa [Nat.mul_add] using hlength) hrest
          have hprinted : hexDigits (UInt8.ofNat (16 * m + n) :: data) =
              sprintf02x (UInt8.ofNat (16 * m + n)) ++ hexDigits data := rfl
          refine ⟨UInt8.ofNat (16 * m + n) :: data, congrArg (· + 1) hdata, ?_, ?_⟩
          · rw [hprinted, sprintf02x_ofNat hm hn, htext, List.map_cons, List.map_cons, ha.2.2, hb.2.2]
            rfl
          · intro done shift hshift
            rw [List.replicate_succ, string2dataLoop_high _ _ _ _ ha hshift,
              string2dataLoop_low _ _ _ _ hb (by omega), both_nibbles m hm n hn,
              hloop _ _ (by omega), List.append_assoc]
            rfl

/-- An odd digit in front is a byte of its own, under a high nibble that stays zero. -/
theorem string2dataLoop_odd {k : Nat} {c : UInt8} {text : CString} (hc : isXDigit c)
    (hlength : text.length = 2 * k) (hdigits : ∀ c ∈ text, isXDigit c) :
    ∃ data : Bytes, data.length = k + 1 ∧
      hexDigits data = 0x30 :: (c :: text).map toLower ∧
      string2dataLoop (c :: text) 1 0 (List.replicate (k + 1) 0) = some data := by
  obtain ⟨n, hn, hc⟩ := exists_scansAs hc
  obtain ⟨data, hdata, htext, hloop⟩ := string2dataLoop_pairs hlength hdigits
  have hprinted : hexDigits (UInt8.ofNat n :: data) =
      sprintf02x (UInt8.ofNat n) ++ hexDigits data := rfl
  have hdigit : sprintf02x (UInt8.ofNat n) = [0x30, toLower c] := by
    have h := sprintf02x_ofNat (m := 0) (by decide) hn
    rwa [Nat.mul_zero, Nat.zero_add, ← hc.2.2] at h
  refine ⟨UInt8.ofNat n :: data, congrArg (· + 1) hdata, ?_, ?_⟩
  · rw [hprinted, hdigit, htext]
    rfl
  · have hstep := string2dataLoop_low text [] (List.replicate k 0) 0 hc (show 1 % 2 = 1 from rfl)
    rw [low_nibble n hn, hloop _ _ rfl] at hstep
    exact hstep

/-! ### Round trips -/

/-- A string of hex digits is converted to data that is printed as the string, in lower case and filled up
to whole bytes. -/
theorem exists_string2data {text : CString} (htext : text ≠ [])
    (hdigits : ∀ c ∈ text, isXDigit c) :
    ∃ data : Bytes, string2data (some text) = some (some data) ∧
      data.length = string2dataSize (some text) ∧ data ≠ [] ∧
      hexDigits data = (if text.length % 2 = 0 then [] else [0x30]) ++ text.map toLower := by
  have hpos : 0 < text.length := List.length_pos_iff.mpr htext
  by_cases heven : text.length % 2 = 0
  · obtain ⟨k, hk⟩ : ∃ k, text.length = 2 * k := ⟨text.length / 2, by omega⟩
    have hsize : string2dataSize (some text) = k := by
      simp only [string2dataSize]
      rw [if_neg (by omega), if_pos heven]
      omega
    obtain ⟨data, hdata, hprinted, hloop⟩ := string2dataLoop_pairs hk hdigits
    refine ⟨data, ?_, hdata.trans hsize.symm, List.ne_nil_of_length_pos (by omega), ?_⟩
    · have hrun := hloop [] 0 rfl
      rw [List.nil_append, List.nil_append, List.length_nil] at hrun
      simp only [string2data]
      rw [if_neg (by omega), hsize, if_neg (by omega), if_pos heven, hrun, Option.map_some]
    · rw [if_pos heven, hprinted, List.nil_append]
  · match text, hpos, hdigits with
    | c :: text, _, hdigits =>
        obtain ⟨hc, hrest⟩ := List.forall_mem_cons.mp hdigits
        rw [List.length_cons] at heven
        obtain ⟨k, hk⟩ : ∃ k, text.length = 2 * k := ⟨text.length / 2, by omega⟩
        have hsize : string2dataSize (some (c :: text)) = k + 1 := by
          simp only [string2dataSize, List.length_cons]
          rw [if_neg (by omega), if_neg heven]
          omega
        obtain ⟨data, hdata, hprinted, hloop⟩ := string2dataLoop_odd hc hk hrest
        refine ⟨data, ?_, hdata.trans hsize.symm, List.ne_nil_of_length_pos (by omega), ?_⟩
        · simp only [string2data, List.length_cons]
          rw [if_neg (by omega), hsize, if_neg (by omega), if_neg heven, hloop, Option.map_some]
        · rw [List.length_cons, if_neg heven, hprinted]
          rfl

theorem mem_hexDigits {data : Bytes} {c : UInt8} (hc : c ∈ hexDigits data) :
    ∃ n < 16, c = hexDigit n := by
  obtain ⟨byte, _, hbyte⟩ := List.mem_flatMap.mp hc
  have hlt := byte.toNat_lt
  rcases List.mem_pair.mp hbyte with rfl | rfl
  · exact ⟨_, by omega, rfl⟩
  · exact ⟨_, by omega, rfl⟩

/-- The lower-case hex digits. -/
def IsLowerXDigit (c : UInt8) : Prop := isXDigit c ∧ toLower c = c

theorem isLowerXDigit_of_mem {data : Bytes} {c : UInt8} (hc : c ∈ hexDigits data) :
    IsLowerXDigit c := by
  obtain ⟨n, hn, rfl⟩ := mem_hexDigits hc
  exact ⟨isXDigit_hexDigit n hn, toLower_hexDigit n hn⟩

theorem map_toLower_hexDigits (data : Bytes) : (hexDigits data).map toLower = hexDigits data :=
  (List.map_congr_left fun _ hc => (isLowerXDigit_of_mem hc).2).trans (List.map_id _)

/-- Data printed in hex is converted back to the same data, and a string of hex digits to data that is
printed as the string: in lower case, and behind a zero if one nibble is missing. No store is outside of
the allocation, which is as long as the data. -/
theorem hex_round_trip :
    (∀ data : Bytes, data ≠ [] → ∃ text, data2string (some data) = some text ∧
      text.length = 2 * data.length ∧ (∀ c ∈ text, IsLowerXDigit c) ∧
      string2dataSize (some text) = data.length ∧ string2data (some text) = some (some data)) ∧
    ∀ text : CString, text ≠ [] → (∀ c ∈ text, isXDigit c) →
      ∃ data, string2data (some text) = some (some data) ∧
        data.length = string2dataSize (some text) ∧
        data2string (some data) =
          some ((if text.length % 2 = 0 then [] else [0x30]) ++ text.map toLower) := by
  constructor
  · intro data hdata
    have hpos : 0 < data.length := List.length_pos_iff.mpr hdata
    have htext : hexDigits data ≠ [] :=
      List.ne_nil_of_length_pos (by rw [length_hexDigits]; omega)
    obtain ⟨back, hback, hsize, _, hprinted⟩ :=
      exists_string2data htext fun c hc => (isLowerXDigit_of_mem hc).1
    rw [length_hexDigits, if_pos (by omega), List.nil_append, map_toLower_hexDigits] at hprinted
    obtain rfl := hexDigits_injective hprinted
    exact ⟨hexDigits back, data2string_of_length_pos hpos, length_hexDigits back,
      fun c hc => isLowerXDigit_of_mem hc, hsize.symm, hback⟩
  · intro text htext hdigits
    obtain ⟨data, hdata, hsize, hne, hprinted⟩ := exists_string2data htext hdigits
    refine ⟨data, hdata, hsize, ?_⟩
    rw [data2string_of_length_pos (List.length_pos_iff.mpr hne), hprinted]

/-- `ff00` for two bytes, and three digits in both cases. -/
theorem hex_round_trip_sample :
    (∃ text, data2string (some [0xff, 0x00]) = some text ∧ text.length = 4 ∧
      (∀ c ∈ text, IsLowerXDigit c) ∧ string2dataSize (some text) = 2 ∧
      string2data (some text) = some (some [0xff, 0x00])) ∧
    ∃ data, string2data (some (cString "aB1")) = some (some data) ∧
      data.length = string2dataSize (some (cString "aB1")) ∧
      data2string (some data) =
        some ((if (cString "aB1").length % 2 = 0 then [] else [0x30]) ++
          (cString "aB1").map toLower) := by
  refine ⟨hex_round_trip.1 [0xff, 0x00] (by decide), hex_round_trip.2 (cString "aB1") (by decide) ?_⟩
  exact List.all_iff_forall_prop.mp (by decide)

end SamsungIpc

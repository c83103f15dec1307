import SamsungIpc.DataDump

/-! The lines of a hex dump, and how far they reach into the arrays. -/

namespace SamsungIpc

open TextBuffer

/-! ### What is printed -/

def columnText : Option UInt8 → CString
  | none => [0x20, 0x20]
  | some byte => sprintf02X byte

def gapText (j : Nat) : CString := if j ≠ dumpCols - 1 then [0x20] else []

/-- The hex columns from `j` on, for the bytes that are left. -/
def columnsText (bytes : Bytes) : Nat → Nat → CString
  | 0, _ => []
  | count + 1, j => columnText bytes.head? ++ gapText j ++ columnsText bytes.tail count (j + 1)

/-- The sixteen hex columns. -/
def dataText (bytes : Bytes) : CString :=
  columnsText bytes 8 0 ++ [0x20, 0x20] ++ columnsText (bytes.drop 8) 8 0

def asciiText (bytes : Bytes) : CString :=
  (bytes.take 8).map printable ++ (if 8 < bytes.length then [0x20] else []) ++
    ((bytes.drop 8).take 8).map printable

def spaces : CString := List.replicate dumpSpacer 0x20

/-- The line at an offset, for the bytes from there on. -/
def lineText (offset : Nat) (bytes : Bytes) : CString :=
  (cString "[" ++ sprintf04x offset ++ cString "]") ++ spaces ++ dataText bytes ++ spaces ++
    asciiText bytes

theorem length_columnText (byte : Option UInt8) : (columnText byte).length = 2 := by
  cases byte <;> rfl

theorem length_columnsText (bytes : Bytes) {count j : Nat} (hj : j + count = 8) (hcount : 0 < count) :
    (columnsText bytes count j).length + 1 = 3 * count := by
  induction count generalizing bytes j with
  | zero => omega
  | succ count ih =>
      rw [columnsText, List.length_append, List.length_append, length_columnText, gapText]
      by_cases hlast : count = 0
      · subst hlast
        rw [if_neg (by rw [dumpCols]; omega)]
        rfl
      · have hrest := ih bytes.tail (show j + 1 + count = 8 by omega) (by omega)
        rw [if_pos (by rw [dumpCols]; omega), List.length_singleton]
        omega

theorem length_dataText (bytes : Bytes) : (dataText bytes).length = 48 := by
  have hfirst := length_columnsText bytes (show 0 + 8 = 8 from rfl) (by decide)
  have hsecond := length_columnsText (bytes.drop 8) (show 0 + 8 = 8 from rfl) (by decide)
  rw [dataText, List.length_append, List.length_append, List.length_cons, List.length_singleton]
  omega

theorem length_asciiText (bytes : Bytes) :
    (asciiText bytes).length = min bytes.length 16 + if 8 < bytes.length then 1 else 0 := by
  rw [asciiText, List.length_append, List.length_append, List.length_map, List.length_map,
    List.length_take, List.length_take, List.length_drop]
  split
  · rw [List.length_singleton]
    omega
  · rw [List.length_nil]
    omega

/-- The offset takes its eighth digit only where it has one. -/
theorem length_sprintf04x_le {offset : Nat} (hoffset : offset < 2 ^ 28) :
    (sprintf04x offset).length ≤ 7 := by
  have hdigit : offset / 16 ^ 7 % 16 = 0 := by omega
  rw [sprintf04x, List.length_map, List.length_append,
    List.dropWhile_cons_of_pos (by rwa [decide_eq_true_eq])]
  have hle := (List.dropWhile_sublist (fun k => offset / 16 ^ k % 16 = 0) (l := [6, 5, 4])).length_le
  simp only [List.length_cons, List.length_nil] at hle ⊢
  omega

theorem length_sprintf04x_large {offset : Nat} (hlow : 2 ^ 28 ≤ offset) (hhigh : offset < 2 ^ 32) :
    (sprintf04x offset).length = 8 := by
  have hdigit : offset / 16 ^ 7 % 16 ≠ 0 := by omega
  rw [sprintf04x, List.length_map, List.length_append,
    List.dropWhile_cons_of_neg (by rwa [decide_eq_true_eq])]
  rfl

theorem length_sprintf04x (offset : Nat) : (sprintf04x offset).length ≤ 8 := by
  have hle := (List.dropWhile_sublist (fun k => offset / 16 ^ k % 16 = 0)
    (l := [7, 6, 5, 4])).length_le
  rw [sprintf04x, List.length_map, List.length_append]
  simp only [List.length_cons, List.length_nil] at hle ⊢
  omega

theorem length_spaces : spaces.length = 3 := by decide

/-- The offset is printed in brackets. -/
theorem length_brackets (text : CString) : (cString "[" ++ text ++ cString "]").length = text.length + 2 := by
  have hopen : (cString "[").length = 1 := by decide
  have hclose : (cString "]").length = 1 := by decide
  rw [List.length_append, List.length_append, hopen, hclose]
  omega

theorem length_lineText (offset : Nat) (bytes : Bytes) :
    (lineText offset bytes).length = (sprintf04x offset).length + 56 + (asciiText bytes).length := by
  rw [lineText, List.length_append, List.length_append, List.length_append, List.length_append,
    length_brackets, length_dataText, length_spaces]

/-! ### The steps -/

/-- The text is in `string`, and the counters have reached an offset. -/
structure Stands (s : DumpState) (text : CString) (offset rollback : Nat) : Prop where
  written : Written s.string text dumpStringSize
  p_eq : s.p = offset
  offset_eq : s.offset = offset
  rollback_eq : s.rollback = rollback

/-- Behind the text and at the offset, the step prints some more and moves on. -/
def Adds (step : Dump Unit) (text : CString) (offset rollback : Nat) (printed : CString) (moved : Nat) :
    Prop :=
  ∀ s, Stands s text offset rollback → ∃ s', step s = .ok ((), s') ∧
    Stands s' (text ++ printed) (offset + moved) (rollback + moved)

section Steps

variable {text printed : CString} {offset rollback moved : Nat}

theorem adds_pure : Adds (pure ()) text offset rollback [] 0 := by
  intro s hs
  refine ⟨s, rfl, ?_⟩
  rwa [List.append_nil]

theorem Adds.then {first second : Dump Unit} {more : CString} {further : Nat}
    (hfirst : Adds first text offset rollback printed moved)
    (hsecond : Adds second (text ++ printed) (offset + moved) (rollback + moved) more further) :
    Adds (first >>= fun _ => second) text offset rollback (printed ++ more) (moved + further) := by
  intro s hs
  obtain ⟨s₁, hrun₁, hs₁⟩ := hfirst s hs
  obtain ⟨s₂, hrun₂, hs₂⟩ := hsecond s₁ hs₁
  refine ⟨s₂, ?_, ?_⟩
  · change (first s >>= fun result => second result.2) = _
    rw [hrun₁]
    exact hrun₂
  · rwa [← List.append_assoc, ← Nat.add_assoc, ← Nat.add_assoc]

theorem adds_get {next : DumpState → Dump Unit}
    (hnext : ∀ s, Stands s text offset rollback → Adds (next s) text offset rollback printed moved) :
    Adds (get >>= next) text offset rollback printed moved :=
  fun s hs => hnext s hs s hs

theorem adds_putChar (hroom : text.length < dumpStringSize) (c : UInt8) :
    Adds (putChar c) text offset rollback [c] 0 := by
  intro s hs
  obtain ⟨string, hput, hwritten⟩ := hs.written.put hroom c
  refine ⟨{ s with string := string }, ?_, hwritten, hs.p_eq, hs.offset_eq, hs.rollback_eq⟩
  rw [putChar, onString, hput]

theorem adds_snprintf (hroom : text.length + printed.length < dumpStringSize) :
    Adds (snprintf printed) text offset rollback printed 0 := by
  intro s hs
  obtain ⟨string, hprint, hwritten⟩ := hs.written.print hroom
  refine ⟨{ s with string := string }, ?_, hwritten, hs.p_eq, hs.offset_eq, hs.rollback_eq⟩
  rw [snprintf, onString, hprint]

theorem adds_putSpaces (count : Nat) (hroom : text.length + count ≤ dumpStringSize) :
    Adds (putSpaces count) text offset rollback (List.replicate count 0x20) 0 := by
  induction count generalizing text with
  | zero => exact adds_pure
  | succ count ih =>
      have hnext : (text ++ [0x20]).length = text.length + 1 := List.length_append
      exact (adds_putChar (by omega) 0x20).then (ih (by omega))

theorem adds_load {data : Bytes} {byte : UInt8} {next : UInt8 → Dump Unit}
    (hbyte : data[offset]? = some byte) (hnext : Adds (next byte) text offset rollback printed moved) :
    Adds (load data >>= next) text offset rollback printed moved := by
  intro s hs
  have hload : load data s = .ok (byte, s) := by rw [load, hs.p_eq, hbyte]
  obtain ⟨s', hrun, hs'⟩ := hnext s hs
  refine ⟨s', ?_, hs'⟩
  change (load data s >>= fun result => next result.1 result.2) = _
  rw [hload]
  exact hrun

theorem adds_advance (hoffset : offset + 1 < 2 ^ 32) : Adds advance text offset rollback [] 1 := by
  intro s hs
  refine ⟨_, rfl, ?_, ?_, ?_, ?_⟩
  · rw [List.append_nil]
    exact hs.written
  · exact congrArg (· + 1) hs.p_eq
  · change (s.offset + 1) % 2 ^ 32 = offset + 1
    rw [hs.offset_eq, Nat.mod_eq_of_lt hoffset]
  · exact congrArg (· + 1) hs.rollback_eq

end Steps

/-! ### The parts of a line -/

section Parts

variable {data : Bytes} {text : CString} {offset rollback : Nat}

/-- So many bytes further in the data, or at their end. -/
theorem drop_add_min (data : Bytes) (offset count : Nat) :
    data.drop (offset + min count (data.length - offset)) = (data.drop offset).drop count := by
  rw [List.drop_drop]
  by_cases hmore : count ≤ data.length - offset
  · rw [Nat.min_eq_left hmore]
  · rw [List.drop_of_length_le (by omega), List.drop_of_length_le (by omega)]

theorem adds_columnPrint (hsize : data.length < 2 ^ 32) (hroom : text.length + 2 < dumpStringSize) :
    Adds (columnPrint data) text offset rollback (columnText (data.drop offset).head?)
      (min 1 (data.length - offset)) := by
  refine adds_get fun s hs => ?_
  rw [List.head?_drop]
  by_cases hmore : offset < data.length
  · have hbyte : data[offset]? = some data[offset] := List.getElem?_eq_getElem hmore
    have hmoved : min 1 (data.length - offset) = 0 + 1 := by omega
    rw [if_pos (hs.offset_eq ▸ hmore), hbyte, hmoved]
    refine adds_load hbyte ?_
    have hprint : Adds (snprintf (sprintf02X data[offset])) text offset rollback _ 0 :=
      adds_snprintf hroom
    have hstep := hprint.then (adds_advance (show offset + 0 + 1 < 2 ^ 32 by omega))
    rwa [List.append_nil] at hstep
  · have hnone : data[offset]? = none := List.getElem?_eq_none (Nat.not_lt.mp hmore)
    have hmoved : min 1 (data.length - offset) = 0 := by omega
    rw [if_neg (hs.offset_eq ▸ hmore), hnone, hmoved]
    exact adds_putSpaces 2 (by omega)

theorem adds_columnGap {j : Nat} (hroom : text.length < dumpStringSize) :
    Adds (columnGap j) text offset rollback (gapText j) 0 := by
  rw [columnGap, gapText]
  split
  · exact adds_putChar hroom 0x20
  · exact adds_pure

theorem adds_dataColumns {count j : Nat} (hsize : data.length < 2 ^ 32)
    (hroom : text.length + 3 * count < dumpStringSize) :
    Adds (dataColumns data count j) text offset rollback (columnsText (data.drop offset) count j)
      (min count (data.length - offset)) := by
  induction count generalizing text offset rollback j with
  | zero =>
      rw [Nat.zero_min]
      exact adds_pure
  | succ count ih =>
      have hcolumn : (text ++ columnText (data.drop offset).head?).length = text.length + 2 := by
        rw [List.length_append, length_columnText]
      have hgap : (text ++ columnText (data.drop offset).head? ++ gapText j).length ≤
          text.length + 3 := by
        rw [List.length_append, hcolumn, gapText]
        split <;> simp
      have hmoved : min (count + 1) (data.length - offset) = min 1 (data.length - offset) + (0 +
          min count (data.length - (offset + min 1 (data.length - offset) + 0))) := by omega
      have htail : (data.drop offset).tail =
          data.drop (offset + min 1 (data.length - offset) + 0) := by
        rw [Nat.add_zero, drop_add_min, List.drop_one]
      rw [columnsText, hmoved, htail, List.append_assoc]
      exact (adds_columnPrint hsize (by omega)).then
        ((adds_columnGap (by omega)).then (ih (by omega)))

theorem adds_dataPrint (hsize : data.length < 2 ^ 32) (hroom : text.length + 50 < dumpStringSize) :
    Adds (dataPrint data dumpColsCount 0) text offset rollback (dataText (data.drop offset))
      (min 16 (data.length - offset)) := by
  have hgroup : ∀ (text : CString) (offset rollback : Nat), text.length + 24 < dumpStringSize →
      Adds (dataColumns data dumpCols 0) text offset rollback (columnsText (data.drop offset) 8 0)
        (min 8 (data.length - offset)) := fun _ _ _ hroom => adds_dataColumns hsize hroom
  have hfirst : (text ++ columnsText (data.drop offset) 8 0).length = text.length + 23 := by
    have hcolumns := length_columnsText (data.drop offset) (show 0 + 8 = 8 from rfl) (by decide)
    rw [List.length_append]
    omega
  have hgap : (text ++ columnsText (data.drop offset) 8 0 ++ [0x20, 0x20]).length =
      text.length + 25 := by
    rw [List.length_append, hfirst]
    rfl
  have hmoved : min 16 (data.length - offset) = min 8 (data.length - offset) + (0 +
      min 8 (data.length - (offset + min 8 (data.length - offset) + 0))) := by omega
  have hlast : Adds (dataPrint data 1 1) (text ++ columnsText (data.drop offset) 8 0 ++ [0x20, 0x20])
      (offset + min 8 (data.length - offset) + 0) (rollback + min 8 (data.length - offset) + 0)
      (columnsText ((data.drop offset).drop 8) 8 0)
      (min 8 (data.length - (offset + min 8 (data.length - offset) + 0))) := by
    rw [← drop_add_min]
    have hcolumns := (hgroup (text ++ columnsText (data.drop offset) 8 0 ++ [0x20, 0x20])
      (offset + min 8 (data.length - offset) + 0) (rollback + min 8 (data.length - offset) + 0)
      (by omega)).then (adds_pure.then adds_pure)
    rwa [List.append_nil, List.append_nil] at hcolumns
  rw [dataText, hmoved, List.append_assoc]
  exact (hgroup _ _ _ (by omega)).then ((adds_putSpaces 2 (by omega)).then hlast)

theorem adds_asciiColumns {count : Nat} (hsize : data.length < 2 ^ 32)
    (hroom : text.length + min count (data.length - offset) ≤ dumpStringSize) :
    Adds (asciiColumns data count) text offset rollback
      (((data.drop offset).take count).map printable) (min count (data.length - offset)) := by
  induction count generalizing text offset rollback with
  | zero =>
      rw [Nat.zero_min]
      exact adds_pure
  | succ count ih =>
      refine adds_get fun s hs => ?_
      by_cases hmore : offset < data.length
      · have hbyte : data[offset]? = some data[offset] := List.getElem?_eq_getElem hmore
        have hprinted : (text ++ [printable data[offset]] ++ []).length = text.length + 1 := by simp
        have hmoved : min (count + 1) (data.length - offset) =
            0 + (1 + min count (data.length - (offset + 0 + 1))) := by omega
        rw [if_pos (hs.offset_eq ▸ hmore), hmoved, List.drop_eq_getElem_cons hmore,
          List.take_succ_cons, List.map_cons]
        refine adds_load hbyte ?_
        exact (adds_putChar (by omega) _).then ((adds_advance (by omega)).then (ih (by omega)))
      · have hmoved : ∀ n, min n (data.length - offset) = 0 := fun n => by omega
        have hrest : Adds (asciiColumns data count) text offset rollback _ _ := ih (by
          rw [hmoved]
          omega)
        rw [List.drop_of_length_le (by omega), List.take_nil, hmoved] at hrest ⊢
        rw [if_neg (hs.offset_eq ▸ hmore)]
        exact hrest

theorem adds_asciiGap {i : Nat} (hroom : text.length < dumpStringSize ∨ data.length ≤ offset) :
    Adds (asciiGap data i) text offset rollback
      (if i ≠ dumpColsCount - 1 ∧ offset < data.length then [0x20] else []) 0 := by
  refine adds_get fun s hs => ?_
  rw [hs.offset_eq]
  split
  · rename_i hmore
    exact adds_putChar (by omega) 0x20
  · exact adds_pure

theorem adds_asciiPrint (hsize : data.length < 2 ^ 32)
    (hroom : text.length + (asciiText (data.drop offset)).length ≤ dumpStringSize) :
    Adds (asciiPrint data dumpColsCount 0) text offset rollback (asciiText (data.drop offset))
      (min 16 (data.length - offset)) := by
  rw [length_asciiText, List.length_drop] at hroom
  have hmoved : min 16 (data.length - offset) = min 8 (data.length - offset) + (0 +
      (min 8 (data.length - (offset + min 8 (data.length - offset) + 0)) + (0 + 0))) := by omega
  have hfirst : (text ++ ((data.drop offset).take 8).map printable).length =
      text.length + min 8 (data.length - offset) := by
    rw [List.length_append, List.length_map, List.length_take, List.length_drop]
  have hgap : (if 0 ≠ dumpColsCount - 1 ∧ offset + min 8 (data.length - offset) < data.length then
      ([0x20] : CString) else []) = if 8 < (data.drop offset).length then [0x20] else [] := by
    have hiff : (0 ≠ dumpColsCount - 1 ∧ offset + min 8 (data.length - offset) < data.length) ↔
        8 < (data.drop offset).length := by
      rw [and_iff_right (show 0 ≠ dumpColsCount - 1 by decide), List.length_drop]
      omega
    simp only [hiff]
  have hsecond : (text ++ ((data.drop offset).take 8).map printable ++
      (if 8 < (data.drop offset).length then [0x20] else [])).length =
      text.length + min 8 (data.length - offset) + if 8 < data.length - offset then 1 else 0 := by
    rw [List.length_append, hfirst, List.length_drop]
    split <;> rfl
  have hgroup : ∀ (text : CString) (offset rollback : Nat),
      text.length + min 8 (data.length - offset) ≤ dumpStringSize →
      Adds (asciiColumns data dumpCols) text offset rollback
        (((data.drop offset).take 8).map printable) (min 8 (data.length - offset)) :=
    fun _ _ _ hroom => adds_asciiColumns hsize hroom
  have hlast : ∀ (text : CString) (offset rollback : Nat),
      Adds (asciiGap data 1) text offset rollback [] 0 := by
    intro text offset rollback
    refine adds_get fun s hs => ?_
    rw [if_neg (fun h => h.1 rfl)]
    exact adds_pure
  have hmiddle : Adds (asciiGap data 0) (text ++ ((data.drop offset).take 8).map printable)
      (offset + min 8 (data.length - offset)) (rollback + min 8 (data.length - offset)) _ 0 :=
    adds_asciiGap (by omega)
  rw [hgap] at hmiddle
  rw [asciiText, hmoved, List.append_assoc, ← drop_add_min]
  refine (hgroup _ _ _ (by omega)).then (hmiddle.then ?_)
  have hcolumns := (hgroup (text ++ ((data.drop offset).take 8).map printable ++
      (if 8 < (data.drop offset).length then [0x20] else []))
    (offset + min 8 (data.length - offset) + 0) (rollback + min 8 (data.length - offset) + 0)
    (by omega)).then ((hlast _ _ _).then adds_pure)
  rwa [List.append_nil, List.append_nil] at hcolumns

/-- What stands in front of the characters, behind an offset of eight digits at most. -/
theorem adds_hexPrint {head : CString} (hsize : data.length < 2 ^ 32) (hhead : head.length ≤ 10) :
    Adds (do
        snprintf head
        putSpaces dumpSpacer
        dataPrint data dumpColsCount 0
        putSpaces dumpSpacer)
      [] offset 0 (head ++ spaces ++ dataText (data.drop offset) ++ spaces)
      (min 16 (data.length - offset)) := by
  have hspacer : dumpSpacer = 3 := by decide
  have hall : dumpStringSize = 81 := rfl
  have hdata : (head ++ spaces).length = head.length + 3 := by rw [List.length_append, length_spaces]
  have hlast : (head ++ spaces ++ dataText (data.drop offset)).length = head.length + 51 := by
    rw [List.length_append, hdata, length_dataText]
  have hsnprintf : Adds (snprintf head) [] offset 0 head 0 :=
    adds_snprintf (by rw [List.length_nil]; omega)
  have hsteps := hsnprintf.then ((adds_putSpaces dumpSpacer (show head.length + _ ≤ _ by omega)).then
    ((adds_dataPrint hsize (show (head ++ spaces).length + 50 < _ by omega)).then
      (adds_putSpaces dumpSpacer
        (show (head ++ spaces ++ dataText (data.drop offset)).length + _ ≤ _ by omega))))
  simp only [Nat.add_zero, Nat.zero_add] at hsteps
  rwa [← List.append_assoc, ← List.append_assoc] at hsteps

theorem Adds.continue {first : Dump Unit} {printed : CString} {moved : Nat} {s : DumpState}
    (hfirst : Adds first text offset rollback printed moved) (hs : Stands s text offset rollback)
    (rest : Dump Unit) :
    ∃ s', (first >>= fun _ => rest) s = rest s' ∧
      Stands s' (text ++ printed) (offset + moved) (rollback + moved) := by
  obtain ⟨s', hrun, hs'⟩ := hfirst s hs
  refine ⟨s', ?_, hs'⟩
  change (first s >>= fun result => rest result.2) = _
  rw [hrun]
  rfl

theorem length_lineText_le (bytes : Bytes) : (lineText offset bytes).length ≤ dumpStringSize := by
  have hoffset := length_sprintf04x offset
  rw [length_lineText, length_asciiText, dumpStringSize]
  split
  · omega
  · omega

/-- A line fits with its end, and leaves the counters behind its bytes; or it fills the array, and its end
is stored behind it. -/
theorem run_dumpLine {s : DumpState} (hsize : data.length < 2 ^ 32)
    (hcells : s.string.cells.length = dumpStringSize) (hp : s.p = offset) (hoffset : s.offset = offset) :
    ((lineText offset (data.drop offset)).length < dumpStringSize → ∃ s' rest,
      dumpLine data s = .ok ((), s') ∧
        s'.string.cells = lineText offset (data.drop offset) ++ 0 :: rest ∧
        s'.string.cells.length = dumpStringSize ∧
        s'.p = offset + min 16 (data.length - offset) ∧
        s'.offset = offset + min 16 (data.length - offset)) ∧
      ((lineText offset (data.drop offset)).length = dumpStringSize →
        dumpLine data s = .error .outside) := by
  have hle : (lineText offset (data.drop offset)).length ≤ dumpStringSize := length_lineText_le _
  have hdigits := length_sprintf04x offset
  have hhead := length_brackets (sprintf04x offset)
  have hstart : Stands { s with string := ⟨s.string.cells, 0, dumpStringSize⟩, rollback := 0 } []
      offset 0 := by
    refine ⟨?_, hp, hoffset, rfl⟩
    have hwritten : Written ⟨s.string.cells, 0, s.string.cells.length⟩ [] s.string.cells.length :=
      written_start
    rwa [hcells] at hwritten
  obtain ⟨s₁, hrun₁, hs₁⟩ := (adds_hexPrint hsize (show (cString "[" ++ sprintf04x offset ++
    cString "]").length ≤ 10 by omega)).continue hstart (do
      modify fun s => { s with p := s.p - s.rollback, offset := s.offset - s.rollback }
      asciiPrint data dumpColsCount 0
      onString fun string => string.store 0)
  rw [List.nil_append, Nat.zero_add] at hs₁
  have hback : Stands { s₁ with p := s₁.p - s₁.rollback, offset := s₁.offset - s₁.rollback }
      (cString "[" ++ sprintf04x offset ++ cString "]" ++ spaces ++ dataText (data.drop offset) ++
        spaces) offset (min 16 (data.length - offset)) := by
    refine ⟨hs₁.written, ?_, ?_, ?_⟩
    · change s₁.p - s₁.rollback = offset
      rw [hs₁.p_eq, hs₁.rollback_eq, Nat.add_sub_cancel]
    · change s₁.offset - s₁.rollback = offset
      rw [hs₁.offset_eq, hs₁.rollback_eq, Nat.add_sub_cancel]
    · exact hs₁.rollback_eq
  obtain ⟨s₂, hrun₂, hs₂⟩ := (adds_asciiPrint hsize (by
    rw [← List.length_append]
    exact hle)).continue hback (onString fun string => string.store 0)
  have hline : dumpLine data s = onString (fun string => string.store 0) s₂ := by
    refine Eq.trans ?_ (hrun₁.trans hrun₂)
    simp only [bind_assoc]
    rw [← hoffset]
    rfl
  rw [hline]
  constructor
  · intro hfits
    obtain ⟨string, rest, hstore, hstring, hstringSize⟩ := hs₂.written.store hfits 0
    refine ⟨{ s₂ with string := string }, rest, ?_, hstring, hstringSize, hs₂.p_eq, hs₂.offset_eq⟩
    rw [onString, hstore]
  · intro hfull
    rw [onString, hs₂.written.store_full hfull]

end Parts

/-! ### The message -/

/-- The string with every `%` doubled. -/
def escaped (string : Bytes) : Bytes := string.flatMap fun c => if c = 0x25 then [c, c] else [c]

theorem escaped_cons (c : UInt8) (string : Bytes) :
    escaped (c :: string) = (if c = 0x25 then [c, c] else [c]) ++ escaped string := rfl

theorem escaped_append (first second : Bytes) :
    escaped (first ++ second) = escaped first ++ escaped second := List.flatMap_append

theorem length_escaped_le (string : Bytes) : (escaped string).length ≤ 2 * string.length := by
  induction string with
  | nil => exact Nat.le_refl 0
  | cons c string ih =>
      rw [escaped_cons, List.length_append, List.length_cons]
      split
      · rw [List.length_cons, List.length_singleton]
        omega
      · rw [List.length_singleton]
        omega

theorem storeAt_of_lt {cells : List UInt8} {i : Nat} (hi : i < cells.length) (c : UInt8) :
    storeAt cells i c = some (cells.set i c) := if_pos hi

/-- The copy is behind what was copied before, if it fits. -/
theorem exists_escapeLoop {string final : Bytes} {j : Nat}
    (hroom : j + (escaped string).length ≤ final.length) :
    ∃ final', escapeLoop string j final = some final' ∧ final'.length = final.length ∧
      final'.take (j + (escaped string).length) = final.take j ++ escaped string := by
  induction string generalizing j final with
  | nil => exact ⟨final, rfl, rfl, (List.append_nil _).symm⟩
  | cons c string ih =>
      rw [escaped_cons, List.length_append] at hroom
      rw [escapeLoop, escaped_cons, List.length_append]
      by_cases hpercent : c = 0x25
      · rw [if_pos hpercent, List.length_cons, List.length_singleton] at hroom
        rw [if_pos hpercent, if_pos hpercent, storeAt_of_lt (by omega), Option.bind_some,
          storeAt_of_lt (by rw [List.length_set]; omega), Option.bind_some]
        have hnext : j + 2 + (escaped string).length ≤ ((final.set j c).set (j + 1) c).length := by
          rw [List.length_set, List.length_set]
          omega
        obtain ⟨final', hrun, hlength, htake⟩ := ih hnext
        refine ⟨final', hrun, by rw [hlength, List.length_set, List.length_set], ?_⟩
        rw [take_set (by rw [List.length_set]; omega), take_set (by omega), Nat.add_assoc] at htake
        rw [List.length_cons, List.length_singleton, htake, List.append_assoc, List.append_assoc]
        rfl
      · rw [if_neg hpercent, List.length_singleton] at hroom
        rw [if_neg hpercent, if_neg hpercent, storeAt_of_lt (by omega), Option.bind_some]
        have hnext : j + 1 + (escaped string).length ≤ (final.set j c).length := by
          rw [List.length_set]
          omega
        obtain ⟨final', hrun, hlength, htake⟩ := ih hnext
        refine ⟨final', hrun, by rw [hlength, List.length_set], ?_⟩
        rw [take_set (by omega), Nat.add_assoc] at htake
        rw [List.length_singleton, htake, List.append_assoc]

/-- As a format, a doubled `%` is one again. -/
theorem formatText_escaped {text : CString} (htext : ∀ c ∈ text, c ≠ 0) (rest : Bytes) :
    formatText (escaped text ++ 0 :: rest) false = some text := by
  induction text with
  | nil => rfl
  | cons c text ih =>
      obtain ⟨hc, hrest⟩ := List.forall_mem_cons.mp htext
      rw [escaped_cons]
      by_cases hpercent : c = 0x25
      · subst hpercent
        rw [if_pos rfl, List.append_assoc, List.cons_append, List.singleton_append, formatText,
          if_neg Bool.false_ne_true, if_neg hc, if_pos rfl, formatText, if_pos rfl, if_pos rfl,
          ih hrest, Option.map_some]
      · rw [if_neg hpercent, List.append_assoc, List.singleton_append, formatText,
          if_neg Bool.false_ne_true, if_neg hc, if_neg hpercent, ih hrest, Option.map_some]

theorem hexDigitUpper_ne : ∀ n < 16, hexDigitUpper n ≠ 0 ∧ hexDigitUpper n ≠ 0x20 := by decide

theorem printable_ne_zero (byte : UInt8) : printable byte ≠ 0 := by
  rw [printable]
  split
  · rename_i hrange
    rintro rfl
    exact absurd hrange.1 (by decide)
  · decide

theorem mem_sprintf02X {byte c : UInt8} (hc : c ∈ sprintf02X byte) : c ≠ 0 ∧ c ≠ 0x20 := by
  have hlt := byte.toNat_lt
  rcases List.mem_pair.mp hc with rfl | rfl
  · exact hexDigitUpper_ne _ (by omega)
  · exact hexDigitUpper_ne _ (by omega)

theorem ne_zero_of_mem_columnsText {bytes : Bytes} {count j : Nat} {c : UInt8}
    (hc : c ∈ columnsText bytes count j) : c ≠ 0 := by
  induction count generalizing bytes j with
  | zero => exact absurd hc List.not_mem_nil
  | succ count ih =>
      rw [columnsText, List.mem_append, List.mem_append] at hc
      rcases hc with (hc | hc) | hc
      · cases hhead : bytes.head? with
        | none =>
            rw [hhead, columnText] at hc
            rintro rfl
            exact absurd hc (by decide)
        | some byte =>
            rw [hhead] at hc
            exact (mem_sprintf02X hc).1
      · rw [gapText] at hc
        split at hc
        · rintro rfl
          exact absurd hc (by decide)
        · exact absurd hc List.not_mem_nil
      · exact ih hc

theorem ne_zero_of_mem_asciiText {bytes : Bytes} {c : UInt8} (hc : c ∈ asciiText bytes) : c ≠ 0 := by
  have hmap : ∀ {bytes : Bytes}, c ∈ bytes.map printable → c ≠ 0 := by
    intro bytes hmem
    obtain ⟨byte, _, rfl⟩ := List.mem_map.mp hmem
    exact printable_ne_zero byte
  rw [asciiText, List.mem_append, List.mem_append] at hc
  rcases hc with (hc | hc) | hc
  · exact hmap hc
  · split at hc
    · rintro rfl
      exact absurd hc (by decide)
    · exact absurd hc List.not_mem_nil
  · exact hmap hc

theorem ne_zero_of_mem_lineText {offset : Nat} {bytes : Bytes} {c : UInt8}
    (hc : c ∈ lineText offset bytes) : c ≠ 0 := by
  have hliteral : ∀ {text : CString}, c ∈ text → (0 : UInt8) ∉ text → c ≠ 0 :=
    fun hmem hno heq => hno (heq ▸ hmem)
  simp only [lineText, dataText, List.mem_append] at hc
  rcases hc with (((((hc | hc) | hc) | hc) | (hc | hc) | hc) | hc) | hc
  · exact hliteral hc (by decide)
  · obtain ⟨k, _, rfl⟩ := List.mem_map.mp hc
    exact hexDigit_ne_zero _ (Nat.mod_lt _ (by decide))
  · exact hliteral hc (by decide)
  · exact hliteral hc (by decide)
  · exact ne_zero_of_mem_columnsText hc
  · exact hliteral hc (by decide)
  · exact ne_zero_of_mem_columnsText hc
  · exact hliteral hc (by decide)
  · exact ne_zero_of_mem_asciiText hc

/-! ### Reading the columns -/

/-- Two digits for each byte. -/
def readPairs : CString → Bytes
  | high :: low :: text =>
      match hexValue high, hexValue low with
      | some m, some n => UInt8.ofNat (16 * m + n) :: readPairs text
      | _, _ => []
  | _ => []

/-- The bytes a line shows in its hex columns: the digits in 48 characters, three blanks behind the
offset. -/
def columnBytes (line : CString) : Bytes :=
  readPairs ((((line.dropWhile fun c => c ≠ 0x5d).drop 4).take 48).filter fun c => c ≠ 0x20)

theorem hexValue_hexDigitUpper : ∀ n < 16, hexValue (hexDigitUpper n) = some n := by decide

theorem readPairs_print (bytes : Bytes) : readPairs (bytes.flatMap sprintf02X) = bytes := by
  induction bytes with
  | nil => rfl
  | cons byte bytes ih =>
      have hlt := byte.toNat_lt
      have hbyte : 16 * (byte.toNat / 16) + byte.toNat % 16 = byte.toNat := by omega
      rw [List.flatMap_cons, sprintf02X, List.cons_append, List.cons_append, List.nil_append, readPairs,
        hexValue_hexDigitUpper _ (by omega), hexValue_hexDigitUpper _ (by omega)]
      dsimp only
      rw [hbyte, UInt8.ofNat_toNat, ih]

/-- Without the blanks, the columns are the digits of their bytes. -/
theorem filter_columnsText (bytes : Bytes) (count j : Nat) :
    (columnsText bytes count j).filter (fun c => c ≠ 0x20) = (bytes.take count).flatMap sprintf02X := by
  induction count generalizing bytes j with
  | zero => rfl
  | succ count ih =>
      have hgap : (gapText j).filter (fun c => c ≠ 0x20) = [] := by
        rw [gapText]
        split <;> rfl
      rw [columnsText, List.filter_append, List.filter_append, hgap, List.append_nil, ih]
      cases bytes with
      | nil =>
          rw [List.head?_nil, List.tail_nil, List.take_nil, List.take_nil]
          rfl
      | cons byte bytes =>
          have hdigits : (sprintf02X byte).filter (fun c => c ≠ 0x20) = sprintf02X byte :=
            List.filter_eq_self.mpr fun c hc => decide_eq_true (mem_sprintf02X hc).2
          rw [List.head?_cons, List.tail_cons, columnText, hdigits, List.take_succ_cons,
            List.flatMap_cons]

theorem columnBytes_lineText (offset : Nat) (bytes : Bytes) :
    columnBytes (lineText offset bytes) = bytes.take 16 := by
  have hdigit : ∀ n < 16, hexDigit n ≠ 0x5d := by decide
  have hoffset : ∀ c ∈ cString "[" ++ sprintf04x offset, decide (c ≠ 0x5d) = true := by
    intro c hc
    rw [decide_eq_true_eq]
    rcases List.mem_append.mp hc with hc | hc
    · rintro rfl
      exact absurd hc (by decide)
    · obtain ⟨k, _, rfl⟩ := List.mem_map.mp hc
      exact hdigit _ (Nat.mod_lt _ (by decide))
  have hline : lineText offset bytes = (cString "[" ++ sprintf04x offset) ++
      (cString "]" ++ spaces ++ (dataText bytes ++ (spaces ++ asciiText bytes))) := by
    simp only [lineText, List.append_assoc]
  have hbehind : (cString "]" ++ spaces ++ (dataText bytes ++ (spaces ++ asciiText bytes))).dropWhile
      (fun c => c ≠ 0x5d) =
      cString "]" ++ spaces ++ (dataText bytes ++ (spaces ++ asciiText bytes)) :=
    List.dropWhile_cons_of_neg (by decide)
  have hfour : (cString "]" ++ spaces).length = 4 := by decide
  have hfilter : (dataText bytes).filter (fun c => c ≠ 0x20) = (bytes.take 16).flatMap sprintf02X := by
    have hgap : ([0x20, 0x20] : CString).filter (fun c => c ≠ 0x20) = [] := rfl
    rw [dataText, List.filter_append, List.filter_append, filter_columnsText, filter_columnsText, hgap,
      List.append_nil, ← List.flatMap_append, ← List.take_add]
  rw [columnBytes, hline, List.dropWhile_append_of_pos hoffset, hbehind, List.drop_left' hfour,
    List.take_left' (length_dataText bytes), hfilter, readPairs_print]

/-! ### The loop -/

section Loop

variable {data final : Bytes} {s : DumpState} {offset : Nat}

/-- Between two passes: the arrays have their sizes, the counters stand at an offset. -/
structure Between (s : DumpState) (final : Bytes) (offset : Nat) : Prop where
  cells_eq : s.string.cells.length = dumpStringSize
  final_eq : final.length = dumpFinalSize
  p_eq : s.p = offset
  offset_eq : s.offset = offset

/-- A pass whose line fits logs the line and goes on behind its bytes. -/
theorem dumpLoop_fits (passes : Nat) (hsize : data.length < 2 ^ 32) (hs : Between s final offset)
    (hmore : offset < data.length)
    (hfits : (lineText offset (data.drop offset)).length < dumpStringSize) :
    ∃ s' final', dumpLoop data (passes + 1) s final =
        (dumpLoop data passes s' final').map (lineText offset (data.drop offset) :: ·) ∧
      Between s' final' (offset + min 16 (data.length - offset)) := by
  obtain ⟨s', rest, hrun, hcells, hlength, hp, hoffset⟩ :=
    (run_dumpLine hsize hs.cells_eq hs.p_eq hs.offset_eq).1 hfits
  -- at least the bracket in front is not doubled
  have hescaped : (escaped s'.string.cells).length ≤ dumpFinalSize := by
    have hfirst : s'.string.cells = 0x5b :: s'.string.cells.tail := by
      rw [hcells]
      rfl
    have htail := length_escaped_le s'.string.cells.tail
    rw [List.length_tail, hlength] at htail
    rw [hfirst, escaped_cons, List.length_append]
    simp only [dumpStringSize, dumpFinalSize] at htail ⊢
    rw [if_neg (by decide), List.length_singleton]
    omega
  have hroom : 0 + (escaped s'.string.cells).length ≤ final.length := by
    rw [Nat.zero_add, hs.final_eq]
    exact hescaped
  obtain ⟨final', hescape, hfinal, htake⟩ := exists_escapeLoop hroom
  have hmessage : ipcClientLog final' = some (lineText offset (data.drop offset)) := by
    have hzero : escaped (0 :: rest) = 0 :: escaped rest := rfl
    have hsplit := List.take_append_drop (0 + (escaped s'.string.cells).length) final'
    rw [htake, List.take_zero, List.nil_append, hcells, escaped_append, hzero, List.append_assoc,
      List.cons_append] at hsplit
    have hshort : (lineText offset (data.drop offset)).length ≤ 4095 :=
      Nat.le_trans (length_lineText_le _) (by decide)
    rw [ipcClientLog, ← hsplit, formatText_escaped (fun c hc => ne_zero_of_mem_lineText hc),
      Option.map_some, List.take_of_length_le hshort]
  refine ⟨s', final', ?_, hlength, hfinal.trans hs.final_eq, hp, hoffset⟩
  rw [dumpLoop, if_pos (hs.offset_eq ▸ hmore), hrun]
  dsimp only
  rw [hescape]
  dsimp only
  rw [hmessage]

/-- A line that fills the array stops the dump. -/
theorem dumpLoop_overrun {passes : Nat} (hsize : data.length < 2 ^ 32) (hs : Between s final offset)
    (hmore : offset < data.length)
    (hfull : (lineText offset (data.drop offset)).length = dumpStringSize) :
    dumpLoop data (passes + 1) s final = .error .outside := by
  have hrun := (run_dumpLine hsize hs.cells_eq hs.p_eq hs.offset_eq).2 hfull
  rw [dumpLoop, if_pos (hs.offset_eq ▸ hmore), hrun]

theorem lineText_fits (hoffset : offset < 2 ^ 28 ∨ data.length < offset + 16) :
    (lineText offset (data.drop offset)).length < dumpStringSize := by
  have hdigits := length_sprintf04x offset
  rw [length_lineText, length_asciiText, List.length_drop, dumpStringSize]
  rcases hoffset with hlow | hshort
  · have hseven := length_sprintf04x_le hlow
    split <;> omega
  · split <;> omega

theorem lineText_full (hlow : 2 ^ 28 ≤ offset) (hhigh : offset < 2 ^ 32)
    (hbytes : offset + 16 ≤ data.length) :
    (lineText offset (data.drop offset)).length = dumpStringSize := by
  rw [length_lineText, length_asciiText, List.length_drop, length_sprintf04x_large hlow hhigh,
    dumpStringSize, if_pos (by omega)]
  omega

/-- Data that end before the first long offset has a whole line behind it are dumped to their end. -/
theorem dumpLoop_ok {passes : Nat} (hsmall : data.length < 2 ^ 28 + 16) (hs : Between s final offset)
    (hpasses : data.length - offset < passes) :
    ∃ lines, dumpLoop data passes s final = .ok lines ∧
      lines.flatMap columnBytes = data.drop offset := by
  induction passes generalizing s final offset with
  | zero => omega
  | succ passes ih =>
      by_cases hmore : offset < data.length
      · obtain ⟨s', final', hrun, hs'⟩ := dumpLoop_fits passes (by omega) hs hmore
          (lineText_fits (by omega))
        obtain ⟨lines, hlines, hbytes⟩ := ih hs' (by omega)
        refine ⟨lineText offset (data.drop offset) :: lines, ?_, ?_⟩
        · rw [hrun, hlines]
          rfl
        · rw [List.flatMap_cons, columnBytes_lineText, hbytes, drop_add_min, List.take_append_drop]
      · refine ⟨[], ?_, ?_⟩
        · rw [dumpLoop, if_neg (hs.offset_eq ▸ hmore)]
        · rw [List.flatMap_nil, List.drop_of_length_le (Nat.not_lt.mp hmore)]

/-- Longer data reach that line. -/
theorem dumpLoop_error {passes : Nat} (hsize : data.length < 2 ^ 32)
    (hlarge : 2 ^ 28 + 16 ≤ data.length) (hs : Between s final offset) (hoffset : offset ≤ 2 ^ 28)
    (haligned : offset % 16 = 0) (hpasses : 2 ^ 28 - offset < passes) :
    dumpLoop data passes s final = .error .outside := by
  induction passes generalizing s final offset with
  | zero => omega
  | succ passes ih =>
      have hmore : offset < data.length := by omega
      by_cases hlast : offset = 2 ^ 28
      · exact dumpLoop_overrun hsize hs hmore (lineText_full (by omega) (by omega) (by omega))
      · obtain ⟨s', final', hrun, hs'⟩ := dumpLoop_fits passes hsize hs hmore
          (lineText_fits (Or.inl (by omega)))
        have hwhole : min 16 (data.length - offset) = 16 := by omega
        rw [hwhole] at hs'
        rw [hrun, ih hs' (by omega) (by omega) (by omega)]
        rfl

end Loop

/-- The dump ends with every store in its array, and the hex columns of its lines show the data. -/
def DumpExact (data : Bytes) : Prop :=
  ∃ rc lines, ipcDataDump (some data) = .ok (rc, lines) ∧ lines.flatMap columnBytes = data

theorem ipcDataDump_of_pos {data : Bytes} (hdata : 0 < data.length) :
    ∃ s final, Between s final 0 ∧
      ipcDataDump (some data) =
        (dumpLoop data (data.length + 1) s final).map fun lines => (0, lines) := by
  refine ⟨⟨⟨List.replicate dumpStringSize 0, 0, dumpStringSize⟩, 0, 0, 0⟩,
    List.replicate dumpFinalSize 0, ⟨List.length_replicate, List.length_replicate, rfl, rfl⟩, ?_⟩
  have hspacer : ¬dumpSpacer ≤ 0 := by decide
  simp only [ipcDataDump]
  rw [if_neg hdata.ne', if_neg hspacer]

/-- A dump that reaches a full line at the first offset of eight digits stores the end of the line behind
`string`. -/
theorem ipcDataDump_overrun {data : Bytes} (hsize : data.length < 2 ^ 32)
    (hlarge : 2 ^ 28 + 16 ≤ data.length) : ipcDataDump (some data) = .error .outside := by
  obtain ⟨s, final, hs, hdump⟩ := ipcDataDump_of_pos (show 0 < data.length by omega)
  rw [hdump, dumpLoop_error hsize hlarge hs (Nat.zero_le _) rfl (by omega)]
  rfl

/-- The dump is exact exactly up to the sizes that have no full line at an offset of eight digits, for
which the spacers leave no room. -/
theorem dumpExact_iff (data : Bytes) (hsize : data.length < 2 ^ 32) :
    DumpExact data ↔ data.length < 0x10000010 := by
  constructor
  · rintro ⟨rc, lines, hdump, _⟩
    by_contra hlarge
    rw [ipcDataDump_overrun hsize (by omega)] at hdump
    contradiction
  · intro hsmall
    rcases Nat.eq_zero_or_pos data.length with hempty | hpos
    · obtain rfl := List.length_eq_zero_iff.mp hempty
      exact ⟨-1, [], rfl, rfl⟩
    · obtain ⟨s, final, hs, hdump⟩ := ipcDataDump_of_pos hpos
      have hpasses : data.length - 0 < data.length + 1 := by omega
      obtain ⟨lines, hlines, hbytes⟩ := dumpLoop_ok hsmall hs hpasses
      refine ⟨0, lines, ?_, hbytes⟩
      rw [hdump, hlines]
      rfl

/-- Three bytes, two of which are shown as a `%`. -/
theorem dumpExact_iff_percent : DumpExact [0x25, 0x00, 0x25] :=
  (dumpExact_iff [0x25, 0x00, 0x25] (by decide)).mpr (by decide)

/-- A quarter of a gigabyte and sixteen bytes. -/
theorem dump_overruns_string :
    ¬∀ data : Bytes, data.length < 2 ^ 32 → DumpExact data := by
  intro hclaim
  obtain ⟨data, hlength⟩ : ∃ data : Bytes, data.length = 0x10000010 :=
    ⟨List.replicate _ 0, List.length_replicate⟩
  obtain ⟨rc, lines, hdump, _⟩ := hclaim data (by rw [hlength]; decide)
  rw [ipcDataDump_overrun (by rw [hlength]; decide) (by rw [hlength]; decide)] at hdump
  contradiction

end SamsungIpc

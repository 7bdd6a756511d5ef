import Lindenmayer.Proofs.Numeral.Nearest
import Lindenmayer.Proofs.Numeral.Pointed
import Lindenmayer.Proofs.Numeral.Shortest
import Lindenmayer.Proofs.Output.Truncation

/-!
# Tables are read back

A table has one row for each segment and one field for each coordinate. Nothing of a drawing is lost
in it: the rows of the text and the fields of a row can be told apart, and what is read from a field
is the number that was written, with its sign if it is zero.

## A field

The shortest digits of a magnitude are a number that the magnitude takes, they are written as a
numeral of this number, and a number that a magnitude takes is read as that magnitude. What else
there is of a coordinate is its sign, which is a character in front of the numeral and one bit above
the others; and what is not a number has one pattern of bits only, so it is read back too.
-/

namespace Lindenmayer

namespace Numeral

/-! ## Numerals behind a sign -/

theorem toLower_of_isDigit {c : Char} (h : c.isDigit) : c.toLower = c := by
  have hle : c.toNat ≤ 57 := (Char.isDigit_iff_toNat.mp h).2
  have hupper : ¬(c.val ≥ 'A'.val ∧ c.val ≤ 'Z'.val) := by
    intro hletter
    have hge : 65 ≤ c.toNat := UInt32.le_iff_toNat_le.mp hletter.1
    omega
  rw [Char.toLower, dif_neg hupper]

theorem readMagnitude?_of_isDigit {c : Char} (hc : c.isDigit) (rest : List Char)
    (negative : Bool) : readMagnitude? negative (c :: rest) =
      (readDecimal? (c :: rest)).map fun d ↦ signed negative d.nearestBits := by
  have hname : ∀ d name, d.isDigit = false → (c :: rest).map Char.toLower ≠ d :: name := by
    intro d name hd heq
    rw [List.map_cons, toLower_of_isDigit hc] at heq
    obtain ⟨rfl, -⟩ := List.cons.inj heq
    exact absurd hc (by rw [hd]; decide)
  have hnan : (c :: rest).map Char.toLower ≠ "nan".toList := hname _ _ (by decide)
  have hinf : (c :: rest).map Char.toLower ≠ "inf".toList := hname _ _ (by decide)
  have hinfinity : (c :: rest).map Char.toLower ≠ "infinity".toList := hname _ _ (by decide)
  simp only [readMagnitude?, hnan, hinf, hinfinity, if_false, decide_false, Bool.or_self,
    Bool.false_eq_true]

theorem readFloat32?_of_isDigit {c : Char} (hc : c.isDigit) (rest : List Char) :
    readFloat32? (c :: rest) = readMagnitude? false (c :: rest) := by
  rw [readFloat32?]
  · intro cs hcs
    rw [(List.cons.inj hcs).1] at hc
    exact absurd hc (by decide)
  · intro cs hcs
    rw [(List.cons.inj hcs).1] at hc
    exact absurd hc (by decide)

namespace Pointed

variable {cs : List Char} {q : ℚ}

theorem readMagnitude?_eq (h : Pointed cs q) (negative : Bool) :
    readMagnitude? negative cs = (readDecimal? cs).map fun d ↦ signed negative d.nearestBits := by
  obtain ⟨c, rest, rfl, hc⟩ := h.exists_cons
  exact readMagnitude?_of_isDigit hc rest negative

theorem readFloat32?_eq (h : Pointed cs q) : readFloat32? cs = readMagnitude? false cs := by
  obtain ⟨c, rest, rfl, hc⟩ := h.exists_cons
  exact readFloat32?_of_isDigit hc rest

theorem readMagnitude?_of_takes {m : Magnitude} {binade : ℕ} (h : Pointed cs q)
    (hm : single.Contains m binade) (htakes : m.Takes q) (negative : Bool) :
    readMagnitude? negative cs = some (signed negative (binade * 2 ^ 23 + m.significand)) := by
  obtain ⟨d, hd, rfl⟩ := h.exists_readDecimal?
  rw [h.readMagnitude?_eq, hd, Option.map_some, Decimal.nearestBits_eq hm htakes]

end Pointed

/-! ## The sign and the bits below -/

theorem signed_toBits (x : Float32) :
    signed (x.toBits.toNat >>> 31 % 2 = 1) (x.toBits.toNat % 2 ^ 31) = x := by
  have hlt : x.toBits.toNat < 2 ^ 32 := x.toBits.toNat_lt
  have hbits : (if decide (x.toBits.toNat >>> 31 % 2 = 1) = true
      then 1 <<< 31 + x.toBits.toNat % 2 ^ 31 else x.toBits.toNat % 2 ^ 31) = x.toBits.toNat := by
    simp only [Nat.shiftRight_eq_div_pow, decide_eq_true_eq, Nat.one_shiftLeft]
    split_ifs with hsign
    · omega
    · omega
  rw [signed, hbits, UInt32.ofNat_toNat, Float32.ofBits_toBits]

open Float.Model UnpackedFloat in
/-- What is not a number has one pattern of bits. -/
theorem eq_nan_of_infinity_lt {x : Float32} (h : single.infinity < x.toBits.toNat % 2 ^ 31) :
    x = Value.toFloat32 .nan := by
  have hlt : 255 * 2 ^ 23 < x.toBits.toNat % 2 ^ 31 := h
  have hexponent : @unpackExponent .binary32 x.toBits.toBitVec = -1#8 := by
    refine BitVec.eq_of_toNat_eq ?_
    change x.toBits.toNat >>> 23 % 2 ^ 8 = 255
    rw [Nat.shiftRight_eq_div_pow]
    omega
  have hmantissa : @unpackMantissa .binary32 x.toBits.toBitVec ≠ 0#23 := by
    intro hzero
    have hnat : x.toBits.toNat >>> 0 % 2 ^ 23 = 0 := congrArg BitVec.toNat hzero
    rw [Nat.shiftRight_zero] at hnat
    omega
  have hvalid : x.toBits.toBitVec = packedNaN .binary32 :=
    x.toModel.valid.eq_packedNaN hexponent hmantissa
  have hbits : x.toBits = 0x7FC00000 := by
    rw [← UInt32.toBitVec_inj, hvalid]
    decide
  rw [Value.toFloat32, ← hbits, Float32.ofBits_toBits]

end Numeral

open Numeral

/-! ## Fields -/

theorem pointed_magnitude {m : Magnitude} (hpos : 0 < m.significand) :
    Pointed (tableNumbers.magnitude m) (m.shortest .up).value := by
  have htakes := m.takes_shortest hpos .up
  have hvalue : 0 < (m.shortest .up).value :=
    lt_of_lt_of_le (by positivity) (htakes.half_unit_le hpos)
  have hcoefficient := Decimal.coefficient_pos_of_value_pos hvalue
  rw [Decimal.value_eq_stripped]
  exact tableNumbers.pointed_positional rfl (stripped_ne_nil hcoefficient)
    (fun _ ↦ isDigit_of_mem_stripped) _

theorem exists_encodes (x : Float32) :
    ∃ negative below, single.Encodes negative (Value.ofFloat32 x) below ∧
      signed negative below = x ∧ (single.infinity < below → x = Value.toFloat32 .nan) :=
  ⟨_, _, single.encodes_decode x.toBits.toNat, signed_toBits x, eq_nan_of_infinity_lt⟩

/-- **A field is read back.** -/
theorem readFloat32?_coordinate (x : Float32) :
    readFloat32? (coordinate tableNumbers x) = some x := by
  obtain ⟨negative, below, hencodes, hsigned, hnan⟩ := exists_encodes x
  rw [coordinate]
  generalize Value.ofFloat32 x = value at hencodes
  rcases hencodes with - | hm | - | hlt
  · rw [← hsigned]
    rcases negative <;> decide +kernel
  · have hread := (pointed_magnitude hm.pos).readMagnitude?_of_takes hm
      (Magnitude.takes_shortest hm.pos .up)
    rw [← hsigned]
    rcases negative with - | -
    · exact (pointed_magnitude hm.pos).readFloat32?_eq.trans (hread false)
    · exact hread true
  · rw [← hsigned]
    rcases negative <;> decide +kernel
  · rw [hnan hlt]
    decide +kernel

theorem separators_notMem_coordinate (x : Float32) :
    ',' ∉ coordinate tableNumbers x ∧ '\n' ∉ coordinate tableNumbers x := by
  obtain ⟨negative, below, hencodes, -, -⟩ := exists_encodes x
  rw [coordinate]
  generalize Value.ofFloat32 x = value at hencodes
  rcases hencodes with - | @⟨m, binade, hm⟩ | - | -
  · rcases negative <;> decide
  · have hnotMem : ∀ c, ¬(c.isDigit ∨ c = '.') → c ∉ tableNumbers.magnitude m :=
      fun c hc hmem ↦ hc ((pointed_magnitude hm.pos).mem hmem)
    have hcomma := hnotMem ',' (by decide)
    have hnewline := hnotMem '\n' (by decide)
    rcases negative with - | -
    · exact ⟨hcomma, hnewline⟩
    · exact ⟨List.not_mem_cons_of_ne_of_not_mem (by decide) hcomma,
        List.not_mem_cons_of_ne_of_not_mem (by decide) hnewline⟩
  · rcases negative <;> decide
  · decide

/-! ## Rows -/

namespace Layout

theorem splitOn_row (s : Segment) :
    (row s).splitOn ',' = s.coordinates.map (coordinate tableNumbers) := by
  refine List.splitOn_intercalate ',' ?_ (List.cons_ne_nil _ _)
  intro field hfield hcomma
  obtain ⟨x, -, rfl⟩ := List.mem_map.mp hfield
  exact (separators_notMem_coordinate x).1 hcomma

theorem newline_notMem_row (s : Segment) : '\n' ∉ row s := by
  have hfield : ∀ x, '\n' ∉ coordinate tableNumbers x :=
    fun x ↦ (separators_notMem_coordinate x).2
  simp [row, Segment.coordinates, List.intercalate_cons_cons, hfield]

theorem drawing_csv_eq_intercalate (segments : List Segment) :
    csv.drawing segments = ['\n'].intercalate (segments.map row ++ [[]]) := by
  induction segments with
  | nil => rfl
  | cons s segments ih =>
    have hne : segments.map row ++ [[]] ≠ [] := List.concat_ne_nil _ _
    rw [drawing_cons, ih, List.map_cons, List.cons_append, List.intercalate_cons_of_ne_nil hne]
    rfl

/-- The rows of a table, and nothing behind the end of the last one. -/
theorem splitOn_drawing_csv (segments : List Segment) :
    (csv.drawing segments).splitOn '\n' = segments.map row ++ [[]] := by
  rw [drawing_csv_eq_intercalate]
  refine List.splitOn_intercalate '\n' ?_ (List.concat_ne_nil _ _)
  intro line hline
  rcases List.mem_append.mp hline with hrow | hlast
  · obtain ⟨s, -, rfl⟩ := List.mem_map.mp hrow
    exact newline_notMem_row s
  · rw [List.mem_singleton.mp hlast]
    exact List.not_mem_nil

/-- Reads a table: its lines, the fields of each, and the number in each field. -/
def readTable (cs : List Char) : List (List (Option Float32)) :=
  (cs.splitOn '\n').dropLast.map fun line ↦ (line.splitOn ',').map readFloat32?

theorem readTable_drawing (segments : List Segment) :
    readTable (csv.drawing segments) = segments.map fun s ↦ s.coordinates.map some := by
  rw [readTable, splitOn_drawing_csv, List.dropLast_concat, List.map_map]
  refine List.map_congr_left fun s _ ↦ ?_
  rw [Function.comp_apply, splitOn_row, List.map_map]
  exact List.map_congr_left fun x _ ↦ readFloat32?_coordinate x

end Layout

theorem Segment.coordinates_injective : Function.Injective coordinates := by
  intro s t h
  obtain ⟨⟨x₀, y₀⟩, x₁, y₁⟩ := s
  obtain ⟨⟨x₀', y₀'⟩, x₁', y₁'⟩ := t
  simpa [coordinates, and_assoc] using h

theorem Text.utf8_injective : Function.Injective utf8 := by
  intro u v h
  have hbytes : u.utf8Encode = v.utf8Encode := congrArg List.toByteArray h
  rwa [← String.toByteArray_ofList, ← String.toByteArray_ofList, String.toByteArray_inj,
    String.ofList_inj] at hbytes

/-- **Tables lose nothing.** The text that is left on a device without a bound has one line for each
segment, in order, each with its end; the lines have the fields of the coordinates, and each field
is read as the coordinate itself. So a text is that of one list of segments only. Numbers are equal
if their bits are, and what is not a number has one pattern of bits. -/
theorem Sink.emitAll_writing_csv (segments : List Segment) :
    let written := fun segments ↦ ((writing .csv).emitAll .unbounded segments).1.taken.toList
    let text := Layout.csv.drawing segments
    written segments = Text.utf8 text ∧
    text.splitOn '\n' = segments.map Layout.row ++ [[]] ∧
    (∀ s, (Layout.row s).splitOn ',' = s.coordinates.map (coordinate tableNumbers)) ∧
    (∀ x, readFloat32? (coordinate tableNumbers x) = some x) ∧
    Layout.readTable text = segments.map (fun s ↦ s.coordinates.map some) ∧
    ∀ others, written others = written segments ↔ others = segments := by
  intro written text
  have hwritten : ∀ segments, written segments = Text.utf8 (Layout.csv.drawing segments) := by
    intro segments
    simp [written, fst_emitAll_writing, Device.write, Device.unbounded]
  have hread := Layout.readTable_drawing
  refine ⟨hwritten segments, Layout.splitOn_drawing_csv segments, Layout.splitOn_row,
    readFloat32?_coordinate, hread segments, fun others ↦ ⟨fun h ↦ ?_, congrArg written⟩⟩
  rw [hwritten, hwritten] at h
  have htables := congrArg Layout.readTable (Text.utf8_injective h)
  rw [hread, hread] at htables
  refine List.map_injective_iff.mpr (fun s t hst ↦ ?_) htables
  exact Segment.coordinates_injective (List.map_injective_iff.mpr (Option.some_injective _) hst)

/-- Zeros have their signs, the greatest and the least number all digits, and infinities a name. -/
example :
    let s : Segment := ⟨⟨-0, 0.1⟩, ⟨.ofBits 0xFF7FFFFF, .ofBits 1⟩⟩
    let t : Segment := ⟨s.start, ⟨1 / 0, -1 / 0⟩⟩
    Layout.csv.drawing [s, t] = ("-0,0.1,-340282350000000000000000000000000000000," ++
      "0.000000000000000000000000000000000000000000001\n-0,0.1,inf,-inf\n").toList := by
  decide +kernel

end Lindenmayer

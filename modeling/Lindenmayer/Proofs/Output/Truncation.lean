import Lindenmayer.Layout
import Mathlib

/-!
# Drawings on a device that fails

A sink that writes to a device offers it one line for each segment, also after a failure. On a
device with limited room the drawing is cut at a byte, wherever that falls, and what the device
holds is the part in front of the cut. A segment is answered without a failure exactly if the cut
is not in front of the end of its line.

## Parts of a line

A line is not offered in one go. It is put together from pieces, numbers and what stands between
them, which are written one after another until one of them fails; and of a single piece a device
may take any part at a time. `Writes` and `Sends` are relations, since nobody says which parts these
are. Both have one outcome nevertheless, and it is the one that `Device.write` computes for the line
as a whole. The reason is that bytes are written behind others as if by themselves, or not at all if
those others failed. Behind `sends_iff` no proof looks into a line, except that it is not empty.
-/

namespace Lindenmayer

open Text (utf8)

namespace Device

variable {d d' : Device} {bytes : List UInt8} {pieces : List (List UInt8)}
  {answer : Option DeviceError}

/-! ## Parts of a piece -/

/-- The device after it has taken some bytes. -/
def take (d : Device) (bytes : List UInt8) : Device :=
  { d with taken := d.taken ++ bytes, room := d.room.map (· - bytes.length) }

/-- A device has room for a number of bytes. -/
def Fits (d : Device) (n : ℕ) : Prop := ∀ room, d.room = some room → n ≤ room

/-- A piece is written in parts, each of at least one byte, until nothing of it is left or the
device has no room. Then the device fails, or it takes nothing of what it is offered, and that is a
failure too. -/
inductive Writes : Device → List UInt8 → Device → Option DeviceError → Prop
  | done (d : Device) : Writes d [] d none
  | part {d d' : Device} {bytes : List UInt8} {answer : Option DeviceError} (n : ℕ) :
      0 < n → n ≤ bytes.length → d.Fits n →
        Writes (d.take (bytes.take n)) (bytes.drop n) d' answer → Writes d bytes d' answer
  | full {d : Device} {bytes : List UInt8} :
      bytes ≠ [] → d.room = some 0 → Writes d bytes d (some d.failure)

/-- Pieces are written one after another until one of them fails. -/
inductive Sends : Device → List (List UInt8) → Device → Option DeviceError → Prop
  | done (d : Device) : Sends d [] d none
  | next {d d' d'' : Device} {piece : List UInt8} {rest : List (List UInt8)}
      {answer : Option DeviceError} :
      Writes d piece d' none → Sends d' rest d'' answer → Sends d (piece :: rest) d'' answer
  | fail {d d' : Device} {piece : List UInt8} {rest : List (List UInt8)} {failure : DeviceError} :
      Writes d piece d' (some failure) → Sends d (piece :: rest) d' (some failure)

/-! ## What is written in one go -/

theorem fits_or_lt (d : Device) (n : ℕ) : d.Fits n ∨ ∃ room, d.room = some room ∧ room < n := by
  by_cases h : d.Fits n
  · exact Or.inl h
  · simp [Fits] at h
    exact Or.inr h

theorem append_append (taken : Array UInt8) (u v : List UInt8) :
    taken ++ u ++ v = taken ++ (u ++ v) := by
  rw [← Array.toList_inj]
  simp

theorem write_of_fits (h : d.Fits bytes.length) : d.write bytes = (d.take bytes, none) := by
  obtain ⟨taken, room, failure⟩ := d
  rcases room with - | room
  · rfl
  · have hle : bytes.length ≤ room := h room rfl
    simp [write, take, hle, List.take_of_length_le hle]

theorem write_of_lt {room : ℕ} (h : d.room = some room) (hlt : room < bytes.length) :
    d.write bytes = (d.take (bytes.take room), some d.failure) := by
  have hle : ¬bytes.length ≤ room := Nat.not_le.mpr hlt
  simp [write, take, h, hle]
  omega

@[simp] theorem write_nil (d : Device) : d.write [] = (d, none) := by
  obtain ⟨taken, room, failure⟩ := d
  rcases room with - | room
  · simp [write]
  · simp [write]

theorem write_of_full (hne : bytes ≠ []) (h : d.room = some 0) :
    d.write bytes = (d, some d.failure) := by
  rw [write_of_lt h (List.length_pos_iff.mpr hne)]
  simp [take]

theorem room_of_write_eq_some {failure : DeviceError} (h : d.write bytes = (d', some failure)) :
    d'.room = some 0 := by
  rcases d.fits_or_lt bytes.length with hfits | ⟨room, hroom, hlt⟩
  · simp [write_of_fits hfits] at h
  · rw [write_of_lt hroom hlt, Prod.mk.injEq] at h
    simp [← h.1, take, hroom, Nat.le_of_lt hlt]

theorem write_take_append (h : d.Fits bytes.length) (rest : List UInt8) :
    (d.take bytes).write rest = d.write (bytes ++ rest) := by
  obtain ⟨taken, room, failure⟩ := d
  rcases room with - | room
  · simp [write, take, append_append]
  · have hle : bytes.length ≤ room := h room rfl
    have hfits : rest.length ≤ room - bytes.length ↔ bytes.length + rest.length ≤ room := by
      omega
    simp [write, take, hfits, List.take_append, List.take_of_length_le hle, append_append,
      Nat.sub_add_eq]

theorem write_append_of_none (h : d.write bytes = (d', none)) (rest : List UInt8) :
    d.write (bytes ++ rest) = d'.write rest := by
  rcases d.fits_or_lt bytes.length with hfits | ⟨room, hroom, hlt⟩
  · rw [write_of_fits hfits, Prod.mk.injEq] at h
    rw [← h.1, write_take_append hfits]
  · simp [write_of_lt hroom hlt] at h

theorem write_append_of_some {failure : DeviceError} (h : d.write bytes = (d', some failure))
    (rest : List UInt8) : d.write (bytes ++ rest) = (d', some failure) := by
  rcases d.fits_or_lt bytes.length with hfits | ⟨room, hroom, hlt⟩
  · simp [write_of_fits hfits] at h
  · have hlt' : room < (bytes ++ rest).length := by
      rw [List.length_append]
      omega
    rw [write_of_lt hroom hlt', List.take_append_of_le_length (Nat.le_of_lt hlt),
      ← write_of_lt hroom hlt, h]

/-- Also behind a failure, a device ends up as if it were offered all bytes in one go: it takes no
more of them. -/
theorem fst_write_append (d : Device) (u v : List UInt8) :
    (d.write (u ++ v)).1 = ((d.write u).1.write v).1 := by
  rcases h : d.write u with ⟨d', failure | failure⟩
  · rw [write_append_of_none h]
  · rw [write_append_of_some h]
    by_cases hnil : v = []
    · rw [hnil, write_nil]
    · rw [write_of_full hnil (room_of_write_eq_some h)]

/-! ## Whatever the parts are -/

theorem Writes.write_eq (h : d.Writes bytes d' answer) : d.write bytes = (d', answer) := by
  induction h with
  | done d => exact write_nil d
  | @part d d' bytes answer n _ hle hfits _ ih =>
    have hlength : (bytes.take n).length = n := List.length_take_of_le hle
    rw [write_take_append (by rwa [hlength]), List.take_append_drop] at ih
    exact ih
  | full hne hroom => exact write_of_full hne hroom

/-- A piece can be written in parts, with the outcome of writing it in one go. -/
theorem writes_write (d : Device) (bytes : List UInt8) :
    d.Writes bytes (d.write bytes).1 (d.write bytes).2 := by
  by_cases hnil : bytes = []
  · rw [hnil, write_nil]
    exact .done d
  rcases d.fits_or_lt bytes.length with hfits | ⟨room, hroom, hlt⟩
  · rw [write_of_fits hfits]
    refine .part bytes.length (List.length_pos_iff.mpr hnil) (Nat.le_refl _) hfits ?_
    rw [List.drop_length, List.take_length]
    exact .done _
  · rw [write_of_lt hroom hlt]
    by_cases hzero : room = 0
    · rw [hzero] at hroom ⊢
      simpa [take, ← hroom] using Writes.full hnil hroom
    · -- as much as fits, and then the failure
      have hpart : d.Fits room := by simp [Fits, hroom]
      have hrest : bytes.drop room ≠ [] := by simp [hlt]
      refine .part room (Nat.pos_of_ne_zero hzero) (Nat.le_of_lt hlt) hpart (.full hrest ?_)
      simp [take, hroom, Nat.le_of_lt hlt]

theorem writes_iff : d.Writes bytes d' answer ↔ d.write bytes = (d', answer) := by
  constructor
  · exact Writes.write_eq
  · intro h
    have hwrites := d.writes_write bytes
    rwa [h] at hwrites

/-- **Pieces and parts do not matter.** Whatever the pieces of a text are, and the parts in which a
device takes them, it ends up as if it were offered the text in one go. -/
theorem sends_iff : d.Sends pieces d' answer ↔ d.write pieces.flatten = (d', answer) := by
  constructor
  · intro h
    induction h with
    | done d => exact write_nil d
    | next hpiece _ ih =>
      rw [List.flatten_cons, write_append_of_none (writes_iff.mp hpiece)]
      exact ih
    | fail hpiece =>
      rw [List.flatten_cons]
      exact write_append_of_some (writes_iff.mp hpiece) _
  · intro h
    induction pieces generalizing d with
    | nil =>
      cases (write_nil _).symm.trans h
      exact .done _
    | cons piece rest ih =>
      rw [List.flatten_cons] at h
      rcases hpiece : d.write piece with ⟨d₁, failure | failure⟩
      · rw [write_append_of_none hpiece] at h
        exact .next (writes_iff.mpr hpiece) (ih h)
      · rw [write_append_of_some hpiece] at h
        cases h
        exact .fail (writes_iff.mpr hpiece)

end Device

/-! ## Lines one after another -/

theorem Text.utf8_append (u v : List Char) : utf8 (u ++ v) = utf8 u ++ utf8 v :=
  List.flatMap_append

namespace Layout

variable (l : Layout)

theorem drawing_cons (s : Segment) (segments : List Segment) :
    l.drawing (s :: segments) = l.line s ++ l.drawing segments :=
  List.flatMap_cons

/-- The number of bytes of the line of a segment. -/
def size (s : Segment) : ℕ := (utf8 (l.line s)).length

theorem size_pos (s : Segment) : 0 < l.size s := by
  have hend : utf8 ['\n'] ≠ [] := by decide
  rw [size, line, Text.utf8_append, List.length_append]
  exact Nat.add_pos_right _ (List.length_pos_iff.mpr hend)

theorem sum_size_take_pos {segments : List Segment} {k : ℕ} (h : k < segments.length) :
    0 < ((segments.take (k + 1)).map l.size).sum := by
  cases segments with
  | nil => cases h
  | cons s segments =>
    rw [List.take_succ_cons, List.map_cons, List.sum_cons]
    exact Nat.add_pos_left (l.size_pos s) _

end Layout

namespace Sink

variable (l : Layout)

theorem fst_emitAll_writing (d : Device) (segments : List Segment) :
    ((writing l).emitAll d segments).1 = (d.write (utf8 (l.drawing segments))).1 := by
  induction segments generalizing d with
  | nil => rw [emitAll, Layout.drawing, List.flatMap_nil, utf8, List.flatMap_nil, Device.write_nil]
  | cons s segments ih =>
    rw [Layout.drawing_cons, Text.utf8_append, Device.fst_write_append, ← ih]
    rfl

theorem snd_emitAll_writing_cons (d : Device) (s : Segment) (segments : List Segment) :
    ((writing l).emitAll d (s :: segments)).2 =
      (d.write (utf8 (l.line s))).2 ::
        ((writing l).emitAll (d.write (utf8 (l.line s))).1 segments).2 := rfl

theorem snd_emitAll_writing_of_room_eq_none {d : Device} (h : d.room = none)
    (segments : List Segment) :
    ((writing l).emitAll d segments).2 = List.replicate segments.length none := by
  induction segments generalizing d with
  | nil => rfl
  | cons s segments ih =>
    have hfits : d.Fits (utf8 (l.line s)).length := fun room hroom ↦ by
      rw [h] at hroom
      cases hroom
    have hroom : (d.take (utf8 (l.line s))).room = none := by rw [Device.take, h, Option.map_none]
    rw [snd_emitAll_writing_cons, Device.write_of_fits hfits, ih hroom, List.length_cons,
      List.replicate_succ]

theorem snd_emitAll_writing_of_room_eq_some {d : Device} {room : ℕ} (h : d.room = some room)
    (segments : List Segment) :
    ((writing l).emitAll d segments).2 = (List.range segments.length).map fun k ↦
      if ((segments.take (k + 1)).map l.size).sum ≤ room then none else some d.failure := by
  induction segments generalizing d room with
  | nil => rfl
  | cons s segments ih =>
    have hroom : (d.write (utf8 (l.line s))).1.room = some (room - l.size s) := by
      rw [Device.write, h]
      rfl
    have hfailure : (d.write (utf8 (l.line s))).1.failure = d.failure := by
      rw [Device.write, h]
    have hanswer : (d.write (utf8 (l.line s))).2 =
        if l.size s ≤ room then none else some d.failure := by
      rw [Device.write, h]
      rfl
    rw [snd_emitAll_writing_cons, ih hroom, hfailure, hanswer, List.length_cons,
      List.range_succ_eq_map, List.map_cons, List.map_map]
    refine congrArg₂ List.cons ?_ (List.map_congr_left fun k hk ↦ ?_)
    · simp
    · -- behind a line that does not fit there is no room left, and the next lines are not empty
      have hpos := l.sum_size_take_pos (List.mem_range.mp hk)
      have hiff : ((segments.take (k + 1)).map l.size).sum ≤ room - l.size s ↔
          l.size s + ((segments.take (k + 1)).map l.size).sum ≤ room := by
        omega
      simp only [Function.comp_apply, List.take_succ_cons, List.map_cons, List.sum_cons, hiff]

end Sink

/-! ## Whatever the pieces are -/

namespace Layout

variable {l : Layout}

/-- Lines are sent to a device one after another, also after a failure, each in pieces. -/
inductive Delivers (l : Layout) :
    Device → List Segment → Device → List (Option DeviceError) → Prop
  | done (d : Device) : Delivers l d [] d []
  | next {d d' d'' : Device} {s : Segment} {segments : List Segment}
      {pieces : List (List UInt8)} {answer : Option DeviceError}
      {answers : List (Option DeviceError)} :
      pieces.flatten = utf8 (l.line s) → d.Sends pieces d' answer →
        Delivers l d' segments d'' answers → Delivers l d (s :: segments) d'' (answer :: answers)

theorem delivers_iff {d d' : Device} {segments : List Segment}
    {answers : List (Option DeviceError)} :
    l.Delivers d segments d' answers ↔
      (Sink.writing l).emitAll d segments = (d', answers) := by
  constructor
  · intro h
    induction h with
    | done d => rfl
    | next hpieces hsends _ ih =>
      rw [Device.sends_iff, hpieces] at hsends
      change (Sink.writing l).emit _ _ = _ at hsends
      rw [Sink.emitAll, hsends]
      dsimp only
      rw [ih]
  · intro h
    induction segments generalizing d answers with
    | nil =>
      cases h
      exact .done _
    | cons s segments ih =>
      cases h
      have hpieces : [utf8 (l.line s)].flatten = utf8 (l.line s) := List.flatten_singleton
      refine .next hpieces (Device.sends_iff.mpr ?_) (ih rfl)
      rw [hpieces]
      rfl

end Layout

/-- **A drawing on a device that fails.** A device that takes `limit` bytes ends up with the first
ones of the drawing, as many as it takes, and a segment is answered without a failure exactly if its
line and all lines before it are no longer than that, together. So it is whatever the pieces of the
lines are, and in whichever parts the device takes them. -/
theorem Sink.emitAll_writing_bounded (l : Layout) (segments : List Segment) (limit : ℕ)
    (failure : DeviceError) :
    let free := (writing l).emitAll .unbounded segments
    let cut := (writing l).emitAll (.bounded limit failure) segments
    free.1.taken.toList = utf8 (l.drawing segments) ∧
    free.2 = List.replicate segments.length none ∧
    cut.1.taken.toList = free.1.taken.toList.take limit ∧
    cut.2 = ((List.range segments.length).map fun k ↦
      if ((segments.take (k + 1)).map l.size).sum ≤ limit then none else some failure) ∧
    (∀ d answers, l.Delivers (.bounded limit failure) segments d answers ↔ cut = (d, answers)) ∧
    DeviceError.closed.message = "closed" ∧
    DeviceError.stalled.message = "failed to write whole buffer" := by
  intro free cut
  have hfree : free.1.taken.toList = utf8 (l.drawing segments) := by
    rw [fst_emitAll_writing]
    simp [Device.write, Device.unbounded]
  have hcut : cut.1.taken.toList = (utf8 (l.drawing segments)).take limit := by
    rw [fst_emitAll_writing]
    simp [Device.write, Device.bounded]
  exact ⟨hfree, snd_emitAll_writing_of_room_eq_none l rfl segments, hfree ▸ hcut,
    snd_emitAll_writing_of_room_eq_some l rfl segments, fun _ _ ↦ Layout.delivers_iff, rfl, rfl⟩

/-- A pipe that is closed inside the first number of the second row. -/
example :
    let s : Segment := ⟨⟨0, 0⟩, ⟨-1.5, 0.25⟩⟩
    let cut := (Sink.writing .csv).emitAll (.bounded 16 .closed) [s, ⟨s.stop, s.start⟩, s]
    cut.1.taken.toList = utf8 "0,0,-1.5,0.25\n-1".toList ∧
      cut.2 = [none, some .closed, some .closed] := by
  decide +kernel

end Lindenmayer

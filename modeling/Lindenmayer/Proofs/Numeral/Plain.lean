import Lindenmayer.Proofs.Numeral.Pointed
import Lindenmayer.Proofs.Numeral.Shortest

/-!
# Plain numerals

A number has many numerals, since zeros may stand in front of the digits and behind those that
follow the point. One of them has no such zeros. This is the one that a number is written as, and a
description of what is written need not say how: it is enough to say that the numeral is plain and
of which number it is one.

## One numeral for each number

Two numerals of one number are compared after zeros have been put to the shorter one, first at the
end and then in front. Digit strings of one length and one value are the same, so the zeros that
were put there are part of the longer numeral, where they are not allowed.
-/

namespace Lindenmayer.Numeral

open Text (natural)

/-- The plain numeral of a number: what follows a zero in front is a point, and what follows a point
is digits with another one than zero at the end. -/
structure Plain (cs : List Char) (q : ℚ) : Prop where
  pointed : Pointed cs q
  front : ∀ c rest, cs = '0' :: c :: rest → c = '.'
  back : '.' ∈ cs → cs.getLast? ≠ some '0' ∧ cs.getLast? ≠ some '.'

/-! ## Digit strings -/

theorem ofDigitChars_inj {ds es : List Char} {a b : ℕ} (hds : ∀ c ∈ ds, c.isDigit)
    (hes : ∀ c ∈ es, c.isDigit) (hlength : ds.length = es.length)
    (h : Nat.ofDigitChars 10 ds a = Nat.ofDigitChars 10 es b) : a = b ∧ ds = es := by
  induction ds generalizing es a b with
  | nil =>
    obtain rfl := List.eq_nil_of_length_eq_zero hlength.symm
    exact ⟨h, rfl⟩
  | cons c ds ih =>
    obtain ⟨d, es, rfl⟩ := List.exists_cons_of_length_eq_add_one hlength.symm
    obtain ⟨hc, hds⟩ := List.forall_mem_cons.mp hds
    obtain ⟨hd, hes⟩ := List.forall_mem_cons.mp hes
    rw [Nat.ofDigitChars_cons, Nat.ofDigitChars_cons] at h
    obtain ⟨hhead, rfl⟩ := ih hds hes (Nat.succ.inj hlength) h
    rw [Char.isDigit_iff_toNat] at hc hd
    have hzero : '0'.toNat = 48 := rfl
    have hnine : '9'.toNat = 57 := rfl
    obtain rfl : c = d := Char.toNat_inj.mp (by omega)
    exact ⟨by omega, rfl⟩

theorem eq_of_ofDigitChars_eq {ds es : List Char} (hne : ds ≠ []) (hne' : es ≠ [])
    (hds : ∀ c ∈ ds, c.isDigit) (hes : ∀ c ∈ es, c.isDigit)
    (hfront : ds.head? = some '0' → ds = ['0']) (hfront' : es.head? = some '0' → es = ['0'])
    (h : Nat.ofDigitChars 10 ds 0 = Nat.ofDigitChars 10 es 0) : ds = es := by
  wlog hle : ds.length ≤ es.length generalizing ds es
  · exact (this hne' hne hes hds hfront' hfront h.symm (Nat.le_of_not_ge hle)).symm
  obtain ⟨k, hk⟩ := Nat.exists_eq_add_of_le' hle
  have hpadded : List.replicate k '0' ++ ds = es := by
    refine (ofDigitChars_inj (a := 0) (b := 0) ?_ hes ?_ ?_).2
    · exact List.forall_mem_append.mpr ⟨fun _ ↦ isDigit_of_mem_replicate, hds⟩
    · rw [List.length_append, List.length_replicate, hk]
    · rw [Nat.ofDigitChars_append, Nat.ofDigitChars_replicate_zero, Nat.mul_zero, h]
  rcases k with - | k
  · exact hpadded
  · have hone : es = ['0'] := hfront' (by rw [← hpadded]; rfl)
    rw [hone, List.length_singleton] at hk
    have hpos := List.length_pos_of_ne_nil hne
    omega

/-! ## Uniqueness -/

/-- What stands behind the whole part: nothing, or a point and digits. -/
def behindPoint : List Char → List Char
  | [] => []
  | c :: cs => '.' :: c :: cs

/-- The digits of a plain numeral, ahead of the point and behind it. -/
structure Parts (ahead behind : List Char) (q : ℚ) : Prop where
  ne_nil : ahead ≠ []
  isDigit_ahead : ∀ c ∈ ahead, c.isDigit
  isDigit_behind : ∀ c ∈ behind, c.isDigit
  front : ahead.head? = some '0' → ahead = ['0']
  back : behind.getLast? ≠ some '0'
  value : (Nat.ofDigitChars 10 (ahead ++ behind) 0 : ℕ) * 10 ^ (-behind.length : ℤ) = q

theorem Parts.unique {ahead behind ahead' behind' : List Char} {q : ℚ} (h : Parts ahead behind q)
    (h' : Parts ahead' behind' q) : ahead = ahead' ∧ behind = behind' := by
  wlog hle : behind.length ≤ behind'.length generalizing ahead behind ahead' behind'
  · obtain ⟨rfl, rfl⟩ := this h' h (Nat.le_of_not_ge hle)
    exact ⟨rfl, rfl⟩
  obtain ⟨k, hk⟩ := Nat.exists_eq_add_of_le hle
  have hnumbers : 10 ^ k * Nat.ofDigitChars 10 (ahead ++ behind) 0 =
      Nat.ofDigitChars 10 (ahead' ++ behind') 0 := by
    have hunit : (10 : ℚ) ^ (-behind.length : ℤ) = 10 ^ k * 10 ^ (-behind'.length : ℤ) := by
      rw [hk, ← zpow_natCast, ← zpow_add₀ (by norm_num)]
      congr 1
      push_cast
      ring
    have hvalue := h.value.trans h'.value.symm
    rw [hunit, ← mul_assoc] at hvalue
    have hcancel := mul_right_cancel₀ (by positivity) hvalue
    rw [mul_comm] at hcancel
    exact_mod_cast hcancel
  have hpadded : Nat.ofDigitChars 10 (behind ++ List.replicate k '0')
      (Nat.ofDigitChars 10 ahead 0) =
        Nat.ofDigitChars 10 behind' (Nat.ofDigitChars 10 ahead' 0) := by
    rw [Nat.ofDigitChars_append, Nat.ofDigitChars_replicate_zero, ← Nat.ofDigitChars_append,
      ← Nat.ofDigitChars_append, hnumbers]
  obtain ⟨hwhole, hbehind⟩ := ofDigitChars_inj
    (List.forall_mem_append.mpr ⟨h.isDigit_behind, fun _ ↦ isDigit_of_mem_replicate⟩)
    h'.isDigit_behind (by rw [List.length_append, List.length_replicate, hk]) hpadded
  refine ⟨eq_of_ofDigitChars_eq h.ne_nil h'.ne_nil h.isDigit_ahead h'.isDigit_ahead h.front h'.front
    hwhole, ?_⟩
  rcases k with - | k
  · rwa [List.replicate_zero, List.append_nil] at hbehind
  · refine absurd ?_ h'.back
    rw [← hbehind, List.replicate_succ', ← List.append_assoc, List.getLast?_concat]

namespace Plain

variable {cs cs' : List Char} {q : ℚ}

theorem exists_parts (h : Plain cs q) :
    ∃ ahead behind, cs = ahead ++ behindPoint behind ∧ Parts ahead behind q := by
  obtain ⟨hpointed, hfront, hback⟩ := h
  -- what follows a zero in front is no digit
  have halone : ∀ {ahead rest : List Char}, cs = ahead ++ rest → (∀ c ∈ ahead, c.isDigit) →
      ahead.head? = some '0' → ahead = ['0'] := by
    intro ahead rest hcs hdigits hhead
    obtain ⟨tail, rfl⟩ := List.head?_eq_some_iff.mp hhead
    rcases tail with - | ⟨c, tail⟩
    · rfl
    · have hc : c.isDigit := hdigits c (by simp)
      rw [hfront c (tail ++ rest) hcs] at hc
      exact absurd hc (by decide)
  rcases hpointed with ⟨hne, hds⟩ | @⟨ahead, behind, hne, hds⟩
  · refine ⟨cs, [], (List.append_nil cs).symm, hne, hds, List.forall_mem_nil _,
      halone (List.append_nil cs).symm hds, by simp, by simp⟩
  · obtain ⟨hahead, hbehind⟩ := List.forall_mem_append.mp hds
    obtain ⟨hzero, hpoint⟩ := hback (by simp)
    rcases behind with - | ⟨c, behind⟩
    · rw [List.getLast?_concat] at hpoint
      exact absurd rfl hpoint
    · refine ⟨ahead, c :: behind, rfl, hne, hahead, hbehind, halone rfl hahead, ?_, rfl⟩
      rwa [List.getLast?_append_cons, List.getLast?_cons_cons] at hzero

/-- **One plain numeral for each number.** -/
theorem unique (h : Plain cs q) (h' : Plain cs' q) : cs = cs' := by
  obtain ⟨ahead, behind, rfl, hparts⟩ := h.exists_parts
  obtain ⟨ahead', behind', rfl, hparts'⟩ := h'.exists_parts
  obtain ⟨rfl, rfl⟩ := hparts.unique hparts'
  rfl

end Plain

/-! ## Writing -/

theorem head?_stripped_ne {n : ℕ} (h : 0 < n) : (stripped n).head? ≠ some '0' := by
  obtain ⟨k, hk⟩ := exists_natural_eq_stripped n
  have hnatural := Text.head?_natural_ne h
  rwa [hk, List.head?_append_of_ne_nil _ (stripped_ne_nil h)] at hnatural

theorem getLast?_stripped_ne (n : ℕ) : (stripped n).getLast? ≠ some '0' := by
  intro hlast
  have hne : stripped n ≠ [] := by
    rintro hnil
    rw [hnil] at hlast
    exact absurd hlast (by decide)
  rw [List.getLast?_eq_getLast_of_ne_nil hne, Option.some_inj] at hlast
  exact List.rdropWhile_last_not (· == '0') (natural n) hne (beq_iff_eq.mpr hlast)

/-- **Writing with a point is plain.** Digits without zeros at both ends are written as the plain
numeral of the number that has them. -/
theorem Style.plain_positional {s : Style} (hwhole : s.whole = "") {ds : List Char}
    (hne : ds ≠ []) (hds : ∀ c ∈ ds, c.isDigit) (hhead : ds.head? ≠ some '0')
    (hlast : ds.getLast? ≠ some '0') (order : ℤ) :
    Plain (s.positional ds order)
      ((Nat.ofDigitChars 10 ds 0 : ℕ) * 10 ^ (order + 1 - ds.length)) := by
  have hpointed := s.pointed_positional hwhole hne hds order
  have hpoint : ds.getLast? ≠ some '.' :=
    fun h ↦ absurd (hds '.' (List.mem_of_getLast? h)) (by decide)
  have hfront : ∀ {cs : List Char}, cs.head? = ds.head? →
      ∀ c rest, cs = '0' :: c :: rest → c = '.' := by
    rintro _ hcs c rest rfl
    exact absurd hcs.symm hhead
  rw [positional] at hpointed ⊢
  dsimp only at hpointed ⊢
  split_ifs at hpointed ⊢ with hsmall hshort
  · refine ⟨hpointed, fun c rest h ↦ (List.cons.inj (List.cons.inj h).2).1.symm, fun _ ↦ ?_⟩
    rw [List.getLast?_append_of_ne_nil _ hne]
    exact ⟨hlast, hpoint⟩
  · rw [hwhole, String.toList_empty, List.append_nil] at hpointed ⊢
    refine ⟨hpointed, hfront (List.head?_append_of_ne_nil _ hne), fun hmem ↦ ?_⟩
    rcases List.mem_append.mp hmem with hmem | hmem
    · exact absurd (hds '.' hmem) (by decide)
    · exact absurd (isDigit_of_mem_replicate hmem) (by decide)
  · have hhead : (ds.take (order.toNat + 1) ++ '.' :: ds.drop (order.toNat + 1)).head? =
        ds.head? := by
      rw [List.head?_append_of_ne_nil _ (by simp [hne]), List.head?_take,
        if_neg (Nat.succ_ne_zero _)]
    refine ⟨hpointed, hfront hhead, fun _ ↦ ?_⟩
    have hdrop : ds.drop (order.toNat + 1) ≠ [] := by
      rw [Ne, List.drop_eq_nil_iff]
      exact hshort
    rw [List.getLast?_append_of_ne_nil _ (List.cons_ne_nil _ _), List.getLast?_cons_of_ne_nil hdrop,
      List.getLast?_drop, if_neg hshort]
    exact ⟨hlast, hpoint⟩

end Lindenmayer.Numeral

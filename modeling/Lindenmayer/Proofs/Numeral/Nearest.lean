import Lindenmayer.Numeral.Reading
import Lindenmayer.Proofs.Numeral.Value

/-!
# Rounding to a binary format

A magnitude takes the numbers that are nearer to it than to its neighbours. This file shows that
rounding agrees: a number that a magnitude of a format takes is encoded as that magnitude, and a
decimal that a single-precision magnitude takes is read as that magnitude.

## Two binades

A number is rounded in units of its own binade, and that need not be the binade of the magnitude
that takes it. The least magnitude of a binade takes numbers of the binade below too, those within a
quarter of a unit. In the units of the binade below they are half a unit away from a power of two,
which is even, so they are rounded to it; and the pattern of bits that is put together from the two
parts is the one of the magnitude, since the carry goes from one part to the other. Every other
number is in the binade of its magnitude, or both are in the least one.
-/

namespace Lindenmayer.Numeral

/-! ## Logarithms of quotients -/

theorem log2_div_le {num den n : ℕ} (hden : 0 < den) (h : (num : ℚ) / den < 2 ^ (n + 1)) :
    (num / den).log2 ≤ n := by
  have hlt : num / den < 2 ^ (n + 1) := by
    rw [Nat.div_lt_iff_lt_mul hden]
    exact_mod_cast (div_lt_iff₀ (Nat.cast_pos.mpr hden)).mp h
  rcases Nat.eq_zero_or_pos (num / den) with hzero | hpos
  · rw [hzero, Nat.log2_zero]
    exact n.zero_le
  · exact Nat.le_of_lt_succ ((Nat.log2_lt hpos.ne').mpr hlt)

theorem le_log2_div {num den n : ℕ} (hden : 0 < den) (h : (2 : ℚ) ^ n ≤ num / den) :
    n ≤ (num / den).log2 := by
  have hle : 2 ^ n ≤ num / den := by
    rw [Nat.le_div_iff_mul_le hden]
    exact_mod_cast (le_div_iff₀ (Nat.cast_pos.mpr hden)).mp h
  have hpos : 0 < num / den := (Nat.two_pow_pos n).trans_le hle
  exact (Nat.le_log2 hpos.ne').mpr hle

/-! ## Formats -/

namespace Format

/-- A format has a magnitude, in the binade with the given number above the least one. -/
structure Contains (f : Format) (m : Magnitude) (binade : ℕ) : Prop where
  exponent : m.exponent = f.lowest + binade
  pos : 0 < m.significand
  lt : m.significand < 2 ^ (f.fractionBits + 1)
  normal : 0 < binade → 2 ^ f.fractionBits ≤ m.significand
  narrow : m.narrowBelow = true ↔ 0 < binade ∧ m.significand = 2 ^ f.fractionBits
  bits_lt : binade * 2 ^ f.fractionBits + m.significand < f.infinity

theorem infinity_eq (f : Format) : f.infinity = f.special * 2 ^ f.fractionBits :=
  Nat.shiftLeft_eq _ _

theorem special_eq (f : Format) : f.special = 2 ^ f.exponentBits - 1 := by
  rw [special, Nat.one_shiftLeft]

/-- What the bits below that of the sign are for a value. -/
inductive Encodes (f : Format) (negative : Bool) : Value → ℕ → Prop
  | zero : Encodes f negative (.zero negative) 0
  | finite {m : Magnitude} {binade : ℕ} : f.Contains m binade →
      Encodes f negative (.finite negative m) (binade * 2 ^ f.fractionBits + m.significand)
  | infinite : Encodes f negative (.infinite negative) f.infinity
  | nan {bits : ℕ} : f.infinity < bits → Encodes f negative .nan bits

theorem contains_subnormal {f : Format} {fraction : ℕ} (hne : fraction ≠ 0)
    (hfraction : fraction < 2 ^ f.fractionBits) (hspecial : 0 < f.special) :
    f.Contains ⟨fraction, f.lowest, false⟩ 0 where
  exponent := (add_zero _).symm
  pos := Nat.pos_of_ne_zero hne
  lt := hfraction.trans_le (Nat.pow_le_pow_right Nat.two_pos (Nat.le_succ _))
  normal h := absurd h (lt_irrefl 0)
  narrow := by simp
  bits_lt := by
    rw [infinity_eq, Nat.zero_mul, Nat.zero_add]
    exact hfraction.trans_le (Nat.le_mul_of_pos_left _ hspecial)

theorem contains_normal {f : Format} {fraction binade : ℕ}
    (hfraction : fraction < 2 ^ f.fractionBits) (hspecial : binade + 1 < f.special) :
    f.Contains ⟨2 ^ f.fractionBits + fraction, f.lowest + binade,
      fraction = 0 && 1 < binade + 1⟩ binade where
  exponent := rfl
  pos := Nat.add_pos_left (Nat.two_pow_pos _) _
  lt := by
    dsimp only
    rw [pow_succ]
    omega
  normal _ := Nat.le_add_right _ _
  narrow := by simp [and_comm]
  bits_lt := by
    have hle : (binade + 1 + 1) * 2 ^ f.fractionBits ≤ f.special * 2 ^ f.fractionBits :=
      Nat.mul_le_mul_right _ hspecial
    rw [Nat.add_one_mul, Nat.add_one_mul] at hle
    rw [infinity_eq]
    dsimp only
    omega

theorem encodes_decode (f : Format) (bits : ℕ) :
    f.Encodes (bits >>> (f.fractionBits + f.exponentBits) % 2 = 1) (f.decode bits)
      (bits % 2 ^ (f.fractionBits + f.exponentBits)) := by
  have hbits : bits % 2 ^ (f.fractionBits + f.exponentBits) =
      bits / 2 ^ f.fractionBits % 2 ^ f.exponentBits * 2 ^ f.fractionBits +
        bits % 2 ^ f.fractionBits := by
    rw [pow_add, Nat.mod_mul]
    ring
  have hfraction : bits % 2 ^ f.fractionBits < 2 ^ f.fractionBits :=
    Nat.mod_lt _ (Nat.two_pow_pos _)
  have hbiased : bits / 2 ^ f.fractionBits % 2 ^ f.exponentBits < 2 ^ f.exponentBits :=
    Nat.mod_lt _ (Nat.two_pow_pos _)
  simp only [decode, Nat.one_shiftLeft, Nat.shiftRight_eq_div_pow]
  rw [hbits]
  generalize bits % 2 ^ f.fractionBits = fraction at hfraction ⊢
  generalize bits / 2 ^ f.fractionBits % 2 ^ f.exponentBits = biased at hbiased ⊢
  have hspecial : biased ≠ f.special → biased < f.special := by
    rw [special_eq]
    omega
  split_ifs with hmax hinfinite hmin hzero
  · rw [hmax, hinfinite, Nat.add_zero, ← infinity_eq]
    exact .infinite
  · rw [hmax, ← infinity_eq]
    exact .nan (Nat.lt_add_of_pos_right (Nat.pos_of_ne_zero hinfinite))
  · rw [hmin, hzero, Nat.zero_mul]
    exact .zero
  · rw [hmin]
    exact .finite (contains_subnormal hzero hfraction (hmin ▸ hspecial hmax))
  · obtain ⟨binade, rfl⟩ := Nat.exists_eq_succ_of_ne_zero hmin
    rw [Nat.succ_mul, Nat.add_assoc]
    exact .finite (contains_normal hfraction (hspecial hmax))

/-- A number is rounded in units of the least positive one of the format, at the binade that its
logarithm gives. -/
theorem nearest_of_log2 {f : Format} {num den units steps s : ℕ}
    (hunits : num <<< (-f.lowest).toNat = units)
    (hsteps : (units / den).log2 - f.fractionBits = steps)
    (hround : roundDiv .even units (den * 2 ^ steps) = s)
    (hlt : steps * 2 ^ f.fractionBits + s < f.infinity) :
    f.nearest num den = steps * 2 ^ f.fractionBits + s := by
  rw [nearest, hunits, hsteps, Nat.shiftLeft_eq, Nat.shiftLeft_eq, hround, min_eq_left hlt.le]

theorem Contains.between_units {f : Format} {m : Magnitude} {binade num den : ℕ}
    (hlowest : f.lowest ≤ 0) (hm : f.Contains m binade) (h : m.Takes (num / den)) :
    Between (m.significand % 2 = 0) ((m.significand - m.below) * 2 ^ binade)
      ((num <<< (-f.lowest).toNat : ℕ) / den) ((m.significand + 1 / 2) * 2 ^ binade) := by
  have hscale : (0 : ℚ) < 2 ^ (-f.lowest).toNat := by positivity
  have hpower : (2 : ℚ) ^ m.exponent * 2 ^ (-f.lowest).toNat = 2 ^ binade := by
    rw [← zpow_natCast, ← zpow_natCast, ← zpow_add₀ two_ne_zero, hm.exponent]
    congr 1
    omega
  rw [Magnitude.Takes, ← Between.mul_iff hscale, mul_assoc, mul_assoc, hpower] at h
  rwa [Nat.shiftLeft_eq, Nat.cast_mul, Nat.cast_pow, Nat.cast_ofNat, mul_div_right_comm]

theorem roundDiv_scaled {units den steps s : ℕ} (hden : 0 < den)
    (h : Between (s % 2 = 0) ((s - 1 / 2) * 2 ^ steps) (units / den) ((s + 1 / 2) * 2 ^ steps)) :
    roundDiv .even units (den * 2 ^ steps) = s := by
  have hscale : (0 : ℚ) < 2 ^ steps := by positivity
  have hquotient : (units : ℚ) / (den * 2 ^ steps : ℕ) * 2 ^ steps = units / den := by
    rw [Nat.cast_mul, Nat.cast_pow, Nat.cast_ofNat, ← div_div, div_mul_cancel₀ _ hscale.ne']
  refine roundDiv_even_eq (Nat.mul_pos hden (Nat.two_pow_pos steps)) ?_
  rwa [← Between.mul_iff hscale, hquotient]

theorem Contains.significand_eq_of_lt {f : Format} {m : Magnitude} {binade : ℕ} {q : ℚ}
    (hm : f.Contains m binade) (hbinade : 0 < binade)
    (hle : (m.significand - m.below) * 2 ^ binade ≤ q) (hlt : q < 2 ^ (f.fractionBits + binade)) :
    m.significand = 2 ^ f.fractionBits := by
  refine le_antisymm ?_ (hm.normal hbinade)
  by_contra hgt
  have hsucc : (2 : ℚ) ^ f.fractionBits + 1 ≤ m.significand := by exact_mod_cast not_le.mp hgt
  have hbelow := m.below_le
  have hge : (2 : ℚ) ^ f.fractionBits ≤ m.significand - m.below := by linarith
  have hpower : (2 : ℚ) ^ f.fractionBits * 2 ^ binade ≤ q :=
    (mul_le_mul_of_nonneg_right hge (by positivity)).trans hle
  rw [pow_add] at hlt
  exact absurd hlt (not_lt.mpr hpower)

/-- A number below a binade that is nearest to the least one of it: in units of its own binade it is
rounded to a power of two, and the carry gives the bits. -/
theorem nearest_of_carry {f : Format} {num den units steps : ℕ} (hden : 0 < den)
    (hunits : num <<< (-f.lowest).toNat = units)
    (hle : ((2 : ℚ) ^ f.fractionBits - 1 / 4) * 2 ^ (steps + 1) ≤ units / den)
    (hlt : (units : ℚ) / den < 2 ^ (f.fractionBits + (steps + 1)))
    (hbits : (steps + 1) * 2 ^ f.fractionBits + 2 ^ f.fractionBits < f.infinity) :
    f.nearest num den = (steps + 1) * 2 ^ f.fractionBits + 2 ^ f.fractionBits := by
  have hone : (1 : ℚ) ≤ 2 ^ f.fractionBits := one_le_pow₀ one_le_two
  have hpos : (0 : ℚ) < 2 ^ steps := by positivity
  have hsplit : (steps + 1) * 2 ^ f.fractionBits + 2 ^ f.fractionBits =
      steps * 2 ^ f.fractionBits + 2 ^ (f.fractionBits + 1) := by
    ring
  have hlog : (2 : ℚ) ^ (f.fractionBits + steps) ≤ units / den := by
    calc (2 : ℚ) ^ (f.fractionBits + steps) = 2 ^ f.fractionBits / 2 * 2 ^ (steps + 1) := by ring
      _ ≤ (2 ^ f.fractionBits - 1 / 4) * 2 ^ (steps + 1) := by
        gcongr
        linarith
      _ ≤ units / den := hle
  have hsteps : (units / den).log2 - f.fractionBits = steps := by
    have hupper : (units / den).log2 ≤ f.fractionBits + steps := log2_div_le hden hlt
    have hlower := le_log2_div hden hlog
    omega
  rw [hsplit] at hbits ⊢
  refine nearest_of_log2 hunits hsteps (roundDiv_scaled hden ⟨?_, ?_, fun hodd ↦ ?_⟩) hbits
  · rw [Nat.cast_pow, Nat.cast_ofNat]
    calc ((2 : ℚ) ^ (f.fractionBits + 1) - 1 / 2) * 2 ^ steps
        = (2 ^ f.fractionBits - 1 / 4) * 2 ^ (steps + 1) := by ring
      _ ≤ units / den := hle
  · rw [Nat.cast_pow, Nat.cast_ofNat]
    calc (units : ℚ) / den ≤ 2 ^ (f.fractionBits + 1) * 2 ^ steps := by
          rw [← pow_add, add_right_comm]
          exact hlt.le
      _ ≤ (2 ^ (f.fractionBits + 1) + 1 / 2) * 2 ^ steps := by
        gcongr
        linarith
  · rw [pow_succ, Nat.mul_mod_left] at hodd
    exact absurd rfl hodd

/-- **Rounding finds the magnitude.** A number that a magnitude of the format takes is encoded as
that magnitude. -/
theorem nearest_eq {f : Format} {m : Magnitude} {binade num den : ℕ} (hlowest : f.lowest ≤ 0)
    (hm : f.Contains m binade) (hden : 0 < den) (h : m.Takes (num / den)) :
    f.nearest num den = binade * 2 ^ f.fractionBits + m.significand := by
  have hunits := hm.between_units hlowest h
  generalize hdef : num <<< (-f.lowest).toNat = units at hunits
  have hlt : (m.significand : ℚ) + 1 / 2 < 2 ^ (f.fractionBits + 1) := by
    have hsucc : (m.significand : ℚ) + 1 ≤ 2 ^ (f.fractionBits + 1) := by exact_mod_cast hm.lt
    linarith
  have hupper : (units : ℚ) / den < 2 ^ (f.fractionBits + binade + 1) := by
    calc (units : ℚ) / den ≤ (m.significand + 1 / 2) * 2 ^ binade := hunits.le_upper
      _ < 2 ^ (f.fractionBits + 1) * 2 ^ binade := by gcongr
      _ = 2 ^ (f.fractionBits + binade + 1) := by ring
  have hbelow := m.below_le
  by_cases hbinade : binade = 0 ∨ (2 : ℚ) ^ (f.fractionBits + binade) ≤ units / den
  · -- the number is rounded in the binade of the magnitude
    have hsteps : (units / den).log2 - f.fractionBits = binade := by
      have hle := log2_div_le hden hupper
      rcases hbinade with hzero | hge
      · omega
      · have hlog := le_log2_div hden hge
        omega
    refine nearest_of_log2 hdef hsteps (roundDiv_scaled hden ?_) hm.bits_lt
    exact hunits.mono (by gcongr)
  · -- the number is in the binade below, so the magnitude is the least one of its own
    rw [not_or, not_le] at hbinade
    obtain ⟨hne, hlow⟩ := hbinade
    have hpos := Nat.pos_of_ne_zero hne
    have hleast := hm.significand_eq_of_lt hpos hunits.lower_le hlow
    have hquarter : m.below = 1 / 4 := if_pos (hm.narrow.mpr ⟨hpos, hleast⟩)
    have hlower := hunits.lower_le
    have hbits := hm.bits_lt
    rw [hleast, hquarter, Nat.cast_pow, Nat.cast_ofNat] at hlower
    rw [hleast] at hbits ⊢
    obtain ⟨steps, rfl⟩ := Nat.exists_eq_succ_of_ne_zero hne
    exact nearest_of_carry hden hdef hlower hlow hbits

end Format

/-! ## Decimals -/

theorem Decimal.value_eq_div (d : Decimal) :
    d.value = (d.coefficient * powerOfTen d.exponent.toNat : ℕ) /
      (powerOfTen (-d.exponent).toNat : ℕ) := by
  have hexponent : d.exponent = d.exponent.toNat - (-d.exponent).toNat := by omega
  rw [value, Nat.cast_mul, cast_powerOfTen, cast_powerOfTen, mul_div_assoc]
  congr 1
  conv_lhs => rw [hexponent]
  rw [zpow_sub₀ (by norm_num), zpow_natCast, zpow_natCast]

theorem Decimal.coefficient_pos_of_value_pos {d : Decimal} (h : 0 < d.value) :
    0 < d.coefficient := by
  rcases Nat.eq_zero_or_pos d.coefficient with hzero | hpos
  · rw [value, hzero, Nat.cast_zero, zero_mul] at h
    exact absurd h (lt_irrefl 0)
  · exact hpos

variable {m : Magnitude} {binade : ℕ}

theorem Magnitude.Takes.half_unit_le {q : ℚ} (hpos : 0 < m.significand) (h : m.Takes q) :
    (2 : ℚ) ^ (m.exponent - 1) ≤ q := by
  have hone : (1 : ℚ) ≤ m.significand := by exact_mod_cast hpos
  have hbelow := m.below_le
  calc (2 : ℚ) ^ (m.exponent - 1) = 1 / 2 * 2 ^ m.exponent := by
        rw [zpow_sub_one₀ two_ne_zero]
        ring
    _ ≤ (m.significand - m.below) * 2 ^ m.exponent := by
      gcongr
      linarith
    _ ≤ q := h.lower_le

theorem Format.Contains.lt_of_takes {f : Format} {q : ℚ} (hm : f.Contains m binade)
    (h : m.Takes q) : q < 2 ^ (f.fractionBits + 1 + m.exponent) := by
  have hsucc : (m.significand : ℚ) + 1 ≤ 2 ^ (f.fractionBits + 1) := by exact_mod_cast hm.lt
  calc q ≤ (m.significand + 1 / 2) * 2 ^ m.exponent := h.le_upper
    _ < 2 ^ (f.fractionBits + 1) * 2 ^ m.exponent := by
      gcongr
      linarith
    _ = 2 ^ (f.fractionBits + 1 + m.exponent) := by
      rw [zpow_add₀ two_ne_zero]
      norm_cast

theorem Format.Contains.single_exponent (hm : single.Contains m binade) :
    -149 ≤ m.exponent ∧ m.exponent ≤ 104 := by
  have hexponent : m.exponent = -149 + binade := hm.exponent
  have hbits : binade * 2 ^ 23 + m.significand < 255 * 2 ^ 23 := hm.bits_lt
  have hnormal : 0 < binade → 2 ^ 23 ≤ m.significand := hm.normal
  omega

/-- **A decimal is read as the nearest magnitude.** The bounds on its order exclude no decimal that
any magnitude takes. -/
theorem Decimal.nearestBits_eq {d : Decimal} (hm : single.Contains m binade)
    (h : m.Takes d.value) : d.nearestBits = binade * 2 ^ 23 + m.significand := by
  obtain ⟨hleast, hgreatest⟩ := hm.single_exponent
  have hlower : (2 : ℚ) ^ (-150 : ℤ) ≤ d.value :=
    (zpow_le_zpow_right₀ one_le_two (by omega)).trans (h.half_unit_le hm.pos)
  have hupper : d.value < 2 ^ (128 : ℤ) :=
    (hm.lt_of_takes h).trans_le (zpow_le_zpow_right₀ one_le_two (by change 23 + 1 + _ ≤ _; omega))
  have hpos : 0 < d.coefficient :=
    coefficient_pos_of_value_pos (lt_of_lt_of_le (by positivity) hlower)
  have hlow : ¬d.order < -46 := by
    intro hlt
    have hten : (10 : ℚ) ^ (d.order + 1) ≤ 10 ^ (-46 : ℤ) :=
      zpow_le_zpow_right₀ (by norm_num) (by omega)
    have hsmall : (10 : ℚ) ^ (-46 : ℤ) < 2 ^ (-150 : ℤ) := by norm_num
    linarith [d.value_lt]
  have hhigh : ¬39 ≤ d.order := by
    intro hge
    have hten : (10 : ℚ) ^ (39 : ℤ) ≤ 10 ^ d.order := zpow_le_zpow_right₀ (by norm_num) hge
    have hlarge : (2 : ℚ) ^ (128 : ℤ) < 10 ^ (39 : ℤ) := by norm_num
    linarith [d.le_value hpos]
  rw [nearestBits, if_neg (by simp [hpos.ne', hlow]), if_neg hhigh]
  refine Format.nearest_eq (by decide) hm (powerOfTen_pos _) ?_
  rwa [← d.value_eq_div]

/-- Half way between one and the next number a decimal is read as one, which is even; one more digit
makes it the next number. -/
example : Decimal.nearestBits ⟨1000000059604644775390625, -24⟩ = 0x3F800000 ∧
    Decimal.nearestBits ⟨10000000596046447753906251, -25⟩ = 0x3F800001 := by
  decide +kernel

end Lindenmayer.Numeral

import Lindenmayer.Numeral.Reading
import Lindenmayer.Numeral.Style
import Lindenmayer.Proofs.Numeral.Value
import Lindenmayer.Proofs.Source.Numeral

/-!
# Numerals without an exponent

The numerals of tables are digits, perhaps with a point among them. What they are written for is a
string of digits and the power of ten of the leading one, and this is not how they are read: a
reader counts the digits behind the point. The relation `Pointed` of a numeral and its number stands
between the two. A number is written as one of its numerals, and each of them is read as the number.
-/

namespace Lindenmayer.Numeral

open Text (readDigits? readDigits?_eq_some_iff)

/-- The numerals of a number: digits, at least one, and perhaps a point and more of them. -/
inductive Pointed : List Char → ℚ → Prop
  | whole {ds : List Char} :
      ds ≠ [] → (∀ c ∈ ds, c.isDigit) → Pointed ds (Nat.ofDigitChars 10 ds 0 : ℕ)
  | fraction {ahead behind : List Char} :
      ahead ≠ [] → (∀ c ∈ ahead ++ behind, c.isDigit) → Pointed (ahead ++ '.' :: behind)
        ((Nat.ofDigitChars 10 (ahead ++ behind) 0 : ℕ) * 10 ^ (-behind.length : ℤ))

namespace Pointed

variable {cs : List Char} {q : ℚ}

theorem mem (h : Pointed cs q) {c : Char} (hc : c ∈ cs) : c.isDigit ∨ c = '.' := by
  rcases h with ⟨_, hds⟩ | ⟨_, hds⟩
  · exact Or.inl (hds c hc)
  · rcases List.mem_append.mp hc with hahead | hbehind
    · exact Or.inl (hds c (List.mem_append_left _ hahead))
    · rcases List.mem_cons.mp hbehind with hpoint | hbehind
      · exact Or.inr hpoint
      · exact Or.inl (hds c (List.mem_append_right _ hbehind))

theorem exists_cons (h : Pointed cs q) : ∃ c rest, cs = c :: rest ∧ c.isDigit := by
  rcases h with ⟨hne, hds⟩ | @⟨ahead, behind, hne, hds⟩
  · obtain ⟨c, rest, rfl⟩ := List.exists_cons_of_ne_nil hne
    exact ⟨c, rest, rfl, hds c List.mem_cons_self⟩
  · obtain ⟨c, rest, rfl⟩ := List.exists_cons_of_ne_nil hne
    exact ⟨c, rest ++ '.' :: behind, rfl, hds c List.mem_cons_self⟩

/-! ## Reading -/

theorem exists_readDecimal?_append (h : Pointed cs q) {tail : List Char} {k : ℤ}
    (htail : ∀ c ∈ tail.head?, c.isDigit = false ∧ c ≠ '.') (hk : readExponent? tail = some k) :
    ∃ d, readDecimal? (cs ++ tail) = some d ∧ d.value = q * 10 ^ k := by
  have htake : tail.takeWhile Char.isDigit = [] ∧ tail.dropWhile Char.isDigit = tail := by
    rcases tail with - | ⟨c, tail⟩
    · exact ⟨rfl, rfl⟩
    · have hc := (htail c rfl).1
      simp [hc]
  rcases h with ⟨hne, hds⟩ | @⟨ahead, behind, hne, hds⟩
  · refine ⟨⟨Nat.ofDigitChars 10 cs 0, k⟩, ?_, rfl⟩
    have hdigits := readDigits?_eq_some_iff.mpr ⟨hne, hds, rfl⟩
    -- `simp` finds this one in the context when it looks for a point
    have hpoint : ∀ rest, tail = '.' :: rest → False := by
      rintro rest rfl
      exact absurd rfl (htail '.' rfl).2
    simp [readDecimal?, List.takeWhile_append_of_pos hds, List.dropWhile_append_of_pos hds, htake,
      hk, hdigits]
  · refine ⟨⟨Nat.ofDigitChars 10 (ahead ++ behind) 0, k - behind.length⟩, ?_, ?_⟩
    · obtain ⟨hahead, hbehind⟩ := List.forall_mem_append.mp hds
      have hdigits := readDigits?_eq_some_iff.mpr ⟨by simp [hne], hds, rfl⟩
      have hpoint : ¬('.'.isDigit = true) := by decide
      simp [readDecimal?, List.takeWhile_append_of_pos hahead, List.dropWhile_append_of_pos hahead,
        List.takeWhile_append_of_pos hbehind, List.dropWhile_append_of_pos hbehind, htake, hpoint,
        hk, hdigits]
    · rw [Decimal.value, mul_assoc, ← zpow_add₀ (by norm_num), neg_add_eq_sub]

/-- Every numeral of a number is read as a decimal of it. -/
theorem exists_readDecimal? (h : Pointed cs q) :
    ∃ d, readDecimal? cs = some d ∧ d.value = q := by
  have hnone : readExponent? [] = some 0 := rfl
  have hread := h.exists_readDecimal?_append (by simp) hnone
  rwa [List.append_nil, zpow_zero, mul_one] at hread

end Pointed

/-! ## Writing -/

theorem isDigit_of_mem_replicate {k : ℕ} {c : Char} (h : c ∈ List.replicate k '0') :
    c.isDigit := by
  rw [List.eq_of_mem_replicate h]
  decide

namespace Pointed

variable {ds : List Char}

theorem of_zeros_ahead (hds : ∀ c ∈ ds, c.isDigit) (k : ℕ) :
    Pointed ('0' :: '.' :: List.replicate k '0' ++ ds)
      ((Nat.ofDigitChars 10 ds 0 : ℕ) * 10 ^ (-(k + ds.length) : ℤ)) := by
  have hzeros : ∀ c ∈ ['0'] ++ List.replicate k '0', c.isDigit := by
    intro c hc
    rw [List.singleton_append, ← List.replicate_succ] at hc
    exact isDigit_of_mem_replicate hc
  have hdigits : ∀ c ∈ ['0'] ++ (List.replicate k '0' ++ ds), c.isDigit := by
    rw [← List.append_assoc]
    exact List.forall_mem_append.mpr ⟨hzeros, hds⟩
  have hvalue : Nat.ofDigitChars 10 (['0'] ++ (List.replicate k '0' ++ ds)) 0 =
      Nat.ofDigitChars 10 ds 0 := by
    rw [← List.append_assoc, List.singleton_append, ← List.replicate_succ,
      Nat.ofDigitChars_append, Nat.ofDigitChars_replicate_zero, Nat.mul_zero]
  have hlength : (k + ds.length : ℤ) = (List.replicate k '0' ++ ds).length := by
    rw [List.length_append, List.length_replicate, Nat.cast_add]
  rw [hlength, ← hvalue]
  exact .fraction (List.cons_ne_nil _ _) hdigits

theorem of_zeros_behind (hne : ds ≠ []) (hds : ∀ c ∈ ds, c.isDigit) (k : ℕ) :
    Pointed (ds ++ List.replicate k '0') ((Nat.ofDigitChars 10 ds 0 : ℕ) * 10 ^ (k : ℤ)) := by
  have hvalue : ((Nat.ofDigitChars 10 (ds ++ List.replicate k '0') 0 : ℕ) : ℚ) =
      (Nat.ofDigitChars 10 ds 0 : ℕ) * 10 ^ (k : ℤ) := by
    rw [Nat.ofDigitChars_append, Nat.ofDigitChars_replicate_zero, zpow_natCast, Nat.cast_mul,
      Nat.cast_pow, Nat.cast_ofNat, mul_comm]
  rw [← hvalue]
  exact .whole (List.append_ne_nil_of_left_ne_nil hne _)
    (List.forall_mem_append.mpr ⟨hds, fun _ ↦ isDigit_of_mem_replicate⟩)

theorem of_split (hne : ds ≠ []) (hds : ∀ c ∈ ds, c.isDigit) (k : ℕ) :
    Pointed (ds.take (k + 1) ++ '.' :: ds.drop (k + 1))
      ((Nat.ofDigitChars 10 ds 0 : ℕ) * 10 ^ (-(ds.length - (k + 1) : ℕ) : ℤ)) := by
  have hahead : ds.take (k + 1) ≠ [] := by simp [hne]
  have hdigits : ∀ c ∈ ds.take (k + 1) ++ ds.drop (k + 1), c.isDigit := by
    rwa [List.take_append_drop]
  have hpointed := fraction hahead hdigits
  rwa [List.take_append_drop, List.length_drop] at hpointed

end Pointed

/-- **Writing with a point.** Digits are written as a numeral of the number that has them, with the
leading one at the given power of ten. -/
theorem Style.pointed_positional {s : Style} (hwhole : s.whole = "") {ds : List Char}
    (hne : ds ≠ []) (hds : ∀ c ∈ ds, c.isDigit) (order : ℤ) :
    Pointed (s.positional ds order)
      ((Nat.ofDigitChars 10 ds 0 : ℕ) * 10 ^ (order + 1 - ds.length)) := by
  rw [positional]
  dsimp only
  split_ifs with hsmall hshort
  · have hplaces : order + 1 - ds.length = -((-order - 1).toNat + ds.length) := by omega
    rw [hplaces]
    exact .of_zeros_ahead hds _
  · have hplaces : order + 1 - ds.length = (order.toNat + 1 - ds.length : ℕ) := by omega
    rw [hplaces, hwhole, String.toList_empty, List.append_nil]
    exact .of_zeros_behind hne hds _
  · have hplaces : order + 1 - ds.length = -(ds.length - (order.toNat + 1) : ℕ) := by omega
    rw [hplaces]
    exact .of_split hne hds _

end Lindenmayer.Numeral

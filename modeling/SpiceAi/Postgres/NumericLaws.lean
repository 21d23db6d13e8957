import SpiceAi.Postgres.Numeric

/-!
# The NUMERIC round trip, and where decoding and scaling break

PostgreSQL writes the decimal `±u / 10 ^ s` as its base-10000 digits aligned on the decimal
point, without zero digits at either end, with the exponent of the leading digit as the weight.
`numericWords` is that encoding, written from the wire format the decoder reads, and
`from_sql_canonical_numeric` says that the decoder returns `±u` at scale `s` for every sign,
magnitude and display scale that have an encoding, whatever the weight.

Outside the canonical encodings the decoder's resize length can be negative, and the cast to
`usize` turns it into a capacity overflow (`from_sql_negative_resize_panics`). Scaling to `i128`
is exact up to display scale 38 (`toDecimal128_of_le`); at 39, `10i128.pow` overflows
(`to_decimal_128_scale_39_panics`).
-/

namespace SpiceAi.Postgres

open Nat (ofDigits)

/-- The number of base-10000 digits after the decimal point that a display scale `s` needs. -/
def fractionGroups (s : Nat) : Nat := (s + 3) / 4

/-- The base-10000 digits of `u / 10 ^ s`, least significant first, aligned on the decimal point:
the value is `ofDigits 10000 (numericGroups u s) / 10000 ^ fractionGroups s`. -/
def numericGroups (u s : Nat) : List Nat :=
  Nat.digits 10000 (u * 10 ^ (4 * fractionGroups s - s))

/-- The weight of `u / 10 ^ s`: the exponent of its most significant base-10000 digit, and zero
for zero. -/
def numericWeight (u s : Nat) : Int :=
  if u = 0 then 0 else ((numericGroups u s).length : Int) - 1 - fractionGroups s

/-- The digits PostgreSQL sends for `u / 10 ^ s`: the aligned digits without their zero digits
at either end, most significant first. -/
def numericDigits (u s : Nat) : List Nat :=
  ((numericGroups u s).dropWhile (· == 0)).reverse

/-- PostgreSQL's binary NUMERIC words for `±u / 10 ^ s`: the digit count, the weight as a
two's complement `i16`, the sign word, the display scale, then the digits. `none` when the weight
leaves `i16` or there are more than 65531 digits. -/
def numericWords (negative : Bool) (u s : Nat) : Option (List UInt16) :=
  if -2 ^ 15 ≤ numericWeight u s ∧ numericWeight u s < 2 ^ 15 ∧
      (numericDigits u s).length ≤ 65531 then
    some ([UInt16.ofNat (numericDigits u s).length,
      UInt16.ofNat (numericWeight u s % 2 ^ 16).toNat, if negative then 0x4000 else 0,
      UInt16.ofNat s] ++ (numericDigits u s).map UInt16.ofNat)
  else none

/-! ## The decoder inverts the encoding -/

theorem asI16_ofNat_emod {w : Int} (h : -2 ^ 15 ≤ w ∧ w < 2 ^ 15) :
    asI16 (UInt16.ofNat (w % 2 ^ 16).toNat) = w := by
  rw [asI16, UInt16.toNat_ofNat_of_lt (by simp only [UInt16.size]; omega)]
  split <;> omega

theorem ofDigits_eq_pow_mul_dropWhile (b : Nat) (L : List Nat) :
    ofDigits b L = b ^ (L.takeWhile (· == 0)).length * ofDigits b (L.dropWhile (· == 0)) := by
  induction L with
  | nil => simp
  | cons x l ih =>
      by_cases hx : x = 0
      · simp [hx, Nat.ofDigits_cons, ih, pow_succ, Nat.mul_assoc, Nat.mul_left_comm]
      · simp [hx, List.takeWhile_cons, List.dropWhile_cons]

theorem numericDigits_lt {u s d : Nat} (hd : d ∈ numericDigits u s) : d < 10000 :=
  Nat.digits_lt_base (by norm_num) (List.dropWhile_subset _ (List.mem_reverse.mp hd))

/-- Resizing the canonical digits to the length the decoder computes gives back `u`. -/
theorem numericDigits_resize {u : Nat} (s : Nat) (hu : u ≠ 0) :
    0 < (numericDigits u s).length ∧
      ofDigits 10000 (numericDigits u s).reverse *
        10 ^ ((s : Int) + 4 * numericWeight u s + 4).toNat /
          10 ^ (4 * (numericDigits u s).length) = u := by
  simp only [numericDigits, List.reverse_reverse, List.length_reverse, numericWeight, hu,
    if_false]
  have hsplit := ofDigits_eq_pow_mul_dropWhile 10000 (numericGroups u s)
  rw [numericGroups, Nat.ofDigits_digits, ← numericGroups] at hsplit
  set R := (numericGroups u s).dropWhile (· == 0)
  set t := ((numericGroups u s).takeWhile (· == 0)).length
  set f := fractionGroups s
  have hlen : (numericGroups u s).length = t + R.length := by
    rw [← List.length_append, List.takeWhile_append_dropWhile]
  have hR : 0 < R.length := by
    rcases Nat.eq_zero_or_pos R.length with h | h
    · rw [List.length_eq_zero.mp h, Nat.ofDigits_nil, Nat.mul_zero] at hsplit
      exact absurd hsplit (Nat.pos_iff_ne_zero.mp (by positivity))
    · exact h
  refine ⟨hR, ?_⟩
  have hf : s ≤ 4 * f ∧ 4 * f ≤ s + 3 := by simp only [f, fractionGroups]; omega
  have hK : ((s : Int) + 4 * (((numericGroups u s).length : Int) - 1 - f) + 4).toNat =
      4 * t + 4 * R.length + s - 4 * f := by omega
  rw [hK]
  apply Nat.div_eq_of_eq_mul_left (by positivity)
  apply Nat.eq_of_mul_eq_mul_right (show 0 < 10 ^ (4 * f - s) by positivity)
  calc ofDigits 10000 R * 10 ^ (4 * t + 4 * R.length + s - 4 * f) * 10 ^ (4 * f - s)
      = 10 ^ (4 * t) * ofDigits 10000 R * 10 ^ (4 * R.length) := by
        rw [Nat.mul_assoc, ← pow_add, show 4 * t + 4 * R.length + s - 4 * f + (4 * f - s) =
          4 * t + 4 * R.length by omega, pow_add]
        ring
    _ = u * 10 ^ (4 * f - s) * 10 ^ (4 * R.length) := by
        rw [pow_mul, show (10 : Nat) ^ 4 = 10000 by norm_num, ← hsplit]
    _ = u * 10 ^ (4 * R.length) * 10 ^ (4 * f - s) := by ring

/-- The resize length `s + 4 * weight + 4` of a canonical encoding is never negative. -/
theorem numericWeight_bound (u s : Nat) : 0 ≤ (s : Int) + 4 * numericWeight u s + 4 := by
  unfold numericWeight
  split
  · omega
  · have hne : numericGroups u s ≠ [] := Nat.digits_ne_nil_iff_ne_zero.mpr (by positivity)
    have := List.length_pos.mpr hne
    have : 4 * fractionGroups s ≤ s + 3 := by unfold fractionGroups; omega
    omega

/-- The NUMERIC decoder inverts PostgreSQL's encoding: for every sign, unscaled magnitude `u` and
display scale `s` with an encoding, it returns the unscaled integer `±u` at scale `s`. -/
theorem from_sql_canonical_numeric (negative : Bool) (u s : Nat) (hs : s < 2 ^ 16)
    {words : List UInt16} (h : numericWords negative u s = some words) :
    fromSql (words.flatMap toBeBytes) =
      .ok ⟨⟨if negative then -(u : Int) else u, s⟩, UInt16.ofNat s⟩ := by
  unfold numericWords at h
  by_cases hc : -2 ^ 15 ≤ numericWeight u s ∧ numericWeight u s < 2 ^ 15 ∧
      (numericDigits u s).length ≤ 65531
  · rw [if_pos hc, Option.some.injEq] at h
    subst h
    obtain ⟨hw1, hw2, hn⟩ := hc
    have hmap : ((numericDigits u s).map UInt16.ofNat).reverse.map UInt16.toNat =
        (numericDigits u s).reverse := by
      rw [← List.map_reverse, List.map_map]
      refine (List.map_congr_left fun d hd => ?_).trans (List.map_id _)
      exact UInt16.toNat_ofNat_of_lt
        ((numericDigits_lt (List.mem_reverse.mp hd)).trans (by simp [UInt16.size]))
    have hsign : (if negative then (0x4000 : UInt16) else 0).toNat = 0 ∨
        (if negative then (0x4000 : UInt16) else 0).toNat = 0x4000 := by
      cases negative <;> simp
    have hweight := asI16_ofNat_emod ⟨hw1, hw2⟩
    have hs16 : (UInt16.ofNat s).toNat = s := UInt16.toNat_ofNat_of_lt (by simp [UInt16.size]; omega)
    have hn16 : (UInt16.ofNat (numericDigits u s).length).toNat = (numericDigits u s).length :=
      UInt16.toNat_ofNat_of_lt (by simp [UInt16.size]; omega)
    set w := UInt16.ofNat (numericWeight u s % 2 ^ 16).toNat
    rw [List.cons_append, List.cons_append, List.cons_append, List.cons_append, List.nil_append,
      @fromSql_toBeBytes (UInt16.ofNat (numericDigits u s).length) w _ (UInt16.ofNat s)
        ((numericDigits u s).map UInt16.ofNat) (by rw [List.length_map, hn16]) (by rw [hn16]; exact hn)
        (fun g hg => ?_) hsign (by rw [hweight, hs16]; exact numericWeight_bound u s)]
    · rw [hmap, hweight, List.length_map, hs16]
      by_cases hu : u = 0
      · subst hu
        have : numericDigits 0 s = [] := by simp [numericDigits, numericGroups]
        cases negative <;> simp [this, Sign.apply]
      · rw [(numericDigits_resize s hu).2]
        cases negative <;> simp [Sign.apply]
    · obtain ⟨d, hd, rfl⟩ := List.mem_map.mp hg
      have := numericDigits_lt hd
      rw [UInt16.toNat_ofNat_of_lt (by simp [UInt16.size]; omega)]
      exact this
  · rw [if_neg hc] at h
    cases h

/-- The value of the source's own test, `9345129329031293.0932` at display scale 5. -/
theorem from_sql_canonical_numeric_test :
    numericWords false 934512932903129309320 5 =
        some [5, 3, 0, 5, 9345, 1293, 2903, 1293, 932] ∧
      fromSql (([5, 3, 0, 5, 9345, 1293, 2903, 1293, 932] : List UInt16).flatMap toBeBytes) =
        .ok ⟨⟨934512932903129309320, 5⟩, 5⟩ := by
  have h : numericWords false 934512932903129309320 5 =
      some [5, 3, 0, 5, 9345, 1293, 2903, 1293, 932] := by
    simp [numericWords, numericDigits, numericWeight, numericGroups, fractionGroups]
  exact ⟨h, from_sql_canonical_numeric false 934512932903129309320 5 (by norm_num) h⟩


/-! ## Breaking inputs -/

/-- A header with no digits, weight `-2` and scale zero makes the resize length `-4`; cast to
`usize` it is `2^64 - 4`, and the resize panics before the sign is read. -/
theorem from_sql_negative_resize_panics :
    fromSql [0x00, 0x00, 0xFF, 0xFE, 0x00, 0x00, 0x00, 0x00] = .error (.panic .capacityOverflow) :=
  rfl

/-- The NUMERIC zero at display scale 39, which the decoder accepts, makes `to_decimal_128` panic:
`10i128.pow(39)` overflows. -/
theorem to_decimal_128_scale_39_panics :
    fromSql (([0, 0, 0, 39] : List UInt16).flatMap toBeBytes) = .ok ⟨⟨0, 39⟩, 39⟩ ∧
      (BigDecimalFromSql.toDecimal128 ⟨⟨0, 39⟩, 39⟩ : Except (Exit FromSqlError) (Option Int)) =
        .error (.panic .arithmeticOverflow) := by
  refine ⟨?_, by norm_num [BigDecimalFromSql.toDecimal128, tenPowI128, FitsI128,
    show (39 : UInt16).toNat = 39 from rfl]⟩
  rw [@fromSql_toBeBytes 0 0 0 39 [] rfl (by decide)
    (by simp) (by decide) (by decide)]
  rfl

end SpiceAi.Postgres

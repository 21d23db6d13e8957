import SpiceAi.Loops
import Mathlib.Data.Nat.Digits

/-!
# The NUMERIC decoder

`BigDecimalFromSql::from_sql` decodes PostgreSQL's binary NUMERIC format: big-endian 16-bit words
holding the digit count, the weight, the sign, the display scale and the base-10000 digits, most
significant first. `fromSql` follows the source line by line, with its machine arithmetic (`u16`
words, the `i16` weight, the `i64` size and its cast to `usize`) and the panics it can reach.
`BigDecimalFromSql::to_decimal_128` is `BigDecimalFromSql.toDecimal128`.

The lemmas read the decoder as arithmetic on digit lists: the expanded decimal digits are the
base-10000 digits written in base ten (`expandDigits_of_lt`), and the resize multiplies or
truncates by a power of ten (`resize_ofDigits`). `fromSql_toBeBytes` puts them together for every
word sequence whose resize length is not negative.
-/

namespace SpiceAi.Postgres

open Nat (ofDigits)

/-- The sign num-bigint's `BigInt::from_radix_be` is given. -/
inductive Sign where
  | minus | plus
  deriving DecidableEq, Repr

/-- The integer with this sign and magnitude. -/
def Sign.apply : Sign → Nat → Int
  | .minus, n => -n
  | .plus, n => n

/-- num-bigint's `BigInt::from_radix_be(sign, buf, radix)`: the digits of `buf`, most significant
first, read in base `radix`; `None` when a digit is not below the radix. -/
def fromRadixBe (sign : Sign) (buf : List Nat) (radix : Nat) : Option Int :=
  if buf.all (· < radix) then some (sign.apply (ofDigits radix buf.reverse)) else none

/-- The bigdecimal crate's `BigDecimal`: the value `intVal * 10 ^ (-scale)`. -/
structure BigDecimal where
  intVal : Int
  scale : Int
  deriving DecidableEq, Repr

/-- The error a failed `from_sql` returns, boxed. -/
inductive FromSqlError where
  /-- The conversion `i64::try_from(u8_digits.len())` failed. -/
  | tryFromInt
  /-- The variant `Error::FailedToParseBigDecimalFromPostgres { bytes }`. -/
  | failedToParseBigDecimalFromPostgres (bytes : List UInt8)
  deriving DecidableEq, Repr

/-- A decoded NUMERIC: the decimal and the display scale it was sent with. -/
structure BigDecimalFromSql where
  inner : BigDecimal
  scale : UInt16
  deriving DecidableEq, Repr

/-! ## Machine arithmetic -/

/-- The conversion `u16::from_be_bytes([hi, lo])`. -/
def fromBeBytes (hi lo : UInt8) : UInt16 :=
  UInt16.ofNat (hi.toNat * 256 + lo.toNat)

@[simp] theorem toNat_fromBeBytes (hi lo : UInt8) :
    (fromBeBytes hi lo).toNat = hi.toNat * 256 + lo.toNat := by
  have := hi.toNat_lt_size
  have := lo.toNat_lt_size
  exact UInt16.toNat_ofNat_of_lt (by simp only [UInt8.size, UInt16.size] at *; omega)

/-- The words `raw.chunks(2).map(...)`: big-endian pairs, and an odd last byte read as the high
byte of a word whose low byte is zero. -/
def chunkWords : List UInt8 → List UInt16
  | hi :: lo :: rest => fromBeBytes hi lo :: chunkWords rest
  | [hi] => [fromBeBytes hi 0]
  | [] => []

/-- The cast `w as i16` of a `u16`: two's complement reinterpretation. -/
def asI16 (w : UInt16) : Int :=
  if w.toNat < 2 ^ 15 then w.toNat else (w.toNat : Int) - 2 ^ 16

/-- Addition of `u16`s with overflow checks. -/
def u16Add {ε : Type} (a b : UInt16) : Except (Exit ε) UInt16 :=
  if a.toNat + b.toNat < 2 ^ 16 then .ok (a + b) else .error (.panic .arithmeticOverflow)

/-- The conversion `i64::try_from(n)` of a `usize` length. -/
def i64TryFrom (n : Nat) : Except (Exit FromSqlError) Int :=
  if n < 2 ^ 63 then .ok n else .error (.err .tryFromInt)

/-- The cast `x as usize` of an `i64` on a 64-bit target. -/
def asUsize (x : Int) : Nat :=
  (x % 2 ^ 64).toNat

/-- The constant `isize::MAX` on a 64-bit target. -/
def isizeMax : Nat := 2 ^ 63 - 1

/-- The call `Vec::<u8>::resize(new_len, value)`: truncate, or grow with `value`. Growing past
`isize::MAX` bytes panics with a capacity overflow; below that the allocation is taken to
succeed. -/
def resize {ε : Type} (xs : List Nat) (newLen value : Nat) : Except (Exit ε) (List Nat) :=
  if newLen ≤ xs.length then .ok (xs.take newLen)
  else if newLen ≤ isizeMax then .ok (xs ++ List.replicate (newLen - xs.length) value)
  else .error (.panic .capacityOverflow)

/-! ## The decoder -/

/-- The two inner `while` loops on one base-10000 digit: `d % 10` is pushed while `d > 0`, which
is `Nat.digits 10 d`, least significant first, then zeros up to length four. -/
def tempResult (d : Nat) : List Nat :=
  Nat.digits 10 d ++ List.replicate (4 - (Nat.digits 10 d).length) 0

/-- The outer loop over the digits in reverse, extending `u8_digits` by each `temp_result`, and
the final `u8_digits.reverse()`. -/
def expandDigits (digits : List UInt16) : List Nat :=
  (digits.reverse.foldl (fun acc d => acc ++ tempResult d.toNat) []).reverse

/-- The decoder `BigDecimalFromSql::from_sql`. -/
def fromSql (raw : List UInt8) : Except (Exit FromSqlError) BigDecimalFromSql := do
  let rawU16 := chunkWords raw
  let count ← index rawU16 0
  let weight := asI16 (← index rawU16 1)
  let sign ← index rawU16 2
  let scale ← index rawU16 3
  let stop ← u16Add 4 count
  let digits ← (List.range' 4 (stop.toNat - 4)).mapM (index rawU16)
  let u8Digits := expandDigits digits
  let valueScale : Int := 4 * ((count.toNat : Int) - weight - 1)
  let size := (← i64TryFrom u8Digits.length) + scale.toNat - valueScale
  let u8Digits ← resize u8Digits (asUsize size) 0
  let sign ← match sign.toNat with
    | 0x4000 => pure Sign.minus
    | 0x0000 => pure Sign.plus
    | _ => throw (.err (.failedToParseBigDecimalFromPostgres raw))
  let some digits := fromRadixBe sign u8Digits 10
    | throw (.err (.failedToParseBigDecimalFromPostgres raw))
  pure ⟨⟨digits, scale.toNat⟩, scale⟩

/-- A decoded value's scale is its display scale. -/
theorem fromSql_ok_scale {raw : List UInt8} {v : BigDecimalFromSql} (h : fromSql raw = .ok v) :
    v.inner.scale = v.scale.toNat := by
  unfold fromSql at h
  simp only [bind_eq_ok] at h
  obtain ⟨_, -, _, -, _, -, _, -, _, -, _, -, _, -, _, -, h⟩ := h
  split at h <;> simp only [pure_eq_ok, ok_bind] at h
  all_goals first | (split at h <;> cases h <;> rfl) | cases h

/-! ## Scaling to `i128` -/

/-- The bounds of `i128`. -/
def FitsI128 (v : Int) : Prop :=
  -2 ^ 127 ≤ v ∧ v ≤ 2 ^ 127 - 1

instance (v : Int) : Decidable (FitsI128 v) :=
  inferInstanceAs (Decidable (_ ∧ _))

/-- The power `10i128.pow(exp)` with overflow checks. Exponentiation by squaring multiplies only
partial powers of the result, so it panics exactly when `10 ^ exp` leaves `i128`. -/
def tenPowI128 {ε : Type} (exp : Nat) : Except (Exit ε) Int :=
  if FitsI128 (10 ^ exp) then .ok (10 ^ exp) else .error (.panic .arithmeticOverflow)

/-- The integer part `with_scale(0).int_val` of a decimal: a positive scale divides by a power
of ten, truncating toward zero as `BigInt` division does. -/
def BigDecimal.withScaleZero (d : BigDecimal) : Int :=
  if 0 < d.scale then d.intVal.tdiv (10 ^ d.scale.toNat) else d.intVal * 10 ^ (-d.scale).toNat

/-- The conversion `ToPrimitive::to_i128` of a decimal: its integer part, when it fits. -/
def BigDecimal.toI128 (d : BigDecimal) : Option Int :=
  if FitsI128 d.withScaleZero then some d.withScaleZero else none

/-- The method `to_decimal_128`: `(&self.inner * 10i128.pow(scale)).to_i128()`. Multiplying a
`BigDecimal` by an integer keeps its scale. -/
def BigDecimalFromSql.toDecimal128 {ε : Type} (v : BigDecimalFromSql) :
    Except (Exit ε) (Option Int) := do
  let m ← tenPowI128 v.scale.toNat
  pure (BigDecimal.toI128 ⟨v.inner.intVal * m, v.inner.scale⟩)

/-- Up to display scale 38, `to_decimal_128` of a decoded value is its unscaled integer when that
fits `i128`, and `None` otherwise. -/
theorem toDecimal128_of_le {ε : Type} {d : Int} {s : UInt16} (hs : s.toNat ≤ 38) :
    (BigDecimalFromSql.toDecimal128 ⟨⟨d, s.toNat⟩, s⟩ : Except (Exit ε) (Option Int)) =
      .ok (if FitsI128 d then some d else none) := by
  have hpow : FitsI128 (10 ^ s.toNat) := by
    have hle : (10 : Int) ^ s.toNat ≤ 10 ^ 38 := pow_le_pow_right₀ (by norm_num) hs
    have hpos : (0 : Int) ≤ 10 ^ s.toNat := by positivity
    unfold FitsI128
    omega
  have hscale : BigDecimal.withScaleZero ⟨d * 10 ^ s.toNat, s.toNat⟩ = d := by
    unfold BigDecimal.withScaleZero
    split
    · exact Int.mul_tdiv_cancel d (by positivity)
    · simp_all
  simp [BigDecimalFromSql.toDecimal128, tenPowI128, hpow, BigDecimal.toI128, hscale]

/-! ## Digit lists -/

theorem ofDigits_replicate_zero_append (b k : Nat) (l : List Nat) :
    ofDigits b (List.replicate k 0 ++ l) = b ^ k * ofDigits b l := by
  induction k with
  | zero => simp
  | succ k ih =>
      simp only [List.replicate_succ, List.cons_append, Nat.ofDigits_cons, ih, pow_succ]
      ring

theorem ofDigits_append_replicate_zero (b k : Nat) (l : List Nat) :
    ofDigits b (l ++ List.replicate k 0) = ofDigits b l := by
  rw [Nat.ofDigits_append, ← List.append_nil (List.replicate k 0),
    ofDigits_replicate_zero_append]
  simp

/-- Dropping the `j` least significant digits divides by `b ^ j`. -/
theorem ofDigits_drop {b : Nat} (hb : 1 < b) {l : List Nat} (hl : ∀ x ∈ l, x < b) {j : Nat}
    (hj : j ≤ l.length) : ofDigits b (l.drop j) = ofDigits b l / b ^ j := by
  have hlow : ofDigits b (l.take j) < b ^ j := by
    have := @Nat.ofDigits_lt_base_pow_length b (l.take j) hb
      (fun x hx => hl x (List.mem_of_mem_take hx))
    rwa [List.length_take_of_le hj] at this
  conv_rhs => rw [← List.take_append_drop j l, Nat.ofDigits_append, List.length_take_of_le hj]
  rw [Nat.add_mul_div_left _ _ (by positivity), Nat.div_eq_of_lt hlow, Nat.zero_add]

theorem tempResult_length {d : Nat} (hd : d < 10000) : (tempResult d).length = 4 := by
  have : (Nat.digits 10 d).length ≤ 4 :=
    (Nat.le_digits_len_le 10 d 9999 (by omega)).trans (by norm_num)
  simp only [tempResult, List.length_append, List.length_replicate]
  omega

theorem ofDigits_tempResult (d : Nat) : ofDigits 10 (tempResult d) = d := by
  rw [tempResult, ofDigits_append_replicate_zero, Nat.ofDigits_digits]

theorem tempResult_lt {d x : Nat} (hx : x ∈ tempResult d) : x < 10 := by
  rcases List.mem_append.mp hx with h | h
  · exact Nat.digits_lt_base (by norm_num) h
  · rw [List.eq_of_mem_replicate h]
    norm_num

theorem foldl_append_eq_flatMap {α β : Type} (f : α → List β) (l : List α) (acc : List β) :
    l.foldl (fun acc d => acc ++ f d) acc = acc ++ l.flatMap f := by
  induction l generalizing acc with
  | nil => simp
  | cons a l ih => simp [ih, List.flatMap_cons]

theorem expandDigits_eq (digits : List UInt16) :
    expandDigits digits = (digits.reverse.flatMap (tempResult ·.toNat)).reverse := by
  rw [expandDigits, foldl_append_eq_flatMap, List.nil_append]

theorem expandDigits_lt {digits : List UInt16} {x : Nat} (hx : x ∈ expandDigits digits) :
    x < 10 := by
  simp only [expandDigits_eq, List.mem_reverse, List.mem_flatMap] at hx
  obtain ⟨_, _, h⟩ := hx
  exact tempResult_lt h

/-- Base-10000 digits, least significant first, each written as four decimal digits. -/
theorem flatMap_tempResult {ds : List UInt16} (h : ∀ d ∈ ds, d.toNat < 10000) :
    (ds.flatMap (tempResult ·.toNat)).length = 4 * ds.length ∧
      ofDigits 10 (ds.flatMap (tempResult ·.toNat)) = ofDigits 10000 (ds.map UInt16.toNat) := by
  induction ds with
  | nil => simp
  | cons d ds ih =>
      have hd := h d (List.mem_cons_self d ds)
      obtain ⟨ihlen, ihval⟩ := ih (fun x hx => h x (List.mem_cons_of_mem d hx))
      refine ⟨?_, ?_⟩
      · simp only [List.flatMap_cons, List.length_append, tempResult_length hd, ihlen,
          List.length_cons]
        ring
      · rw [List.flatMap_cons, Nat.ofDigits_append, tempResult_length hd, ofDigits_tempResult,
          ihval, List.map_cons, Nat.ofDigits_cons]
        norm_num

/-- The base-10000 digits, most significant first, each written as four decimal digits. -/
theorem expandDigits_of_lt {digits : List UInt16} (h : ∀ d ∈ digits, d.toNat < 10000) :
    (expandDigits digits).length = 4 * digits.length ∧
      ofDigits 10 (expandDigits digits).reverse =
        ofDigits 10000 (digits.reverse.map UInt16.toNat) := by
  rw [expandDigits_eq, List.reverse_reverse, List.length_reverse, ← List.length_reverse digits]
  exact flatMap_tempResult fun d hd => h d (List.mem_reverse.mp hd)

/-- Resizing a decimal digit list, most significant first, to `k` digits multiplies its value by
`10 ^ k` and divides it by `10 ^ len`, rounding down. -/
theorem resize_ofDigits {ε : Type} {xs : List Nat} (hxs : ∀ x ∈ xs, x < 10) {k : Nat}
    (hk : k ≤ isizeMax) :
    ∃ ys, (resize xs k 0 : Except (Exit ε) (List Nat)) = .ok ys ∧
      ofDigits 10 ys.reverse = ofDigits 10 xs.reverse * 10 ^ k / 10 ^ xs.length ∧
      ∀ y ∈ ys, y < 10 := by
  unfold resize
  by_cases hle : k ≤ xs.length
  · refine ⟨xs.take k, by simp [hle], ?_, fun y hy => hxs y (List.mem_of_mem_take hy)⟩
    have hrev : ∀ x ∈ xs.reverse, x < 10 := fun x hx => hxs x (List.mem_reverse.mp hx)
    have hpow : 10 ^ xs.length = 10 ^ k * 10 ^ (xs.length - k) := by
      rw [← pow_add, Nat.add_sub_cancel' hle]
    rw [List.reverse_take, ofDigits_drop (by norm_num) hrev (by simp), hpow,
      Nat.mul_comm (ofDigits 10 _), Nat.mul_div_mul_left _ _ (by positivity)]
  · refine ⟨xs ++ List.replicate (k - xs.length) 0, by simp [hle, hk], ?_, ?_⟩
    · rw [List.reverse_append, List.reverse_replicate, ofDigits_replicate_zero_append,
        show k = xs.length + (k - xs.length) by omega, pow_add]
      rw [show xs.length + (k - xs.length) - xs.length = k - xs.length by omega,
        Nat.mul_comm (ofDigits 10 xs.reverse), Nat.mul_assoc,
        Nat.mul_div_cancel_left _ (by positivity), Nat.mul_comm]
    · intro y hy
      rcases List.mem_append.mp hy with h | h
      · exact hxs y h
      · rw [List.eq_of_mem_replicate h]
        norm_num

/-! ## The decoder on serialized words -/

/-- The serialization the test uses: `vec![(x >> 8) as u8, x as u8]`. -/
def toBeBytes (x : UInt16) : List UInt8 :=
  [UInt8.ofNat (x.toNat / 256), UInt8.ofNat (x.toNat % 256)]

theorem fromBeBytes_toBeBytes (x : UInt16) :
    fromBeBytes (UInt8.ofNat (x.toNat / 256)) (UInt8.ofNat (x.toNat % 256)) = x := by
  have hx := x.toNat_lt_size
  simp only [UInt16.size] at hx
  apply UInt16.toNat.inj
  rw [toNat_fromBeBytes, UInt8.toNat_ofNat_of_lt (by simp [UInt8.size]; omega),
    UInt8.toNat_ofNat_of_lt (by simp [UInt8.size]; omega)]
  omega

theorem chunkWords_flatMap_toBeBytes (ws : List UInt16) :
    chunkWords (ws.flatMap toBeBytes) = ws := by
  induction ws with
  | nil => rfl
  | cons w ws ih =>
      show fromBeBytes _ _ :: chunkWords (ws.flatMap toBeBytes) = w :: ws
      rw [fromBeBytes_toBeBytes, ih]

theorem mapM_index_range' {β : Type} (xs : List β) (s k : Nat) (h : s + k ≤ xs.length) :
    ((List.range' s k).mapM (index xs) : Except (Exit FromSqlError) (List β)) =
      .ok ((xs.drop s).take k) := by
  induction k generalizing s with
  | zero => rfl
  | succ k ih =>
      rw [List.range'_succ, List.mapM_cons, index_of_lt (by omega), ih (s + 1) (by omega),
        List.drop_eq_getElem_cons (show s < xs.length by omega)]
      rfl

/-- The decoder on every word sequence whose digits are below 10000 and whose resize length
`dscale + 4 * weight + 4` is not negative: the unscaled integer is the base-10000 value of the
digits, scaled by that length over four decimal digits per base-10000 digit. -/
theorem fromSql_toBeBytes {n w sgn s : UInt16} {groups : List UInt16}
    (hn : n.toNat = groups.length) (hcount : n.toNat ≤ 65531)
    (hg : ∀ g ∈ groups, g.toNat < 10000) (hsign : sgn.toNat = 0 ∨ sgn.toNat = 0x4000)
    (hsize : 0 ≤ (s.toNat : Int) + 4 * asI16 w + 4) :
    fromSql ((n :: w :: sgn :: s :: groups).flatMap toBeBytes) =
      .ok ⟨⟨(if sgn.toNat = 0x4000 then Sign.minus else Sign.plus).apply
          (ofDigits 10000 (groups.reverse.map UInt16.toNat) *
            10 ^ ((s.toNat : Int) + 4 * asI16 w + 4).toNat / 10 ^ (4 * groups.length)),
        s.toNat⟩, s⟩ := by
  obtain ⟨hlen, hval⟩ := expandDigits_of_lt hg
  have hw := w.toNat_lt_size
  have hs := s.toNat_lt_size
  have hn' := n.toNat_lt_size
  simp only [UInt16.size] at hw hs hn'
  have hI16 : -2 ^ 15 ≤ asI16 w ∧ asI16 w < 2 ^ 15 := by unfold asI16; split <;> omega
  have hkle : ((s.toNat : Int) + 4 * asI16 w + 4).toNat ≤ isizeMax := by
    simp only [isizeMax]; omega
  obtain ⟨ys, hys, hysval, hys10⟩ :=
    @resize_ofDigits FromSqlError (expandDigits groups) (fun x hx => expandDigits_lt hx) _
      hkle
  have hstop : (u16Add 4 n : Except (Exit FromSqlError) UInt16) = .ok (4 + n) := by
    simp only [u16Add, show (4 : UInt16).toNat = 4 from rfl]
    rw [if_pos (by omega)]
  have hstopn : (4 + n).toNat - 4 = groups.length := by
    show ((4 : UInt16).toBitVec + n.toBitVec).toNat - 4 = groups.length
    rw [BitVec.toNat_add]
    show (4 + n.toNat) % 2 ^ 16 - 4 = groups.length
    omega
  have hdig : ((List.range' 4 groups.length).mapM (index (n :: w :: sgn :: s :: groups)) :
      Except (Exit FromSqlError) _) = .ok groups := by
    rw [mapM_index_range' _ _ _ (by simp; omega)]
    simp
  have hi64 : i64TryFrom (4 * groups.length) = .ok ((4 * groups.length : Nat) : Int) := by
    rw [i64TryFrom, if_pos (by omega)]
  have hsz : asUsize (((4 * groups.length : Nat) : Int) + (s.toNat : Int) -
      4 * ((n.toNat : Int) - asI16 w - 1)) = ((s.toNat : Int) + 4 * asI16 w + 4).toNat := by
    rw [asUsize, Int.emod_eq_of_lt (by omega) (by omega)]
    congr 1
    omega
  have hrad (sg : Sign) : fromRadixBe sg ys 10 = some (sg.apply (ofDigits 10 ys.reverse)) := by
    rw [fromRadixBe, if_pos (List.all_eq_true.mpr fun y hy => decide_eq_true (hys10 y hy))]
  simp only [fromSql, chunkWords_flatMap_toBeBytes, index, List.getElem?_cons_zero,
    List.getElem?_cons_succ, ok_bind, pure_eq_ok, hstop, hstopn, hdig, hlen, hi64, hsz, hys]
  rcases hsign with h | h <;>
    simp [h, hrad, hysval, hval, hlen]

end SpiceAi.Postgres

import Mathlib.Data.List.Basic
import Mathlib.Algebra.Group.Int

/-!
# Rust outcomes

A Rust call ends in one of three ways: it returns `Ok`, it returns an `Err` value, or it panics.
The model keeps the three apart. A call is an `Except (Exit ε) α`: `Except.ok` is the `Ok` value,
`Exit.err` carries the `Err` payload, and `Exit.panic` the reason of a panic. snafu's
`.context(...)` and `?` rewrap an `Err` payload and let a panic through, which is
`Exit.context`.

Panics are those of a debug build: arithmetic overflow panics, as it does under
`cargo test`.
-/

namespace SpiceAi

/-- Why a Rust call panicked. -/
inductive Panic where
  /-- The macro `unimplemented!`, with the text of its message: each value the message formats is
  written in place, and `unimplemented!()` with no message is "not implemented". -/
  | unimplemented (message : String)
  /-- Indexing a slice or vector at `index` when it has `length` elements. -/
  | indexOutOfBounds (index length : Nat)
  /-- An integer operation overflowed its type under overflow checks. -/
  | arithmeticOverflow
  /-- A `Vec` was asked to grow past `isize::MAX` bytes. -/
  | capacityOverflow
  /-- arrow's `StructBuilder::finish` found a child builder whose length is not the struct's. -/
  | unequalLengths
  deriving DecidableEq, Repr

/-- How a Rust call ends when it does not return `Ok`. -/
inductive Exit (ε : Type) where
  | err (e : ε)
  | panic (reason : Panic)
  deriving DecidableEq, Repr

variable {ε ε' α : Type}

@[simp] theorem ok_bind {β : Type} (a : α) (f : α → Except ε β) :
    (Except.ok a >>= f) = f a := rfl

@[simp] theorem error_bind {β : Type} (e : ε) (f : α → Except ε β) :
    (Except.error e >>= f) = Except.error e := rfl

@[simp] theorem pure_eq_ok (a : α) : (pure a : Except ε α) = .ok a := rfl

/-- Rewrap the `Err` payload, as snafu's `.context(...)` followed by `?` does. -/
def Exit.context (f : ε → ε') : Exit ε → Exit ε'
  | .err e => .err (f e)
  | .panic p => .panic p

/-- A call of a fallible Rust function whose `Err` payload is rewrapped by `f`. -/
def withContext (f : ε → ε') (x : Except (Exit ε) α) : Except (Exit ε') α :=
  x.mapError (Exit.context f)

@[simp] theorem withContext_ok (f : ε → ε') (a : α) :
    withContext f (.ok a : Except (Exit ε) α) = .ok a := rfl

@[simp] theorem withContext_err (f : ε → ε') (e : ε) :
    withContext f (.error (.err e) : Except (Exit ε) α) = .error (.err (f e)) := rfl

@[simp] theorem withContext_panic (f : ε → ε') (p : Panic) :
    withContext f (.error (.panic p) : Except (Exit ε) α) = .error (.panic p) := rfl

@[simp] theorem withContext_eq_ok {f : ε → ε'} {x : Except (Exit ε) α} {a : α} :
    withContext f x = .ok a ↔ x = .ok a := by
  rcases x with (_ | _) | _ <;> simp [withContext, Except.mapError, Exit.context]

/-- Rust slice indexing `xs[i]`, which panics past the end. -/
def index {β : Type} (xs : List β) (i : Nat) : Except (Exit ε) β :=
  match xs[i]? with
  | some x => .ok x
  | none => .error (.panic (.indexOutOfBounds i xs.length))

theorem index_of_lt {β : Type} {xs : List β} {i : Nat} (h : i < xs.length) :
    (index xs i : Except (Exit ε) β) = .ok xs[i] := by
  simp [index, List.getElem?_eq_getElem h]

/-! ## Machine integers -/

/-- The value is in the range of `i64`. -/
def FitsI64 (v : Int) : Prop :=
  -2 ^ 63 ≤ v ∧ v < 2 ^ 63

instance (v : Int) : Decidable (FitsI64 v) :=
  inferInstanceAs (Decidable (_ ∧ _))

/-- The result of an `i64` operation under overflow checks: the exact value when it is in range,
else the panic "attempt to ... with overflow". -/
def checkedI64 (v : Int) : Except (Exit ε) Int :=
  if FitsI64 v then .ok v else .error (.panic .arithmeticOverflow)

theorem checkedI64_of_fits {v : Int} (h : FitsI64 v) : (checkedI64 v : Except (Exit ε) Int) = .ok v :=
  if_pos h

/-! ## Strings -/

/-- Rust's `char::is_whitespace`: the characters of Unicode's `White_Space` property. -/
def isWhitespace (c : Char) : Bool :=
  let n := c.toNat
  n == 0x20 || (0x09 ≤ n && n ≤ 0x0D) || n == 0x85 || n == 0xA0 || n == 0x1680 ||
    (0x2000 ≤ n && n ≤ 0x200A) || n == 0x2028 || n == 0x2029 || n == 0x202F || n == 0x205F ||
    n == 0x3000

/-- Rust's `str::trim_end`: the string without its trailing whitespace. -/
def trimEnd (s : String) : String :=
  ⟨(s.data.reverse.dropWhile isWhitespace).reverse⟩

/-- The string `trim_end` returns is the input without its maximal run of trailing whitespace:
the input is the result followed by whitespace only, and the result does not end in
whitespace. -/
theorem trimEnd_spec (s : String) :
    (∃ w, s.data = (trimEnd s).data ++ w ∧ ∀ ch ∈ w, isWhitespace ch = true) ∧
      ∀ ch ∈ (trimEnd s).data.getLast?, isWhitespace ch = false := by
  refine ⟨⟨(s.data.reverse.takeWhile isWhitespace).reverse, ?_, fun ch hch => ?_⟩, fun ch hch => ?_⟩
  · have h := congrArg List.reverse
      (List.takeWhile_append_dropWhile isWhitespace s.data.reverse)
    rw [List.reverse_append, List.reverse_reverse] at h
    exact h.symm
  · exact List.mem_takeWhile_imp (List.mem_reverse.mp hch)
  · have hd := List.head?_dropWhile_not isWhitespace s.data.reverse
    simp only [trimEnd, List.getLast?_reverse, Option.mem_def] at hch
    rwa [hch] at hd

end SpiceAi

import SpiceAi.Rust
import Mathlib.Data.List.Forall2

/-!
# Loops over Rust outcomes

A Rust loop that returns early on `Err` or a panic is a `List.mapM` or a `List.foldlM` in
`Except`. The lemmas here take such loops apart when they return `Ok`: `mapM_ok_iff` says that
a `mapM` returns `Ok` exactly when every element's call does, element by element.

The main result, `foldlM_rowPass_ok_iff`, is about a row-major loop over per-column state, the
shape of `rows_to_arrow`: for each row, each column updates its own slot. Such a loop returns
`Ok` exactly when every column, run alone over all the rows, returns `Ok`, and the final slots are
the columns' own results. Facts about the loop are then proved one column at a time.
-/

namespace SpiceAi

variable {ε α β γ : Type}

/-- A bind returns `Ok` when both of its calls do. -/
theorem bind_eq_ok {x : Except ε α} {f : α → Except ε β} {b : β} :
    x >>= f = .ok b ↔ ∃ a, x = .ok a ∧ f a = .ok b := by
  cases x <;> simp

/-- A bind fails with the error of its first call, or with that of its continuation. -/
theorem bind_eq_error {x : Except ε α} {f : α → Except ε β} {e : ε} :
    x >>= f = .error e ↔ x = .error e ∨ ∃ a, x = .ok a ∧ f a = .error e := by
  cases x <;> simp

/-- A mapped call returns `Ok` when the call does. -/
theorem map_eq_ok {x : Except ε α} {f : α → β} {b : β} :
    x.map f = .ok b ↔ ∃ a, x = .ok a ∧ f a = b := by
  cases x <;> simp [Except.map]

/-- A call whose error is mapped returns `Ok` exactly when the call does. -/
theorem mapError_eq_ok {ε' : Type} {x : Except ε α} {f : ε → ε'} {a : α} :
    x.mapError f = .ok a ↔ x = .ok a := by
  cases x with
  | error e => exact ⟨nofun, nofun⟩
  | ok a' => exact ⟨fun h => by cases h; rfl, fun h => by cases h; rfl⟩

/-- A `mapM` returns `Ok` exactly when each element's call returns `Ok` with the matching
result. -/
theorem mapM_ok_iff {f : α → Except ε β} {xs : List α} {ys : List β} :
    xs.mapM f = .ok ys ↔ List.Forall₂ (fun x y => f x = .ok y) xs ys := by
  induction xs generalizing ys with
  | nil =>
    simp only [List.mapM_nil, pure_eq_ok, Except.ok.injEq, List.forall₂_nil_left_iff]
    exact eq_comm
  | cons x xs ih =>
    simp only [List.mapM_cons, bind_eq_ok, pure_eq_ok, Except.ok.injEq, ih,
      List.forall₂_cons_left_iff]
    constructor
    · rintro ⟨y, hy, ys', hys, rfl⟩
      exact ⟨y, ys', hy, hys, rfl⟩
    · rintro ⟨y, ys', hy, hys, rfl⟩
      exact ⟨y, hy, ys', hys, rfl⟩

/-- Two related lists in a row compose: the relational composition of `Forall₂`. -/
theorem forall₂_comp_iff {R : α → β → Prop} {S : β → γ → Prop} {l₁ : List α} {l₃ : List γ} :
    (∃ l₂, List.Forall₂ R l₁ l₂ ∧ List.Forall₂ S l₂ l₃) ↔
      List.Forall₂ (fun a c => ∃ b, R a b ∧ S b c) l₁ l₃ := by
  induction l₁ generalizing l₃ with
  | nil => simp [List.forall₂_nil_left_iff]
  | cons a l₁ ih =>
    simp only [List.forall₂_cons_left_iff, ← ih]
    constructor
    · rintro ⟨_, ⟨b, l₂, hab, hl, rfl⟩, hS⟩
      obtain ⟨c, l₃', hbc, hl', rfl⟩ := List.forall₂_cons_left_iff.mp hS
      exact ⟨c, l₃', ⟨b, hab, hbc⟩, ⟨l₂, hl, hl'⟩, rfl⟩
    · rintro ⟨c, l₃', ⟨b, hab, hbc⟩, ⟨l₂, hl, hl'⟩, rfl⟩
      exact ⟨b :: l₂, ⟨b, l₂, hab, hl, rfl⟩, .cons hbc hl'⟩

/-- Related lists are related at each index. -/
theorem forall₂_getElem? {R : α → β → Prop} {l₁ : List α} {l₂ : List β}
    (h : List.Forall₂ R l₁ l₂) : ∀ {i : Nat} {a : α}, l₁[i]? = some a →
      ∃ b, l₂[i]? = some b ∧ R a b := by
  induction h with
  | nil => simp
  | @cons a b _ _ hab _ ih =>
    intro i a' hi
    cases i with
    | zero =>
      simp only [List.getElem?_cons_zero, Option.some.injEq] at hi
      subst hi
      exact ⟨b, by simp, hab⟩
    | succ i => simpa using ih (by simpa using hi)

/-- Lists of one length related at each index are related. -/
theorem forall₂_of_getElem? {R : α → β → Prop} :
    ∀ {l₁ : List α} {l₂ : List β}, l₁.length = l₂.length →
      (∀ (i : Nat) a b, l₁[i]? = some a → l₂[i]? = some b → R a b) → List.Forall₂ R l₁ l₂
  | [], [], _, _ => .nil
  | [], _ :: _, hlen, _ => absurd hlen (by simp)
  | _ :: _, [], hlen, _ => absurd hlen (by simp)
  | a :: l₁, b :: l₂, hlen, h =>
    .cons (h 0 a b (by simp) (by simp)) (forall₂_of_getElem? (by simpa using hlen)
      fun i a' b' h₁ h₂ => h (i + 1) a' b' (by simpa using h₁) (by simpa using h₂))

/-- A `mapM` whose calls each return `Ok` on the elements of `good` and panic on the others
returns `Ok` when every element is good, and otherwise panics: it never returns an `Err`. -/
theorem mapM_ok_or_panic {ε : Type} {f : α → Except (Exit ε) β} {good : α → Prop}
    (hf : ∀ x, (good x ∧ ∃ y, f x = .ok y) ∨ (¬ good x ∧ ∃ p, f x = .error (.panic p))) :
    ∀ xs : List α, ((∀ x ∈ xs, good x) ∧ ∃ ys, xs.mapM f = .ok ys) ∨
      ((∃ x ∈ xs, ¬ good x) ∧ ∃ p, xs.mapM f = .error (.panic p))
  | [] => .inl ⟨by simp, [], rfl⟩
  | x :: xs => by
    rcases hf x with ⟨hx, y, hy⟩ | ⟨hx, p, hp⟩
    · rcases mapM_ok_or_panic hf xs with ⟨hxs, ys, hys⟩ | ⟨⟨x', hx', hbad⟩, p, hp⟩
      · exact .inl ⟨List.forall_mem_cons.mpr ⟨hx, hxs⟩, y :: ys,
          by rw [List.mapM_cons, hy, ok_bind, hys, ok_bind, pure_eq_ok]⟩
      · exact .inr ⟨⟨x', List.mem_cons_of_mem x hx', hbad⟩, p,
          by rw [List.mapM_cons, hy, ok_bind, hp, error_bind]⟩
    · exact .inr ⟨⟨x, List.mem_cons_self x xs, hx⟩, p, by rw [List.mapM_cons, hp, error_bind]⟩

/-! ## Row-major loops -/

/-- A `filter_map` whose every call returns `Some` keeps one result per element. -/
theorem forall₂_filterMap {f : α → Option β} :
    ∀ {l : List α}, (∀ a ∈ l, (f a).isSome) → List.Forall₂ (fun a b => f a = some b) l (l.filterMap f)
  | [], _ => .nil
  | a :: l, h => by
    obtain ⟨b, hb⟩ := Option.isSome_iff_exists.mp (h a (.head _))
    rw [List.filterMap_cons, hb]
    exact .cons hb (forall₂_filterMap fun a' ha' => h a' (.tail _ ha'))

section RowMajor

variable {ρ σ : Type} (step : α → ρ → σ → Except ε σ)

/-- A column's run alone over all the rows: column `p.1` from slot `p.2`. -/
def columnRun (rows : List ρ) (p : α × σ) : Except ε (α × σ) :=
  (rows.foldlM (fun s r => step p.1 r s) p.2).map (p.1, ·)

/-- One row's pass over the columns, left to right, each column updating its own slot. -/
def rowPass (ps : List (α × σ)) (r : ρ) : Except ε (List (α × σ)) :=
  ps.mapM fun p => (step p.1 r p.2).map (p.1, ·)

@[simp] theorem columnRun_nil (p : α × σ) : columnRun step [] p = .ok p := rfl

theorem columnRun_cons_ok {r : ρ} {rows : List ρ} {p q : α × σ} :
    columnRun step (r :: rows) p = .ok q ↔
      ∃ p₁, (step p.1 r p.2).map (p.1, ·) = .ok p₁ ∧ columnRun step rows p₁ = .ok q := by
  simp only [columnRun, List.foldlM_cons]
  cases step p.1 r p.2 <;> simp [Except.map]

/-- A column whose steps keep `P` keeps it over a run, and the run keeps the slot with its
column. -/
theorem columnRun_invariant {P : σ → Prop} {c : α}
    (hstep : ∀ r s s', P s → step c r s = .ok s' → P s') :
    ∀ {rows : List ρ} {s : σ} {q : α × σ}, P s → columnRun step rows (c, s) = .ok q →
      q.1 = c ∧ P q.2
  | [], s, q, hs, h => by cases h; exact ⟨rfl, hs⟩
  | r :: rows, s, q, hs, h => by
    obtain ⟨p₁, hp₁, hrun⟩ := (columnRun_cons_ok step).mp h
    obtain ⟨s₁, hs₁, rfl⟩ := map_eq_ok.mp hp₁
    exact columnRun_invariant hstep (hstep r s s₁ hs hs₁) hrun

/-- A column each of whose steps, when it returns `Ok`, computes `g` runs as the fold of `g`. -/
theorem columnRun_eq_foldl {c : α} {g : ρ → σ → σ}
    (hstep : ∀ r s s', step c r s = .ok s' → s' = g r s) :
    ∀ {rows : List ρ} {s : σ} {q : α × σ}, columnRun step rows (c, s) = .ok q →
      q = (c, rows.foldl (fun s r => g r s) s)
  | [], s, q, h => by cases h; rfl
  | r :: rows, s, q, h => by
    obtain ⟨p₁, hp₁, hrun⟩ := (columnRun_cons_ok step).mp h
    obtain ⟨s₁, hs₁, rfl⟩ := map_eq_ok.mp hp₁
    rw [columnRun_eq_foldl hstep hrun, hstep r s s₁ hs₁]
    rfl

/-- A column whose steps compute `g` from every state of `P`, and keep `P`, runs to the fold of
`g`. -/
theorem columnRun_of_forall {P : σ → Prop} {c : α} {g : ρ → σ → σ} :
    ∀ {rows : List ρ} {s : σ}, (∀ r ∈ rows, ∀ s, P s → step c r s = .ok (g r s) ∧ P (g r s)) →
      P s → columnRun step rows (c, s) = .ok (c, rows.foldl (fun s r => g r s) s)
  | [], s, _, _ => rfl
  | r :: rows, s, hstep, hs => by
    obtain ⟨hr, hP⟩ := hstep r (List.mem_cons_self r rows) s hs
    rw [(columnRun_cons_ok step).mpr ⟨(c, g r s), by simp [hr, Except.map], columnRun_of_forall
      (fun r' hr' => hstep r' (List.mem_cons_of_mem r hr')) hP⟩]
    rfl

/-- A pass keeps each slot with its column. -/
theorem rowPass_fst {ps qs : List (α × σ)} {r : ρ} (h : rowPass step ps r = .ok qs) :
    qs.map Prod.fst = ps.map Prod.fst := by
  have h₁ : List.Forall₂ (fun p q => q.1 = p.1) ps qs :=
    (mapM_ok_iff.mp h).imp fun p q hpq => by obtain ⟨_, -, rfl⟩ := map_eq_ok.mp hpq; rfl
  have h₂ : List.Forall₂ (· = ·) (qs.map Prod.fst) (ps.map Prod.fst) := by
    simpa [List.forall₂_map_left_iff, List.forall₂_map_right_iff] using h₁.flip
  rwa [List.forall₂_eq_eq_eq] at h₂

/-- The row-major loop returns `Ok` exactly when the column runs all do, with the same final
slots. -/
theorem foldlM_rowPass_ok_iff {rows : List ρ} {ps qs : List (α × σ)} :
    rows.foldlM (rowPass step) ps = .ok qs ↔ ps.mapM (columnRun step rows) = .ok qs := by
  induction rows generalizing ps with
  | nil =>
    simp only [List.foldlM_nil, pure_eq_ok, Except.ok.injEq, mapM_ok_iff, columnRun_nil,
      List.forall₂_eq_eq_eq]
  | cons r rows ih =>
    simp only [List.foldlM_cons, bind_eq_ok, ih, rowPass, mapM_ok_iff, forall₂_comp_iff,
      columnRun_cons_ok]

end RowMajor

end SpiceAi

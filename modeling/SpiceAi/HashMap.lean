import Mathlib.Data.List.Dedup
import Mathlib.Data.List.Perm.Basic

/-!
# Rust's `HashMap`

`HashMap` is a Rust `HashMap<K, V>` as its entries, with the keys' distinctness carried as a
field, so that no map with a repeated key can be built. `insert` replaces the value of a key the
map holds and adds a new key otherwise; `remove` takes a key out and returns its value.

Rust iterates a map in an order it does not specify. The model iterates in insertion order, and
what is proved here about an iteration holds for every order: it is stated through `get`, or up to
permutation. The main result, `entries_insertAll`, says that inserting one value per key,
computed from the key, gives a map whose entries are, up to order, each distinct key once with its
value.
-/

namespace SpiceAi

/-- A Rust `HashMap<K, V>`: its entries, with distinct keys. -/
structure HashMap (κ ν : Type) where
  entries : List (κ × ν)
  nodup_keys : (entries.map Prod.fst).Nodup

namespace HashMap

variable {κ ν μ : Type} [DecidableEq κ]

/-- The function `HashMap::new`. -/
def empty : HashMap κ ν :=
  ⟨[], List.nodup_nil⟩

/-- The function `HashMap::get`. -/
def get (m : HashMap κ ν) (k : κ) : Option ν :=
  m.entries.lookup k

/-- The function `HashMap::insert`: the value of a key the map holds is replaced where it stands,
and a new key is added. -/
def insert (m : HashMap κ ν) (k : κ) (v : ν) : HashMap κ ν :=
  if hk : k ∈ m.entries.map Prod.fst then
    ⟨m.entries.map fun e => if e.1 = k then (k, v) else e, by
      have hfst : (m.entries.map fun e => if e.1 = k then (k, v) else e).map Prod.fst =
          m.entries.map Prod.fst := by
        rw [List.map_map]
        exact List.map_congr_left fun e _ => by by_cases h : e.1 = k <;> simp [h]
      exact hfst ▸ m.nodup_keys⟩
  else
    ⟨m.entries ++ [(k, v)], by
      rw [List.map_append, List.nodup_append]
      exact ⟨m.nodup_keys, List.nodup_singleton _, by simpa using hk⟩⟩

/-- The function `HashMap::remove`: the key's value, and the map without the key. -/
def remove (m : HashMap κ ν) (k : κ) : Option ν × HashMap κ ν :=
  (m.get k, ⟨m.entries.filter (·.1 != k),
    m.nodup_keys.sublist ((List.filter_sublist m.entries).map Prod.fst)⟩)

/-- Insert the value when there is one, else leave the map as it is. -/
def insertOpt (m : HashMap κ ν) (k : κ) : Option ν → HashMap κ ν
  | some v => m.insert k v
  | none => m

/-- The map `collect::<HashMap<_, _>>()` builds from pairs: each pair is inserted in turn, so a
later pair of a key replaces the value of an earlier one. -/
def ofList (l : List (κ × ν)) : HashMap κ ν :=
  l.foldl (fun m e => m.insert e.1 e.2) empty

/-- The values, in the order of iteration: `HashMap::values`. -/
def values (m : HashMap κ ν) : List ν :=
  m.entries.map Prod.snd

/-- The map of the same keys with `f` applied to each value, as collected from
`iter().map(|(k, v)| (k.clone(), f(v)))`. -/
def mapValues (f : ν → μ) (m : HashMap κ ν) : HashMap κ μ :=
  ⟨m.entries.map fun e => (e.1, f e.2), by simpa [List.map_map, Function.comp_def] using m.nodup_keys⟩

/-! ## Lookups -/

omit [DecidableEq κ] in
theorem nodup_entries (m : HashMap κ ν) : m.entries.Nodup :=
  m.nodup_keys.of_map _

/-- A key's value is the one entry of the key. -/
theorem get_eq_some_iff {m : HashMap κ ν} {k : κ} {v : ν} : m.get k = some v ↔ (k, v) ∈ m.entries := by
  obtain ⟨es, hes⟩ := m
  simp only [get]
  induction es with
  | nil => simp
  | cons e es ih =>
    obtain ⟨k', v'⟩ := e
    simp only [List.map_cons, List.nodup_cons, List.mem_map] at hes
    by_cases hk : k = k'
    · subst hk
      have hnot : (k, v) ∉ es := fun h => hes.1 ⟨(k, v), h, rfl⟩
      simp [List.lookup_cons, hnot, eq_comm]
    · have hne : (k == k') = false := by simpa using hk
      simp [List.lookup_cons, hne, hk, ih hes.2]

@[simp] theorem get_empty (k : κ) : (empty : HashMap κ ν).get k = none := rfl

/-- A search of the entries for a key, as `iter().find_map` makes it, finds the key's value. -/
theorem findSome_eq_get (m : HashMap κ ν) (k : κ) :
    m.entries.findSome? (fun e => if e.1 = k then some e.2 else none) = m.get k := by
  rw [get, List.lookup_eq_findSome?]
  congr 1
  funext e
  by_cases h : e.1 = k
  · simp [h]
  · simp [h, Ne.symm h]

theorem mem_insert {m : HashMap κ ν} {k : κ} {v : ν} {e : κ × ν} :
    e ∈ (m.insert k v).entries ↔ e = (k, v) ∨ (e ∈ m.entries ∧ e.1 ≠ k) := by
  unfold insert
  split
  · rename_i hk
    obtain ⟨e₀, he₀, hk₀⟩ := List.mem_map.mp hk
    simp only [List.mem_map]
    constructor
    · rintro ⟨e', he', rfl⟩
      by_cases h : e'.1 = k <;> simp [h, he']
    · rintro (rfl | ⟨he, hne⟩)
      · exact ⟨e₀, he₀, by simp [hk₀]⟩
      · exact ⟨e, he, by simp [hne]⟩
  · rename_i hk
    have hne : e ∈ m.entries → e.1 ≠ k := fun he h => hk (List.mem_map.mpr ⟨e, he, h⟩)
    rw [List.mem_append, List.mem_singleton, or_comm]
    exact or_congr_right ⟨fun he => ⟨he, hne he⟩, And.left⟩

@[simp] theorem get_insert (m : HashMap κ ν) (k : κ) (v : ν) (k' : κ) :
    (m.insert k v).get k' = if k' = k then some v else m.get k' := by
  refine Option.ext fun v' => ?_
  rw [Option.mem_def, Option.mem_def, get_eq_some_iff, mem_insert]
  split
  · subst k'
    simp [eq_comm]
  · simp [get_eq_some_iff, *]

@[simp] theorem get_insertOpt (m : HashMap κ ν) (k : κ) (o : Option ν) (k' : κ) :
    (m.insertOpt k o).get k' = if k' = k then o.or (m.get k) else m.get k' := by
  cases o with
  | none => by_cases h : k' = k <;> simp [insertOpt, h]
  | some v => simp [insertOpt]

@[simp] theorem get_mapValues (f : ν → μ) (m : HashMap κ ν) (k : κ) :
    (m.mapValues f).get k = (m.get k).map f := by
  simp only [get, mapValues]
  induction m.entries with
  | nil => rfl
  | cons e es ih =>
    obtain ⟨k', v⟩ := e
    simp only [List.map_cons, List.lookup_cons]
    cases k == k' <;> simp [ih]

theorem get_foldl_insert (k : κ) :
    ∀ (l : List (κ × ν)) (m : HashMap κ ν),
      (l.foldl (fun m e => m.insert e.1 e.2) m).get k = (l.reverse.lookup k).or (m.get k)
  | [], _ => rfl
  | e :: l, m => by
    rw [List.foldl_cons, get_foldl_insert k l, List.reverse_cons, List.lookup_append, Option.or_assoc,
      get_insert]
    congr 1
    obtain ⟨k', v⟩ := e
    by_cases h : k = k'
    · simp [List.lookup_cons, h]
    · have hne : (k == k') = false := by simpa using h
      simp [List.lookup_cons, h, hne]

/-- A collected map holds for each key the value of the key's last pair. -/
theorem get_ofList (l : List (κ × ν)) (k : κ) : (ofList l).get k = l.reverse.lookup k := by
  rw [ofList, get_foldl_insert, get_empty, Option.or_none]

/-! ## Building a map one key at a time -/

/-- Inserting each key of `l` with the value `g` gives it. -/
def insertAll (g : κ → ν) (m : HashMap κ ν) (l : List κ) : HashMap κ ν :=
  l.foldl (fun m k => m.insert k (g k)) m

theorem get_insertAll (g : κ → ν) (k : κ) :
    ∀ (l : List κ) (m : HashMap κ ν), (insertAll g m l).get k = if k ∈ l then some (g k) else m.get k
  | [], m => by simp [insertAll]
  | k' :: l, m => by
    rw [insertAll, List.foldl_cons, ← insertAll, get_insertAll g k l, get_insert]
    by_cases h : k = k' <;> by_cases hl : k ∈ l <;> simp [h, hl]

/-- Inserting one value per key, computed from the key, gives each distinct key once with its
value, in an order of its own. -/
theorem entries_insertAll (g : κ → ν) (l : List κ) :
    (insertAll g empty l).entries.Perm (l.dedup.map fun k => (k, g k)) := by
  refine (List.perm_ext_iff_of_nodup (nodup_entries _) ((List.nodup_dedup l).map fun _ _ h => ?_)).mpr
    fun e => ?_
  · exact (Prod.mk.inj h).1
  · rw [← get_eq_some_iff, get_insertAll, List.mem_map]
    obtain ⟨k, v⟩ := e
    simp only [List.mem_dedup, Prod.mk.injEq]
    by_cases hk : k ∈ l
    · simp only [hk, if_true, Option.some.injEq]
      exact ⟨fun h => ⟨k, hk, rfl, h⟩, fun ⟨_, _, hak, h⟩ => hak ▸ h⟩
    · simp only [hk, if_false, get_empty, reduceCtorEq, false_iff]
      exact fun ⟨a, ha, hak, _⟩ => hk (hak ▸ ha)

/-- The values of such a map are, up to order, one value per distinct key. -/
theorem values_insertAll (g : κ → ν) (l : List κ) :
    (insertAll g empty l).values.Perm (l.dedup.map g) := by
  simpa only [values, List.map_map, Function.comp_def] using (entries_insertAll g l).map Prod.snd

end HashMap

end SpiceAi

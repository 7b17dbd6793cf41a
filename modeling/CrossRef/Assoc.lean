/-! # Maps that keep the order of insertion

A map is a list of pairs. Putting a value under a key that is present replaces the value where the
key stands; a new key goes to the end. So the keys of a map stand in the order in which they first
came, and each key stands once.

* `get?_put_self`, `get?_put_of_ne`: what a map holds after `put`.
* `keys_put_of_mem`, `keys_put_of_not_mem`: where the keys stand after `put`.
-/

namespace CrossRef

/-- A map from `κ` to `ν` in the order of insertion. -/
abbrev Assoc (κ ν : Type) := List (κ × ν)

namespace Assoc

variable {κ ν : Type} [DecidableEq κ]

/-- The value under the key `k`. -/
def get? : Assoc κ ν → κ → Option ν
  | [], _ => none
  | (k', v) :: m, k => if k' = k then some v else get? m k

/-- `m` with the value `v` under the key `k`. -/
def put : Assoc κ ν → κ → ν → Assoc κ ν
  | [], k, v => [(k, v)]
  | (k', v') :: m, k, v => if k' = k then (k', v) :: m else (k', v') :: put m k v

/-- `m` without the key `k`. -/
def erase (m : Assoc κ ν) (k : κ) : Assoc κ ν := m.filter fun p => !decide (p.1 = k)

/-- The keys of a map in order. -/
def keys (m : Assoc κ ν) : List κ := m.map (·.1)

/-- The map with the pairs of a list put one after the other. -/
def ofPairs (ps : List (κ × ν)) : Assoc κ ν := ps.foldl (fun m p => put m p.1 p.2) []

@[simp] theorem get?_nil (k : κ) : get? ([] : Assoc κ ν) k = none := rfl

theorem get?_cons (k' : κ) (v : ν) (m : Assoc κ ν) (k : κ) :
    get? ((k', v) :: m) k = if k' = k then some v else get? m k := rfl

@[simp] theorem get?_put_self (m : Assoc κ ν) (k : κ) (v : ν) : get? (put m k v) k = some v := by
  induction m with
  | nil => simp [put, get?]
  | cons p m ih =>
    obtain ⟨k', v'⟩ := p
    by_cases h : k' = k <;> simp [put, get?, h, ih]

theorem get?_put_of_ne {k k' : κ} (h : k' ≠ k) (m : Assoc κ ν) (v : ν) :
    get? (put m k v) k' = get? m k' := by
  induction m with
  | nil => simp [put, get?, Ne.symm h]
  | cons p m ih =>
    obtain ⟨j, w⟩ := p
    by_cases hj : j = k
    · subst hj; simp [put, get?, Ne.symm h]
    · simp [put, get?, hj, ih]

theorem get?_eq_none_iff {m : Assoc κ ν} {k : κ} : get? m k = none ↔ k ∉ keys m := by
  induction m with
  | nil => simp [keys]
  | cons p m ih =>
    obtain ⟨j, w⟩ := p
    by_cases hj : j = k
    · subst hj; simp [get?, keys]
    · simp [get?, hj, ih, keys, Ne.symm hj]

theorem keys_put_of_mem {m : Assoc κ ν} {k : κ} (h : k ∈ keys m) (v : ν) :
    keys (put m k v) = keys m := by
  induction m with
  | nil => simp [keys] at h
  | cons p m ih =>
    obtain ⟨j, w⟩ := p
    by_cases hj : j = k
    · simp [put, hj, keys]
    · have : k ∈ keys m := by simpa [keys, Ne.symm hj] using h
      simp only [put, hj, if_false]
      exact congrArg (j :: ·) (ih this)

theorem keys_put_of_not_mem {m : Assoc κ ν} {k : κ} (h : k ∉ keys m) (v : ν) :
    keys (put m k v) = keys m ++ [k] := by
  induction m with
  | nil => simp [put, keys]
  | cons p m ih =>
    obtain ⟨j, w⟩ := p
    have hj : j ≠ k := fun e => h (by simp [keys, e])
    have : k ∉ keys m := fun hm => h (by simp only [keys, List.map_cons]; exact .tail _ hm)
    simp only [put, hj, if_false]
    exact congrArg (j :: ·) (ih this)

end Assoc

end CrossRef

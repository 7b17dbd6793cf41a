import CrossRef.Proofs.DistinctKeys
import CrossRef.Value.Merge

/-! # What a merged table holds

The settings of a user are laid over the defaults key by key, and table over table where both have
one. Here the result is said path by path: a value that is no table comes from the user's table, or
from the defaults where the user's table leaves the path free. Laying a table over another twice, or
over itself, changes nothing.

* `get?_merge`, `keys_merge`: one level of a merged table.
* `Value.LeavesFree`: nothing stands at a path, and no value on the way to it is cut off.
* `at?_over_iff`: the values at all depths.
* `merge_eq_self_iff`: which tables stay as they are when they are laid over another.
* `merge_by_path`: what a merged table holds, and the three laws of absorption. -/

namespace CrossRef

namespace Table

/-! ### One level -/

/-- The value that stands where `old` stood, after a value or nothing was laid over it. -/
def merged (old : Option Value) : Option Value → Option Value
  | none => old
  | some new => some (Value.over old new)

theorem over_of_no_table {old : Option Value} (h : ∀ t, old ≠ some (.table t)) (new : Value) :
    Value.over old new = new := by
  cases new with
  | table u =>
    rw [Value.over]
    exact fun t ht => h t ht
  | _ => rw [Value.over]; intro t ht; cases ht

theorem over_of_isLeaf {new : Value} (h : new.IsLeaf) (old : Option Value) :
    Value.over old new = new := by
  cases new with
  | table u => exact absurd rfl (h u)
  | _ => rw [Value.over]; intro t ht; cases ht

@[simp] theorem over_table (d u : Table) :
    Value.over (some (.table d)) (.table u) = .table (merge d u) := by
  rw [Value.over]

/-- **A value replaces what stood before it,** unless both are tables. -/
theorem over_cases (old : Option Value) (new : Value) :
    (Value.over old new = new ∧ (new.IsLeaf ∨ ∀ t, old ≠ some (.table t))) ∨
      ∃ d u, old = some (.table d) ∧ new = .table u := by
  rcases Value.isLeaf_or_table new with hleaf | ⟨u, rfl⟩
  · exact Or.inl ⟨over_of_isLeaf hleaf old, Or.inl hleaf⟩
  · by_cases hold : ∃ d, old = some (.table d)
    · obtain ⟨d, rfl⟩ := hold
      exact Or.inr ⟨d, u, rfl, rfl⟩
    · have hno : ∀ t, old ≠ some (.table t) := fun t ht => hold ⟨t, ht⟩
      exact Or.inl ⟨over_of_no_table hno _, Or.inr hno⟩

/-- **A key of a merged table.** -/
theorem get?_merge (k : String) : ∀ {u : Table} (d : Table), (Assoc.keys u).Nodup →
    Assoc.get? (merge d u) k = merged (Assoc.get? d k) (Assoc.get? u k)
  | [], d, _ => by
    rw [merge]
    rfl
  | (j, v) :: u, d, h => by
    obtain ⟨hj, hu⟩ := List.nodup_cons.mp h
    rw [merge, get?_merge k _ hu, Assoc.get?_cons]
    by_cases hk : j = k
    · subst hk
      rw [if_pos rfl, Assoc.get?_eq_none_iff.mpr hj, Assoc.get?_put_self]
      rfl
    · rw [if_neg hk, Assoc.get?_put_of_ne (Ne.symm hk)]

/-- **The keys of a merged table:** those below, then those that are new. -/
theorem keys_merge : ∀ {u : Table} (d : Table), (Assoc.keys u).Nodup →
    Assoc.keys (merge d u) = Assoc.keys d ++ (Assoc.keys u).filter (· ∉ Assoc.keys d)
  | [], d, _ => by
    rw [merge]
    exact (List.append_nil _).symm
  | (j, v) :: u, d, h => by
    obtain ⟨hj, hu⟩ := List.nodup_cons.mp h
    have hcons : Assoc.keys ((j, v) :: u) = j :: Assoc.keys u := rfl
    rw [merge, keys_merge _ hu, hcons]
    by_cases hd : j ∈ Assoc.keys d
    · rw [Assoc.keys_put_of_mem hd, List.filter_cons_of_neg (by simpa using hd)]
    · have hrest : (Assoc.keys u).filter (fun k => decide (k ∉ Assoc.keys d ++ [j])) =
          (Assoc.keys u).filter fun k => decide (k ∉ Assoc.keys d) := by
        refine List.filter_congr fun k hk => ?_
        have hne : k ≠ j := fun e => hj (e ▸ hk)
        simp [hne]
      rw [Assoc.keys_put_of_not_mem hd, List.filter_cons_of_pos (by simpa using hd), hrest,
        List.append_assoc, List.singleton_append]

theorem nodup_keys_merge {d u : Table} (hd : (Assoc.keys d).Nodup) (hu : (Assoc.keys u).Nodup) :
    (Assoc.keys (merge d u)).Nodup := by
  rw [keys_merge d hu, List.nodup_append]
  refine ⟨hd, hu.filter _, fun a ha b hb hab => ?_⟩
  have hnot := (List.mem_filter.mp hb).2
  exact of_decide_eq_true hnot (hab ▸ ha)

/-- **Induction on the depth of a table.** -/
theorem depth_induction {P : Table → Prop}
    (h : ∀ t : Table, (∀ k inner, Assoc.get? t k = some (.table inner) → P inner) → P t)
    (t : Table) : P t := by
  have hsize : ∀ (t : Table) (k : String) (v : Value), Assoc.get? t k = some v →
      sizeOf v < sizeOf t := by
    intro t k v hv
    induction t with
    | nil => cases hv
    | cons p t ih =>
      obtain ⟨j, w⟩ := p
      rw [Assoc.get?_cons] at hv
      split at hv
      · cases hv
        simp only [List.cons.sizeOf_spec, Prod.mk.sizeOf_spec]
        omega
      · have := ih hv
        simp only [List.cons.sizeOf_spec, Prod.mk.sizeOf_spec]
        omega
  induction hn : sizeOf t using Nat.strongRecOn generalizing t with
  | _ n ih =>
    subst hn
    refine h t fun k inner hk => ih (sizeOf inner) ?_ inner rfl
    have := hsize t k _ hk
    simp only [Value.table.sizeOf_spec] at this
    omega

/-! ### All depths -/

end Table

namespace Value

/-- **The value leaves a path free:** nothing stands there, and what stands on the way is tables. -/
def LeavesFree (v : Value) (path : List String) : Prop :=
  v.at? path = none ∧ ∀ start, start <+: path → ∀ x, v.at? start = some x → ∃ t, x = .table t

theorem IsLeaf.not_leavesFree {v : Value} (h : v.IsLeaf) (path : List String) :
    ¬ v.LeavesFree path := by
  rintro ⟨-, htables⟩
  obtain ⟨t, ht⟩ := htables [] (List.nil_prefix) v (at?_nil v)
  exact h t ht

theorem not_leavesFree_nil (v : Value) : ¬ v.LeavesFree [] := by
  rintro ⟨hnone, -⟩
  rw [at?_nil] at hnone
  cases hnone

theorem leavesFree_cons_iff {u : Table} {k : String} {path : List String} :
    (Value.table u).LeavesFree (k :: path) ↔
      ∀ v, Assoc.get? u k = some v → v.LeavesFree path := by
  unfold LeavesFree
  constructor
  · rintro ⟨hnone, htables⟩ v hv
    rw [at?_table_cons, hv] at hnone
    refine ⟨hnone, fun start hstart x hx => htables (k :: start) ?_ x ?_⟩
    · exact (List.prefix_cons_inj k).mpr hstart
    · rw [at?_table_cons, hv]
      exact hx
  · intro h
    constructor
    · rw [at?_table_cons]
      rcases hv : Assoc.get? u k with _ | v
      · rfl
      · exact (h v hv).1
    · rintro (_ | ⟨j, start⟩) hstart x hx
      · rw [at?_nil] at hx
        exact ⟨u, (Option.some.inj hx).symm⟩
      · obtain ⟨rfl, hrest⟩ := List.cons_prefix_cons.mp hstart
        rw [at?_table_cons, Option.bind_eq_some_iff] at hx
        obtain ⟨v, hv, hx⟩ := hx
        exact (h v hv).2 start hrest x hx

/-- A value that replaces another leaves nothing of it to be seen. -/
theorem not_seen_of_replaced {old : Option Value} {new : Value}
    (h : new.IsLeaf ∨ ∀ t, old ≠ some (.table t)) (path : List String) (v : Value) :
    ¬ (old.bind (·.at? path) = some v ∧ new.LeavesFree path) := by
  rintro ⟨hold, hfree⟩
  rcases h with hleaf | hno
  · exact hleaf.not_leavesFree path hfree
  · rcases path with _ | ⟨k, path⟩
    · exact not_leavesFree_nil new hfree
    · obtain ⟨w, rfl, hw⟩ := Option.bind_eq_some_iff.mp hold
      rw [IsLeaf.at?_cons fun t ht => hno t (congrArg some ht)] at hw
      cases hw

/-- **The leaves of what is laid over another value.** -/
theorem at?_over_iff {v : Value} (hv : v.IsLeaf) : ∀ {path : List String} {old : Option Value}
    {new : Value}, new.Proper → ((Value.over old new).at? path = some v ↔
      new.at? path = some v ∨ old.bind (·.at? path) = some v ∧ new.LeavesFree path)
  | path, old, new, hnew => by
    rcases Table.over_cases old new with ⟨hreplaced, hkind⟩ | ⟨d, u, rfl, rfl⟩
    · rw [hreplaced, or_iff_left (not_seen_of_replaced hkind path v)]
    · obtain ⟨hu, hinner⟩ := proper_table_iff.mp hnew
      rw [Table.over_table]
      rcases path with _ | ⟨k, path⟩
      · have htable (t : Table) : Value.table t ≠ v := fun h => hv t h.symm
        simp [htable]
      · rw [at?_table_cons, Table.get?_merge k d hu, leavesFree_cons_iff]
        simp only [at?_table_cons, Option.bind_some]
        rcases hk : Assoc.get? u k with _ | x
        · simp [Table.merged]
        · simp only [Table.merged, Option.bind_some, Option.some.injEq, forall_eq',
            at?_over_iff hv (hinner k x hk)]

end Value

namespace Table

open Value

/-! ### Merging again -/

/-- **A table stays as it is when it is laid over another** exactly if its keys begin with those of
the other and each of its values stays as it is. -/
theorem merge_eq_self_iff {d t : Table} (ht : (Assoc.keys t).Nodup) :
    merge d t = t ↔ Assoc.keys d <+: Assoc.keys t ∧
      ∀ k v, Assoc.get? t k = some v → Value.over (Assoc.get? d k) v = v := by
  constructor
  · intro h
    have hkeys := keys_merge d ht
    rw [h] at hkeys
    refine ⟨⟨_, hkeys.symm⟩, fun k v hv => ?_⟩
    have hget := get?_merge k d ht
    rw [h, hv] at hget
    exact (Option.some.inj hget).symm
  · rintro ⟨⟨new, hnew⟩, hvalues⟩
    have hfilter : (Assoc.keys t).filter (· ∉ Assoc.keys d) = new := by
      rw [← hnew, List.nodup_append] at ht
      rw [← hnew, List.filter_append, List.filter_eq_nil_iff.mpr (by simp),
        List.filter_eq_self.mpr fun a ha => ?_, List.nil_append]
      exact decide_eq_true fun hd => ht.2.2 a hd a ha rfl
    have hkeys : Assoc.keys (merge d t) = Assoc.keys t := by
      rw [keys_merge d ht, hfilter, hnew]
    refine Assoc.ext_keys hkeys (hkeys ▸ ht) fun k => ?_
    rw [get?_merge k d ht]
    rcases hk : Assoc.get? t k with _ | v
    · rw [Assoc.get?_eq_none_iff, ← hnew, List.mem_append, not_or] at hk
      exact Assoc.get?_eq_none_iff.mpr hk.1
    · exact congrArg some (hvalues k v hk)

theorem merge_put_eq_self {d t : Table} (ht : (Assoc.keys t).Nodup) (h : merge d t = t)
    {k : String} {v : Value} (hv : Value.over (Assoc.get? d k) v = v) :
    merge d (Assoc.put t k v) = Assoc.put t k v := by
  obtain ⟨hkeys, hvalues⟩ := (merge_eq_self_iff ht).mp h
  refine (merge_eq_self_iff (Assoc.nodup_keys_put ht k v)).mpr
    ⟨hkeys.trans (Assoc.keys_prefix_put t k v), fun j x hx => ?_⟩
  by_cases hj : j = k
  · subst hj
    rw [Assoc.get?_put_self] at hx
    obtain rfl := Option.some.inj hx
    exact hv
  · rw [Assoc.get?_put_of_ne hj] at hx
    exact hvalues j x hx

/-- **A merged table is proper.** -/
theorem proper_merge {d u : Table} (hd : (Value.table d).Proper) (hu : (Value.table u).Proper) :
    (Value.table (merge d u)).Proper := by
  induction d using depth_induction generalizing u with
  | h d ih =>
    obtain ⟨hdkeys, hdinner⟩ := proper_table_iff.mp hd
    obtain ⟨hukeys, huinner⟩ := proper_table_iff.mp hu
    refine proper_table_iff.mpr ⟨nodup_keys_merge hdkeys hukeys, fun k v hv => ?_⟩
    rw [get?_merge k d hukeys] at hv
    rcases hx : Assoc.get? u k with _ | x <;> rw [hx] at hv
    · exact hdinner k v hv
    · obtain rfl : Value.over (Assoc.get? d k) x = v := Option.some.inj hv
      rcases over_cases (Assoc.get? d k) x with ⟨hnew, -⟩ | ⟨t, y, ht, rfl⟩
      · rw [hnew]
        exact huinner k x hx
      · rw [ht, over_table]
        exact ih k t ht (hdinner k _ ht) (huinner k _ hx)

theorem merge_self {d : Table} (hd : (Value.table d).Proper) : merge d d = d := by
  induction d using depth_induction with
  | h d ih =>
    obtain ⟨hnodup, hinner⟩ := proper_table_iff.mp hd
    refine (merge_eq_self_iff hnodup).mpr ⟨List.prefix_rfl, fun k v hv => ?_⟩
    rcases isLeaf_or_table v with hleaf | ⟨t, rfl⟩
    · exact over_of_isLeaf hleaf _
    · rw [hv, over_table, ih k t hv (hinner k _ hv)]

theorem over_self {v : Value} (hv : v.Proper) : Value.over (some v) v = v := by
  rcases isLeaf_or_table v with hleaf | ⟨t, rfl⟩
  · exact over_of_isLeaf hleaf _
  · rw [over_table, merge_self hv]

/-- **The defaults are in a merged table already.** -/
theorem merge_merge_left {d u : Table} (hd : (Value.table d).Proper)
    (hu : (Value.table u).Proper) : merge d (merge d u) = merge d u := by
  induction d using depth_induction generalizing u with
  | h d ih =>
    obtain ⟨hdkeys, hdinner⟩ := proper_table_iff.mp hd
    obtain ⟨hukeys, huinner⟩ := proper_table_iff.mp hu
    refine (merge_eq_self_iff (nodup_keys_merge hdkeys hukeys)).mpr ⟨?_, fun k v hv => ?_⟩
    · rw [keys_merge d hukeys]
      exact List.prefix_append ..
    · rw [get?_merge k d hukeys] at hv
      rcases hx : Assoc.get? u k with _ | x <;> rw [hx] at hv
      · have hdk : Assoc.get? d k = some v := hv
        rw [hdk, over_self (hdinner k v hdk)]
      · obtain rfl : Value.over (Assoc.get? d k) x = v := Option.some.inj hv
        rcases over_cases (Assoc.get? d k) x with ⟨hnew, -⟩ | ⟨t, y, ht, rfl⟩
        · rw [hnew, hnew]
        · rw [ht, over_table, over_table, ih k t ht (hdinner k _ ht) (huinner k _ hx)]

/-- **The user's table is in a merged table already.** -/
theorem merge_merge_right {d u : Table} (hd : (Value.table d).Proper)
    (hu : (Value.table u).Proper) : merge (merge d u) u = merge d u := by
  induction d using depth_induction generalizing u with
  | h d ih =>
    obtain ⟨hdkeys, hdinner⟩ := proper_table_iff.mp hd
    obtain ⟨hukeys, huinner⟩ := proper_table_iff.mp hu
    have hnodup := nodup_keys_merge hdkeys hukeys
    have hkeys : Assoc.keys (merge (merge d u) u) = Assoc.keys (merge d u) := by
      have hmem : ∀ k ∈ Assoc.keys u, ¬ decide (k ∉ Assoc.keys (merge d u)) = true := by
        intro k hk
        rw [keys_merge d hukeys]
        by_cases hd : k ∈ Assoc.keys d <;> simp [hk, hd]
      rw [keys_merge _ hukeys, List.filter_eq_nil_iff.mpr hmem, List.append_nil]
    refine Assoc.ext_keys hkeys (hkeys ▸ hnodup) fun k => ?_
    rw [get?_merge k _ hukeys, get?_merge k _ hukeys]
    rcases hx : Assoc.get? u k with _ | x
    · rfl
    · refine congrArg some ?_
      show Value.over (some (Value.over (Assoc.get? d k) x)) x = Value.over (Assoc.get? d k) x
      rcases over_cases (Assoc.get? d k) x with ⟨hnew, -⟩ | ⟨t, y, ht, rfl⟩
      · rw [hnew, over_self (huinner k _ hx)]
      · rw [ht, over_table, over_table, ih k t ht (hdinner k _ ht) (huinner k _ hx)]

/-- **What a merged table holds,** path by path. A value that is no table stands at a path of the
result exactly if it stands there in the user's table, or stands there in the defaults and the
user's table leaves the path free. So an array is that of the one or that of the other, as a whole.
The defaults and the user's table are both in the result: laying it over the one, or the other over
it, changes nothing, and a table laid over itself stays as it is. -/
theorem merge_by_path {d u : Table} (hd : (Value.table d).Proper) (hu : (Value.table u).Proper) :
    (∀ path v, v.IsLeaf → ((Value.table (merge d u)).at? path = some v ↔
      (Value.table u).at? path = some v ∨
        (Value.table d).at? path = some v ∧ (Value.table u).LeavesFree path)) ∧
    (∀ path items, (Value.table (merge d u)).at? path = some (.array items) →
      (Value.table u).at? path = some (.array items) ∨
        (Value.table d).at? path = some (.array items)) ∧
    merge d (merge d u) = merge d u ∧ merge (merge d u) u = merge d u ∧ merge d d = d := by
  have hpath (path : List String) (v : Value) (hv : v.IsLeaf) :
      (Value.table (merge d u)).at? path = some v ↔ (Value.table u).at? path = some v ∨
        (Value.table d).at? path = some v ∧ (Value.table u).LeavesFree path := by
    rw [← over_table]
    exact at?_over_iff hv hu
  refine ⟨hpath, fun path items h => ?_, merge_merge_left hd hu, merge_merge_right hd hu,
    merge_self hd⟩
  exact ((hpath path _ (isLeaf_array items)).mp h).imp_right And.left

/-- In the defaults a section and an array; in the user's table a number where the section is, and
another array. -/
theorem merge_by_path_of_mismatch :
    let d : Table := [("a", .table [("x", .int 1)]),
      ("b", .table [("l", .array [.int 1, .int 2]), ("y", .bool true)])]
    let u : Table := [("a", .int 3), ("b", .table [("l", .array [.int 4])])]
    (Value.table (merge d u)).at? ["b", "l"] = some (.array [.int 4]) ∧
    (Value.table (merge d u)).at? ["b", "y"] = some (.bool true) ∧
    (Value.table (merge d u)).at? ["a", "x"] ≠ some (.int 1) ∧
    merge d (merge d u) = merge d u := by
  intro d u
  have hd : (Value.table d).Proper := by
    refine proper_of_entries (by decide) ?_
    simp only [d, List.forall_mem_cons, List.not_mem_nil, false_implies, implies_true, and_true]
    refine ⟨proper_of_leaves (by decide) ?_, proper_of_leaves (by decide) ?_⟩ <;> simp [IsLeaf]
  have hu : (Value.table u).Proper := by
    refine proper_of_entries (by decide) ?_
    simp only [u, List.forall_mem_cons, List.not_mem_nil, false_implies, implies_true, and_true]
    refine ⟨IsLeaf.proper ?_, proper_of_leaves (by decide) ?_⟩ <;> simp [IsLeaf]
  obtain ⟨hpath, -, hagain, -⟩ := merge_by_path hd hu
  have harray : (Value.array [.int 4]).IsLeaf := by simp [IsLeaf]
  have hbool : (Value.bool true).IsLeaf := by simp [IsLeaf]
  have hint : (Value.int 1).IsLeaf := by simp [IsLeaf]
  refine ⟨(hpath _ _ harray).mpr (Or.inl ?_), (hpath _ _ hbool).mpr (Or.inr ⟨?_, ?_⟩), fun h => ?_,
    hagain⟩
  · simp [u, Assoc.get?_cons]
  · simp [d, Assoc.get?_cons]
  · simp [u, leavesFree_cons_iff, Assoc.get?_cons]
  · rcases (hpath _ _ hint).mp h with h | ⟨-, -, htables⟩
    · simp [u, Assoc.get?_cons, at?] at h
    · obtain ⟨t, ht⟩ := htables ["a"] ⟨["x"], rfl⟩ (.int 3) (by simp [u, Assoc.get?_cons])
      cases ht

end Table

end CrossRef

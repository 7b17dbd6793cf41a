import CrossRef.Index

/-! # An index from its entries

An index only grows by `add`, one entry at a time. So the entries added say all there is to say
about it: they stand in the order in which they came, and the mapping is what they put one after the
other.

* `foldl_add_entries`, `foldl_add_mapping`: the index after a list of entries.
* `get?_foldl_put`: of the values put under a key the last one stands.
* `pairwise_distinct`: the distinct identifiers stand in the order in which they first came. -/

namespace CrossRef

namespace Assoc

variable {κ ν : Type} [DecidableEq κ]

/-- **The last value put under a key stands.** -/
theorem get?_foldl_put (k : κ) : ∀ (ps : List (κ × ν)) (m : Assoc κ ν),
    get? (ps.foldl (fun m p => put m p.1 p.2) m) k =
      ((ps.reverse.find? fun p => p.1 = k).map (·.2)).or (get? m k)
  | [], m => rfl
  | p :: ps, m => by
    rw [List.foldl_cons, get?_foldl_put k ps, List.reverse_cons, List.find?_append]
    by_cases h : p.1 = k
    · subst h; simp
    · simp [h, get?_put_of_ne (Ne.symm h)]

theorem mem_keys_iff {m : Assoc κ ν} {k : κ} : k ∈ keys m ↔ (get? m k).isSome := by
  rw [Option.isSome_iff_ne_none, ne_eq, get?_eq_none_iff, Classical.not_not]

end Assoc

namespace Index

/-- What an entry puts into the mapping of an index. -/
def pairOf (e : Entry) : String × (String × String) := (e.identifier, e.attr, e.element)

theorem foldl_add_entries : ∀ (es : List Entry) (x : Index),
    (es.foldl add x).entries = x.entries ++ es
  | [], x => by simp
  | e :: es, x => by
    rw [List.foldl_cons, foldl_add_entries es]
    simp [add]

theorem foldl_add_mapping : ∀ (es : List Entry) (x : Index),
    (es.foldl add x).mapping =
      (es.map pairOf).foldl (fun m p => Assoc.put m p.1 p.2) x.mapping
  | [], x => rfl
  | e :: es, x => by
    rw [List.foldl_cons, foldl_add_mapping es]
    rfl

@[simp] theorem foldl_add_caseSensitive : ∀ (es : List Entry) (x : Index),
    (es.foldl add x).caseSensitive = x.caseSensitive
  | [], _ => rfl
  | e :: es, x => foldl_add_caseSensitive es (x.add e)

/-- **The index of a list of entries** under a case policy. -/
def ofEntries (caseSensitive : Bool) (es : List Entry) : Index := es.foldl add { caseSensitive }

@[simp] theorem ofEntries_entries (policy : Bool) (es : List Entry) :
    (ofEntries policy es).entries = es := by
  unfold ofEntries
  rw [foldl_add_entries]
  rfl

@[simp] theorem ofEntries_caseSensitive (policy : Bool) (es : List Entry) :
    (ofEntries policy es).caseSensitive = policy := foldl_add_caseSensitive es _

theorem ofEntries_mapping (policy : Bool) (es : List Entry) :
    (ofEntries policy es).mapping = Assoc.ofPairs (es.map pairOf) := foldl_add_mapping es _

/-- **An identifier leads to its last entry.** -/
theorem get?_ofEntries (policy : Bool) (es : List Entry) (k : String) :
    Assoc.get? (ofEntries policy es).mapping k =
      (es.reverse.find? fun e => e.identifier = k).map fun e => (e.attr, e.element) := by
  rw [ofEntries_mapping, Assoc.ofPairs, Assoc.get?_foldl_put, ← List.map_reverse, List.find?_map]
  rw [Assoc.get?_nil, Option.or_none, Option.map_map]
  rfl

theorem mem_keys_ofEntries {policy : Bool} {es : List Entry} {k : String} :
    k ∈ Assoc.keys (ofEntries policy es).mapping ↔ ∃ e ∈ es, e.identifier = k := by
  rw [Assoc.mem_keys_iff, get?_ofEntries, Option.isSome_map, List.find?_isSome]
  simp

/-! ### Distinct identifiers -/

theorem mem_distinct {s : String} : ∀ {l : List String}, s ∈ distinct l ↔ s ∈ l
  | [] => Iff.rfl
  | t :: l => by
    rw [distinct, List.mem_cons, List.mem_cons, List.mem_filter, mem_distinct, bne_iff_ne]
    by_cases h : s = t <;> simp [h]

/-- **The distinct items stand in the order in which they first came.** -/
theorem pairwise_distinct : ∀ l : List String,
    (distinct l).Pairwise fun s t => l.idxOf s < l.idxOf t
  | [] => .nil
  | r :: l => by
    have hlater {s : String} (h : s ∈ (distinct l).filter (· != r)) :
        (r :: l).idxOf s = l.idxOf s + 1 := by
      have hne : s ≠ r := by simpa using (List.mem_filter.mp h).2
      rw [List.idxOf_cons, beq_false_of_ne (Ne.symm hne), cond_false]
    refine List.pairwise_cons.mpr ⟨fun s hs => ?_, ?_⟩
    · rw [hlater hs, List.idxOf_cons_self]
      omega
    · refine ((pairwise_distinct l).filter _).imp_of_mem fun hs ht hlt => ?_
      rw [hlater hs, hlater ht]
      omega

end Index

end CrossRef

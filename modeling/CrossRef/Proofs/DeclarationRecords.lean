import CrossRef.Proofs.Ownership

/-! # The two records of an index

An index records its declarations twice: in a mapping, where a later declaration of an identifier
overwrites an earlier one, and in a list, where each of them stands. The identifiers are listed from
the list alone, by a scan that leaves out what came before. Here the two are compared: whatever is
declared, and however often, the keys of the mapping are the identifiers of the list, in the same
order. The first declaration of an identifier gives it its place, and the last one its meaning.

* `distinct_concat`: a scan over one item more.
* `keys_add`: one declaration more, seen in both records.
* `keys_foldl_add`: any number of declarations.
* `ofEntries_in_step`: all that the two records of an index say of the declarations, for every index
  that is made by adding, and so for every one that is built from events. -/

namespace CrossRef.Index

/-! ### Distinct items -/

theorem filter_ne_eq_self {s : String} {l : List String} (h : s ∉ l) : l.filter (· != s) = l :=
  List.filter_eq_self.mpr fun _ ht => bne_iff_ne.mpr fun hts => h (hts ▸ ht)

/-- **A scan over one item more** finds it only if it did not come before. -/
theorem distinct_concat (s : String) : ∀ l : List String,
    distinct (l ++ [s]) = if s ∈ l then distinct l else distinct l ++ [s]
  | [] => rfl
  | t :: l => by
    rw [List.cons_append, distinct, distinct_concat s l, distinct]
    by_cases hl : s ∈ l
    · rw [if_pos hl, if_pos (List.mem_cons_of_mem t hl)]
    · rw [if_neg hl, List.filter_append]
      by_cases ht : s = t
      · have hnone : [s].filter (· != t) = [] := by simp [ht]
        rw [if_pos (by simp [ht]), hnone, List.append_nil]
      · have hkept : [s].filter (· != t) = [s] := by simp [ht]
        rw [if_neg (by simp [ht, hl]), hkept, List.cons_append]

theorem distinct_sublist : ∀ l : List String, (distinct l).Sublist l
  | [] => .slnil
  | _ :: l => (List.filter_sublist.trans (distinct_sublist l)).cons_cons _

theorem nodup_distinct (l : List String) : (distinct l).Nodup := by
  refine (pairwise_distinct l).imp fun {s t} hlt hst => ?_
  rw [hst] at hlt
  omega

theorem distinct_of_nodup : ∀ {l : List String}, l.Nodup → distinct l = l
  | [], _ => rfl
  | t :: l, h => by
    obtain ⟨ht, hl⟩ := List.nodup_cons.mp h
    rw [distinct, distinct_of_nodup hl, filter_ne_eq_self ht]

/-- **A scan finds as many items as there are** exactly if none of them comes twice. -/
theorem length_distinct_eq_iff {l : List String} : (distinct l).length = l.length ↔ l.Nodup := by
  constructor
  · intro h
    have heq := (distinct_sublist l).eq_of_length h
    rw [← heq]
    exact nodup_distinct l
  · intro h
    rw [distinct_of_nodup h]

/-! ### Both records -/

theorem identifiers_add (x : Index) (e : Entry) : (x.add e).identifiers =
    if e.identifier ∈ x.identifiers then x.identifiers else x.identifiers ++ [e.identifier] := by
  have hmem : e.identifier ∈ x.identifiers ↔ e.identifier ∈ x.entries.map (·.identifier) :=
    mem_distinct
  simp only [hmem]
  rw [identifiers, add, List.map_append]
  exact distinct_concat e.identifier _

/-- **One declaration more.** If the keys of the mapping were the identifiers of the list, in their
order, they still are. -/
theorem keys_add {x : Index} (h : Assoc.keys x.mapping = x.identifiers) (e : Entry) :
    Assoc.keys (x.add e).mapping = (x.add e).identifiers := by
  rw [identifiers_add, ← h]
  by_cases hmem : e.identifier ∈ Assoc.keys x.mapping
  · rw [if_pos hmem]
    exact Assoc.keys_put_of_mem hmem _
  · rw [if_neg hmem]
    exact Assoc.keys_put_of_not_mem hmem _

/-- **Any number of declarations more,** by `keys_add` for each of them. -/
theorem keys_foldl_add : ∀ (es : List Entry) {x : Index},
    Assoc.keys x.mapping = x.identifiers →
      Assoc.keys (es.foldl add x).mapping = (es.foldl add x).identifiers
  | [], _, h => h
  | e :: es, _, h => keys_foldl_add es (keys_add h e)

theorem keys_ofEntries (policy : Bool) (es : List Entry) :
    Assoc.keys (ofEntries policy es).mapping = (ofEntries policy es).identifiers :=
  keys_foldl_add es rfl

/-! ### The last declaration -/

/-- **The last declaration of an identifier** among others: none of those that follow is of the
same identifier. -/
def IsLast (es : List Entry) (k : String) (e : Entry) : Prop :=
  ∃ before after, es = before ++ e :: after ∧ e.identifier = k ∧ ∀ a ∈ after, a.identifier ≠ k

theorem find?_reverse_eq_some_iff {es : List Entry} {k : String} {e : Entry} :
    (es.reverse.find? fun e => e.identifier = k) = some e ↔ IsLast es k e := by
  rw [List.find?_eq_some_iff_append]
  constructor
  · rintro ⟨hk, later, earlier, hes, hlater⟩
    refine ⟨earlier.reverse, later.reverse, ?_, of_decide_eq_true hk, fun a ha => ?_⟩
    · rw [← List.reverse_reverse es, hes]
      simp
    · simpa using hlater a (List.mem_reverse.mp ha)
  · rintro ⟨before, after, rfl, hk, hafter⟩
    refine ⟨decide_eq_true hk, after.reverse, before.reverse, by simp, fun a ha => ?_⟩
    simpa using hafter a (List.mem_reverse.mp ha)

/-- **What the mapping holds under an identifier** is from its last declaration. -/
theorem get?_ofEntries_eq_some_iff {policy : Bool} {es : List Entry} {k : String}
    {v : String × String} : Assoc.get? (ofEntries policy es).mapping k = some v ↔
      ∃ e, IsLast es k e ∧ v = (e.attr, e.element) := by
  rw [get?_ofEntries, Option.map_eq_some_iff]
  constructor
  · rintro ⟨e, he, rfl⟩
    exact ⟨e, find?_reverse_eq_some_iff.mp he, rfl⟩
  · rintro ⟨e, he, rfl⟩
    exact ⟨e, find?_reverse_eq_some_iff.mpr he, rfl⟩

/-! ### In step -/

/-- **The records of an index are in step with the declarations `es`:** the list holds them all, in
order; the keys of the mapping are the identifiers that are listed, which are those of the
declarations, each once and in the order of their first declarations; each key holds what its last
declaration says; and the mapping is smaller than the list just if an identifier is declared
twice. -/
structure InStep (x : Index) (es : List Entry) : Prop where
  entries_eq : x.entries = es
  keys_eq : Assoc.keys x.mapping = x.identifiers
  mem_identifiers : ∀ k, k ∈ x.identifiers ↔ ∃ e ∈ es, e.identifier = k
  nodup : x.identifiers.Nodup
  first_order : x.identifiers.Pairwise fun s t =>
    (es.map (·.identifier)).idxOf s < (es.map (·.identifier)).idxOf t
  holds_last : ∀ k v, Assoc.get? x.mapping k = some v ↔
    ∃ e, IsLast es k e ∧ v = (e.attr, e.element)
  size_eq : x.size = x.identifiers.length
  size_le : x.size ≤ x.entries.length
  size_eq_iff : x.size = x.entries.length ↔ (es.map (·.identifier)).Nodup

theorem inStep_ofEntries (policy : Bool) (es : List Entry) : InStep (ofEntries policy es) es := by
  have hentries := ofEntries_entries policy es
  have hkeys := keys_ofEntries policy es
  have hlisted : (ofEntries policy es).identifiers = distinct (es.map (·.identifier)) := by
    rw [identifiers, hentries]
  have hsize : (ofEntries policy es).size = (ofEntries policy es).identifiers.length := by
    rw [← hkeys, Assoc.keys, List.length_map, size]
  have hlength : (es.map (·.identifier)).length = es.length := List.length_map _
  refine ⟨hentries, hkeys, fun k => ?_, ?_, ?_, fun k v => get?_ofEntries_eq_some_iff, hsize,
    ?_, ?_⟩
  · rw [hlisted, mem_distinct, List.mem_map]
  · rw [hlisted]
    exact nodup_distinct _
  · rw [hlisted]
    exact pairwise_distinct _
  · rw [hsize, hlisted, hentries, ← hlength]
    exact (distinct_sublist _).length_le
  · rw [hsize, hlisted, hentries, ← hlength]
    exact length_distinct_eq_iff

/-- **The two records of an index are in step,** whatever is added to an empty one; and so are those
of an index that is built from events, with the declarations of their positions. -/
theorem ofEntries_in_step (policy : Bool) :
    (∀ es : List Entry, InStep (es.foldl add { caseSensitive := policy }) es) ∧
      ∀ events : List Event,
        InStep (build policy events).index (Ownership.entriesOf policy events) := by
  refine ⟨inStep_ofEntries policy, fun events => ?_⟩
  rw [Ownership.build_eq]
  exact inStep_ofEntries policy _

/-- Of two declarations of `a` the first gives the place and the second the meaning. -/
example : (ofEntries false [⟨"a", "id", "p"⟩, ⟨"b", "id", "q"⟩, ⟨"a", "name", "r"⟩]).mapping =
    [("a", "name", "r"), ("b", "id", "q")] := by decide

end CrossRef.Index

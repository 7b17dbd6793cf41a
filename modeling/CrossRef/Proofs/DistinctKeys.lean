import CrossRef.Config.Environment
import CrossRef.Proofs.JsonTexts
import CrossRef.Proofs.Outcome
import CrossRef.Toml.Reader
import Mathlib.Data.List.Nodup

/-! # Tables in which each key stands once

A table is a list of pairs, but it is only ever changed by putting a value under a key. So each key
stands once in it, and it is determined by the order of its keys and the value under each of them. A
value is *proper* if this holds of all the tables in it that keys lead to.

* `ext_keys`: two maps with the same keys in the same order and the same values are equal.
* `proper_table_iff`, `proper_put`: what makes a table proper, and how it stays so.
* `Json.proper_of_parse`, `Toml.proper_of_parse`: all that is read is proper. -/

namespace CrossRef

namespace Assoc

variable {κ ν : Type} [DecidableEq κ]

theorem nodup_keys_put {m : Assoc κ ν} (h : (keys m).Nodup) (k : κ) (v : ν) :
    (keys (put m k v)).Nodup := by
  by_cases hk : k ∈ keys m
  · rw [keys_put_of_mem hk]
    exact h
  · rw [keys_put_of_not_mem hk, List.nodup_append]
    refine ⟨h, by simp, fun a ha b hb => ?_⟩
    rw [List.mem_singleton.mp hb]
    exact fun hab => hk (hab ▸ ha)

theorem keys_prefix_put (m : Assoc κ ν) (k : κ) (v : ν) : keys m <+: keys (put m k v) := by
  by_cases hk : k ∈ keys m
  · refine ⟨[], ?_⟩
    rw [keys_put_of_mem hk, List.append_nil]
  · rw [keys_put_of_not_mem hk]
    exact List.prefix_append ..

theorem mem_of_get? {k : κ} {v : ν} : ∀ {m : Assoc κ ν}, get? m k = some v → (k, v) ∈ m
  | [], h => by cases h
  | (j, w) :: m, h => by
    rw [get?_cons] at h
    split at h
    · next hj =>
      cases h
      rw [hj]
      exact List.mem_cons_self ..
    · exact List.mem_cons_of_mem _ (mem_of_get? h)

theorem mem_put {k : κ} {v : ν} {e : κ × ν} : ∀ {m : Assoc κ ν},
    e ∈ put m k v → e.2 = v ∨ e ∈ m
  | [], h => .inl (congrArg Prod.snd (List.mem_singleton.mp h))
  | (k', v') :: m, h => by
    rw [put] at h
    split at h
    · rcases List.mem_cons.mp h with rfl | h
      · exact .inl rfl
      · exact .inr (List.mem_cons_of_mem _ h)
    · rcases List.mem_cons.mp h with rfl | h
      · exact .inr (List.mem_cons_self ..)
      · exact (mem_put h).imp_right (List.mem_cons_of_mem _)

/-- **A map in which each key stands once** is determined by its keys in order and by the value
under each of them. -/
theorem ext_keys : ∀ {m m' : Assoc κ ν}, keys m = keys m' → (keys m).Nodup →
    (∀ k, get? m k = get? m' k) → m = m'
  | [], [], _, _, _ => rfl
  | [], _ :: _, h, _, _ => by simp [keys] at h
  | _ :: _, [], h, _, _ => by simp [keys] at h
  | (k, v) :: m, (k', v') :: m', h, hnodup, hget => by
    obtain ⟨rfl, hkeys⟩ : k = k' ∧ keys m = keys m' := List.cons.inj h
    obtain ⟨hk, hrest⟩ := List.nodup_cons.mp hnodup
    have hv : v = v' := by simpa [get?_cons] using hget k
    have htail : m = m' := by
      refine ext_keys hkeys hrest fun j => ?_
      by_cases hj : k = j
      · subst hj
        rw [get?_eq_none_iff.mpr hk, get?_eq_none_iff.mpr (hkeys ▸ hk)]
      · simpa [get?_cons, hj] using hget j
    rw [hv, htail]

end Assoc

namespace Value

/-! ### Paths -/

/-- **The value at a path** of keys. -/
def at? (v : Value) : List String → Option Value
  | [] => some v
  | k :: path =>
    match v with
    | .table t => (Assoc.get? t k).bind fun w => w.at? path
    | _ => none

/-- The value is no table. -/
def IsLeaf (v : Value) : Prop := ∀ t, v ≠ .table t

@[simp] theorem at?_nil (v : Value) : v.at? [] = some v := by
  unfold at?
  rfl

@[simp] theorem at?_table_cons (t : Table) (k : String) (path : List String) :
    (Value.table t).at? (k :: path) = (Assoc.get? t k).bind fun w => w.at? path := by
  rw [at?]

theorem IsLeaf.at?_cons {v : Value} (h : v.IsLeaf) (k : String) (path : List String) :
    v.at? (k :: path) = none := by
  cases v with
  | table t => exact absurd rfl (h t)
  | _ => rfl

theorem isLeaf_or_table (v : Value) : v.IsLeaf ∨ ∃ t, v = .table t := by
  cases v with
  | table t => exact Or.inr ⟨t, rfl⟩
  | _ => exact Or.inl fun _ => nofun

theorem isLeaf_array (items : List Value) : (Value.array items).IsLeaf := by
  intro t ht
  cases ht

/-! ### Proper values -/

/-- **A proper value:** in every table at a path of it each key stands once. -/
def Proper (v : Value) : Prop :=
  ∀ path t, v.at? path = some (.table t) → (Assoc.keys t).Nodup

theorem IsLeaf.proper {v : Value} (h : v.IsLeaf) : v.Proper := by
  rintro (_ | ⟨k, path⟩) t ht
  · exact absurd (Option.some.inj ((at?_nil v).symm.trans ht)) (h t)
  · rw [h.at?_cons] at ht
    cases ht

theorem proper_table_iff {t : Table} :
    (Value.table t).Proper ↔
      (Assoc.keys t).Nodup ∧ ∀ k v, Assoc.get? t k = some v → v.Proper := by
  constructor
  · intro h
    refine ⟨h [] t (at?_nil _), fun k v hk path t' ht' => h (k :: path) t' ?_⟩
    rw [at?_table_cons, hk]
    exact ht'
  · rintro ⟨hnodup, hinner⟩ (_ | ⟨k, path⟩) t' ht'
    · obtain rfl := Value.table.inj (Option.some.inj ((at?_nil _).symm.trans ht'))
      exact hnodup
    · rw [at?_table_cons, Option.bind_eq_some_iff] at ht'
      obtain ⟨v, hv, ht'⟩ := ht'
      exact hinner k v hv path t' ht'

theorem proper_nil : (Value.table []).Proper :=
  proper_table_iff.mpr ⟨List.nodup_nil, fun _ _ h => by cases h⟩

theorem proper_of_entries {t : Table} (hkeys : (Assoc.keys t).Nodup)
    (hentries : ∀ e ∈ t, e.2.Proper) : (Value.table t).Proper :=
  proper_table_iff.mpr ⟨hkeys, fun k v hk => hentries (k, v) (Assoc.mem_of_get? hk)⟩

theorem proper_of_leaves {t : Table} (hkeys : (Assoc.keys t).Nodup)
    (hentries : ∀ e ∈ t, e.2.IsLeaf) : (Value.table t).Proper :=
  proper_of_entries hkeys fun e he => (hentries e he).proper

theorem proper_put {t : Table} (ht : (Value.table t).Proper) (k : String) {v : Value}
    (hv : v.Proper) : (Value.table (Assoc.put t k v)).Proper := by
  obtain ⟨hnodup, hinner⟩ := proper_table_iff.mp ht
  refine proper_table_iff.mpr ⟨Assoc.nodup_keys_put hnodup k v, fun j u hu => ?_⟩
  by_cases hj : j = k
  · subst hj
    rw [Assoc.get?_put_self] at hu
    exact Option.some.inj hu ▸ hv
  · rw [Assoc.get?_put_of_ne hj] at hu
    exact hinner j u hu

end Value

/-! ### Values of variables -/

namespace Json

open Value

/-- Data other than an object stands for no table. -/
theorem isLeaf_toValue {d : Data} (h : ∀ fields, d ≠ .object fields) : d.toValue.IsLeaf := by
  cases d with
  | object fields => exact absurd rfl (h fields)
  | null | bool | int | float => exact fun _ => nofun
  | text s =>
    rcases hs : textOf? s with _ | text <;> simp [Data.toValue, Data.plain?, hs, IsLeaf]
  | array items =>
    rcases hitems : plainItems? items with _ | vs <;>
      simp [Data.toValue, Data.plain?, hitems, IsLeaf]

/-- **Fields under distinct names,** each of which stands for a proper value. -/
def ProperFields (t : Fields) : Prop := (Assoc.keys t).Nodup ∧ ∀ e ∈ t, e.2.toValue.Proper

theorem properFields_nil : ProperFields [] := ⟨List.nodup_nil, nofun⟩

theorem ProperFields.put {t : Fields} (h : ProperFields t) (k : List CodePoint) {d : Data}
    (hd : d.toValue.Proper) : ProperFields (Assoc.put t k d) := by
  refine ⟨Assoc.nodup_keys_put h.1 k d, fun e he => ?_⟩
  rcases Assoc.mem_put he with heq | he
  · rwa [heq]
  · exact h.2 e he

/-- The entries that fields stand for have their names, and the values that they stand for. -/
theorem plainFields?_eq_some : ∀ {t : Fields} {t' : Table}, plainFields? t = some t' →
    Assoc.keys t = (Assoc.keys t').map (·.toList.map .char) ∧
      ∀ e' ∈ t', ∃ e ∈ t, e.2.toValue = e'.2
  | [], t', h => by
    cases h
    exact ⟨rfl, nofun⟩
  | (k, d) :: t, t', h => by
    simp only [plainFields?, Option.bind_eq_some_iff, Option.map_eq_some_iff] at h
    obtain ⟨name, hname, v, hv, rest, hrest, rfl⟩ := h
    obtain ⟨hkeys, hentries⟩ := plainFields?_eq_some hrest
    constructor
    · simp only [Assoc.keys, List.map_cons] at hkeys ⊢
      rw [eq_of_textOf? hname, hkeys]
    · intro e' he'
      rcases List.mem_cons.mp he' with rfl | he'
      · exact ⟨(k, d), List.mem_cons_self .., by rw [Data.toValue, hv, Option.getD_some]⟩
      · obtain ⟨e, he, heq⟩ := hentries e' he'
        exact ⟨e, List.mem_cons_of_mem _ he, heq⟩

/-- **An object under distinct names** stands for a proper value. -/
theorem ProperFields.proper {t : Fields} (h : ProperFields t) :
    (Data.object t).toValue.Proper := by
  rcases ht : plainFields? t with _ | t'
  · simp only [Data.toValue, Data.plain?, ht, Option.map_none, Option.getD_none]
    exact IsLeaf.proper fun _ => nofun
  · obtain ⟨hkeys, hentries⟩ := plainFields?_eq_some ht
    simp only [Data.toValue, Data.plain?, ht, Option.map_some, Option.getD_some]
    refine proper_of_entries (List.Nodup.of_map _ (hkeys ▸ h.1)) fun e' he' => ?_
    obtain ⟨e, he, heq⟩ := hentries e' he'
    rw [← heq]
    exact h.2 e he

theorem SpellsScalar.isLeaf {cs rest : List Char} {d : Data} (h : SpellsScalar cs d rest) :
    d.toValue.IsLeaf := by
  refine isLeaf_toValue ?_
  rintro fields rfl
  cases h with
  | word h => simp [words] at h
  | positive h | negative h => cases h

mutual

/-- **What is spelled stands for a proper value.** -/
theorem Spells.proper {room : Nat} {cs rest : List Char} {d : Data} :
    Spells room cs d rest → d.toValue.Proper
  | .string _ => IsLeaf.proper (isLeaf_toValue fun _ => nofun)
  | .scalar h => h.isLeaf.proper
  | .emptyArray _ => IsLeaf.proper (isLeaf_toValue fun _ => nofun)
  | .array _ _ => IsLeaf.proper (isLeaf_toValue fun _ => nofun)
  | .emptyObject _ => properFields_nil.proper
  | .object _ h => (h.proper properFields_nil).proper

theorem SpellsFields.proper {room : Nat} {t t' : Fields} {cs rest : List Char} :
    SpellsFields room t cs t' rest → ProperFields t → ProperFields t'
  | .last _ hv _, ht => ht.put _ hv.proper
  | .more _ hv _ _ h, ht => h.proper (ht.put _ hv.proper)

end

/-- **What is read from JSON is proper.** -/
theorem proper_of_parse {room : Nat} {cs : List Char} {d : Data} (h : parse room cs = .ok d) :
    d.toValue.Proper := by
  obtain ⟨_, _, _, -, hspells, -⟩ := (parse_eq_ok_iff.mp h).1
  exact hspells.proper

end Json

namespace Config

open Value

theorem isLeaf_plain (raw : String) (cs : List Char) : (plain raw cs).IsLeaf := by
  unfold plain
  simp only
  split
  · exact fun _ => nofun
  · split
    · exact fun _ => nofun
    · unfold number?
      split
      · exact fun _ => nofun
      · rcases Number.readDouble cs with _ | x <;> exact fun _ => nofun

/-- **The value of a variable is proper.** -/
theorem proper_of_interpret {room : Nat} {raw : String} {v : Value}
    (h : interpret room raw = .ok v) : v.Proper := by
  have hstructured {cs : List Char} (h : structured room raw cs = .ok v) : v.Proper := by
    unfold structured at h
    split at h
    · next hparse =>
      cases h
      exact Json.proper_of_parse hparse
    · cases h
      exact IsLeaf.proper fun _ => nofun
    · cases h
    · cases h
  unfold interpret at h
  simp only at h
  split at h
  · exact hstructured h
  · exact hstructured h
  · rw [← Except.ok.inj h]
    exact (isLeaf_plain raw _).proper

end Config

/-! ### Configuration files -/

namespace Toml

open Value

theorem isLeaf_of_scalar? {word : List Char} {v : Value} (h : scalar? word = some v) :
    v.IsLeaf := by
  unfold scalar? at h
  split at h
  · cases h
    exact fun _ => nofun
  · split at h
    · cases h
      exact fun _ => nofun
    · simp only [Option.or_eq_some_iff, Option.map_eq_some_iff] at h
      rcases h with ⟨n, -, rfl⟩ | ⟨-, ⟨x, -, rfl⟩ | ⟨-, m, -, rfl⟩⟩ <;> exact fun _ => nofun

namespace Branches

/-- Branches whose table is proper. -/
def Proper (b : Branches) : Prop := (Value.table (toTable b)).Proper

/-- A branch, if there is one, is proper. -/
def ProperBranch (t : Option Tree) : Prop := ∀ u, t = some u → u.toValue.Proper

theorem get?_toTable (k : String) : ∀ b : Branches,
    Assoc.get? (toTable b) k = (Assoc.get? b k).map Tree.toValue
  | [] => by
    rw [toTable]
    rfl
  | (j, t) :: b => by
    rw [toTable, Assoc.get?_cons, Assoc.get?_cons, get?_toTable k b]
    split <;> rfl

theorem toTable_put (k : String) (t : Tree) : ∀ b : Branches,
    toTable (Assoc.put b k t) = Assoc.put (toTable b) k t.toValue
  | [] => by
    rw [Assoc.put, toTable, toTable]
    rfl
  | (j, u) :: b => by
    rw [Assoc.put, toTable, Assoc.put]
    split
    · rw [toTable]
    · rw [toTable, toTable_put k t b]

theorem proper_empty : Proper [] := by
  unfold Proper
  rw [toTable]
  exact proper_nil

theorem Proper.branch {b : Branches} (h : Proper b) (k : String) :
    ProperBranch (Assoc.get? b k) := by
  intro u hu
  refine (proper_table_iff.mp h).2 k u.toValue ?_
  rw [get?_toTable, hu]
  rfl

theorem proper_alter? {b b' : Branches} {k : String} {f : Option Tree → Option Tree}
    (hb : Proper b) (hf : ∀ t, f (Assoc.get? b k) = some t → t.toValue.Proper)
    (h : alter? b k f = some b') : Proper b' := by
  obtain ⟨t, ht, rfl⟩ := Option.map_eq_some_iff.mp h
  unfold Proper
  rw [toTable_put]
  exact proper_put hb k (hf t ht)

theorem proper_descend? {t : Option Tree} {t' : Tree} {f : Branches → Option Branches}
    (ht : ProperBranch t) (hf : ∀ b b', Proper b → f b = some b' → Proper b')
    (h : descend? t f = some t') : t'.toValue.Proper := by
  unfold descend? at h
  split at h
  · obtain ⟨b, hb, rfl⟩ := Option.map_eq_some_iff.mp h
    rw [Tree.toValue]
    exact hf [] b proper_empty hb
  · next origin entries =>
    obtain ⟨b, hb, rfl⟩ := Option.map_eq_some_iff.mp h
    have hentries := ht _ rfl
    rw [Tree.toValue] at hentries ⊢
    exact hf entries b hentries hb
  · -- an array of tables is a leaf, whatever its items are
    split at h
    · obtain ⟨b, -, rfl⟩ := Option.map_eq_some_iff.mp h
      rw [Tree.toValue]
      exact (isLeaf_array _).proper
    · cases h
  · cases h

theorem proper_reach? {f : Branches → Option Branches}
    (hf : ∀ b b', Proper b → f b = some b' → Proper b') : ∀ {path : List String} {b b' : Branches},
    Proper b → reach? b f path = some b' → Proper b'
  | [], b, b', hb, h => hf b b' hb h
  | k :: path, b, b', hb, h => by
    refine proper_alter? hb (fun t ht => ?_) h
    exact proper_descend? (hb.branch k) (fun c c' hc hc' => proper_reach? hf hc hc') ht

theorem proper_atPath? {f : Option Tree → Option Tree}
    (hf : ∀ t t', ProperBranch t → f t = some t' → t'.toValue.Proper) :
    ∀ {path : List String} {b b' : Branches}, Proper b → atPath? b f path = some b' → Proper b'
  | [], b, b', _, h => by cases h
  | [k], b, b', hb, h => proper_alter? hb (fun t ht => hf _ t (hb.branch k) ht) h
  | k :: j :: path, b, b', hb, h => by
    refine proper_alter? hb (fun t ht => ?_) h
    exact proper_descend? (hb.branch k) (fun c c' hc hc' => proper_atPath? hf hc hc') ht

theorem proper_open? {b b' : Branches} {path : List String} (hb : Proper b)
    (h : open? b path = some b') : Proper b' := by
  refine proper_atPath? (fun t t' ht ht' => ?_) hb h
  unfold opened? at ht'
  split at ht'
  · cases ht'
    rw [Tree.toValue]
    exact proper_empty
  · cases ht'
    have hentries := ht _ rfl
    rw [Tree.toValue] at hentries ⊢
    exact hentries
  · cases ht'

theorem proper_append? {b b' : Branches} {path : List String} (hb : Proper b)
    (h : append? b path = some b') : Proper b' := by
  refine proper_atPath? (fun t t' _ ht' => ?_) hb h
  unfold appended? at ht'
  split at ht'
  · cases ht'
    rw [Tree.toValue]
    exact (isLeaf_array _).proper
  · cases ht'
    rw [Tree.toValue]
    exact (isLeaf_array _).proper
  · cases ht'

theorem proper_put? {v : Value} (hv : v.Proper) : ∀ {path : List String} {b b' : Branches},
    Proper b → put? b v path = some b' → Proper b'
  | [], b, b', _, h => by cases h
  | [k], b, b', hb, h => by
    refine proper_alter? hb (fun t ht => ?_) h
    split at ht
    · cases ht
      rw [Tree.toValue]
      exact hv
    · cases ht
  | k :: j :: path, b, b', hb, h => by
    refine proper_alter? hb (fun t ht => ?_) h
    split at ht
    · obtain ⟨c, hc, rfl⟩ := Option.map_eq_some_iff.mp ht
      rw [Tree.toValue]
      exact proper_put? hv proper_empty hc
    · cases ht
    · next origin entries _ hbranch =>
      obtain ⟨c, hc, rfl⟩ := Option.map_eq_some_iff.mp ht
      have hentries := hb.branch k _ hbranch
      rw [Tree.toValue] at hentries ⊢
      exact proper_put? hv hentries hc
    · cases ht

end Branches

open Branches

mutual

/-- **A value that is read is proper.** -/
theorem proper_of_value : ∀ (fuel : Nat) {cs rest : List Char} {v : Value},
    value fuel cs = .ok (v, rest) → v.Proper
  | 0, _, _, _, h => by
    rw [value] at h
    cases h
  | fuel + 1, cs, rest, v, h => by
    unfold value at h
    split at h
    · obtain ⟨⟨vs, r⟩, -, hr⟩ := map_eq_ok_iff.mp h
      cases hr
      exact (isLeaf_array vs).proper
    · split at h
      · cases h
        exact proper_nil
      · obtain ⟨⟨b, r⟩, hb, hr⟩ := map_eq_ok_iff.mp h
        cases hr
        exact proper_of_fields fuel proper_empty hb
    · split at h
      · obtain ⟨⟨s, r⟩, -, hr⟩ := map_eq_ok_iff.mp h
        cases hr
        exact IsLeaf.proper fun _ => nofun
      · simp only at h
        split at h
        · next hscalar =>
          cases h
          exact (isLeaf_of_scalar? hscalar).proper
        · cases h

/-- The fields of a table inside a line are put into branches that stay proper. -/
theorem proper_of_fields : ∀ (fuel : Nat) {b b' : Branches} {cs rest : List Char},
    b.Proper → fields fuel b cs = .ok (b', rest) → b'.Proper
  | 0, _, _, _, _, _, h => by
    rw [fields] at h
    cases h
  | fuel + 1, b, b', cs, rest, hb, h => by
    rw [fields] at h
    obtain ⟨⟨⟨k, v⟩, r⟩, hkv, h⟩ := bind_eq_ok_iff.mp h
    simp only at h
    split at h
    · cases h
    · next c hc =>
      have hproper := proper_put? (proper_of_setting fuel hkv) hb hc
      split at h
      · exact proper_of_fields fuel hproper h
      · cases h
        exact hproper
      · cases h

/-- The value of a setting that is read is proper. -/
theorem proper_of_setting : ∀ (fuel : Nat) {cs rest : List Char} {k : List String} {v : Value},
    setting fuel cs = .ok ((k, v), rest) → v.Proper
  | 0, _, _, _, _, h => by
    rw [setting] at h
    cases h
  | fuel + 1, cs, rest, k, v, h => by
    rw [setting] at h
    obtain ⟨⟨ks, r⟩, -, h⟩ := bind_eq_ok_iff.mp h
    simp only at h
    split at h
    · obtain ⟨⟨u, r'⟩, hu, hr⟩ := map_eq_ok_iff.mp h
      cases hr
      exact proper_of_value fuel hu
    · cases h

end

theorem proper_of_statement {file file' : File} {cs rest : List Char}
    (hfile : file.tree.Proper) (h : statement file cs = .ok (file', rest)) :
    file'.tree.Proper := by
  unfold statement at h
  split at h
  · obtain ⟨⟨⟨isArray, k⟩, r⟩, -, h⟩ := bind_eq_ok_iff.mp h
    simp only at h
    split at h
    · next tree htree =>
      cases h
      split at htree
      · exact proper_append? hfile htree
      · exact proper_open? hfile htree
    · cases h
  · obtain ⟨⟨⟨k, v⟩, r⟩, hkv, h⟩ := bind_eq_ok_iff.mp h
    simp only at h
    split at h
    · next tree htree =>
      cases h
      have hv := proper_of_setting _ hkv
      exact proper_reach? (fun b b' hb hb' => proper_put? hv hb hb') hfile htree
    · cases h

theorem proper_of_statements : ∀ {fuel : Nat} {file file' : File} {cs : List Char},
    file.tree.Proper → statements fuel file cs = .ok file' → file'.tree.Proper
  | 0, file, file', cs, hfile, h => by
    rw [statements] at h
    split at h
    · cases h
      exact hfile
    · cases h
  | fuel + 1, file, file', cs, hfile, h => by
    rw [statements] at h
    split at h
    · cases h
      exact hfile
    · obtain ⟨⟨next, r⟩, hnext, h⟩ := bind_eq_ok_iff.mp h
      obtain ⟨⟨⟨⟩, after⟩, -, h⟩ := bind_eq_ok_iff.mp h
      exact proper_of_statements (proper_of_statement hfile hnext) h

/-- **What is read from a configuration file is proper.** -/
theorem proper_of_parse {s : String} {t : Table} (h : parse s = .ok t) :
    (Value.table t).Proper := by
  unfold parse at h
  simp only at h
  split at h
  · next file hfile =>
    cases h
    exact proper_of_statements proper_empty hfile
  · cases h

end Toml

end CrossRef

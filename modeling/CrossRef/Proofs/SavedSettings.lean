import CrossRef.Proofs.EffectiveSettings
import CrossRef.Proofs.EnvironmentValues
import CrossRef.Proofs.IndexEntries
import CrossRef.Proofs.TableMerge
import CrossRef.Proofs.ViewAgreement
import Mathlib.Data.List.Forall2

/-! # Settings that are saved and loaded again

The settings that hold can be shown, and what is shown can be saved as a configuration file. Loading
it gives the same settings again, since neither the defaults nor the variables have anything to add
to settings that they have been laid over and under before.

* `Settled`: the defaults add nothing to a configuration. The variables keep it so.
* `InPlace`: a configuration with the keys of another one. Variables whose settings are there
  already change only values.
* `overridden_again`: the variables of an environment, applied a second time.
* `Value.Same`: two values that differ only in the order of keys, as a file may.
* `saved_settings_hold`: the settings that hold are a fixpoint of loading, and so is what is saved
  of them. -/

namespace CrossRef

namespace Config

open Value

variable {room : Nat}

/-! ### The defaults have nothing to add -/

/-- **A configuration to which the defaults add nothing.** -/
structure Settled (config : Table) : Prop where
  proper : (Value.table config).Proper
  absorbs : Table.merge defaults config = config

/-- The defaults are sections, and in a section each key stands once and no value is a table. -/
theorem sections_of_defaults : ∀ e ∈ defaults, ∃ entries, e.2 = .table entries ∧
    (Assoc.keys entries).Nodup ∧ ∀ f ∈ entries, f.2.IsLeaf := by
  simp [defaults, IsLeaf, Assoc.keys, or_imp, forall_and]

theorem isLeaf_of_defaults {s k : String} {entries : Table} {v : Value}
    (hs : Assoc.get? defaults s = some (.table entries)) (hk : Assoc.get? entries k = some v) :
    v.IsLeaf := by
  obtain ⟨entries', hentries, -, hleaves⟩ := sections_of_defaults _ (Assoc.mem_of_get? hs)
  obtain rfl := Value.table.inj hentries
  exact hleaves _ (Assoc.mem_of_get? hk)

theorem proper_defaults : (Value.table defaults).Proper := by
  refine proper_of_entries (by decide) fun e he => ?_
  obtain ⟨entries, hentries, hkeys, hleaves⟩ := sections_of_defaults e he
  rw [hentries]
  exact proper_of_leaves hkeys hleaves

theorem settled_merge {user : Table} (h : (Value.table user).Proper) :
    Settled (Table.merge defaults user) where
  proper := Table.proper_merge proper_defaults h
  absorbs := Table.merge_merge_left proper_defaults h

/-- What a setting can be put into, and what becomes of it. -/
theorem assign_eq_ok_iff {config config' : Table} {s k : String} {v : Value} :
    assign config s k v = .ok config' ↔
      (Assoc.get? config s = none ∧ config' = Assoc.put config s (.table [(k, v)])) ∨
      ∃ entries, Assoc.get? config s = some (.table entries) ∧
        config' = Assoc.put config s (.table (Assoc.put entries k v)) := by
  unfold assign
  rcases Assoc.get? config s with _ | old
  · simp [eq_comm]
  · cases old <;> simp [eq_comm]

theorem Settled.assign {config config' : Table} {s k : String} {v : Value} (h : Settled config)
    (hv : v.Proper) (ha : assign config s k v = .ok config') : Settled config' := by
  obtain ⟨hkeys, hinner⟩ := proper_table_iff.mp h.proper
  obtain ⟨hdefaults, hvalues⟩ := (Table.merge_eq_self_iff hkeys).mp h.absorbs
  rcases assign_eq_ok_iff.mp ha with ⟨hnone, rfl⟩ | ⟨entries, hentries, rfl⟩
  · -- the section is new, so the defaults do not have it
    have hproper : (Value.table [(k, v)]).Proper := proper_put proper_nil k hv
    have hnew : Assoc.get? defaults s = none := Assoc.get?_eq_none_iff.mpr fun hs =>
      Assoc.get?_eq_none_iff.mp hnone (hdefaults.subset hs)
    refine ⟨proper_put h.proper s hproper, Table.merge_put_eq_self hkeys h.absorbs ?_⟩
    rw [hnew]
    exact Table.over_of_no_table (by simp) _
  · have hproper := hinner s _ hentries
    refine ⟨proper_put h.proper s (proper_put hproper k hv),
      Table.merge_put_eq_self hkeys h.absorbs ?_⟩
    have hold := hvalues s _ hentries
    rcases Table.over_cases (Assoc.get? defaults s) (.table (Assoc.put entries k v)) with
      ⟨hnew, -⟩ | ⟨d, -, hd, -⟩
    · exact hnew
    · rw [hd, Table.over_table] at hold
      rw [hd, Table.over_table]
      refine congrArg Value.table (Table.merge_put_eq_self (proper_table_iff.mp hproper).1
        (Value.table.inj hold) ?_)
      -- where the defaults have the key, they have no table under it
      exact Table.over_of_no_table (fun t ht => isLeaf_of_defaults hd ht t rfl) v

theorem Overrides.settled {base config : Table} {x : String × String}
    (hx : Overrides room base x config) (h : Settled base) : Settled config := by
  cases hx with
  | idle _ hconfig => exact hconfig ▸ h
  | sets s k v _ hv ha => exact h.assign (proper_of_interpret hv) ha

/-- **The variables of an environment,** one after the other. -/
theorem overridden_cons_eq_ok_iff {base config : Table} {x : String × String}
    {rest : List (String × String)} : (overridden room base (x :: rest)).outcome = .ok config ↔
      ∃ mid, Overrides room base x mid ∧ (overridden room mid rest).outcome = .ok config := by
  simp only [overridden, Traced.outcome_bind, bind_eq_ok_iff, override_eq_ok_iff]

theorem Settled.overridden : ∀ {environment : List (String × String)} {base config : Table},
    Settled base → (overridden room base environment).outcome = .ok config → Settled config
  | [], base, config, hbase, h => Except.ok.inj h ▸ hbase
  | x :: rest, base, config, hbase, h => by
    obtain ⟨mid, hmid, h⟩ := overridden_cons_eq_ok_iff.mp h
    exact (hmid.settled hbase).overridden h

/-! ### The variables a second time -/

/-- The keys of a section. -/
def sectionKeys (config : Table) (s : String) : Option (List String) :=
  match Assoc.get? config s with
  | some (.table entries) => some (Assoc.keys entries)
  | _ => none

/-- **The configuration has the sections and the keys** of another one, in the same order. -/
structure InPlace (base config : Table) : Prop where
  keys : Assoc.keys config = Assoc.keys base
  sections : ∀ s, sectionKeys config s = sectionKeys base s

theorem sectionKeys_of_get? {config : Table} {s : String} {entries : Table}
    (h : Assoc.get? config s = some (.table entries)) :
    sectionKeys config s = some (Assoc.keys entries) := by
  unfold sectionKeys
  rw [h]

theorem isSome_setting?_iff {config : Table} {s k : String} :
    (setting? config s k).isSome ↔ ∃ keys, sectionKeys config s = some keys ∧ k ∈ keys := by
  unfold setting? sectionKeys
  rcases Assoc.get? config s with _ | v
  · simp
  · cases v <;> simp [Assoc.mem_keys_iff]

theorem InPlace.assign {config config' : Table} {s k : String} {v : Value}
    (hheld : (setting? config s k).isSome) (ha : assign config s k v = .ok config') :
    InPlace config config' := by
  obtain ⟨keys, hkeys, hk⟩ := isSome_setting?_iff.mp hheld
  rcases assign_eq_ok_iff.mp ha with ⟨hnone, -⟩ | ⟨entries, hentries, rfl⟩
  · unfold sectionKeys at hkeys
    rw [hnone] at hkeys
    cases hkeys
  · rw [sectionKeys_of_get? hentries] at hkeys
    obtain rfl := Option.some.inj hkeys
    have hs : s ∈ Assoc.keys config := by
      rw [Assoc.mem_keys_iff, hentries]
      rfl
    refine ⟨Assoc.keys_put_of_mem hs _, fun s' => ?_⟩
    by_cases hs' : s' = s
    · subst hs'
      rw [sectionKeys_of_get? (Assoc.get?_put_self ..), sectionKeys_of_get? hentries,
        Assoc.keys_put_of_mem hk]
    · unfold sectionKeys
      rw [Assoc.get?_put_of_ne hs']

/-- **Variables whose settings are there** change only values. -/
theorem InPlace.overridden : ∀ {environment : List (String × String)} {base config : Table},
    (∀ x ∈ environment, ∀ s k, Names x.1 s k → (setting? base s k).isSome) →
    (overridden room base environment).outcome = .ok config → InPlace base config
  | [], base, config, _, h => by
    obtain rfl := Except.ok.inj h
    exact ⟨rfl, fun _ => rfl⟩
  | x :: rest, base, config, hheld, h => by
    rw [List.forall_mem_cons] at hheld
    obtain ⟨mid, hmid, h⟩ := overridden_cons_eq_ok_iff.mp h
    have hstep : InPlace base mid := by
      cases hmid with
      | idle _ hmid => exact hmid ▸ ⟨rfl, fun _ => rfl⟩
      | sets s k v hx _ ha => exact .assign (hheld.1 s k hx) ha
    have hrest : InPlace mid config := by
      refine .overridden (fun y hy s k hname => ?_) h
      rw [isSome_setting?_iff, hstep.sections, ← isSome_setting?_iff]
      exact hheld.2 y hy s k hname
    exact ⟨hrest.keys.trans hstep.keys, fun s => (hrest.sections s).trans (hstep.sections s)⟩

theorem readable_of_overridden : ∀ {environment : List (String × String)} {base config : Table},
    (overridden room base environment).outcome = .ok config →
    ∀ x ∈ environment, ∀ s k, Names x.1 s k → ∃ v, interpret room x.2 = .ok v
  | [], _, _, _, x, hx => by cases hx
  | y :: rest, base, config, h, x, hx => by
    intro s k hname
    obtain ⟨mid, hmid, h⟩ := overridden_cons_eq_ok_iff.mp h
    rcases List.mem_cons.mp hx with rfl | hx
    · cases hmid with
      | idle hnot _ => exact absurd hname (hnot s k)
      | sets _ _ v _ hv _ => exact ⟨v, hv⟩
    · exact readable_of_overridden h x hx s k hname

theorem exists_lastNaming {s k : String} : ∀ {environment : List (String × String)},
    (∃ x ∈ environment, Names x.1 s k) → ∃ raw, LastNaming environment s k raw
  | [], ⟨x, hx, _⟩ => by cases hx
  | y :: rest, ⟨x, hx, hname⟩ => by
    by_cases hlater : ∃ z ∈ rest, Names z.1 s k
    · obtain ⟨raw, before, name, after, rfl, hlast⟩ := exists_lastNaming hlater
      exact ⟨raw, y :: before, name, after, rfl, hlast⟩
    · have hafter : ∀ z ∈ rest, ¬ Names z.1 s k := fun z hz hz' => hlater ⟨z, hz, hz'⟩
      rcases List.mem_cons.mp hx with rfl | hx
      · exact ⟨x.2, [], x.1, rest, rfl, hname, hafter⟩
      · exact absurd hname (hafter x hx)

/-- **Two configurations under one environment** are the same if the one is the other with the
variables applied in place. -/
theorem Layered.eq_of_inPlace {environment : List (String × String)} {base config config' : Table}
    (hproper : (Value.table config).Proper) (h : Layered room environment base config)
    (h' : Layered room environment config config') (hin : InPlace config config') :
    config' = config := by
  obtain ⟨hkeys, hinner⟩ := proper_table_iff.mp hproper
  refine Assoc.ext_keys hin.keys (hin.keys ▸ hkeys) fun s => ?_
  by_cases hs : ∃ x ∈ environment, ∃ k, Names x.1 s k
  · obtain ⟨entries, hentries⟩ := h.touched s hs
    obtain ⟨entries', hentries'⟩ := h'.touched s hs
    have hsection := hin.sections s
    rw [sectionKeys_of_get? hentries, sectionKeys_of_get? hentries', Option.some.injEq] at hsection
    have hnodup := (proper_table_iff.mp (hinner s _ hentries)).1
    have hsame : entries' = entries := by
      refine Assoc.ext_keys hsection (hsection ▸ hnodup) fun k => ?_
      rw [← setting?_of_get? hentries, ← setting?_of_get? hentries']
      by_cases hk : ∃ x ∈ environment, Names x.1 s k
      · -- both have the value of the last variable
        obtain ⟨raw, hlast⟩ := exists_lastNaming hk
        obtain ⟨v, hv, hset⟩ := h.named s k raw hlast
        obtain ⟨v', hv', hset'⟩ := h'.named s k raw hlast
        rw [hset, hset', Except.ok.inj (hv'.symm.trans hv)]
      · exact h'.unnamed s k fun x hx hname => hk ⟨x, hx, hname⟩
    rw [hentries, hentries', hsame]
  · exact h'.untouched s fun x hx k hname => hs ⟨x, hx, k, hname⟩

/-- **The variables of an environment have no effect a second time.** -/
theorem overridden_again {environment : List (String × String)} {base config : Table}
    (hproper : (Value.table config).Proper)
    (h : (overridden room base environment).outcome = .ok config) :
    (overridden room config environment).outcome = .ok config := by
  have hlayered := layered_of_overridden h
  have hheld : ∀ x ∈ environment, ∀ s k, Names x.1 s k → (setting? config s k).isSome := by
    intro x hx s k hname
    obtain ⟨raw, hlast⟩ := exists_lastNaming ⟨x, hx, hname⟩
    obtain ⟨v, -, hset⟩ := hlayered.named s k raw hlast
    rw [hset]
    rfl
  rcases overridden_fails_iff config (readable_of_overridden h) with
    ⟨⟨x, hx, s, k, hname, v, hv, hnot⟩, -⟩ | ⟨-, config', h'⟩
  · -- a section that a variable names is a table by now
    obtain ⟨entries, hentries⟩ := hlayered.touched s ⟨x, hx, k, hname⟩
    exact absurd (Option.some.inj (hv.symm.trans hentries)) (hnot entries)
  · rw [h', hlayered.eq_of_inPlace hproper (layered_of_overridden h') (.overridden hheld h')]

theorem overridden_of_no_names : ∀ {environment : List (String × String)} (base : Table),
    (∀ x ∈ environment, ∀ s k, ¬ Names x.1 s k) →
    (overridden room base environment).outcome = .ok base
  | [], _, _ => rfl
  | x :: rest, base, hnone => by
    rw [List.forall_mem_cons] at hnone
    exact overridden_cons_eq_ok_iff.mpr
      ⟨base, .idle hnone.1 rfl, overridden_of_no_names base hnone.2⟩

end Config

/-! ### The order of keys -/

/-- **Two values that differ only in the order of keys,** at any depth. -/
inductive Value.Same : Value → Value → Prop
  | refl (v : Value) : Same v v
  | array {items items' : List Value} (h : List.Forall₂ Same items items') :
      Same (.array items) (.array items')
  | table {t t' : Table} (h : ∀ k, Option.Rel Same (Assoc.get? t k) (Assoc.get? t' k)) :
      Same (.table t) (.table t')

namespace Value

theorem rel_same_refl (v : Option Value) : Option.Rel Same v v := by
  cases v with
  | none => exact .none
  | some v => exact .some (.refl v)

/-- The entries of two tables that are the same. -/
theorem Same.get? {t t' : Table} (h : (Value.table t).Same (.table t')) (k : String) :
    Option.Rel Same (Assoc.get? t k) (Assoc.get? t' k) := by
  cases h with
  | refl => exact rel_same_refl _
  | table h => exact h k

/-- What is the same as a table is a table. -/
theorem Same.eq_table {v : Value} {t' : Table} (h : v.Same (.table t')) : ∃ t, v = .table t := by
  cases h with
  | refl => exact ⟨t', rfl⟩
  | @table t => exact ⟨t, rfl⟩

theorem same_put {t t' : Table} (h : (Value.table t).Same (.table t')) (k : String) {v v' : Value}
    (hv : v.Same v') : (Value.table (Assoc.put t k v)).Same (.table (Assoc.put t' k v')) := by
  refine .table fun j => ?_
  by_cases hj : j = k
  · subst hj
    rw [Assoc.get?_put_self, Assoc.get?_put_self]
    exact .some hv
  · rw [Assoc.get?_put_of_ne hj, Assoc.get?_put_of_ne hj]
    exact h.get? j

end Value

open Value

/-- **Tables that are the same,** laid over one table. -/
theorem Table.same_merge {d u u' : Table} (hu : (Value.table u).Proper)
    (hu' : (Value.table u').Proper) (h : (Value.table u).Same (.table u')) :
    (Value.table (merge d u)).Same (.table (merge d u')) := by
  induction d using depth_induction generalizing u u' with
  | h d ih =>
    obtain ⟨hkeys, hinner⟩ := proper_table_iff.mp hu
    obtain ⟨hkeys', hinner'⟩ := proper_table_iff.mp hu'
    refine .table fun k => ?_
    rw [get?_merge k d hkeys, get?_merge k d hkeys']
    have hk := h.get? k
    rcases hx : Assoc.get? u k with _ | x <;> rcases hx' : Assoc.get? u' k with _ | x' <;>
      rw [hx, hx'] at hk <;> cases hk
    · exact rel_same_refl _
    · next hsame =>
      refine .some ?_
      cases hsame with
      | refl => exact .refl _
      | array hitems =>
        rw [over_of_isLeaf (isLeaf_array _), over_of_isLeaf (isLeaf_array _)]
        exact .array hitems
      | table hentries =>
        by_cases hold : ∃ t, Assoc.get? d k = some (.table t)
        · obtain ⟨t, ht⟩ := hold
          rw [ht, over_table, over_table]
          exact ih k t ht (hinner k _ hx) (hinner' k _ hx') (.table hentries)
        · rw [over_of_no_table fun t ht => hold ⟨t, ht⟩, over_of_no_table fun t ht => hold ⟨t, ht⟩]
          exact .table hentries

namespace Config

variable {room : Nat}

theorem same_assign {config config' after' : Table} {s k : String} {v : Value}
    (h : (Value.table config).Same (.table config')) (ha : assign config' s k v = .ok after') :
    ∃ after, assign config s k v = .ok after ∧ (Value.table after).Same (.table after') := by
  have hs := h.get? s
  rcases assign_eq_ok_iff.mp ha with ⟨hnone, rfl⟩ | ⟨entries', hentries', rfl⟩
  · rw [hnone] at hs
    rcases hold : Assoc.get? config s with _ | old <;> rw [hold] at hs
    · exact ⟨_, assign_eq_ok_iff.mpr (Or.inl ⟨hold, rfl⟩), same_put h s (.refl _)⟩
    · cases hs
  · rw [hentries'] at hs
    rcases hold : Assoc.get? config s with _ | old <;> rw [hold] at hs
    · cases hs
    · cases hs with
      | some hsame =>
        obtain ⟨entries, rfl⟩ := hsame.eq_table
        exact ⟨_, assign_eq_ok_iff.mpr (Or.inr ⟨entries, hold, rfl⟩),
          same_put h s (same_put hsame k (.refl v))⟩

/-- **Configurations that are the same,** under one environment. -/
theorem same_overridden : ∀ {environment : List (String × String)} {base base' config' : Table},
    (Value.table base).Same (.table base') →
    (overridden room base' environment).outcome = .ok config' →
    ∃ config, (overridden room base environment).outcome = .ok config ∧
      (Value.table config).Same (.table config')
  | [], base, base', config', hbase, h => by
    obtain rfl := Except.ok.inj h
    exact ⟨base, rfl, hbase⟩
  | x :: rest, base, base', config', hbase, h => by
    obtain ⟨mid', hmid', h⟩ := overridden_cons_eq_ok_iff.mp h
    obtain ⟨mid, hmid, hsame⟩ : ∃ mid, Overrides room base x mid ∧
        (Value.table mid).Same (.table mid') := by
      cases hmid' with
      | idle hx hmid => exact ⟨base, .idle hx rfl, hmid ▸ hbase⟩
      | sets s k v hx hv ha =>
        obtain ⟨mid, ha, hsame⟩ := same_assign hbase ha
        exact ⟨mid, .sets s k v hx hv ha, hsame⟩
    obtain ⟨config, hconfig, hsame⟩ := same_overridden hsame h
    exact ⟨config, overridden_cons_eq_ok_iff.mpr ⟨mid, hmid, hconfig⟩, hsame⟩

/-! ### Saved settings -/

/-- **The settings that hold are a fixpoint of loading.** -/
theorem loaded_again {user config : Table} {environment : List (String × String)}
    (huser : (Value.table user).Proper)
    (h : (overridden room (Table.merge defaults user) environment).outcome = .ok config) :
    Settled config ∧
      (overridden room (Table.merge defaults config) environment).outcome = .ok config := by
  have hsettled := (settled_merge huser).overridden h
  rw [hsettled.absorbs]
  exact ⟨hsettled, overridden_again hsettled.proper h⟩

/-- The settings that hold are those of some proper table of a user. -/
theorem exists_user_of_effective {w : World} {given : Option Path} {start : Path} {quiet : Bool}
    {config : Table} (h : (effective w given start quiet).outcome = .ok config) :
    ∃ user, (Value.table user).Proper ∧
      (overridden w.room (Table.merge defaults user) w.environment).outcome = .ok config := by
  rw [effective_outcome, bind_eq_ok_iff] at h
  obtain ⟨file, -, h⟩ := h
  obtain ⟨base, hbase, h⟩ := bind_eq_ok_iff.mp h
  rw [loaded_eq_ok_iff] at hbase
  rcases file with _ | path
  · obtain rfl : base = defaults := hbase
    refine ⟨[], proper_nil, ?_⟩
    rw [Table.merge]
    exact h
  · obtain ⟨text, user, -, hparse, rfl⟩ := hbase
    exact ⟨user, Toml.proper_of_parse hparse, h⟩

/-- **The settings that are shown** are those that hold, and all that is written is their text. -/
theorem shown_settings {h : CommandLine.Host} {g : CommandLine.Globals}
    (hok : (CommandLine.config h g (some .settings)).outcome = .ok 0) :
    ∃ config,
      (CommandLine.settingsFrom h.world g (.ofLocation h.world.cwd) true).outcome = .ok config ∧
      CommandLine.written (CommandLine.config h g (some .settings)).trace =
        Toml.print config := by
  unfold CommandLine.config at hok ⊢
  simp only [Traced.outcome_bind, bind_eq_ok_iff] at hok
  obtain ⟨config, hconfig, hok⟩ := hok
  refine ⟨config, hconfig, ?_⟩
  split at hok
  · next hwritable =>
    rw [CommandLine.trace_bind_of_ok hconfig, if_pos hwritable, CommandLine.written_append,
      (CommandLine.silent_heard g _).written, String.empty_append]
    unfold CommandLine.write at hok ⊢
    split at hok
    · exact CommandLine.written_out _
    · cases hok
  · cases hok

/-- **A file in which the settings are saved:** it holds their text, and reading the text gives them
back, up to the order of keys. -/
structure SavedIn (w : World) (path : Path) (config : Table) : Prop where
  holds : readFile w path = .ok (Toml.print config)
  reads : ∃ saved, Toml.parse (Toml.print config) = .ok saved ∧
    (Value.table saved).Same (.table config)

/-- With no less room, the variables of an environment that could be read are read the same way. -/
theorem overridden_of_le {limit : Nat} (hle : limit ≤ room) :
    ∀ {environment : List (String × String)} {base config : Table},
      (overridden limit base environment).outcome = .ok config →
      (overridden room base environment).outcome = .ok config
  | [], _, _, h => h
  | x :: rest, base, config, h => by
    obtain ⟨mid, hmid, h⟩ := overridden_cons_eq_ok_iff.mp h
    refine overridden_cons_eq_ok_iff.mpr ⟨mid, ?_, overridden_of_le hle h⟩
    cases hmid with
    | idle hnot hmid => exact .idle hnot hmid
    | sets s k v hx hv ha => exact .sets s k v hx (interpret_of_le hle hv) ha

/-- **Saved settings hold.** For any table of a user and any environment, the defaults add nothing
to the settings that hold, and loading these under the same environment gives them again. So the
settings that are shown in one world hold in every world in which the file that counts is one that
they are saved in, under the same variables, with no less room for reading these, or under no
variables. -/
theorem saved_settings_hold :
    (∀ (room : Nat) (user config : Table) (environment : List (String × String)),
      (Value.table user).Proper →
      (overridden room (Table.merge defaults user) environment).outcome = .ok config →
      Table.merge defaults config = config ∧
        (overridden room (Table.merge defaults config) environment).outcome = .ok config) ∧
    ∀ (h : CommandLine.Host) (g : CommandLine.Globals),
      (CommandLine.config h g (some .settings)).outcome = .ok 0 →
      ∃ config,
        (CommandLine.settingsFrom h.world g (.ofLocation h.world.cwd) true).outcome = .ok config ∧
        CommandLine.written (CommandLine.config h g (some .settings)).trace = Toml.print config ∧
        ∀ (w' : World) (given : Option Path) (start path : Path) (quiet : Bool),
          Counts w' given start (some path) → SavedIn w' path config →
          (w'.environment = h.world.environment ∧ h.world.room ≤ w'.room ∨
            ∀ x ∈ w'.environment, ∀ s k, ¬ Names x.1 s k) →
          ∃ config', (effective w' given start quiet).outcome = .ok config' ∧
            (Value.table config').Same (.table config) := by
  refine ⟨fun room user config environment huser h => ?_, fun h g hok => ?_⟩
  · obtain ⟨hsettled, hagain⟩ := loaded_again huser h
    exact ⟨hsettled.absorbs, hagain⟩
  · obtain ⟨config, hconfig, hwritten⟩ := shown_settings hok
    refine ⟨config, hconfig, hwritten, fun w' given start path quiet hcounts hsaved henv => ?_⟩
    obtain ⟨user, huser, hoverridden⟩ := exists_user_of_effective hconfig
    obtain ⟨hsettled, hagain⟩ := loaded_again huser hoverridden
    obtain ⟨saved, hparse, hsame⟩ := hsaved.reads
    have hbase : (Value.table (Table.merge defaults saved)).Same (.table config) := by
      have hmerged := Table.same_merge (d := defaults) (Toml.proper_of_parse hparse)
        hsettled.proper hsame
      rwa [hsettled.absorbs] at hmerged
    have hload : (overridden w'.room config w'.environment).outcome = .ok config := by
      rcases henv with ⟨henv, hroom⟩ | hnone
      · rw [henv]
        exact overridden_of_le hroom (overridden_again hsettled.proper hoverridden)
      · exact overridden_of_no_names config hnone
    rw [effective_outcome_of_isBase hcounts ⟨_, saved, hsaved.holds, hparse, rfl⟩]
    exact same_overridden hbase hload

/-- A world whose user has numbers in place of the sections of the defaults, with a variable that
adds a section. -/
def shownWorld : World :=
  Snapshot.toWorld
    { cwd := ["w"]
      nodes := [(["w"], .directory),
        (["w", fileName], .file "parser = 1\nindex = 2\nview = 3\n".toUTF8.toList)]
      environment := [("ESISREF_A_B", "4")] }

/-- The world in which the settings of `shownWorld` are saved, without the variable. -/
def savedWorld : World :=
  Snapshot.toWorld
    { cwd := ["w"]
      nodes := [(["w"], .directory),
        (["w", fileName],
          .file "parser = 1\nindex = 2\nview = 3\n\n[a]\nb = 4\n".toUTF8.toList)] }

/-- The settings of `shownWorld`. -/
def shownTable : Table :=
  [("parser", .int 1), ("index", .int 2), ("view", .int 3), ("a", .table [("b", .int 4)])]

/-- The table is `shownTable`, as a test. -/
def isShownTable : Table → Bool
  | [("parser", .int 1), ("index", .int 2), ("view", .int 3), ("a", .table [("b", .int 4)])] => true
  | _ => false

theorem eq_shownTable {ε : Type} {x : Except ε Table}
    (h : x.toOption.map isShownTable = some true) : x = .ok shownTable := by
  obtain ⟨t, ht, h⟩ := Option.map_eq_some_iff.mp h
  rw [toOption_eq_some_iff.mp ht]
  unfold isShownTable at h
  split at h
  · rfl
  · cases h

theorem print_shownTable :
    Toml.print shownTable = "parser = 1\nindex = 2\nview = 3\n\n[a]\nb = 4\n" := by
  open Toml in
  have hprint : print shownTable =
      linesText [keyText "parser" ++ " = " ++ Int.repr 1, keyText "index" ++ " = " ++ Int.repr 2,
        keyText "view" ++ " = " ++ Int.repr 3] ++
      Section.text ⟨true, tableHeader ["a"], [keyText "b" ++ " = " ++ Int.repr 4]⟩ := by
    simp [shownTable, print, arrangedEntries, arranged, settingLines, isSectioned, fieldTexts,
      inlineText, innerSections, tableSections, withSpace]
  rw [hprint]
  decide +kernel

/-- The section of the variable is there without the variable, once the settings are saved. -/
theorem saved_settings_hold_without_variable :
    ∃ config, (effective savedWorld none (.ofString ".") true).outcome = .ok config ∧
      (Value.table config).Same (.table shownTable) := by
  let g : CommandLine.Globals := ⟨none, false, false⟩
  let h := CommandLine.sampleHost shownWorld
  have hshown : (CommandLine.config h g (some .settings)).outcome = .ok 0 := by
    rw [← toOption_eq_some_iff]
    decide +kernel
  have htable : (CommandLine.settingsFrom h.world g (.ofLocation h.world.cwd) true).outcome =
      .ok shownTable := eq_shownTable (by decide +kernel)
  have hparse : Toml.parse (Toml.print shownTable) = .ok shownTable := by
    rw [print_shownTable]
    exact eq_shownTable (by decide +kernel)
  obtain ⟨config, hconfig, -, hload⟩ := saved_settings_hold.2 h g hshown
  obtain rfl : shownTable = config := Except.ok.inj (htable.symm.trans hconfig)
  have hcounts : Counts savedWorld none (.ofString ".") (some (.ofLocation ["w", fileName])) := by
    rw [← chosenFile_eq_ok_iff, ← toOption_eq_some_iff]
    decide +kernel
  have hholds : readFile savedWorld (.ofLocation ["w", fileName]) =
      .ok (Toml.print shownTable) := by
    rw [print_shownTable, ← toOption_eq_some_iff]
    decide +kernel
  refine hload savedWorld none _ _ true hcounts ⟨hholds, _, hparse, .refl _⟩ (Or.inr fun x hx => ?_)
  cases hx

end Config

end CrossRef

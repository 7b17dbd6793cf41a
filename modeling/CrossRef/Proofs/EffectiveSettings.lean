import CrossRef.Config.Files
import CrossRef.Proofs.Locations
import CrossRef.Proofs.Outcome
import CrossRef.Snapshot
import Mathlib.Data.List.Basic
import Mathlib.Logic.Function.Iterate

/-! # The settings that hold

Three layers make up a configuration: the built-in settings, those of one file, and those of the
environment. Here each of the layers is said on its own. The file is the one that is given, else the
nearest one in a directory or above it. A variable *names* a setting by its letters alone, and of
all variables that name one setting the last one counts.

* `names_iff`: which setting a variable names.
* `Nearest`: the configuration file of a directory, by the number of levels it stands above it.
* `Layered`: a configuration under the variables of an environment, setting by setting.
* `Blocked`: a section that no variable can set, since it is there and is no table.
* `effective_layered`: what the settings that hold are, and when there are none. -/

namespace CrossRef.Config

/-! ### Which setting a variable names -/

/-- **The variable names the setting `key` in `section_`:** behind the mark, in lower case, stand
the section, an underscore and the key. -/
def Names (name section_ key : String) : Prop :=
  section_ ≠ "" ∧ key ≠ "" ∧ '_' ∉ section_.toList ∧
    ∃ rest, name.toList = variableMark.toList ++ rest ∧
      (Text.lower (String.ofList rest)).toList = section_.toList ++ '_' :: key.toList

theorem cutAtUnderscore_eq_some_iff {cs left right : List Char} :
    cutAtUnderscore cs = some (left, right) ↔ cs = left ++ '_' :: right ∧ '_' ∉ left := by
  constructor
  · intro h
    have hsplit := List.takeWhile_append_dropWhile (p := (· != '_')) (l := cs)
    have hhead := List.head?_dropWhile_not (· != '_') cs
    unfold cutAtUnderscore at h
    rcases hd : cs.dropWhile (· != '_') with _ | ⟨c, rest⟩ <;> rw [hd] at h hsplit hhead
    · cases h
    · cases h
      have hc : c = '_' := by simpa using hhead
      rw [hc] at hsplit
      refine ⟨hsplit.symm, fun hmem => ?_⟩
      simpa using List.mem_takeWhile_imp hmem
  · rintro ⟨rfl, hleft⟩
    have hall : ∀ c ∈ left, (c != '_') = true := fun c hc => by
      rw [bne_iff_ne]
      rintro rfl
      exact hleft hc
    unfold cutAtUnderscore
    rw [List.dropWhile_append_of_pos hall, List.takeWhile_append_of_pos hall]
    simp

/-- **Which setting a variable names.** -/
theorem names_iff {name section_ key : String} :
    target? name = some (section_, key) ↔ Names name section_ key := by
  unfold target? Names
  constructor
  · intro h
    split at h
    · next hmark =>
      obtain ⟨rest, hrest⟩ := List.isPrefixOf_iff_prefix.mp hmark
      have hdrop : name.toList.drop variableMark.length = rest := by
        rw [← hrest, ← String.length_toList, List.drop_left]
      simp only [hdrop] at h
      split at h
      · next left right hcut =>
        split at h
        · cases h
        · next hempty =>
          cases h
          simp only [Bool.or_eq_true, List.isEmpty_iff, not_or] at hempty
          obtain ⟨hcs, hleft⟩ := cutAtUnderscore_eq_some_iff.mp hcut
          refine ⟨fun hs => hempty.1 (String.ofList_eq_empty_iff.mp hs),
            fun hk => hempty.2 (String.ofList_eq_empty_iff.mp hk), ?_, rest, hrest.symm, ?_⟩
          · rw [String.toList_ofList]
            exact hleft
          · rw [String.toList_ofList, String.toList_ofList]
            exact hcs
      · cases h
    · cases h
  · rintro ⟨hs, hk, hleft, rest, hname, hrest⟩
    have hmark : variableMark.toList.isPrefixOf name.toList = true :=
      List.isPrefixOf_iff_prefix.mpr ⟨rest, hname.symm⟩
    have hdrop : name.toList.drop variableMark.length = rest := by
      rw [hname, ← String.length_toList, List.drop_left]
    have hcut : cutAtUnderscore (Text.lower (String.ofList rest)).toList =
        some (section_.toList, key.toList) := cutAtUnderscore_eq_some_iff.mpr ⟨hrest, hleft⟩
    simp only [hmark, if_true, hdrop, hcut]
    have hempty : ¬ (section_.toList.isEmpty || key.toList.isEmpty) = true := by
      simp only [Bool.or_eq_true, List.isEmpty_iff, String.toList_eq_nil_iff, not_or]
      exact ⟨hs, hk⟩
    rw [if_neg hempty, String.ofList_toList, String.ofList_toList]

theorem target?_eq_none_iff {name : String} :
    target? name = none ↔ ∀ section_ key, ¬ Names name section_ key := by
  simp only [← names_iff, Option.eq_none_iff_forall_ne_some, Prod.forall, ne_eq]

theorem Names.unique {name s k s' k' : String} (h : Names name s k) (h' : Names name s' k') :
    s = s' ∧ k = k' := by
  rw [← names_iff] at h h'
  rw [h] at h'
  exact Prod.mk.inj (Option.some.inj h')

/-! ### One setting changed -/

/-- The value of a setting. -/
def setting? (config : Table) (section_ key : String) : Option Value :=
  match Assoc.get? config section_ with
  | some (.table entries) => Assoc.get? entries key
  | _ => none

/-- **The section cannot be set:** it is there, and it is no table. -/
def Blocked (config : Table) (section_ : String) : Prop :=
  ∃ v, Assoc.get? config section_ = some v ∧ ∀ entries, v ≠ .table entries

/-- The fault of setting an entry of what is no table. -/
def IsKindFault (f : Fault) : Prop := f = .namedIndex ∨ ∃ kind, f = .noAssignment kind

theorem setting?_eq_of_get?_eq {config config' : Table} {s : String}
    (h : Assoc.get? config' s = Assoc.get? config s) (k : String) :
    setting? config' s k = setting? config s k := by
  unfold setting?
  rw [h]

theorem setting?_of_get? {config : Table} {s : String} {entries : Table}
    (h : Assoc.get? config s = some (.table entries)) (k : String) :
    setting? config s k = Assoc.get? entries k := by
  unfold setting?
  rw [h]

/-- **A setting can be changed** unless its section is blocked. The section is a table then, the
setting has its new value, and all other settings and sections stay. -/
theorem assign_cases (config : Table) (s k : String) (v : Value) :
    (Blocked config s ∧ ∃ f, assign config s k v = .error f ∧ IsKindFault f) ∨
    (¬ Blocked config s ∧ ∃ config', assign config s k v = .ok config' ∧
      (∃ entries, Assoc.get? config' s = some (.table entries)) ∧
      setting? config' s k = some v ∧
      (∀ k', k' ≠ k → setting? config' s k' = setting? config s k') ∧
      ∀ s', s' ≠ s → Assoc.get? config' s' = Assoc.get? config s') := by
  unfold assign
  rcases hs : Assoc.get? config s with _ | old
  · refine Or.inr ⟨?_, _, rfl, ⟨_, Assoc.get?_put_self ..⟩, ?_, ?_, ?_⟩
    · rintro ⟨_, hv, -⟩
      rw [hs] at hv
      cases hv
    · rw [setting?_of_get? (Assoc.get?_put_self ..), Assoc.get?_cons, if_pos rfl]
    · intro k' hk'
      rw [setting?_of_get? (Assoc.get?_put_self ..), Assoc.get?_cons, if_neg (Ne.symm hk')]
      unfold setting?
      rw [hs]
      rfl
    · exact fun s' hs' => Assoc.get?_put_of_ne hs' _ _
  · cases old with
    | table entries =>
      refine Or.inr ⟨?_, _, rfl, ⟨_, Assoc.get?_put_self ..⟩, ?_, ?_, ?_⟩
      · rintro ⟨_, hv, hnot⟩
        rw [hs] at hv
        exact hnot entries (Option.some.inj hv).symm
      · rw [setting?_of_get? (Assoc.get?_put_self ..), Assoc.get?_put_self]
      · intro k' hk'
        rw [setting?_of_get? (Assoc.get?_put_self ..), Assoc.get?_put_of_ne hk',
          setting?_of_get? hs]
      · exact fun s' hs' => Assoc.get?_put_of_ne hs' _ _
    | array items => exact Or.inl ⟨⟨_, hs, fun _ => nofun⟩, _, rfl, Or.inl rfl⟩
    | _ => exact Or.inl ⟨⟨_, hs, fun _ => nofun⟩, _, rfl, Or.inr ⟨_, rfl⟩⟩

/-! ### The environment -/

/-- **The last variable that names a setting** has the text `raw`. -/
def LastNaming (environment : List (String × String)) (section_ key raw : String) : Prop :=
  ∃ before name after, environment = before ++ (name, raw) :: after ∧ Names name section_ key ∧
    ∀ x ∈ after, ¬ Names x.1 section_ key

/-- **A configuration under an environment.** A setting that variables name has the value of the
last of them and its section is a table; all other settings and sections are those of `base`. -/
structure Layered (room : Nat) (environment : List (String × String)) (base config : Table) :
    Prop where
  named : ∀ s k raw, LastNaming environment s k raw →
    ∃ v, interpret room raw = .ok v ∧ setting? config s k = some v
  unnamed : ∀ s k, (∀ x ∈ environment, ¬ Names x.1 s k) → setting? config s k = setting? base s k
  touched : ∀ s, (∃ x ∈ environment, ∃ k, Names x.1 s k) →
    ∃ entries, Assoc.get? config s = some (.table entries)
  untouched : ∀ s, (∀ x ∈ environment, ∀ k, ¬ Names x.1 s k) →
    Assoc.get? config s = Assoc.get? base s

/-- What one variable does to a configuration that it does not fail on. -/
inductive Overrides (room : Nat) (base : Table) (x : String × String) (config : Table) : Prop where
  | idle (hx : ∀ s k, ¬ Names x.1 s k) (h : config = base)
  | sets (s k : String) (v : Value) (hx : Names x.1 s k) (hv : interpret room x.2 = .ok v)
      (h : assign base s k v = .ok config)

theorem override_eq_ok_iff {room : Nat} {base config : Table} {x : String × String} :
    (override room base x).outcome = .ok config ↔ Overrides room base x config := by
  unfold override
  split
  · next hx =>
    rw [target?_eq_none_iff] at hx
    rw [Traced.outcome_pure, Except.ok.injEq]
    constructor
    · exact fun h => .idle hx h.symm
    · rintro (⟨-, rfl⟩ | ⟨s, k, -, hs, -⟩)
      · rfl
      · exact absurd hs (hx s k)
  · next s k hx =>
    rw [names_iff] at hx
    simp only [Traced.outcome_bind, Traced.outcome_ofFault, Traced.note, Traced.outcome_tell,
      Traced.outcome_pure, bind_eq_ok_iff, mapError_eq_ok_iff]
    constructor
    · rintro ⟨v, hv, config', h, -, -, ⟨⟩⟩
      exact .sets s k v hx hv h
    · rintro (⟨hnot, -⟩ | ⟨s', k', v, hx', hv, h⟩)
      · exact absurd hx (hnot s k)
      · obtain ⟨rfl, rfl⟩ := hx.unique hx'
        exact ⟨v, hv, config, h, (), trivial, rfl⟩

theorem Overrides.blocked_iff {room : Nat} {base config : Table} {x : String × String}
    (h : Overrides room base x config) (s : String) : Blocked config s ↔ Blocked base s := by
  cases h with
  | idle hx h => rw [h]
  | sets s₀ k v hx hv h =>
    rcases assign_cases base s₀ k v with ⟨-, f, hf, -⟩ | ⟨hfree, config', hc, htable, -, -, hother⟩
    · rw [h] at hf
      cases hf
    · obtain rfl := Except.ok.inj (h.symm.trans hc)
      by_cases hs : s = s₀
      · subst hs
        refine iff_of_false ?_ hfree
        rintro ⟨_, hv, hnot⟩
        obtain ⟨entries, hentries⟩ := htable
        exact hnot entries (Option.some.inj (hv.symm.trans hentries))
      · unfold Blocked
        rw [hother s hs]

theorem layered_nil (room : Nat) (base : Table) : Layered room [] base base where
  named := by
    rintro s k raw ⟨before, name, after, h, -⟩
    simp at h
  unnamed _ _ _ := rfl
  touched := by
    rintro s ⟨x, hx, -⟩
    cases hx
  untouched _ _ := rfl

/-- **One variable in front** of an environment: those behind it win where they name the same. -/
theorem Layered.cons {room : Nat} {base mid config : Table} {x : String × String}
    {rest : List (String × String)} (hx : Overrides room base x mid)
    (hrest : Layered room rest mid config) : Layered room (x :: rest) base config := by
  cases hx with
  | idle hx h =>
    subst h
    refine ⟨?_, fun s k h => hrest.unnamed s k fun y hy => h y (List.mem_cons_of_mem x hy), ?_,
      fun s h => hrest.untouched s fun y hy => h y (List.mem_cons_of_mem x hy)⟩
    · rintro s k raw ⟨_ | ⟨_, before⟩, name, after, h, hname, hafter⟩
      · obtain ⟨rfl, rfl⟩ := List.cons.inj h
        exact absurd hname (hx s k)
      · obtain ⟨rfl, rfl⟩ := List.cons.inj h
        exact hrest.named s k raw ⟨before, name, after, rfl, hname, hafter⟩
    · rintro s ⟨y, hy, k, hname⟩
      rcases List.mem_cons.mp hy with rfl | hy
      · exact absurd hname (hx s k)
      · exact hrest.touched s ⟨y, hy, k, hname⟩
  | sets s₀ k₀ v hx hv h =>
    rcases assign_cases base s₀ k₀ v with ⟨-, f, hf, -⟩ | ⟨-, mid', hc, htable, hset, hkeys, hother⟩
    · rw [h] at hf
      cases hf
    · obtain rfl := Except.ok.inj (h.symm.trans hc)
      refine ⟨?_, ?_, ?_, ?_⟩
      · rintro s k raw ⟨_ | ⟨_, before⟩, name, after, h, hname, hafter⟩
        · -- the variable itself is the last one
          obtain ⟨rfl, rfl⟩ := List.cons.inj h
          obtain ⟨rfl, rfl⟩ := hx.unique hname
          exact ⟨v, hv, (hrest.unnamed s₀ k₀ hafter).trans hset⟩
        · obtain ⟨rfl, rfl⟩ := List.cons.inj h
          exact hrest.named s k raw ⟨before, name, after, rfl, hname, hafter⟩
      · intro s k hnone
        rw [List.forall_mem_cons] at hnone
        rw [hrest.unnamed s k hnone.2]
        by_cases hs : s = s₀
        · subst hs
          refine hkeys k fun hk => hnone.1 ?_
          rw [hk]
          exact hx
        · exact setting?_eq_of_get?_eq (hother s hs) k
      · intro s hsome
        by_cases hlater : ∃ y ∈ rest, ∃ k, Names y.1 s k
        · exact hrest.touched s hlater
        · have hnone : ∀ y ∈ rest, ∀ k, ¬ Names y.1 s k := fun y hy k hname =>
            hlater ⟨y, hy, k, hname⟩
          obtain ⟨y, hy, k, hname⟩ := hsome
          rcases List.mem_cons.mp hy with rfl | hy
          · obtain ⟨rfl, -⟩ := hx.unique hname
            rw [hrest.untouched s₀ hnone]
            exact htable
          · exact absurd hname (hnone y hy k)
      · intro s hnone
        rw [List.forall_mem_cons] at hnone
        rw [hrest.untouched s hnone.2]
        refine hother s fun hs => hnone.1 k₀ ?_
        rw [hs]
        exact hx

/-- **A configuration after all variables** is layered. -/
theorem layered_of_overridden {room : Nat} :
    ∀ {environment : List (String × String)} {base config : Table},
      (overridden room base environment).outcome = .ok config →
        Layered room environment base config
  | [], base, config, h => by
    obtain rfl := Except.ok.inj h
    exact layered_nil room base
  | x :: rest, base, config, h => by
    rw [overridden, Traced.outcome_bind, bind_eq_ok_iff] at h
    obtain ⟨mid, hmid, h⟩ := h
    exact (layered_of_overridden h).cons (override_eq_ok_iff.mp hmid)

/-- **The variables fail** on a configuration exactly if one of them names a blocked section, as
long as their texts can be read. The fault is that of the kind. -/
theorem overridden_fails_iff {room : Nat} : ∀ {environment : List (String × String)} (base : Table),
    (∀ x ∈ environment, ∀ s k, Names x.1 s k → ∃ v, interpret room x.2 = .ok v) →
      ((∃ x ∈ environment, ∃ s k, Names x.1 s k ∧ Blocked base s) ∧
        (∃ f, (overridden room base environment).outcome = .error (.fault f) ∧ IsKindFault f) ∨
      (¬ ∃ x ∈ environment, ∃ s k, Names x.1 s k ∧ Blocked base s) ∧
        ∃ config, (overridden room base environment).outcome = .ok config)
  | [], base, _ => Or.inr ⟨by simp, base, rfl⟩
  | x :: rest, base, hread => by
    rw [List.forall_mem_cons] at hread
    rw [overridden, Traced.outcome_bind]
    -- a variable that goes through leaves the same sections blocked
    have hgo : ∀ {mid}, Overrides room base x mid → (∀ s k, Names x.1 s k → ¬ Blocked base s) →
        ((∃ y ∈ x :: rest, ∃ s k, Names y.1 s k ∧ Blocked base s) ↔
          ∃ y ∈ rest, ∃ s k, Names y.1 s k ∧ Blocked mid s) := by
      intro mid hmid hfree
      simp only [hmid.blocked_iff, List.exists_mem_cons_iff]
      refine or_iff_right ?_
      rintro ⟨s, k, hname, hblocked⟩
      exact hfree s k hname hblocked
    rcases htarget : target? x.1 with _ | ⟨s, k⟩
    · have hx := target?_eq_none_iff.mp htarget
      have hmid : Overrides room base x base := .idle hx rfl
      rw [override_eq_ok_iff.mpr hmid, hgo hmid fun s k hname => absurd hname (hx s k)]
      exact overridden_fails_iff _ hread.2
    · have hx := names_iff.mp htarget
      obtain ⟨v, hv⟩ := hread.1 s k hx
      rcases assign_cases base s k v with ⟨hblocked, f, hf, hkind⟩ | ⟨hfree, mid, hc, -⟩
      · refine Or.inl ⟨⟨x, List.mem_cons_self .., s, k, hx, hblocked⟩, f, ?_, hkind⟩
        unfold override
        rw [htarget]
        simp only [Traced.outcome_bind, Traced.outcome_ofFault, hv]
        show ((assign base s k v).mapError Failure.fault |>.bind _).bind _ = _
        rw [hf]
        rfl
      · have hmid : Overrides room base x mid := .sets s k v hx hv hc
        have hfree' : ∀ s' k', Names x.1 s' k' → ¬ Blocked base s' := by
          intro s' k' hname
          obtain ⟨rfl, -⟩ := hx.unique hname
          exact hfree
        rw [override_eq_ok_iff.mpr hmid, hgo hmid hfree']
        exact overridden_fails_iff _ hread.2

/-! ### The configuration file -/

/-- The location `n` levels above. -/
def levelsUp (l : Location) (n : Nat) : Location := List.dropLast^[n] l

/-- The place of a configuration file `n` levels above a directory. -/
def fileAbove (directory : Location) (n : Nat) : Path :=
  .ofLocation (levelsUp directory n ++ [fileName])

/-- **The configuration file of a directory:** the nearest one, up to the root. -/
def Nearest (w : World) (directory : Location) : Option Path → Prop
  | some file => ∃ n ≤ directory.length, file = fileAbove directory n ∧ w.isFile file = .ok true ∧
      ∀ m < n, w.isFile (fileAbove directory m) = .ok false
  | none => ∀ n ≤ directory.length, w.isFile (fileAbove directory n) = .ok false

/-- **The directory in which a search starts:** where the path leads, or its parent if that is a
file. -/
def SearchedFrom (w : World) (start : Path) (directory : Location) : Prop :=
  ∃ l, w.locate start = .ok l ∧
    (w.isFile (.ofLocation l) = .ok true ∧ directory = levelsUp l 1 ∨
      w.isFile (.ofLocation l) = .ok false ∧ directory = l)

/-- **The configuration file that counts:** the one that is given, else the nearest one. -/
def Counts (w : World) (given : Option Path) (start : Path) (file : Option Path) : Prop :=
  match given with
  | some path => file = some path
  | none => ∃ directory, SearchedFrom w start directory ∧ Nearest w directory file

theorem levelsUp_eq_take (l : Location) : ∀ n, levelsUp l n = l.take (l.length - n)
  | 0 => by simp [levelsUp]
  | n + 1 => by
    have ih := levelsUp_eq_take l n
    unfold levelsUp at ih ⊢
    rw [Function.iterate_succ_apply', ih, List.dropLast_eq_take, List.length_take, List.take_take]
    congr 1
    omega

theorem upward_eq_map (l : Location) :
    upward l = (List.range (l.length + 1)).map (levelsUp l) := by
  unfold upward
  exact List.map_congr_left fun n _ => (levelsUp_eq_take l n).symm

section search

variable {α ε : Type} {p : α → Except ε Bool}

theorem findM?_cons (b : α) (l : List α) :
    (b :: l).findM? p = (p b).bind fun passes => if passes then .ok (some b) else l.findM? p := by
  show (p b).bind _ = _
  rcases p b with e | _ | _ <;> rfl

/-- A search that finds nothing: no item passes. -/
theorem findM?_eq_ok_none_iff : ∀ {l : List α},
    l.findM? p = .ok none ↔ ∀ b ∈ l, p b = .ok false
  | [] => iff_of_true rfl (by simp)
  | b :: l => by
    rw [findM?_cons, List.forall_mem_cons, ← findM?_eq_ok_none_iff]
    rcases p b with e | _ | _ <;> simp [Except.bind]

/-- A search that finds something: the first item that passes. -/
theorem findM?_eq_ok_some_iff {a : α} : ∀ {l : List α}, l.findM? p = .ok (some a) ↔
    ∃ i : Nat, l[i]? = some a ∧ p a = .ok true ∧ ∀ j < i, ∀ b, l[j]? = some b → p b = .ok false
  | [] => iff_of_false (by rintro ⟨⟩) (by simp)
  | b :: l => by
    rw [findM?_cons]
    rcases hb : p b with e | _ | _
    · refine iff_of_false (by rintro ⟨⟩) ?_
      rintro ⟨_ | i, hi, ha, hfirst⟩
      · rw [List.getElem?_cons_zero, Option.some.injEq] at hi
        rw [hi, ha] at hb
        cases hb
      · have := hfirst 0 (by omega) b rfl
        rw [hb] at this
        cases this
    · show l.findM? p = .ok (some a) ↔ _
      rw [findM?_eq_ok_some_iff]
      constructor
      · rintro ⟨i, hi, ha, hfirst⟩
        refine ⟨i + 1, hi, ha, ?_⟩
        rintro (_ | j) hj c hc
        · rw [List.getElem?_cons_zero, Option.some.injEq] at hc
          rw [← hc, hb]
        · exact hfirst j (by omega) c hc
      · rintro ⟨_ | i, hi, ha, hfirst⟩
        · rw [List.getElem?_cons_zero, Option.some.injEq] at hi
          rw [hi, ha] at hb
          cases hb
        · exact ⟨i, hi, ha, fun j hj c hc => hfirst (j + 1) (by omega) c hc⟩
    · show Except.ok (some b) = .ok (some a) ↔ _
      rw [Except.ok.injEq, Option.some.injEq]
      constructor
      · rintro rfl
        exact ⟨0, rfl, hb, fun j hj => absurd hj (Nat.not_lt_zero j)⟩
      · rintro ⟨_ | i, hi, ha, hfirst⟩
        · exact Option.some.inj hi
        · have := hfirst 0 (by omega) b rfl
          rw [hb] at this
          cases this

end search

theorem getElem?_map_range {α : Type} (f : Nat → α) (n i : Nat) :
    ((List.range (n + 1)).map f)[i]? = if i ≤ n then some (f i) else none := by
  rw [List.getElem?_map]
  split
  · next h => rw [List.getElem?_range (by omega)]; rfl
  · next h => rw [List.getElem?_eq_none (by simp only [List.length_range]; omega)]; rfl

/-- **The search upward finds the nearest file.** -/
theorem findM?_upward_eq_ok_iff {w : World} {directory : Location} {file : Option Path} :
    ((upward directory).map fun l => Path.ofLocation (l ++ [fileName])).findM? w.isFile =
      .ok file ↔ Nearest w directory file := by
  have hplaces : (upward directory).map (fun l => Path.ofLocation (l ++ [fileName])) =
      (List.range (directory.length + 1)).map (fileAbove directory) := by
    rw [upward_eq_map, List.map_map]
    rfl
  rw [hplaces]
  rcases file with _ | file
  · rw [findM?_eq_ok_none_iff]
    simp only [Nearest, List.mem_map, List.mem_range, forall_exists_index, and_imp,
      forall_apply_eq_imp_iff₂, Nat.lt_succ_iff]
  · rw [findM?_eq_ok_some_iff]
    simp only [Nearest, getElem?_map_range]
    constructor
    · rintro ⟨i, hi, ha, hfirst⟩
      split at hi
      · next hle =>
        refine ⟨i, hle, (Option.some.inj hi).symm, ha, fun m hm => ?_⟩
        exact hfirst m hm _ (if_pos (by omega))
      · cases hi
    · rintro ⟨n, hn, rfl, ha, hfirst⟩
      refine ⟨n, if_pos hn, ha, fun j hj b hb => ?_⟩
      rw [if_pos (by omega)] at hb
      rw [← Option.some.inj hb]
      exact hfirst j hj

theorem startDirectory_eq_ok_iff {w : World} {start : Path} {directory : Location} :
    startDirectory w start = .ok directory ↔ SearchedFrom w start directory := by
  have hbind : startDirectory w start = (w.locate start).bind fun l =>
      (w.isFile (.ofLocation l)).bind fun isFile => .ok (if isFile then l.dropLast else l) := rfl
  simp only [hbind, bind_eq_ok_iff, SearchedFrom]
  refine exists_congr fun l => and_congr_right fun _ => ?_
  constructor
  · rintro ⟨_ | _, hfile, hd⟩
    · exact Or.inr ⟨hfile, (Except.ok.inj hd).symm⟩
    · exact Or.inl ⟨hfile, (Except.ok.inj hd).symm⟩
  · rintro (⟨hfile, rfl⟩ | ⟨hfile, rfl⟩)
    · exact ⟨true, hfile, rfl⟩
    · exact ⟨false, hfile, rfl⟩

/-- **Which configuration file counts.** -/
theorem chosenFile_eq_ok_iff {w : World} {given : Option Path} {start : Path}
    {file : Option Path} : chosenFile w given start = .ok file ↔ Counts w given start file := by
  unfold chosenFile Counts
  rcases given with _ | path
  · have hbind : findFile w start = (startDirectory w start).bind fun directory =>
        ((upward directory).map fun l => Path.ofLocation (l ++ [fileName])).findM? w.isFile := rfl
    simp only [hbind, bind_eq_ok_iff, startDirectory_eq_ok_iff, findM?_upward_eq_ok_iff]
  · simp only [Except.ok.injEq]
    exact eq_comm

/-! ### All layers -/

/-- **The settings below the environment:** the built-in ones, with those of the file laid over
them if there is one. -/
def IsBase (w : World) (file : Option Path) (base : Table) : Prop :=
  match file with
  | none => base = defaults
  | some path => ∃ text user, readFile w path = .ok text ∧ Toml.parse text = .ok user ∧
      base = Table.merge defaults user

/-- The settings below the environment, for the file that counts. -/
def loaded (w : World) : Option Path → Except Failure Table
  | none => .ok defaults
  | some path => load w path

theorem loaded_eq_ok_iff {w : World} {file : Option Path} {base : Table} :
    loaded w file = .ok base ↔ IsBase w file base := by
  rcases file with _ | path
  · simp only [loaded, IsBase, Except.ok.injEq]
    exact eq_comm
  · simp only [loaded, load, bind_eq_ok_iff, IsBase]
    refine exists_congr fun text => ?_
    unfold parseFile
    rcases Toml.parse text with line | user
    · simp [Except.map]
    · simp [Except.map, eq_comm]

/-- The settings that hold, in three steps: the file, what it says, and the environment. -/
theorem effective_outcome (w : World) (given : Option Path) (start : Path) (quiet : Bool) :
    (effective w given start quiet).outcome =
      ((chosenFile w given start).mapError .fault).bind fun file =>
        (loaded w file).bind fun base => (overridden w.room base w.environment).outcome := by
  unfold effective
  rw [Traced.outcome_bind, Traced.outcome_ofFault]
  refine congrArg (Except.bind _) (funext fun file => ?_)
  rcases file with _ | path
  · rfl
  · show Traced.outcome (_ >>= _) = _
    rw [Traced.outcome_bind, Traced.outcome_ofExcept]
    refine congrArg (Except.bind _) (funext fun base => ?_)
    rcases quiet with _ | _ <;> rfl

theorem effective_outcome_of_isBase {w : World} {given : Option Path} {start : Path} {quiet : Bool}
    {file : Option Path} {base : Table} (hfile : Counts w given start file)
    (hbase : IsBase w file base) :
    (effective w given start quiet).outcome = (overridden w.room base w.environment).outcome := by
  rw [effective_outcome, chosenFile_eq_ok_iff.mpr hfile]
  show (loaded w file).bind _ = _
  rw [loaded_eq_ok_iff.mpr hbase]
  rfl

/-- **The settings that hold.** If there are any, they come from the file that counts, laid over the
built-in ones, under the variables of the environment. If the file can be used and the variables can
be read, they fail exactly if a variable names a section that is there and is no table, and the
fault is that of the kind. -/
theorem effective_layered (w : World) (given : Option Path) (start : Path) (quiet : Bool) :
    (∀ config, (effective w given start quiet).outcome = .ok config →
      ∃ file base, Counts w given start file ∧ IsBase w file base ∧
        Layered w.room w.environment base config) ∧
    (∀ file base, Counts w given start file → IsBase w file base →
      (∀ x ∈ w.environment, ∀ s k, Names x.1 s k → ∃ v, interpret w.room x.2 = .ok v) →
      ((∃ e, (effective w given start quiet).outcome = .error e) ↔
        ∃ x ∈ w.environment, ∃ s k, Names x.1 s k ∧ Blocked base s) ∧
      (∀ e, (effective w given start quiet).outcome = .error e →
        ∃ f, e = .fault f ∧ IsKindFault f)) := by
  constructor
  · intro config h
    rw [effective_outcome, bind_eq_ok_iff] at h
    obtain ⟨file, hfile, h⟩ := h
    obtain ⟨base, hbase, h⟩ := bind_eq_ok_iff.mp h
    exact ⟨file, base, chosenFile_eq_ok_iff.mp (mapError_eq_ok_iff.mp hfile),
      loaded_eq_ok_iff.mp hbase, layered_of_overridden h⟩
  · intro file base hfile hbase hread
    rw [effective_outcome_of_isBase hfile hbase]
    rcases overridden_fails_iff base hread with ⟨hblocked, f, hf, hkind⟩ | ⟨hfree, c, hc⟩
    · refine ⟨iff_of_true ⟨_, hf⟩ hblocked, fun e he => ⟨f, ?_, hkind⟩⟩
      exact Except.error.inj (he.symm.trans hf)
    · refine ⟨iff_of_false ?_ hfree, fun e he => ?_⟩
      · rintro ⟨e, he⟩
        rw [hc] at he
        cases he
      · rw [hc] at he
        cases he

/-- A world with a configuration file in the current directory, in which two variables name one
setting. -/
def layeredWorld : World :=
  Snapshot.toWorld
    { cwd := ["w"]
      nodes := [(["w"], .directory),
        (["w", fileName], .file "[index]\nstrict = true\n".toUTF8.toList)]
      environment := [("ESISREF_INDEX_STRICT", "7"), ("ESISREF_index_strict", "false")] }

/-- The last of the two variables counts, over the other one and over the file. -/
theorem effective_layered_last_variable :
    ∃ config, (effective layeredWorld none (.ofString ".") true).outcome = .ok config ∧
      setting? config "index" "strict" = some (.bool false) := by
  have hok : (effective layeredWorld none (.ofString ".") true).outcome.toOption.isSome := by
    decide +kernel
  obtain ⟨config, hconfig⟩ := Option.isSome_iff_exists.mp hok
  rw [toOption_eq_some_iff] at hconfig
  obtain ⟨file, base, -, -, hlayered⟩ :=
    (effective_layered layeredWorld none (.ofString ".") true).1 config hconfig
  have hlast : LastNaming layeredWorld.environment "index" "strict" "false" :=
    ⟨[("ESISREF_INDEX_STRICT", "7")], "ESISREF_index_strict", [], rfl,
      names_iff.mp (by decide +kernel), by simp⟩
  obtain ⟨v, hv, hset⟩ := hlayered.named _ _ _ hlast
  have hfalse (room : Nat) : interpret room "false" = .ok (.bool false) := by rfl
  exact ⟨config, hconfig, hset.trans (congrArg some (Except.ok.inj (hv.symm.trans (hfalse _))))⟩

end CrossRef.Config

import CrossRef.Proofs.IndexEntries
import CrossRef.Proofs.Locations
import CrossRef.Server
import CrossRef.Snapshot
import Mathlib.Data.Set.Card

/-! # Runs of a registry

A registry is called many times, each time in a world of its own and with a path spelled in any way:
to get the session of a document, to carry out an operation on it, or to discard it. Which session a
document has is told by its serial number, so `serialAt` is all that is looked at here: a location
has a serial number as long as the registry holds a session for it.

* `Effect`: all that one call can do to the serial numbers.
* `WellKept`: the invariant, each location is held once and no serial number is given out twice.
* `HeldOrGone`: a session stays with its location until that is discarded, and is gone afterwards.
* `run_holds_one_session`: what follows for a run from an empty registry. -/

namespace CrossRef

/-! ### Maps without a key -/

namespace Assoc

variable {κ ν : Type} [DecidableEq κ]

@[simp] theorem keys_erase (m : Assoc κ ν) (k : κ) :
    keys (erase m k) = (keys m).filter fun k' => !decide (k' = k) := by
  unfold keys erase
  rw [List.filter_map]
  rfl

theorem get?_erase_self (m : Assoc κ ν) (k : κ) : get? (erase m k) k = none := by
  rw [get?_eq_none_iff, keys_erase]
  simp

theorem get?_erase_of_ne {k k' : κ} (h : k' ≠ k) : ∀ m : Assoc κ ν,
    get? (erase m k) k' = get? m k'
  | [] => rfl
  | (j, v) :: m => by
    have ih := get?_erase_of_ne h m
    by_cases hj : j = k
    · have hk : j ≠ k' := by
        rw [hj]
        exact Ne.symm h
      rw [get?_cons, if_neg hk, ← ih]
      unfold erase
      rw [List.filter_cons_of_neg (by simpa using hj)]
    · unfold erase at ih ⊢
      rw [List.filter_cons_of_pos (by simpa using hj), get?_cons, get?_cons, ih]

omit [DecidableEq κ] in
theorem keys_map {μ : Type} (f : ν → μ) (m : Assoc κ ν) :
    keys (m.map fun p => (p.1, f p.2)) = keys m := by
  unfold keys
  rw [List.map_map]
  rfl

theorem get?_map {μ : Type} (f : ν → μ) (k : κ) : ∀ m : Assoc κ ν,
    get? (m.map fun p => (p.1, f p.2)) k = (get? m k).map f
  | [] => rfl
  | (j, v) :: m => by
    rw [List.map_cons, get?_cons, get?_cons, get?_map f k m]
    split <;> rfl

end Assoc

namespace Registry

/-! ### Calls -/

/-- **A call on a registry.** -/
inductive Call where
  | get (path : Path)
  | on (path : Path) (op : Session.Op)
  | discard (path : Path)

/-- The registry after one call. A call that fails leaves what there is. -/
def call (w : World) (r : Registry) : Call → Registry
  | .get path => (r.get w path).2
  | .on path op => (r.step w path op).2
  | .discard path =>
    match r.discard w path with
    | .ok r' => r'
    | .error _ => r

/-- **The registry after a sequence of calls,** each in a world of its own. -/
def run (r : Registry) : List (World × Call) → Registry
  | [] => r
  | (w, c) :: rest => run (r.call w c) rest

/-- The path whose session a call asks for. -/
def Call.path? : Call → Option Path
  | .get path | .on path _ => some path
  | .discard _ => none

/-- **The call gets the session** of the document at `l`. -/
def Gets (w : World) (r : Registry) (l : Location) (c : Call) : Prop :=
  ∃ path, c.path? = some path ∧ w.locate path = .ok l ∧ ∃ found, (r.get w path).1 = .ok found

/-- **The call discards the session** of the document at `l`. -/
def Discards (w : World) (l : Location) (c : Call) : Prop :=
  ∃ path, c = .discard path ∧ w.locate path = .ok l

/-- **The location was got and not discarded since.** -/
def Live (r : Registry) (calls : List (World × Call)) (l : Location) : Prop :=
  ∃ before w c after, calls = before ++ (w, c) :: after ∧ Gets w (r.run before) l c ∧
    ∀ x ∈ after, ¬ Discards x.1 l x.2

theorem Gets.unique {w : World} {r : Registry} {l l' : Location} {c : Call} (h : Gets w r l c)
    (h' : Gets w r l' c) : l = l' := by
  obtain ⟨path, hc, hl, -⟩ := h
  obtain ⟨path', hc', hl', -⟩ := h'
  obtain rfl : path = path' := Option.some.inj (hc.symm.trans hc')
  exact Except.ok.inj (hl.symm.trans hl')

theorem Discards.unique {w : World} {l l' : Location} {c : Call} (h : Discards w l c)
    (h' : Discards w l' c) : l = l' := by
  obtain ⟨path, rfl, hl⟩ := h
  obtain ⟨_, ⟨⟩, hl'⟩ := h'
  exact Except.ok.inj (hl.symm.trans hl')

theorem Gets.not_discards {w : World} {r : Registry} {l l' : Location} {c : Call}
    (h : Gets w r l c) : ¬ Discards w l' c := by
  rintro ⟨path', rfl, -⟩
  obtain ⟨_, hc, -⟩ := h
  cases hc

/-! ### What a get comes to -/

/-- The serial number of the session that is held for a location. -/
def serialAt (r : Registry) (l : Location) : Option Nat := (Assoc.get? r.sessions l).map (·.1)

/-- **What a get comes to:** the path has no location, a session is held already, a new one cannot
be started, or it is started and held from now on. -/
inductive Got (w : World) (r : Registry) (path : Path) :
    Except Failure (Nat × Session) × Registry → Prop where
  | lost {f : Fault} (hl : w.locate path = .error f) : Got w r path (.error (.fault f), r)
  | held {l : Location} {n : Nat} {s : Session} (hl : w.locate path = .ok l)
      (hs : Assoc.get? r.sessions l = some (n, s)) : Got w r path (.ok (n, s), r)
  | failed {l : Location} {e : Failure} (hl : w.locate path = .ok l)
      (hs : Assoc.get? r.sessions l = none)
      (he : (Session.start w (.ofLocation l) r.shared).outcome = .error e) :
      Got w r path (.error e, r)
  | started {l : Location} {s : Session} (hl : w.locate path = .ok l)
      (hs : Assoc.get? r.sessions l = none)
      (he : (Session.start w (.ofLocation l) r.shared).outcome = .ok s) :
      Got w r path (.ok (r.started, s),
        { r with sessions := Assoc.put r.sessions l (r.started, s), started := r.started + 1 })

theorem got (w : World) (r : Registry) (path : Path) : Got w r path (r.get w path) := by
  unfold get
  rcases hl : w.locate path with f | l
  · exact .lost hl
  · show Got w r path (r.getAt w l)
    unfold getAt
    rcases hs : Assoc.get? r.sessions l with _ | ⟨n, s⟩
    · rcases he : (Session.start w (.ofLocation l) r.shared).outcome with e | s
      · exact .failed hl hs he
      · exact .started hl hs he
    · exact .held hl hs

/-- **A get that succeeds** gives out the session that is held from then on. -/
theorem get?_get {w : World} {r : Registry} {path : Path} {n : Nat} {s : Session}
    (h : (r.get w path).1 = .ok (n, s)) : ∃ l, w.locate path = .ok l ∧
      Assoc.get? (r.get w path).2.sessions l = some (n, s) ∧
      (r.serialAt l = some n ∨ r.serialAt l = none ∧ n = r.started) := by
  have hgot := got w r path
  generalize r.get w path = result at h hgot
  cases hgot with
  | lost hl => cases h
  | @held l n' s' hl hs =>
    cases h
    exact ⟨l, hl, hs, Or.inl (by rw [serialAt, hs]; rfl)⟩
  | failed hl hs he => cases h
  | @started l s' hl hs he =>
    cases h
    exact ⟨l, hl, Assoc.get?_put_self .., Or.inr ⟨by rw [serialAt, hs]; rfl, rfl⟩⟩

/-! ### What a call can do -/

/-- **What a call can do to the serial numbers:** nothing, number a new session, or take one away.
A session that is got is held already or is the new one. -/
inductive Effect (w : World) (r : Registry) (c : Call) (r' : Registry) : Prop where
  | stays (hkeys : Assoc.keys r'.sessions = Assoc.keys r.sessions)
      (hserial : ∀ l, r'.serialAt l = r.serialAt l) (hstarted : r'.started = r.started)
      (hgets : ∀ l, Gets w r l c → (r.serialAt l).isSome) (hdiscards : ∀ l, ¬ Discards w l c)
  | starts (l : Location) (hgets : Gets w r l c) (hnew : r.serialAt l = none)
      (hkeys : Assoc.keys r'.sessions = Assoc.keys r.sessions ++ [l])
      (hserial : r'.serialAt l = some r.started)
      (hother : ∀ l', l' ≠ l → r'.serialAt l' = r.serialAt l')
      (hstarted : r'.started = r.started + 1)
  | discards (l : Location) (hdiscards : Discards w l c)
      (hkeys : Assoc.keys r'.sessions = (Assoc.keys r.sessions).filter fun k => !decide (k = l))
      (hserial : r'.serialAt l = none)
      (hother : ∀ l', l' ≠ l → r'.serialAt l' = r.serialAt l')
      (hstarted : r'.started = r.started)

theorem effect_get (w : World) (r : Registry) {c : Call} {path : Path} (hc : c.path? = some path) :
    Effect w r c (r.get w path).2 := by
  have hnot : ∀ l, ¬ Discards w l c := by
    rintro l ⟨path', rfl, -⟩
    cases hc
  have hgot := got w r path
  have hgets : ∀ l, Gets w r l c →
      w.locate path = .ok l ∧ ∃ found, (r.get w path).1 = .ok found := by
    rintro l ⟨path', hc', hl, found⟩
    obtain rfl : path' = path := Option.some.inj (hc'.symm.trans hc)
    exact ⟨hl, found⟩
  have hself : ∀ {l}, w.locate path = .ok l → ∀ {found}, (r.get w path).1 = .ok found →
      Gets w r l c := fun hl _ hfound => ⟨path, hc, hl, _, hfound⟩
  generalize r.get w path = result at hgets hself hgot ⊢
  cases hgot with
  | lost hl =>
    refine .stays rfl (fun _ => rfl) rfl (fun l h => ?_) hnot
    obtain ⟨-, _, hfound⟩ := hgets l h
    cases hfound
  | held hl hs =>
    refine .stays rfl (fun _ => rfl) rfl (fun l h => ?_) hnot
    obtain rfl := Except.ok.inj (hl.symm.trans (hgets l h).1)
    rw [serialAt, hs]
    rfl
  | failed hl hs he =>
    refine .stays rfl (fun _ => rfl) rfl (fun l h => ?_) hnot
    obtain ⟨-, _, hfound⟩ := hgets l h
    cases hfound
  | @started l s hl hs he =>
    refine .starts l (hself hl rfl) (by rw [serialAt, hs]; rfl) ?_ ?_ ?_ rfl
    · exact Assoc.keys_put_of_not_mem (Assoc.get?_eq_none_iff.mp hs) _
    · rw [serialAt, Assoc.get?_put_self]
      rfl
    · intro l' hl'
      rw [serialAt, serialAt, Assoc.get?_put_of_ne hl']

theorem keys_share (r : Registry) (t : Table) :
    Assoc.keys (r.share t).sessions = Assoc.keys r.sessions := by
  unfold share
  split
  · rfl
  · exact Assoc.keys_map (fun p : Nat × Session => (p.1, { p.2 with settings := t })) r.sessions

theorem serialAt_share (r : Registry) (t : Table) (l : Location) :
    (r.share t).serialAt l = r.serialAt l := by
  unfold share
  split
  · rfl
  · have := Assoc.get?_map (fun p : Nat × Session => (p.1, { p.2 with settings := t })) l r.sessions
    simp only [serialAt, this, Option.map_map]
    rfl

theorem started_share (r : Registry) (t : Table) : (r.share t).started = r.started := by
  unfold share
  split <;> rfl

/-- An operation on a session leaves all serial numbers as the get in front of it did. -/
theorem view_step (w : World) (r : Registry) (path : Path) (op : Session.Op) :
    Assoc.keys (r.step w path op).2.sessions = Assoc.keys (r.get w path).2.sessions ∧
    (∀ l, (r.step w path op).2.serialAt l = (r.get w path).2.serialAt l) ∧
    (r.step w path op).2.started = (r.get w path).2.started := by
  unfold step
  rcases hr : r.get w path with ⟨_ | ⟨n, s⟩, r'⟩
  · exact ⟨rfl, fun _ => rfl, rfl⟩
  · obtain ⟨l, hl, hs, -⟩ := get?_get (show (r.get w path).1 = .ok (n, s) by rw [hr])
    rw [hr] at hs
    obtain ⟨-, rfl⟩ := World.locate_eq_ok_iff.mp hl
    have hmem : path.resolve w.cwd ∈ Assoc.keys r'.sessions := by
      rw [Assoc.mem_keys_iff, hs]
      rfl
    refine ⟨?_, fun l => ?_, started_share ..⟩
    · exact (keys_share _ _).trans (Assoc.keys_put_of_mem hmem _)
    · refine (serialAt_share _ _ l).trans ?_
      by_cases hl' : l = path.resolve w.cwd
      · subst hl'
        simp only [serialAt, store, Assoc.get?_put_self, hs]
        rfl
      · simp only [serialAt, store, Assoc.get?_put_of_ne hl']

theorem call_discard (w : World) (r : Registry) (path : Path) :
    r.call w (.discard path) =
      match w.locate path with
      | .ok l => { r with sessions := Assoc.erase r.sessions l }
      | .error _ => r := by
  simp only [call, discard]
  rcases w.locate path with f | l <;> rfl

/-- **Every call has one of these effects.** -/
theorem effect_call (w : World) (r : Registry) (c : Call) : Effect w r c (r.call w c) := by
  cases c with
  | get path => exact effect_get w r rfl
  | on path op =>
    obtain ⟨hk, hs, ht⟩ := view_step w r path op
    -- the operation adds nothing to what the get has done
    cases effect_get w r (c := .on path op) rfl with
    | stays hkeys hserial hstarted hgets hdiscards =>
      exact .stays (hk.trans hkeys) (fun l => (hs l).trans (hserial l)) (ht.trans hstarted) hgets
        hdiscards
    | starts l hgets hnew hkeys hserial hother hstarted =>
      exact .starts l hgets hnew (hk.trans hkeys) ((hs l).trans hserial)
        (fun l' hl' => (hs l').trans (hother l' hl')) (ht.trans hstarted)
    | discards l hdiscards => exact absurd hdiscards (by rintro ⟨_, ⟨⟩, -⟩)
  | discard path =>
    rw [call_discard]
    rcases hl : w.locate path with f | l
    · refine .stays rfl (fun _ => rfl) rfl ?_ ?_
      · rintro l ⟨_, ⟨⟩, -⟩
      · rintro l ⟨_, ⟨⟩, hl'⟩
        rw [hl] at hl'
        cases hl'
    · refine .discards l ⟨path, rfl, hl⟩ (Assoc.keys_erase ..) ?_ ?_ rfl
      · rw [serialAt, Assoc.get?_erase_self]
        rfl
      · intro l' hl'
        rw [serialAt, serialAt, Assoc.get?_erase_of_ne hl']

/-! ### The invariant -/

/-- **A well-kept registry:** a location stands once, and a serial number belongs to one location
and was given out before. -/
structure WellKept (r : Registry) : Prop where
  nodup : (Assoc.keys r.sessions).Nodup
  serial_lt : ∀ l n, r.serialAt l = some n → n < r.started
  serial_inj : ∀ l l' n, r.serialAt l = some n → r.serialAt l' = some n → l = l'

theorem wellKept_empty (config : Option Table) : WellKept { shared := config } :=
  ⟨List.nodup_nil, fun _ _ h => (by cases h), fun _ _ _ h => (by cases h)⟩

theorem mem_keys_iff_serialAt {r : Registry} {l : Location} :
    l ∈ Assoc.keys r.sessions ↔ (r.serialAt l).isSome := by
  rw [Assoc.mem_keys_iff, serialAt, Option.isSome_map]

/-- **One call** keeps a registry well. -/
theorem WellKept.call {r : Registry} (h : WellKept r) (w : World) (c : Call) :
    WellKept (r.call w c) := by
  cases effect_call w r c with
  | stays hkeys hserial hstarted =>
    refine ⟨by rw [hkeys]; exact h.nodup, fun l n hl => ?_, fun l l' n hl hl' => ?_⟩
    · rw [hstarted]
      exact h.serial_lt l n (hserial l ▸ hl)
    · exact h.serial_inj l l' n (hserial l ▸ hl) (hserial l' ▸ hl')
  | starts l₀ _ hnew hkeys hserial hother hstarted =>
    have hfresh : l₀ ∉ Assoc.keys r.sessions := by
      rw [mem_keys_iff_serialAt, hnew]
      simp
    -- the new number is above all that are held
    have hold : ∀ l n, (r.call w c).serialAt l = some n → l = l₀ ∧ n = r.started ∨
        l ≠ l₀ ∧ r.serialAt l = some n := by
      intro l n hl
      by_cases hl₀ : l = l₀
      · subst hl₀
        exact Or.inl ⟨rfl, (Option.some.inj (hserial.symm.trans hl)).symm⟩
      · exact Or.inr ⟨hl₀, (hother l hl₀).symm.trans hl⟩
    refine ⟨?_, fun l n hl => ?_, fun l l' n hl hl' => ?_⟩
    · rw [hkeys, List.nodup_append]
      refine ⟨h.nodup, List.nodup_singleton l₀, fun a ha b hb => ?_⟩
      rw [List.mem_singleton.mp hb]
      exact fun hab => hfresh (hab ▸ ha)
    · rcases hold l n hl with ⟨-, rfl⟩ | ⟨-, hl⟩
      · omega
      · have := h.serial_lt l n hl
        omega
    · rcases hold l n hl with ⟨rfl, rfl⟩ | ⟨-, hl⟩
      · rcases hold l' _ hl' with ⟨rfl, -⟩ | ⟨-, hl'⟩
        · rfl
        · exact absurd (h.serial_lt l' _ hl') (Nat.lt_irrefl _)
      · rcases hold l' n hl' with ⟨-, rfl⟩ | ⟨-, hl'⟩
        · exact absurd (h.serial_lt l _ hl) (Nat.lt_irrefl _)
        · exact h.serial_inj l l' n hl hl'
  | discards l₀ _ hkeys hserial hother hstarted =>
    have hold : ∀ l n, (r.call w c).serialAt l = some n → r.serialAt l = some n := by
      intro l n hl
      by_cases hl₀ : l = l₀
      · subst hl₀
        rw [hserial] at hl
        cases hl
      · exact (hother l hl₀).symm.trans hl
    refine ⟨?_, fun l n hl => ?_, fun l l' n hl hl' => ?_⟩
    · rw [hkeys]
      exact h.nodup.filter _
    · rw [hstarted]
      exact h.serial_lt l n (hold l n hl)
    · exact h.serial_inj l l' n (hold l n hl) (hold l' n hl')

/-- **A whole run** keeps a registry well. -/
theorem WellKept.run : ∀ {calls : List (World × Call)} {r : Registry}, WellKept r →
    WellKept (r.run calls)
  | [], _, h => h
  | (w, c) :: rest, r, h => by
    rw [Registry.run]
    exact WellKept.run (h.call w c)

/-! ### Which locations are held -/

theorem serialAt_call_isSome_iff {w : World} {r : Registry} {c : Call} {l : Location} :
    ((r.call w c).serialAt l).isSome ↔
      Gets w r l c ∨ (r.serialAt l).isSome ∧ ¬ Discards w l c := by
  cases effect_call w r c with
  | stays _ hserial _ hgets hdiscards =>
    rw [hserial]
    exact ⟨fun h => Or.inr ⟨h, hdiscards l⟩, fun h => h.elim (hgets l) And.left⟩
  | starts l₀ hgets hnew _ hserial hother =>
    by_cases hl : l = l₀
    · subst hl
      rw [hserial]
      exact ⟨fun _ => Or.inl hgets, fun _ => rfl⟩
    · rw [hother l hl]
      constructor
      · exact fun h => Or.inr ⟨h, hgets.not_discards⟩
      · rintro (h | h)
        · exact absurd (h.unique hgets) hl
        · exact h.1
  | discards l₀ hdiscards _ hserial hother =>
    by_cases hl : l = l₀
    · subst hl
      rw [hserial]
      constructor
      · intro h
        cases h
      · rintro (h | h)
        · exact absurd hdiscards h.not_discards
        · exact absurd hdiscards h.2
    · rw [hother l hl]
      constructor
      · exact fun h => Or.inr ⟨h, fun hd => hl (hd.unique hdiscards)⟩
      · rintro (h | h)
        · exact absurd hdiscards h.not_discards
        · exact h.1

theorem live_nil {r : Registry} {l : Location} : ¬ Live r [] l := by
  rintro ⟨before, w, c, after, h, -⟩
  exact absurd h (by simp)

theorem live_cons_iff {r : Registry} {w : World} {c : Call} {rest : List (World × Call)}
    {l : Location} : Live r ((w, c) :: rest) l ↔
      (Gets w r l c ∧ ∀ x ∈ rest, ¬ Discards x.1 l x.2) ∨ Live (r.call w c) rest l := by
  constructor
  · rintro ⟨_ | ⟨_, before⟩, w', c', after, h, hgets, hafter⟩
    · obtain ⟨⟨rfl, rfl⟩, rfl⟩ := List.cons.inj h
      exact Or.inl ⟨hgets, hafter⟩
    · obtain ⟨rfl, rfl⟩ := List.cons.inj h
      exact Or.inr ⟨before, w', c', after, rfl, hgets, hafter⟩
  · rintro (⟨hgets, hafter⟩ | ⟨before, w', c', after, rfl, hgets, hafter⟩)
    · exact ⟨[], w, c, rest, rfl, hgets, hafter⟩
    · exact ⟨(w, c) :: before, w', c', after, rfl, hgets, hafter⟩

/-- A location is held after a run if it was got in it and not discarded since, or held before and
not discarded at all. -/
theorem serialAt_run_isSome_iff {l : Location} : ∀ {calls : List (World × Call)} {r : Registry},
    ((r.run calls).serialAt l).isSome ↔
      Live r calls l ∨ (r.serialAt l).isSome ∧ ∀ x ∈ calls, ¬ Discards x.1 l x.2
  | [], r => by
    simp only [run, live_nil, false_or, List.not_mem_nil, false_implies, implies_true, and_true]
  | (w, c) :: rest, r => by
    rw [run, serialAt_run_isSome_iff, serialAt_call_isSome_iff, live_cons_iff, List.forall_mem_cons]
    tauto

/-! ### Which session a get gives out -/

/-- **The session with the serial number `n`** is held for `l`, or it is gone for good if `gone`. -/
def HeldOrGone (r : Registry) (l : Location) (n : Nat) (gone : Prop) : Prop :=
  n < r.started ∧ (¬ gone → r.serialAt l = some n) ∧ (gone → ∀ l', r.serialAt l' ≠ some n)

theorem HeldOrGone.call {r : Registry} (hr : WellKept r) {l : Location} {n : Nat} {gone : Prop}
    (h : HeldOrGone r l n gone) (w : World) (c : Call) :
    HeldOrGone (r.call w c) l n (gone ∨ Discards w l c) := by
  obtain ⟨hlt, hheld, hgone⟩ := h
  cases effect_call w r c with
  | stays _ hserial hstarted _ hdiscards =>
    refine ⟨by omega, fun hg => ?_, fun hg l' => ?_⟩
    · rw [hserial]
      exact hheld fun h => hg (Or.inl h)
    · rw [hserial]
      exact hgone (hg.resolve_right (hdiscards l)) l'
  | starts l₀ hgets hnew _ hserial hother hstarted =>
    refine ⟨by omega, fun hg => ?_, fun hg l' hl' => ?_⟩
    · have hl := hheld fun h => hg (Or.inl h)
      have hne : l ≠ l₀ := by
        rintro rfl
        rw [hnew] at hl
        cases hl
      rw [hother l hne, hl]
    · have hg := hg.resolve_right hgets.not_discards
      by_cases hl₀ : l' = l₀
      · subst hl₀
        have := Option.some.inj (hserial.symm.trans hl')
        omega
      · exact hgone hg l' ((hother l' hl₀).symm.trans hl')
  | discards l₀ hdiscards _ hserial hother hstarted =>
    refine ⟨by omega, fun hg => ?_, fun hg l' hl' => ?_⟩
    · have hne : l ≠ l₀ := by
        rintro rfl
        exact hg (Or.inr hdiscards)
      rw [hother l hne]
      exact hheld fun h => hg (Or.inl h)
    · have hne : l' ≠ l₀ := by
        rintro rfl
        rw [hserial] at hl'
        cases hl'
      have hl := (hother l' hne).symm.trans hl'
      by_cases hg' : gone
      · exact hgone hg' l' hl
      · -- the number was at `l`, and that location is discarded now
        have hd := (hg.resolve_left hg').unique hdiscards
        exact hne ((hr.serial_inj l' l n hl (hheld hg')).trans hd)

theorem HeldOrGone.run {l : Location} {n : Nat} : ∀ (calls : List (World × Call)) {r : Registry}
    {gone : Prop}, WellKept r → HeldOrGone r l n gone →
      HeldOrGone (r.run calls) l n (gone ∨ ∃ x ∈ calls, Discards x.1 l x.2)
  | [], r, gone, _, h => by simpa [Registry.run] using h
  | (w, c) :: rest, r, gone, hr, h => by
    have := HeldOrGone.run rest (hr.call w c) (h.call hr w c)
    simpa only [Registry.run, List.exists_mem_cons_iff, or_assoc] using this

/-- **Two gets give out one session** exactly if their paths lead to one location and that was not
discarded in between. -/
theorem serial_eq_iff {r : Registry} (hr : WellKept r) {w w' : World} {path path' : Path}
    {between : List (World × Call)} {n n' : Nat} {s s' : Session}
    (h : (r.get w path).1 = .ok (n, s))
    (h' : ((r.run ((w, .get path) :: between)).get w' path').1 = .ok (n', s')) :
    n' = n ↔ path'.resolve w'.cwd = path.resolve w.cwd ∧
      ∀ x ∈ between, ¬ Discards x.1 (path.resolve w.cwd) x.2 := by
  have hrun : r.run ((w, .get path) :: between) = (r.get w path).2.run between := rfl
  rw [hrun] at h'
  obtain ⟨l, hl, hs, -⟩ := get?_get h
  obtain ⟨l', hl', -, hn'⟩ := get?_get h'
  obtain ⟨-, rfl⟩ := World.locate_eq_ok_iff.mp hl
  obtain ⟨-, rfl⟩ := World.locate_eq_ok_iff.mp hl'
  have hkept : WellKept (r.get w path).2 := hr.call w (.get path)
  have hheld : (r.get w path).2.serialAt (path.resolve w.cwd) = some n := by
    rw [serialAt, hs]
    rfl
  have hstart : HeldOrGone (r.get w path).2 (path.resolve w.cwd) n False :=
    ⟨hkept.serial_lt _ n hheld, fun _ => hheld, False.elim⟩
  obtain ⟨hlt, hstill, hgone⟩ := HeldOrGone.run between hkept hstart
  have hkept' : WellKept ((r.get w path).2.run between) := hkept.run
  simp only [false_or, not_exists, not_and] at hstill hgone
  constructor
  · rintro rfl
    have hfound := hn'.resolve_right fun hnew => by omega
    have hkeep : ∀ x ∈ between, ¬ Discards x.1 (path.resolve w.cwd) x.2 := fun x hx hd =>
      hgone ⟨x, hx, hd⟩ _ hfound
    exact ⟨hkept'.serial_inj _ _ n' hfound (hstill hkeep), hkeep⟩
  · rintro ⟨hsame, hkeep⟩
    rw [hsame, hstill hkeep] at hn'
    rcases hn' with hn' | ⟨hnone, -⟩
    · exact (Option.some.inj hn').symm
    · cases hnone

/-! ### Runs from an empty registry -/

theorem get_succeeds_iff {w : World} {r : Registry} {path : Path} :
    (∃ found, (r.get w path).1 = .ok found) ↔ path.hasNul = false ∧
      ((r.serialAt (path.resolve w.cwd)).isSome ∨
        ∃ s, (Session.start w (.ofLocation (path.resolve w.cwd)) r.shared).outcome = .ok s) := by
  have hgot := got w r path
  generalize r.get w path = result at hgot ⊢
  cases hgot with
  | lost hl =>
    refine iff_of_false (by rintro ⟨_, ⟨⟩⟩) fun h => ?_
    rw [World.locate_eq_ok_iff.mpr ⟨h.1, rfl⟩] at hl
    cases hl
  | held hl hs =>
    obtain ⟨hnul, rfl⟩ := World.locate_eq_ok_iff.mp hl
    exact iff_of_true ⟨_, rfl⟩ ⟨hnul, Or.inl (by rw [serialAt, hs]; rfl)⟩
  | failed hl hs he =>
    obtain ⟨hnul, rfl⟩ := World.locate_eq_ok_iff.mp hl
    refine iff_of_false (by rintro ⟨_, ⟨⟩⟩) ?_
    rintro ⟨-, h | ⟨s, h⟩⟩
    · rw [serialAt, hs] at h
      cases h
    · rw [he] at h
      cases h
  | started hl hs he =>
    obtain ⟨hnul, rfl⟩ := World.locate_eq_ok_iff.mp hl
    exact iff_of_true ⟨_, rfl⟩ ⟨hnul, Or.inr ⟨_, he⟩⟩

/-- Paths that lead to one location are one path to a registry. -/
theorem get_congr {w : World} (r : Registry) {path path' : Path} {l : Location}
    (h : w.locate path = .ok l) (h' : w.locate path' = .ok l) : r.get w path = r.get w path' := by
  unfold get
  rw [h, h']

/-- **What a registry holds after any run from an empty one.** Each location that was got and not
discarded since is held once, and no other is; their number is the size. A get gives out the session
that is held from then on; it succeeds if one is held or can be started. Two gets give out one
session exactly if their paths lead to one location that was not discarded in between. Locating is
idempotent, also through the text of a location and in another world. So a path that a server has
located from its working directory selects the session that any other spelling of it selects. -/
theorem run_holds_one_session (config : Option Table) (calls : List (World × Call)) :
    let empty : Registry := { shared := config }
    let r := empty.run calls
    (Assoc.keys r.sessions).Nodup ∧
    (∀ l, l ∈ Assoc.keys r.sessions ↔ Live empty calls l) ∧
    r.size = {l | Live empty calls l}.ncard ∧
    (∀ w path n s, (r.get w path).1 = .ok (n, s) →
      Assoc.get? (r.get w path).2.sessions (path.resolve w.cwd) = some (n, s)) ∧
    (∀ w path, (∃ found, (r.get w path).1 = .ok found) ↔ path.hasNul = false ∧
      (Live empty calls (path.resolve w.cwd) ∨
        ∃ s, (Session.start w (.ofLocation (path.resolve w.cwd)) r.shared).outcome = .ok s)) ∧
    (∀ w path n s between w' path' n' s', (r.get w path).1 = .ok (n, s) →
      ((r.run ((w, .get path) :: between)).get w' path').1 = .ok (n', s') →
      (n' = n ↔ path'.resolve w'.cwd = path.resolve w.cwd ∧
        ∀ x ∈ between, ¬ Discards x.1 (path.resolve w.cwd) x.2)) ∧
    (∀ w : World, Path.IsNormal w.cwd → ∀ text l, w.locate (.ofString text) = .ok l → ∀ w' : World,
      w'.locate (.ofLocation l) = .ok l ∧
      w'.locate (.ofString (Path.ofLocation l).text) = .ok l) ∧
    (∀ w : World, Path.IsNormal w.cwd → ∀ directory text other l,
      w.locate ((Path.ofString directory).join (.ofString text)) = .ok l →
      w.locate (.ofString other) = .ok l →
      ∃ path, Server.locate w (.ofString directory) (.ofString text) = .ok path ∧
        r.get w path = r.get w (.ofString other)) := by
  intro empty r
  have hkept : WellKept r := (wellKept_empty config).run
  have hlive : ∀ l, (r.serialAt l).isSome ↔ Live empty calls l := fun l =>
    serialAt_run_isSome_iff.trans (or_iff_left fun h => by cases h.1)
  have hkeys : ∀ l, l ∈ Assoc.keys r.sessions ↔ Live empty calls l := fun l =>
    mem_keys_iff_serialAt.trans (hlive l)
  refine ⟨hkept.nodup, hkeys, ?_, ?_, ?_, ?_, ?_, ?_⟩
  · have hset : {l | Live empty calls l} = ↑(Assoc.keys r.sessions).toFinset := by
      ext l
      rw [Set.mem_ofPred_eq, List.coe_toFinset, Set.mem_ofPred_eq, hkeys]
    rw [hset, Set.ncard_coe_finset, List.toFinset_card_of_nodup hkept.nodup, Assoc.keys,
      List.length_map]
    rfl
  · intro w path n s h
    obtain ⟨l, hl, hs, -⟩ := get?_get h
    obtain ⟨-, rfl⟩ := World.locate_eq_ok_iff.mp hl
    exact hs
  · intro w path
    rw [← hlive]
    exact get_succeeds_iff
  · intro w path n s between w' path' n' s' h h'
    exact serial_eq_iff hkept h h'
  · intro w hcwd text l hl w'
    have hnormal := World.isNormal_of_locate hcwd (Path.isCut_ofString text) hl
    rw [Path.ofString_text hnormal]
    exact ⟨World.locate_ofLocation hnormal w', World.locate_ofLocation hnormal w'⟩
  · intro w hcwd directory text other l hl hother
    have hcut := Path.isCut_join (Path.isCut_ofString directory) (Path.isCut_ofString text)
    have hnormal := World.isNormal_of_locate hcwd hcut hl
    refine ⟨.ofLocation l, ?_, get_congr r (World.locate_ofLocation hnormal w) hother⟩
    unfold Server.locate
    rw [hl]
    rfl

/-- A world with the current directory `/w`. -/
def sampleWorld : World := Snapshot.toWorld { cwd := ["w"] }

/-- The document `d` is got, and another one discarded. -/
def sampleCalls : List (World × Call) :=
  [(sampleWorld, .get (.ofString "d")), (sampleWorld, .discard (.ofString "//w/e"))]

/-- Afterwards `../w/./d/` gives out the session that `d` gave out, and so does the path that a
server in `/w/sub` makes of `../d`. -/
theorem sampleCalls_hold_one_session :
    let r := ({ shared := some [] } : Registry).run sampleCalls
    (∃ n s n' s', (({ shared := some [] } : Registry).get sampleWorld (.ofString "d")).1 =
        .ok (n, s) ∧
      (r.get sampleWorld (.ofString "../w/./d/")).1 = .ok (n', s') ∧ n' = n) ∧
    ∃ path, Server.locate sampleWorld (.ofString "/w/sub") (.ofString "../d") = .ok path ∧
      r.get sampleWorld path = r.get sampleWorld (.ofString "../w/./d/") := by
  obtain ⟨-, -, -, -, -, hsame, -⟩ := run_holds_one_session (some []) []
  obtain ⟨-, -, -, -, -, -, -, hserver⟩ := run_holds_one_session (some []) sampleCalls
  refine ⟨⟨_, _, _, _, rfl, rfl, ?_⟩, hserver sampleWorld (by decide) _ _ _ ["w", "d"] rfl rfl⟩
  refine (hsame sampleWorld (.ofString "d") _ _ [(sampleWorld, .discard (.ofString "//w/e"))]
    sampleWorld (.ofString "../w/./d/") _ _ rfl rfl).mpr ⟨by decide, ?_⟩
  intro x hx
  rw [List.mem_singleton.mp hx]
  rintro ⟨_, ⟨⟩, h⟩
  exact absurd h (by decide)

end Registry

end CrossRef

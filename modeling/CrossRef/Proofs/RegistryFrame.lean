import CrossRef.Proofs.RegistryRuns
import CrossRef.Proofs.SessionRuns

/-! # What a call on a registry leaves alone

Every call on a registry is about one document, or about none if its path cannot be located. Here it
is shown that it leaves the sessions of all other documents as they are, whatever the call is and
however it ends, and that a session that cannot be started leaves the registry itself as it is. The
sessions of a registry may share their settings, which are changed in place; what was built is never
shared, and `Holding` is this part of a session.

* `holdingAt_call_of_not_about`, `holdingAt_run`: one call and a whole run leave what is held for
  another document.
* `keys_call_of_about`: no call adds or removes another document.
* `get?_call_on`: on its own document an operation does what it does to the session alone.
* `get_of_usable`: a get of a document without a session starts one if the settings can be used.
* `calls_keep_other_sessions`: all of it, for every registry. -/

namespace CrossRef

namespace Assoc

variable {κ ν : Type} [DecidableEq κ]

theorem put_of_not_mem {k : κ} (v : ν) : ∀ {m : Assoc κ ν}, k ∉ keys m → put m k v = m ++ [(k, v)]
  | [], _ => rfl
  | (j, u) :: m, h => by
    have hj : j ≠ k := fun e => h (by simp [keys, e])
    have hm : k ∉ keys m := fun hm => h (List.mem_cons_of_mem j hm)
    rw [put, if_neg hj, put_of_not_mem v hm]
    rfl

/-- Putting back what is there changes nothing. -/
theorem put_of_get? {k : κ} {v : ν} : ∀ {m : Assoc κ ν}, get? m k = some v → put m k v = m
  | [], h => by cases h
  | (j, u) :: m, h => by
    rw [get?_cons] at h
    rw [put]
    split at h
    · next hj =>
      obtain rfl := Option.some.inj h
      rw [if_pos hj]
    · next hj => rw [if_neg hj, put_of_get? h]

theorem put_put {k : κ} (u v : ν) : ∀ m : Assoc κ ν, put (put m k u) k v = put m k v
  | [] => by simp [put]
  | (j, x) :: m => by
    by_cases hj : j = k
    · simp [put, hj]
    · simp [put, hj, put_put u v m]

theorem mem_keys_put {k k' : κ} (v : ν) (m : Assoc κ ν) :
    k' ∈ keys (put m k v) ↔ k' ∈ keys m ∨ k' = k := by
  by_cases h : k ∈ keys m
  · rw [keys_put_of_mem h]
    exact ⟨Or.inl, fun h' => h'.elim id fun e => e ▸ h⟩
  · rw [keys_put_of_not_mem h, List.mem_append, List.mem_singleton]

end Assoc

namespace Registry

/-! ### What is held for a document -/

/-- **What is held for a document:** the number of its session, and all that its builds have left
there. -/
structure Holding where
  serial : Nat
  phase : Phase
  index : Option Index
  anomalies : List Anomaly
  builtAt : Option Nat
  deriving DecidableEq, Repr

/-- What a numbered session holds. -/
def Holding.of (p : Nat × Session) : Holding :=
  ⟨p.1, p.2.phase, p.2.index, p.2.anomalies, p.2.builtAt⟩

/-- What is held for the document at a location, if it has a session. -/
def holdingAt (r : Registry) (l : Location) : Option Holding :=
  (Assoc.get? r.sessions l).map .of

/-- The path that a call is about. -/
def Call.subject : Call → Path
  | .get path | .on path _ | .discard path => path

/-- **The call is about the document at `l`.** -/
def About (w : World) (l : Location) (c : Call) : Prop := w.locate c.subject = .ok l

theorem About.unique {w : World} {l l' : Location} {c : Call} (h : About w l c)
    (h' : About w l' c) : l = l' := Except.ok.inj (h.symm.trans h')

theorem Gets.about {w : World} {r : Registry} {l : Location} {c : Call} (h : Gets w r l c) :
    About w l c := by
  obtain ⟨path, hpath, hl, -⟩ := h
  cases c <;> cases hpath <;> exact hl

theorem Discards.about {w : World} {l : Location} {c : Call} (h : Discards w l c) :
    About w l c := by
  obtain ⟨path, rfl, hl⟩ := h
  exact hl

/-! ### Other documents -/

theorem holdingAt_share (r : Registry) (t : Table) (l : Location) :
    (r.share t).holdingAt l = r.holdingAt l := by
  unfold share
  split
  · rfl
  · have := Assoc.get?_map (fun p : Nat × Session => (p.1, { p.2 with settings := t })) l r.sessions
    simp only [holdingAt, this, Option.map_map]
    rfl

/-- A session put in place for another document changes nothing here. -/
theorem holdingAt_put {r r' : Registry} {l l' : Location} {p : Nat × Session} (hl : l' ≠ l)
    (hr : r'.sessions = Assoc.put r.sessions l p) : r'.holdingAt l' = r.holdingAt l' := by
  unfold holdingAt
  rw [hr, Assoc.get?_put_of_ne hl]

theorem holdingAt_get {w : World} {r : Registry} {path : Path} {l : Location}
    (hl : w.locate path ≠ .ok l) : (r.get w path).2.holdingAt l = r.holdingAt l := by
  have hgot := got w r path
  generalize r.get w path = result at hgot ⊢
  cases hgot with
  | lost hl' => rfl
  | held hl' hs => rfl
  | failed hl' hs he => rfl
  | @started l' s hl' hs he =>
    have hne : l ≠ l' := fun e => hl (e ▸ hl')
    exact holdingAt_put hne rfl

theorem holdingAt_step {w : World} {r : Registry} {path : Path} {op : Session.Op} {l : Location}
    (hl : w.locate path ≠ .ok l) : (r.step w path op).2.holdingAt l = r.holdingAt l := by
  have hget := holdingAt_get (r := r) hl
  unfold step
  rcases hr : r.get w path with ⟨_ | ⟨n, s⟩, r'⟩
  · rw [hr] at hget
    exact hget
  · obtain ⟨l', hl', -, -⟩ := get?_get (show (r.get w path).1 = .ok (n, s) by rw [hr])
    obtain ⟨hnul, rfl⟩ := World.locate_eq_ok_iff.mp hl'
    rw [hr] at hget
    have hne : l ≠ path.resolve w.cwd := fun e => hl (e ▸ hl')
    calc ((r'.store w path n (s.step w op).2).share (s.step w op).2.settings).holdingAt l
        = (r'.store w path n (s.step w op).2).holdingAt l := holdingAt_share ..
      _ = r'.holdingAt l := holdingAt_put hne rfl
      _ = r.holdingAt l := hget

/-- **One call** leaves what is held for a document that it is not about. -/
theorem holdingAt_call_of_not_about {w : World} {r : Registry} {c : Call} {l : Location}
    (hl : ¬ About w l c) : (r.call w c).holdingAt l = r.holdingAt l := by
  cases c with
  | get path => exact holdingAt_get hl
  | on path op => exact holdingAt_step hl
  | discard path =>
    rw [call_discard]
    rcases hl' : w.locate path with f | l'
    · rfl
    · have hne : l ≠ l' := fun e => hl (e ▸ hl')
      simp only [holdingAt, Assoc.get?_erase_of_ne hne]

/-- **A whole run** leaves what is held for a document that no call of it is about. -/
theorem holdingAt_run {l : Location} : ∀ {calls : List (World × Call)} {r : Registry},
    (∀ x ∈ calls, ¬ About x.1 l x.2) → (r.run calls).holdingAt l = r.holdingAt l
  | [], _, _ => rfl
  | (w, c) :: rest, r, h => by
    rw [List.forall_mem_cons] at h
    rw [run, holdingAt_run h.2, holdingAt_call_of_not_about h.1]

/-- **A call adds or removes no document but its own.** -/
theorem keys_call_of_about {w : World} {r : Registry} {c : Call} {l : Location}
    (hl : About w l c) :
    (Assoc.keys (r.call w c).sessions).filter (· ≠ l) =
      (Assoc.keys r.sessions).filter (· ≠ l) := by
  cases effect_call w r c with
  | stays hkeys => rw [hkeys]
  | starts l₀ hgets hnew hkeys =>
    obtain rfl := hgets.about.unique hl
    rw [hkeys, List.filter_append]
    simp
  | discards l₀ hdiscards hkeys =>
    obtain rfl := hdiscards.about.unique hl
    rw [hkeys, List.filter_filter]
    simp

/-- A call whose path cannot be located does nothing. -/
theorem call_of_lost {w : World} {r : Registry} {c : Call} {f : Fault}
    (hf : w.locate c.subject = .error f) : r.call w c = r := by
  have hget {path : Path} (h : w.locate path = .error f) :
      r.get w path = (.error (.fault f), r) := by
    unfold get
    rw [h]
  cases c with
  | get path => exact congrArg Prod.snd (hget hf)
  | on path op =>
    have hf' : w.locate path = .error f := hf
    show (r.step w path op).2 = r
    unfold step
    rw [hget hf']
  | discard path =>
    have hf' : w.locate path = .error f := hf
    rw [call_discard, hf']

/-! ### The document itself -/

/-- **On its own document** an operation leaves what it leaves of the session. -/
theorem get?_call_on {w : World} {r : Registry} {path : Path} {l : Location} {n : Nat} {s : Session}
    (hl : w.locate path = .ok l) (h : (r.get w path).1 = .ok (n, s)) (op : Session.Op) :
    Assoc.get? (r.call w (.on path op)).sessions l = some (n, (s.step w op).2) := by
  obtain ⟨-, rfl⟩ := World.locate_eq_ok_iff.mp hl
  rcases hr : r.get w path with ⟨found, r'⟩
  rw [hr] at h
  subst h
  have hstep : r.call w (.on path op) =
      (r'.store w path n (s.step w op).2).share (s.step w op).2.settings := by
    show (r.step w path op).2 = _
    unfold step
    rw [hr]
  rw [hstep]
  unfold share
  split
  · exact Assoc.get?_put_self ..
  · have := Assoc.get?_map (fun p : Nat × Session =>
      (p.1, { p.2 with settings := (s.step w op).2.settings })) (path.resolve w.cwd)
      (r'.store w path n (s.step w op).2).sessions
    refine this.trans ?_
    rw [store, Assoc.get?_put_self]
    rfl

/-! ### Sessions that cannot be started -/

/-- **A get that fails** leaves the registry as it is, and so does an operation in need of it. -/
theorem call_of_get_error {w : World} {r : Registry} {path : Path} {e : Failure}
    (h : (r.get w path).1 = .error e) :
    r.call w (.get path) = r ∧ ∀ op, r.call w (.on path op) = r := by
  have hsame : r.get w path = (.error e, r) := by
    have hgot := got w r path
    generalize r.get w path = result at h hgot ⊢
    cases hgot with
    | lost hl => cases h; rfl
    | held hl hs => cases h
    | failed hl hs he => cases h; rfl
    | started hl hs he => cases h
  refine ⟨congrArg Prod.snd hsame, fun op => ?_⟩
  show (r.step w path op).2 = r
  unfold step
  rw [hsame]

/-- The settings with which a session for the document at `l` is started: those that are shared,
else those that hold for the document. -/
def settingsFor (w : World) (r : Registry) (l : Location) : Except Failure Table :=
  match r.shared with
  | some t => .ok t
  | none => (Config.effective w none (Path.ofLocation l).parent true).outcome

/-- **The settings can be used** for a session of the document at `l`: they are `t`, and describe
the markup parser `p`. -/
def Usable (w : World) (r : Registry) (l : Location) (t : Table) (p : MarkupParser) : Prop :=
  r.settingsFor w l = .ok t ∧ MarkupParser.ofConfig t = .ok p

theorem start_eq_ok_iff {w : World} {r : Registry} {l : Location} {s : Session} :
    (Session.start w (.ofLocation l) r.shared).outcome = .ok s ↔
      ∃ t p, r.Usable w l t p ∧ s = { path := .ofLocation l, settings := t, parser := p } := by
  have hstart : (Session.start w (.ofLocation l) r.shared).outcome =
      (r.settingsFor w l).bind fun t =>
        ((MarkupParser.ofConfig t).mapError .fault).bind fun p =>
          .ok { path := .ofLocation l, settings := t, parser := p } := by
    unfold Session.start settingsFor
    rcases r.shared with _ | t <;>
      simp only [Traced.outcome_bind, Traced.outcome_ofFault, Traced.outcome_pure]
  rw [hstart]
  simp only [bind_eq_ok_iff, mapError_eq_ok_iff, Except.ok.injEq, Usable]
  constructor
  · rintro ⟨t, ht, p, hp, rfl⟩
    exact ⟨t, p, ⟨ht, hp⟩, rfl⟩
  · rintro ⟨t, p, ⟨ht, hp⟩, rfl⟩
    exact ⟨t, ht, p, hp, rfl⟩

/-- Where there is no session, a get fails exactly if the settings cannot be used. -/
theorem get_fails_iff {w : World} {r : Registry} {path : Path} {l : Location}
    (hl : w.locate path = .ok l) (hnew : l ∉ Assoc.keys r.sessions) :
    (∃ e, (r.get w path).1 = .error e) ↔ ¬ ∃ t p, r.Usable w l t p := by
  have hs := Assoc.get?_eq_none_iff.mpr hnew
  have hget : r.get w path = r.getAt w l := by
    unfold get
    rw [hl]
  rw [hget]
  unfold getAt
  rw [hs]
  rcases ho : (Session.start w (.ofLocation l) r.shared).outcome with e | s
  · refine iff_of_true ⟨e, rfl⟩ ?_
    rintro ⟨t, p, hp⟩
    rw [start_eq_ok_iff.mpr ⟨t, p, hp, rfl⟩] at ho
    cases ho
  · obtain ⟨t, p, hp, -⟩ := start_eq_ok_iff.mp ho
    exact iff_of_false (by rintro ⟨_, ⟨⟩⟩) (not_not_intro ⟨t, p, hp⟩)

/-- **A get of a document without a session** starts one, if the settings can be used, and puts it
behind all others. -/
theorem get_of_usable {w : World} {r : Registry} {path : Path} {l : Location} {t : Table}
    {p : MarkupParser} (hl : w.locate path = .ok l) (hnew : l ∉ Assoc.keys r.sessions)
    (hp : r.Usable w l t p) :
    let s : Session := { path := .ofLocation l, settings := t, parser := p }
    r.get w path = (.ok (r.started, s),
      { r with sessions := r.sessions ++ [(l, r.started, s)], started := r.started + 1 }) := by
  intro s
  have hget : r.get w path = r.getAt w l := by
    unfold get
    rw [hl]
  rw [hget]
  unfold getAt
  rw [Assoc.get?_eq_none_iff.mpr hnew, start_eq_ok_iff.mpr ⟨t, p, hp, rfl⟩]
  simp only [Assoc.put_of_not_mem _ hnew]
  rfl

theorem not_mem_keys_of_get_error {w : World} {r : Registry} {path : Path} {l : Location}
    {e : Failure} (hl : w.locate path = .ok l) (h : (r.get w path).1 = .error e) :
    l ∉ Assoc.keys r.sessions := by
  rw [← Assoc.get?_eq_none_iff]
  have hgot := got w r path
  generalize r.get w path = result at h hgot
  cases hgot with
  | lost hl' =>
    rw [hl] at hl'
    cases hl'
  | held hl' hs => cases h
  | failed hl' hs he =>
    obtain rfl := Except.ok.inj (hl.symm.trans hl')
    exact hs
  | started hl' hs he => cases h

/-! ### All calls -/

/-- **What calls on a registry leave alone,** for every registry and so after every run.

A run of calls leaves what is held for a document that no call of it is about: the session, its
phase, its index, its anomalies and its time. A call adds or removes no document but its own; a call
whose path cannot be located does nothing; and an operation does to the session of its own document
what it does to that session alone.

A get that fails leaves the registry as it is, and so does an operation in need of it. If the path
could be located, the failure is that the document has no session and the settings cannot be used.
As soon as they can be, in any later world and after any calls that left the document without a
session, a get of it under any spelling starts a fresh, empty session and registers it. -/
theorem calls_keep_other_sessions (r : Registry) :
    (∀ calls l, (∀ x ∈ calls, ¬ About x.1 l x.2) → (r.run calls).holdingAt l = r.holdingAt l) ∧
    (∀ w c l, About w l c →
      (Assoc.keys (r.call w c).sessions).filter (· ≠ l) =
        (Assoc.keys r.sessions).filter (· ≠ l)) ∧
    (∀ w c, (∀ l, ¬ About w l c) → r.call w c = r) ∧
    (∀ w path l n s op, w.locate path = .ok l → (r.get w path).1 = .ok (n, s) →
      Assoc.get? (r.call w (.on path op)).sessions l = some (n, (s.step w op).2)) ∧
    (∀ w path e, (r.get w path).1 = .error e →
      r.call w (.get path) = r ∧ (∀ op, r.call w (.on path op) = r) ∧
      ∀ l, w.locate path = .ok l →
        l ∉ Assoc.keys r.sessions ∧ (¬ ∃ t p, r.Usable w l t p) ∧
        ∀ between, ¬ Live r between l → ∀ w' path' t p,
          let r' := (r.call w (.get path)).run between
          w'.locate path' = .ok l → r'.Usable w' l t p →
          ∃ s, s.IsFresh ∧ s.path = .ofLocation l ∧ s.settings = t ∧ s.parser = p ∧
            (r'.get w' path').1 = .ok (r'.started, s) ∧
            (r'.call w' (.get path')).sessions = r'.sessions ++ [(l, r'.started, s)] ∧
            (r'.call w' (.get path')).size = r'.size + 1) := by
  refine ⟨fun calls l => holdingAt_run, fun w c l => keys_call_of_about, ?_,
    fun w path l n s op hl h => get?_call_on hl h op, ?_⟩
  · intro w c hlost
    rcases hl : w.locate c.subject with f | l
    · exact call_of_lost hl
    · exact absurd hl (hlost l)
  · intro w path e he
    obtain ⟨hget, hon⟩ := call_of_get_error he
    refine ⟨hget, hon, fun l hl => ?_⟩
    have hnew := not_mem_keys_of_get_error hl he
    refine ⟨hnew, (get_fails_iff hl hnew).mp ⟨e, he⟩, ?_⟩
    intro between hbetween w' path' t p r' hl' hp
    have hr' : r' = r.run between := by
      show (r.call w (.get path)).run between = _
      rw [hget]
    -- what was not held before and did not come to be held on the way is not held now
    have hnew' : l ∉ Assoc.keys r'.sessions := by
      rw [hr', mem_keys_iff_serialAt, serialAt_run_isSome_iff]
      rintro (h | ⟨h, -⟩)
      · exact hbetween h
      · exact hnew (mem_keys_iff_serialAt.mpr h)
    have hstarted := get_of_usable hl' hnew' hp
    have hcall : r'.call w' (.get path') = (r'.get w' path').2 := rfl
    refine ⟨{ path := .ofLocation l, settings := t, parser := p }, ⟨rfl, rfl, rfl, rfl⟩, rfl, rfl,
      rfl, ?_, ?_, ?_⟩
    · rw [hstarted]
    · rw [hcall, hstarted]
    · rw [hcall, hstarted, size, size, List.length_append]
      rfl

/-- The directory `/w` with a configuration file of the given text. -/
def configuredWorld (text : String) : World :=
  Snapshot.toWorld
    { cwd := ["w"]
      nodes := [(["w"], .directory), (["w", Config.fileName], .file text.toUTF8.toList)] }

/-- A registry without a shared configuration that holds a session for `/e`. -/
def sampleRegistry : Registry := ({} : Registry).run [(configuredWorld "", .get (.ofString "/e"))]

/-- A rebuild of `/w/d` fails while its configuration file is broken, and leaves the registry and
the session for `/e` in it as they are. Once the file is repaired, a get of `/w/d` under another
spelling registers an empty session. -/
theorem get_after_repair :
    (∃ e, (sampleRegistry.get (configuredWorld "x") (.ofString "d")).1 = .error e) ∧
    sampleRegistry.call (configuredWorld "x") (.on (.ofString "d") .rebuild) = sampleRegistry ∧
    (∃ s, s.IsFresh ∧
      (sampleRegistry.get (configuredWorld "") (.ofString "./d/")).1 = .ok (1, s)) ∧
    (sampleRegistry.run [(configuredWorld "", .on (.ofString "d") .rebuild)]).holdingAt ["e"] =
      sampleRegistry.holdingAt ["e"] ∧
    (sampleRegistry.holdingAt ["e"]).isSome := by
  obtain ⟨hrun, -, -, -, hfails⟩ := calls_keep_other_sessions sampleRegistry
  have hbroken :
      (sampleRegistry.get (configuredWorld "x") (.ofString "d")).1.toOption.isNone := by
    decide +kernel
  obtain ⟨e, he⟩ := toOption_eq_none_iff.mp (Option.isNone_iff_eq_none.mp hbroken)
  have hparser : ((sampleRegistry.settingsFor (configuredWorld "") ["w", "d"]).bind fun t =>
      (MarkupParser.ofConfig t).mapError .fault).toOption.isSome := by
    decide +kernel
  obtain ⟨p, hp⟩ := Option.isSome_iff_exists.mp hparser
  obtain ⟨t, ht, hp⟩ := bind_eq_ok_iff.mp (toOption_eq_some_iff.mp hp)
  obtain ⟨hget, hon, hlater⟩ := hfails _ _ e he
  obtain ⟨-, -, hlater⟩ := hlater ["w", "d"] rfl
  rw [hget] at hlater
  obtain ⟨s, hs, -, -, -, hstarted, -⟩ := hlater [] live_nil (configuredWorld "") (.ofString "./d/")
    t p rfl ⟨ht, mapError_eq_ok_iff.mp hp⟩
  refine ⟨⟨e, he⟩, hon .rebuild, ⟨s, hs, hstarted⟩, hrun _ _ ?_, by decide +kernel⟩
  intro x hx
  rw [List.mem_singleton.mp hx]
  exact fun h => absurd (World.locate_eq_ok_iff.mp h).2 (by decide)

end Registry

end CrossRef

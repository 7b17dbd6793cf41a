import CrossRef.Proofs.SessionRuns

/-! # Builds that are looked at

A rebuild is not over at once: the session is marked as building, the markup parser runs, the index
is made, and its parts are stored one after the other. In between others may look at the session,
that is, ask for its state, for the listing or for a declaration. Here a rebuild is taken apart into
its steps, with any number of looks, each in a world of its own, before, between and behind them.

Only one build goes on at a time, and all other operations wait for it. So what was done stands in
one order, and a session that was looked at is compared with a session on which the same was done in
that order and at one go.

* `Stage`, `Course.advance`: the steps of a build.
* `Live.act`, `Live.run`: a session with a build in progress, and what happens to it.
* `Course.Fits`: the invariant, what the steps so far made of the session on which the build began.
* `act_tracks`, `run_tracks`: one step and a whole run keep it.
* `observed_run_serves`: what is seen by those who look, and that looking changes nothing. -/

namespace CrossRef.Session

/-! ### The steps of a build -/

/-- **How far a build has come.** -/
inductive Stage where
  | begun
  | parsed (events : List Event)
  | sensed (events : List Event) (policy : Bool)
  | decided (events : List Event) (policy refuses : Bool)
  | made (b : Build)
  | indexStored (b : Build)
  | anomaliesStored (b : Build)
  | timeStored (b : Build)
  | failed (e : Failure)

/-- The stage after a step that may fail. -/
def Stage.after {α : Type} (next : α → Stage) : Except Failure α → Stage
  | .ok a => next a
  | .error e => .failed e

/-- **A build in progress:** the world that it sees, the phase in which it began, and how far it has
come. -/
structure Course where
  world : World
  before : Phase
  stage : Stage

/-- **One step of a build** on a session: the session afterwards, and the next stage or how the
build ended. The session becomes ready with the last step, when all parts of the index are there. -/
def Course.advance (c : Course) (s : Session) : Session × (Stage ⊕ Except Failure Build) :=
  match c.stage with
  | .begun => (s, .inl (.after .parsed (s.parser.events c.world s.path.text).outcome))
  | .parsed events =>
    (s, .inl (.after (.sensed events) ((s.caseSensitive c.world).mapError .fault)))
  | .sensed events policy => (s, .inl (.after (.decided events policy) (s.strict.mapError .fault)))
  | .decided events policy refuses =>
    (s, .inl (.after .made (indexEvents policy refuses events).outcome))
  | .made b => ({ s with index := some b.index }, .inl (.indexStored b))
  | .indexStored b => ({ s with anomalies := b.anomalies }, .inl (.anomaliesStored b))
  | .anomaliesStored b => ({ s with builtAt := some c.world.clock }, .inl (.timeStored b))
  | .timeStored b => ({ s with phase := .ready }, .inr (.ok b))
  | .failed e => (s.rollback c.before, .inr (.error e))

/-! ### A session that is looked at -/

/-- **A session, and the build in progress on it,** if there is one. -/
structure Live where
  session : Session
  course : Option Course := none

/-- The operation only looks at the session. -/
def Op.isLook : Op → Bool
  | .resolve .. | .render | .status => true
  | _ => false

/-- What may happen to a session: an operation at one go, the beginning of a rebuild, or the next
step of the build in progress. -/
inductive Act where
  | call (w : World) (op : Op)
  | begin (w : World)
  | advance

/-- It is only looked at the session. -/
def Act.isLook : Act → Bool
  | .call _ op => op.isLook
  | _ => false

/-- An operation that was done, and what came of it. -/
structure Done where
  world : World
  op : Op
  outcome : Except Failure Reply

/-- The operation and the world it was done in. -/
def Done.call (d : Done) : World × Op := (d.world, d.op)

namespace Live

/-- **What an act does:** the operation that is done with it, if it is no look and one is, and the
session afterwards. It is possible to look at any time. All other operations have to wait while a
build is in progress. -/
def act (x : Live) : Act → Option (Option Done × Live)
  | .call w op =>
    let (result, s) := x.session.step w op
    if op.isLook then some (none, { x with session := s })
    else if x.course.isNone then some (some ⟨w, op, result.outcome⟩, { x with session := s })
    else none
  | .begin w =>
    match x.course with
    | none => some (none, ⟨x.session.begin, some ⟨w, x.session.phase, .begun⟩⟩)
    | some _ => none
  | .advance =>
    match x.course with
    | none => none
    | some c =>
      match c.advance x.session with
      | (s, .inl stage) => some (none, ⟨s, some { c with stage }⟩)
      | (s, .inr outcome) => some (some ⟨c.world, .rebuild, outcome.map .built⟩, ⟨s, none⟩)

/-- **What a sequence of acts does,** in the order in which it is done, if none of them has to
wait. -/
def run (x : Live) : List Act → Option (List Done × Live)
  | [] => some ([], x)
  | a :: rest => do
    let (done, x') ← x.act a
    let (log, x'') ← x'.run rest
    pure (done.toList ++ log, x'')

theorem run_cons_eq_some_iff {x x'' : Live} {a : Act} {rest : List Act} {log : List Done} :
    x.run (a :: rest) = some (log, x'') ↔ ∃ done x' log', x.act a = some (done, x') ∧
      x'.run rest = some (log', x'') ∧ log = done.toList ++ log' := by
  simp only [run, Option.bind_eq_bind, Option.bind_eq_some_iff, Option.pure_def, Option.some.injEq,
    Prod.mk.injEq, Prod.exists]
  constructor
  · rintro ⟨done, x', hact, log', _, hrun, rfl, rfl⟩
    exact ⟨done, x', log', hact, hrun, rfl⟩
  · rintro ⟨done, x', log', hact, hrun, rfl⟩
    exact ⟨done, x', hact, log', x'', hrun, rfl, rfl⟩

end Live

/-! ### Looks -/

theorem step_of_isLook {op : Op} (h : op.isLook = true) (w : World) (s : Session) :
    (s.step w op).2 = s := by
  cases op with
  | resolve identifier text => rfl
  | render => rfl
  | status => rfl
  | _ => cases h

/-- **A look changes nothing,** whether a build is in progress or not. -/
theorem act_of_isLook {a : Act} (h : a.isLook = true) (x : Live) : x.act a = some (none, x) := by
  cases a with
  | call w op =>
    have hop : op.isLook = true := h
    simp only [Live.act, if_pos hop, step_of_isLook hop]
  | begin w => cases h
  | advance => cases h

/-- What is done is the same without the looks. -/
theorem run_filter_isLook : ∀ (acts : List Act) (x : Live),
    x.run (acts.filter fun a => !a.isLook) = x.run acts
  | [], _ => rfl
  | a :: rest, x => by
    rcases ha : a.isLook with _ | _
    · rw [List.filter_cons_of_pos (by simp [ha])]
      simp only [Live.run, run_filter_isLook rest]
    · rw [List.filter_cons_of_neg (by simp [ha]), run_filter_isLook rest x]
      simp only [Live.run, act_of_isLook ha]
      exact (Option.bind_fun_some (x.run rest)).symm

/-! ### A build on its course -/

/-- The session at a stage of a build that began on the session `base`. -/
def Stage.session (w : World) (base : Session) : Stage → Session
  | .indexStored b => { base.begin with index := some b.index }
  | .anomaliesStored b => { base.begin with index := some b.index, anomalies := b.anomalies }
  | .timeStored b =>
    { base.begin with
      index := some b.index, anomalies := b.anomalies, builtAt := some w.clock }
  | _ => base.begin

/-- What is known at a stage of a build that began on the session `base`. -/
def Stage.Known (w : World) (base : Session) : Stage → Prop
  | .begun => True
  | .parsed events => (base.parser.events w base.path.text).outcome = .ok events
  | .sensed events policy =>
    (base.parser.events w base.path.text).outcome = .ok events ∧ base.caseSensitive w = .ok policy
  | .decided events policy refuses =>
    (base.parser.events w base.path.text).outcome = .ok events ∧
      base.caseSensitive w = .ok policy ∧ base.strict = .ok refuses
  | .made b | .indexStored b | .anomaliesStored b | .timeStored b =>
    (base.attempt w).outcome = .ok b
  | .failed e => (base.attempt w).outcome = .error e

/-- **The build is on its course:** session and stage are what the steps so far made of the session
on which it began. -/
structure Course.Fits (base : Session) (c : Course) (s : Session) : Prop where
  before_eq : c.before = base.phase
  session_eq : s = c.stage.session c.world base
  known : c.stage.Known c.world base

theorem Course.Fits.phase_eq {base s : Session} {c : Course} (h : c.Fits base s) :
    s.phase = .building := by
  rw [h.session_eq]
  cases c.stage <;> rfl

theorem Course.Fits.path_eq {base s : Session} {c : Course} (h : c.Fits base s) :
    s.path = base.path := by
  rw [h.session_eq]
  cases c.stage <;> rfl

theorem attempt_outcome (w : World) (s : Session) : (s.attempt w).outcome =
    (s.parser.events w s.path.text).outcome.bind fun events =>
      ((s.caseSensitive w).mapError .fault).bind fun policy =>
        (s.strict.mapError .fault).bind fun refuses =>
          (indexEvents policy refuses events).outcome := by
  unfold attempt
  simp only [Traced.outcome_bind, Traced.outcome_ofFault]

/-- A step that may fail, and on whose result the build goes on, keeps it on its course. -/
theorem Course.fits_after {α : Type} {base : Session} {w : World} {x : Except Failure α}
    {next : α → Stage} {k : α → Except Failure Build} (hx : (base.attempt w).outcome = x.bind k)
    (hsession : ∀ a, (next a).session w base = base.begin)
    (hknown : ∀ a, x = .ok a → (next a).Known w base) :
    Course.Fits base ⟨w, base.phase, .after next x⟩ base.begin := by
  rcases x with e | a
  · exact ⟨rfl, rfl, hx⟩
  · exact ⟨rfl, (hsession a).symm, hknown a rfl⟩

/-- How a step of a build that began on the session `base` leaves it: on its course, or with the
session and the outcome of a rebuild at one go. -/
def Course.StaysOn (base : Session) (c : Course) : Session × (Stage ⊕ Except Failure Build) → Prop
  | (s, .inl stage) => Course.Fits base { c with stage } s
  | (s, .inr outcome) =>
    s = (base.rebuild c.world).2 ∧ outcome = (base.rebuild c.world).1.outcome

/-- **One step of a build** that is on its course. -/
theorem Course.Fits.advance {base s : Session} {c : Course} (h : c.Fits base s) :
    c.StaysOn base (c.advance s) := by
  obtain ⟨w, before, stage⟩ := c
  obtain ⟨hbefore, hs, hknown⟩ := h
  dsimp only at hbefore hs hknown
  subst hbefore hs
  have hwhole := attempt_outcome w base
  have hend := rebuild_outcome w base
  cases stage with
  | begun => exact fits_after hwhole (fun _ => rfl) fun _ he => he
  | parsed events =>
    have he : (base.parser.events w base.path.text).outcome = .ok events := hknown
    rw [he] at hwhole
    exact fits_after hwhole (fun _ => rfl) fun _ hp => ⟨he, mapError_eq_ok_iff.mp hp⟩
  | sensed events policy =>
    obtain ⟨he, hp⟩ := hknown
    rw [he, hp] at hwhole
    exact fits_after hwhole (fun _ => rfl) fun _ hr => ⟨he, hp, mapError_eq_ok_iff.mp hr⟩
  | decided events policy refuses =>
    obtain ⟨he, hp, hr⟩ := hknown
    have hmade : (base.attempt w).outcome = (indexEvents policy refuses events).outcome := by
      rw [hwhole, he, hp, hr]
      rfl
    have hlast := hmade.trans (bind_pure (indexEvents policy refuses events).outcome).symm
    exact fits_after hlast (fun _ => rfl) fun _ hb => hmade.trans hb
  | made b => exact ⟨rfl, rfl, hknown⟩
  | indexStored b => exact ⟨rfl, rfl, hknown⟩
  | anomaliesStored b => exact ⟨rfl, rfl, hknown⟩
  | timeStored b =>
    rw [show (base.attempt w).outcome = _ from hknown] at hend
    exact ⟨(rebuild_of_ok hend).symm, hend.symm⟩
  | failed e =>
    rw [show (base.attempt w).outcome = _ from hknown] at hend
    exact ⟨(rebuild_of_error hend).symm, hend.symm⟩

/-! ### What was done, in one order -/

/-- **The operations, done at one go** one after the other, have the outcomes that are noted. -/
def Replays (s : Session) : List Done → Prop
  | [] => True
  | d :: rest =>
    (s.step d.world d.op).1.outcome = d.outcome ∧ Replays (s.step d.world d.op).2 rest

theorem Replays.append {s : Session} {first second : List Done} (h : Replays s first)
    (h' : Replays (s.run (first.map Done.call)) second) : Replays s (first ++ second) := by
  induction first generalizing s with
  | nil => exact h'
  | cons d rest ih => exact ⟨h.1, ih h.2 h'⟩

theorem run_append (s : Session) (first second : List (World × Op)) :
    s.run (first ++ second) = (s.run first).run second := by
  induction first generalizing s with
  | nil => rfl
  | cons p rest ih => exact ih (s.step p.1 p.2).2

theorem step_rebuild_outcome (w : World) (s : Session) :
    (s.step w .rebuild).1.outcome = (s.rebuild w).1.outcome.map .built := by
  show ((s.rebuild w).1 >>= fun b => pure (Reply.built b)).outcome = _
  rw [Traced.outcome_bind]
  rfl

theorem rebuild_path (w : World) (s : Session) : (s.rebuild w).2.path = s.path := by
  rcases h : (s.rebuild w).1.outcome with e | b
  · rw [rebuild_of_error h]
  · rw [rebuild_of_ok h]
    rfl

theorem step_path (w : World) (s : Session) (op : Op) : (s.step w op).2.path = s.path := by
  cases op with
  | rebuild => exact rebuild_path w s
  | ensureReady =>
    show (s.ensureReady w).2.path = s.path
    unfold ensureReady
    split
    · rfl
    · exact rebuild_path w s
  | resolve identifier text => rfl
  | render => rfl
  | status => rfl
  | assign section_ key v =>
    simp only [step]
    split
    · next s' hs =>
      obtain ⟨t, rfl⟩ := assign_eq_ok hs
      rfl
    · rfl
  | setLimit limit => rfl

/-- No run leads to another document. -/
theorem run_path : ∀ (ops : List (World × Op)) (s : Session), (s.run ops).path = s.path
  | [], _ => rfl
  | (w, op) :: rest, s => (run_path rest (s.step w op).2).trans (step_path w s op)

/-- **A session that is looked at, on its course:** it is `base` if no build is in progress, and
else what the steps of the build so far made of `base`. -/
def Tracks (base : Session) (x : Live) : Prop :=
  match x.course with
  | none => x.session = base
  | some c => c.Fits base x.session

/-- **One act** keeps to the order in which the operations are done. -/
theorem act_tracks {base : Session} {x x' : Live} {a : Act} {done : Option Done}
    (h : Tracks base x) (hact : x.act a = some (done, x')) :
    Replays base done.toList ∧ Tracks (base.run (done.toList.map Done.call)) x' := by
  obtain ⟨s, course⟩ := x
  cases a with
  | call w op =>
    rcases hop : op.isLook with _ | _
    · cases course with
      | none =>
        have hs : s = base := h
        subst hs
        simp only [Live.act, hop] at hact
        cases hact
        exact ⟨⟨rfl, trivial⟩, rfl⟩
      | some c => simp [Live.act, hop] at hact
    · rw [act_of_isLook (show (Act.call w op).isLook = true from hop)] at hact
      cases hact
      exact ⟨trivial, h⟩
  | begin w =>
    cases course with
    | none =>
      have hs : s = base := h
      subst hs
      cases hact
      exact ⟨trivial, rfl, rfl, trivial⟩
    | some c => cases hact
  | advance =>
    cases course with
    | none => cases hact
    | some c =>
      have hstep : c.StaysOn base (c.advance s) := Course.Fits.advance h
      simp only [Live.act] at hact
      split at hact
      · next s' stage heq =>
        rw [heq] at hstep
        cases hact
        exact ⟨trivial, hstep⟩
      · next s' outcome heq =>
        rw [heq] at hstep
        obtain ⟨rfl, rfl⟩ := hstep
        cases hact
        exact ⟨⟨step_rebuild_outcome c.world base, trivial⟩, rfl⟩

/-- **A whole run** keeps to the order in which the operations are done. -/
theorem run_tracks {acts : List Act} {base : Session} {x x' : Live} {log : List Done}
    (h : Tracks base x) (hrun : x.run acts = some (log, x')) :
    Replays base log ∧ Tracks (base.run (log.map Done.call)) x' := by
  induction acts generalizing base x log with
  | nil =>
    cases hrun
    exact ⟨trivial, h⟩
  | cons a rest ih =>
    obtain ⟨done, y, log', hact, hrest, rfl⟩ := Live.run_cons_eq_some_iff.mp hrun
    obtain ⟨hdone, hy⟩ := act_tracks h hact
    obtain ⟨hlog, hx'⟩ := ih hy hrest
    refine ⟨hdone.append hlog, ?_⟩
    rwa [List.map_append, run_append]

/-! ### The end of a build -/

/-- How many steps are left at most. -/
def Stage.left : Stage → Nat
  | .begun => 9
  | .parsed _ => 8
  | .sensed .. => 7
  | .decided .. => 6
  | .made _ => 5
  | .indexStored _ => 4
  | .anomaliesStored _ => 3
  | .timeStored _ => 2
  | .failed _ => 1

theorem Stage.left_after_lt {α : Type} {next : α → Stage} {n : Nat} (h : ∀ a, (next a).left < n)
    (hn : 1 < n) (x : Except Failure α) : (Stage.after next x).left < n := by
  rcases x with e | a
  · exact hn
  · exact h a

theorem Course.left_lt_of_advance {c : Course} {s s' : Session} {stage : Stage}
    (h : c.advance s = (s', .inl stage)) : stage.left < c.stage.left := by
  obtain ⟨w, before, now⟩ := c
  cases now with
  | begun | parsed events | sensed events policy | decided events policy refuses =>
    cases h
    exact Stage.left_after_lt (fun _ => by simp [Stage.left]) (by simp [Stage.left]) _
  | made b | indexStored b | anomaliesStored b =>
    cases h
    simp [Stage.left]
  | timeStored b | failed e => cases h

/-- **A build in progress comes to its end,** which is that of a rebuild at one go. -/
theorem exists_run_advance {base : Session} (c : Course) (s : Session) (h : c.Fits base s) :
    ∃ n, Live.run ⟨s, some c⟩ (List.replicate n .advance) =
      some ([⟨c.world, .rebuild, (base.rebuild c.world).1.outcome.map .built⟩],
        ⟨(base.rebuild c.world).2, none⟩) := by
  have hstep : c.StaysOn base (c.advance s) := h.advance
  rcases heq : c.advance s with ⟨s', stage | outcome⟩
  · rw [heq] at hstep
    have : stage.left < c.stage.left := Course.left_lt_of_advance heq
    obtain ⟨n, hn⟩ := exists_run_advance { c with stage } s' hstep
    refine ⟨n + 1, ?_⟩
    rw [List.replicate_succ, Live.run_cons_eq_some_iff]
    exact ⟨none, ⟨s', some { c with stage }⟩, _, by simp only [Live.act, heq], hn, rfl⟩
  · rw [heq] at hstep
    obtain ⟨rfl, rfl⟩ := hstep
    refine ⟨1, ?_⟩
    rw [List.replicate_one, Live.run_cons_eq_some_iff]
    exact ⟨some _, _, [], by simp only [Live.act, heq], rfl, rfl⟩
termination_by c.stage.left

/-! ### What is seen -/

theorem readyIndex_of_phase_ne {s : Session} (h : s.phase ≠ .ready) :
    s.readyIndex = .error (.problem (.notReady s.path.text s.phase)) := by
  unfold readyIndex
  split
  · next hp _ => exact absurd hp h
  · rfl

/-- Nothing is served as long as the session is not ready, and the world is not asked. -/
theorem lookups_of_phase_ne {s : Session} (h : s.phase ≠ .ready) :
    s.render = .error (.problem (.notReady s.path.text s.phase)) ∧
    ∀ w identifier text,
      s.resolve w identifier text = .error (.problem (.notReady s.path.text s.phase)) := by
  have hx := readyIndex_of_phase_ne h
  refine ⟨by rw [render, hx]; rfl, fun w identifier text => ?_⟩
  unfold resolve
  rw [hx]
  rfl

/-- A ready session serves from its index. -/
theorem lookups_of_ready {s : Session} {x : Index} (hp : s.phase = .ready)
    (hx : s.index = some x) :
    s.render = .ok (Listing.render x) ∧
    ∀ w identifier,
      (∀ text, s.resolve w identifier (some text) = locate x identifier text.toList) ∧
      s.resolve w identifier none =
        ((w.readText s.path).mapError .fault).bind (locate x identifier) := by
  have hready : s.readyIndex = .ok x := by rw [readyIndex, hp, hx]
  refine ⟨by rw [render, hready]; rfl, fun w identifier => ⟨fun text => ?_, ?_⟩⟩
  · unfold resolve
    rw [hready]
    rfl
  · rw [resolve_none, hready]
    rfl

/-- **What is seen of a session at any moment, and that looking changes nothing.** Say that of a
fresh session some operations were done, some at one go and some rebuilds step by step, with looks
at it anywhere. The listing and declarations are served exactly if no build is in progress and some
attempt at one succeeded, and then from the index of the last that did. Else both are refused with
the path and the phase, which is building while a build is in progress and empty otherwise, whatever
the world is. The operations have the outcomes that they have at one go and in that order, and leave
the same session. Without the looks everything is the same. A build in progress comes to its end
however often it is looked at, with the outcome and the session of the rebuild at one go. -/
theorem observed_run_serves {s₀ : Session} (h₀ : s₀.IsFresh) {acts : List Act} {log : List Done}
    {x : Live} (h : Live.run ⟨s₀, none⟩ acts = some (log, x)) :
    let base := s₀.run (log.map Done.call)
    let tried := s₀.attempts (log.map Done.call)
    (x.course = none ∧ AnySuccess tried →
      ∃ a b, IsLastSuccess tried a b ∧ a.session.Builds a.world b ∧ x.session.phase = .ready ∧
        x.session.render = .ok (Listing.render b.index) ∧
        ∀ w identifier,
          (∀ text,
            x.session.resolve w identifier (some text) = locate b.index identifier text.toList) ∧
          x.session.resolve w identifier none =
            ((w.readText s₀.path).mapError .fault).bind (locate b.index identifier)) ∧
    (¬ (x.course = none ∧ AnySuccess tried) →
      x.session.phase = (if x.course.isSome then .building else .empty) ∧
      x.session.render = .error (.problem (.notReady s₀.path.text x.session.phase)) ∧
      ∀ w identifier text, x.session.resolve w identifier text =
        .error (.problem (.notReady s₀.path.text x.session.phase))) ∧
    Replays s₀ log ∧
    (x.course = none → x.session = base) ∧
    Live.run ⟨s₀, none⟩ (acts.filter fun a => !a.isLook) = some (log, x) ∧
    ∀ c, x.course = some c → ∃ n, ∀ rest : List Act,
      (rest.filter fun a => !a.isLook) = List.replicate n .advance →
      x.run rest = some ([⟨c.world, .rebuild, (base.rebuild c.world).1.outcome.map .built⟩],
        ⟨(base.rebuild c.world).2, none⟩) := by
  intro base tried
  obtain ⟨hlog, htracks⟩ := run_tracks (show Tracks s₀ ⟨s₀, none⟩ from rfl) h
  have hreflects : Reflects base (lastSuccess? tried) := run_reflects _ h₀.reflects
  have hpath : base.path = s₀.path := run_path _ s₀
  obtain ⟨s, course⟩ := x
  have hunlooked := (run_filter_isLook acts ⟨s₀, none⟩).trans h
  cases course with
  | none =>
    have hs : s = base := htracks
    subst hs
    refine ⟨fun ⟨_, hany⟩ => ?_, fun hnot => ?_, hlog, fun _ => rfl, hunlooked, nofun⟩
    · obtain ⟨⟨a, b⟩, hlast⟩ := Option.isSome_iff_exists.mp (isSome_lastSuccess?_iff.mpr hany)
      have hab : IsLastSuccess tried a b := isLastSuccess_iff.mpr hlast
      have hp : base.phase = .ready := by rw [hreflects.phase_eq, hlast]; rfl
      have hx : base.index = some b.index := by rw [hreflects.index_eq, hlast]; rfl
      have hlookups := lookups_of_ready hp hx
      rw [hpath] at hlookups
      obtain ⟨later, earlier, -, hb, -⟩ := id hab
      exact ⟨a, b, hab, Attempt.builds_of_build? hb, hp, hlookups⟩
    · have hp : base.phase = .empty := by
        rw [hreflects.phase_eq, if_neg]
        rw [isSome_lastSuccess?_iff]
        exact fun hany => hnot ⟨rfl, hany⟩
      have hlookups := lookups_of_phase_ne (s := base) (by rw [hp]; nofun)
      rw [hpath] at hlookups
      exact ⟨hp, hlookups⟩
  | some c =>
    have hfits : c.Fits base s := htracks
    refine ⟨nofun, fun _ => ?_, hlog, nofun, hunlooked, fun c' hc => ?_⟩
    · have hlookups := lookups_of_phase_ne (s := s) (by rw [hfits.phase_eq]; nofun)
      rw [hfits.path_eq, hpath] at hlookups
      exact ⟨hfits.phase_eq, hlookups⟩
    · cases hc
      obtain ⟨n, hn⟩ := exists_run_advance c s hfits
      refine ⟨n, fun rest hrest => ?_⟩
      rw [← run_filter_isLook, hrest]
      exact hn

/-- A rebuild step by step, and another that fails, both looked at in the middle. -/
def sampleActs : List Act :=
  .begin sampleWorld :: .call bareWorld .status :: List.replicate 8 .advance ++
    [.call bareWorld .render, .begin bareWorld, .call sampleWorld .render, .advance]

/-- Between the steps of the second rebuild there is an index, and the listing is refused. -/
theorem sampleActs_refused : ∃ log x, Live.run ⟨sampleSession, none⟩ sampleActs = some (log, x) ∧
    x.session.index.isSome ∧
    x.session.render = .error (.problem (.notReady "d" .building)) := by
  have hseen : (Live.run ⟨sampleSession, none⟩ sampleActs).map
      (fun p => (p.2.course.isSome, p.2.session.index.isSome)) = some (true, true) := by decide
  obtain ⟨⟨log, x⟩, hrun, hx⟩ := Option.map_eq_some_iff.mp hseen
  obtain ⟨hcourse, hindex⟩ := Prod.mk.inj hx
  obtain ⟨c, hc⟩ := Option.isSome_iff_exists.mp hcourse
  have hnot : x.course ≠ none := by rw [hc]; nofun
  have hfresh : sampleSession.IsFresh := ⟨rfl, rfl, rfl, rfl⟩
  obtain ⟨hphase, hrender, -⟩ := (observed_run_serves hfresh hrun).2.1 fun h => hnot h.1
  rw [if_pos hcourse] at hphase
  rw [hphase] at hrender
  exact ⟨log, x, hrun, hindex, hrender⟩

end CrossRef.Session

import CrossRef.Proofs.Outcome
import CrossRef.Proofs.Ownership
import CrossRef.Snapshot

/-! # Runs of a session

A run is a list of operations, each in a world of its own, so the document, the command and its
output may change in any way between two of them. What a session holds after a run is told by the
*attempts* at a build that the run made: each `rebuild` is one, and so is each `ensureReady` as long
as none has succeeded. The list of attempts is kept beside the run and asks neither the phase nor
the index of the session.

* `Builds`: what a build gives, from the events, the case policy and the strictness in force.
* `Reflects`: the invariant, a session holds what the last successful attempt gave and nothing else.
* `step_reflects`, `run_reflects`: one operation and a whole run keep it.
* `run_holds_last_build`: what follows for a run from a fresh session. -/

namespace CrossRef.Session

/-! ### One build -/

/-- **What a build gives:** the index of the events that the markup parser reports, under the case
policy in force; with anomalies there is none if the settings are strict. -/
def Builds (w : World) (s : Session) (b : Build) : Prop :=
  ∃ events policy refuses, (s.parser.events w s.path.text).outcome = .ok events ∧
    s.caseSensitive w = .ok policy ∧ s.strict = .ok refuses ∧
    (refuses = true → b.anomalies = []) ∧ b = Index.build policy events

theorem indexEvents_eq_ok_iff {policy refuses : Bool} {events : List Event} {b : Build} :
    (indexEvents policy refuses events).outcome = .ok b ↔
      (refuses = true → b.anomalies = []) ∧ b = Index.build policy events := by
  rw [Ownership.indexEvents_outcome]
  split
  · next h =>
    simp only [reduceCtorEq, false_iff]
    rintro ⟨hb, rfl⟩
    exact h.2 (hb h.1)
  · next h =>
    simp only [Except.ok.injEq]
    constructor
    · rintro rfl
      exact ⟨fun hr => Classical.byContradiction fun hb => h ⟨hr, hb⟩, rfl⟩
    · exact fun hb => hb.2.symm

theorem attempt_eq_ok_iff {w : World} {s : Session} {b : Build} :
    (s.attempt w).outcome = .ok b ↔ s.Builds w b := by
  unfold attempt Builds
  simp only [Traced.outcome_bind, Traced.outcome_ofFault, bind_eq_ok_iff, mapError_eq_ok_iff,
    indexEvents_eq_ok_iff]
  constructor
  · rintro ⟨events, he, policy, hp, refuses, hr, hb⟩
    exact ⟨events, policy, refuses, he, hp, hr, hb⟩
  · rintro ⟨events, policy, refuses, he, hp, hr, hb⟩
    exact ⟨events, he, policy, hp, refuses, hr, hb⟩

/-! ### Rebuilds -/

/-- The phase of a session has no part in what a build gives. -/
theorem rebuild_outcome (w : World) (s : Session) :
    (s.rebuild w).1.outcome = (s.attempt w).outcome := by
  have hb : s.begin.attempt w = s.attempt w := rfl
  unfold rebuild build
  simp only [Traced.outcome_bind, Traced.note, Traced.outcome_tell, hb, Except.bind]
  rcases (s.attempt w).outcome with e | b <;> rfl

theorem rebuild_of_ok {w : World} {s : Session} {b : Build}
    (h : (s.rebuild w).1.outcome = .ok b) : (s.rebuild w).2 = s.commit w b := by
  have : (s.rebuild w).2 = s.begin.finish w s.phase (s.rebuild w).1.outcome := rfl
  rw [this, h]
  rfl

/-- **A rebuild that fails changes nothing,** whatever the failure is. -/
theorem rebuild_of_error {w : World} {s : Session} {e : Failure}
    (h : (s.rebuild w).1.outcome = .error e) : (s.rebuild w).2 = s := by
  have : (s.rebuild w).2 = s.begin.finish w s.phase (s.rebuild w).1.outcome := rfl
  rw [this, h]
  rfl

theorem ensureReady_of_ready {w : World} {s : Session} {x : Index} (hp : s.phase = .ready)
    (hx : s.index = some x) : s.ensureReady w = (pure x, s) := by
  unfold ensureReady readyIndex
  rw [if_pos hp, hp, hx]
  rfl

theorem ensureReady_of_not_ready {w : World} {s : Session} (hp : s.phase ≠ .ready) :
    s.ensureReady w = ((s.rebuild w).1 >>= fun b => pure b.index, (s.rebuild w).2) := by
  unfold ensureReady
  rw [if_neg hp]
  refine Prod.ext ?_ rfl
  show Traced.bind _ _ = Traced.bind _ _
  unfold Traced.bind
  rcases h : (s.rebuild w).1.outcome with e | b
  · rfl
  · rw [rebuild_of_ok h]; rfl

/-! ### Lookups -/

theorem readyIndex_commit (w : World) (s : Session) (b : Build) :
    (s.commit w b).readyIndex = .ok b.index := rfl

/-- A lookup in the document as it is: the index, the text, and the declaration in it. -/
theorem resolve_none (w : World) (s : Session) (identifier : String) :
    s.resolve w identifier none = s.readyIndex.bind fun x =>
      ((w.readText s.path).mapError .fault).bind fun text =>
        (Declaration.resolve x identifier text).mapError fun m => .problem (.missing m) := by
  show s.readyIndex.bind _ = _
  refine congrArg (Except.bind _) (funext fun x => ?_)
  rcases w.readText s.path with f | text <;> rfl

/-! ### Attempts -/

/-- **An attempt at a build** in the course of a run: the world and the session it was made in. -/
structure Attempt where
  world : World
  session : Session

/-- What the attempt returned, if it succeeded. -/
def Attempt.build? (a : Attempt) : Option Build :=
  (a.session.rebuild a.world).1.outcome.toOption

/-- Some attempt of the list succeeded. -/
def AnySuccess (log : List Attempt) : Prop := ∃ a ∈ log, a.build?.isSome

/-- The last success in a list of attempts, the latest of which stands first. -/
def lastSuccess? (log : List Attempt) : Option (Attempt × Build) :=
  log.findSome? fun a => a.build?.map fun b => (a, b)

/-- The attempts after one more operation. -/
def logged (w : World) (s : Session) (log : List Attempt) : Op → List Attempt
  | .rebuild => ⟨w, s⟩ :: log
  | .ensureReady => if (lastSuccess? log).isSome then log else ⟨w, s⟩ :: log
  | _ => log

/-- The attempts of a run that goes on after those of `log`, the latest first. -/
def attemptsFrom (s : Session) (log : List Attempt) : List (World × Op) → List Attempt
  | [] => log
  | (w, op) :: rest => attemptsFrom (s.step w op).2 (logged w s log op) rest

/-- **The attempts at a build that a run makes,** the latest first. -/
def attempts (s : Session) (ops : List (World × Op)) : List Attempt := attemptsFrom s [] ops

/-- The attempt `a` gave `b`, and no later one succeeded. -/
def IsLastSuccess (log : List Attempt) (a : Attempt) (b : Build) : Prop :=
  ∃ later earlier, log = later ++ a :: earlier ∧ a.build? = some b ∧ ∀ c ∈ later, c.build? = none

theorem isLastSuccess_iff {log : List Attempt} {a : Attempt} {b : Build} :
    IsLastSuccess log a b ↔ lastSuccess? log = some (a, b) := by
  unfold IsLastSuccess lastSuccess?
  rw [List.findSome?_eq_some_iff]
  simp only [Option.map_eq_some_iff, Option.map_eq_none_iff, Prod.mk.injEq]
  constructor
  · rintro ⟨later, earlier, rfl, hb, hl⟩
    exact ⟨later, a, earlier, rfl, ⟨b, hb, rfl, rfl⟩, hl⟩
  · rintro ⟨later, _, earlier, rfl, ⟨_, hb, rfl, rfl⟩, hl⟩
    exact ⟨later, earlier, rfl, hb, hl⟩

theorem isSome_lastSuccess?_iff {log : List Attempt} :
    (lastSuccess? log).isSome ↔ AnySuccess log := by
  unfold lastSuccess? AnySuccess
  rw [List.findSome?_isSome_iff]
  simp only [Option.isSome_map]

theorem lastSuccess?_cons_of_ok {w : World} {s : Session} {log : List Attempt} {b : Build}
    (h : (s.rebuild w).1.outcome = .ok b) :
    lastSuccess? (⟨w, s⟩ :: log) = some (⟨w, s⟩, b) := by
  have : Attempt.build? ⟨w, s⟩ = some b := toOption_eq_some_iff.mpr h
  unfold lastSuccess?
  rw [List.findSome?_cons, this]
  rfl

theorem lastSuccess?_cons_of_error {w : World} {s : Session} {log : List Attempt} {e : Failure}
    (h : (s.rebuild w).1.outcome = .error e) :
    lastSuccess? (⟨w, s⟩ :: log) = lastSuccess? log := by
  have : Attempt.build? ⟨w, s⟩ = none := toOption_eq_none_iff.mpr ⟨e, h⟩
  unfold lastSuccess?
  rw [List.findSome?_cons, this]
  rfl

theorem Attempt.builds_of_build? {a : Attempt} {b : Build} (h : a.build? = some b) :
    a.session.Builds a.world b := by
  rw [← attempt_eq_ok_iff, ← rebuild_outcome]
  exact toOption_eq_some_iff.mp h

/-- Every attempt was made by an operation of the run, in the session that the run had come to. -/
theorem mem_attemptsFrom {a : Attempt} : ∀ (ops : List (World × Op)) (s : Session)
    (log : List Attempt), a ∈ attemptsFrom s log ops →
      a ∈ log ∨ ∃ before op after, ops = before ++ (a.world, op) :: after ∧ a.session = s.run before
  | [], s, log, h => Or.inl h
  | (w, op) :: rest, s, log, h => by
    rcases mem_attemptsFrom rest _ _ h with h | ⟨before, op', after, rfl, ha⟩
    · have hl : a ∈ log ∨ a = ⟨w, s⟩ := by
        cases op with
        | rebuild => exact (List.mem_cons.mp h).symm
        | ensureReady =>
          simp only [logged] at h
          split at h
          · exact Or.inl h
          · exact (List.mem_cons.mp h).symm
        | _ => exact Or.inl h
      rcases hl with hl | rfl
      · exact Or.inl hl
      · exact Or.inr ⟨[], op, rest, rfl, rfl⟩
    · exact Or.inr ⟨(w, op) :: before, op', after, rfl, ha⟩

/-! ### What a session holds -/

/-- **A session reflects its last success:** without one it is empty and holds nothing; with one it
is ready and holds the index, the anomalies and the time of that one build. -/
structure Reflects (s : Session) (last : Option (Attempt × Build)) : Prop where
  phase_eq : s.phase = if last.isSome then .ready else .empty
  index_eq : s.index = last.map fun p => p.2.index
  anomalies_eq : s.anomalies = (last.map fun p => p.2.anomalies).getD []
  builtAt_eq : s.builtAt = last.map fun p => p.1.world.clock

/-- A session that was never built. -/
def IsFresh (s : Session) : Prop :=
  s.phase = .empty ∧ s.index = none ∧ s.anomalies = [] ∧ s.builtAt = none

theorem isFresh_of_start {w : World} {path : Path} {settings : Option Table} {s : Session}
    (h : (start w path settings).outcome = .ok s) : s.IsFresh := by
  unfold start at h
  rcases settings with _ | t <;>
    simp only [Traced.outcome_bind, bind_eq_ok_iff, Traced.outcome_pure, Except.ok.injEq] at h
  all_goals
    obtain ⟨_, -, _, -, rfl⟩ := h
    exact ⟨rfl, rfl, rfl, rfl⟩

theorem IsFresh.reflects {s : Session} (h : s.IsFresh) : Reflects s none := by
  obtain ⟨hp, hx, ha, ht⟩ := h
  exact ⟨hp, hx, ha, ht⟩

theorem Reflects.ready_iff {s : Session} {last : Option (Attempt × Build)} (h : Reflects s last) :
    s.phase = .ready ↔ last.isSome := by
  rw [h.phase_eq]
  split <;> simp_all

theorem rebuild_reflects {w : World} {s : Session} {log : List Attempt}
    (h : Reflects s (lastSuccess? log)) :
    Reflects (s.rebuild w).2 (lastSuccess? (⟨w, s⟩ :: log)) := by
  rcases ho : (s.rebuild w).1.outcome with e | b
  · rw [rebuild_of_error ho, lastSuccess?_cons_of_error ho]
    exact h
  · rw [rebuild_of_ok ho, lastSuccess?_cons_of_ok ho]
    exact ⟨rfl, rfl, rfl, rfl⟩

theorem ensureReady_reflects {w : World} {s : Session} {log : List Attempt}
    (h : Reflects s (lastSuccess? log)) :
    Reflects (s.ensureReady w).2 (lastSuccess? (logged w s log .ensureReady)) := by
  simp only [logged]
  rcases hl : lastSuccess? log with _ | p
  · have hp : s.phase ≠ .ready := by
      rw [ne_eq, h.ready_iff, hl]
      simp
    rw [ensureReady_of_not_ready hp]
    exact rebuild_reflects h
  · have hp : s.phase = .ready := h.ready_iff.mpr (by rw [hl]; rfl)
    have hx : s.index = some p.2.index := by rw [h.index_eq, hl]; rfl
    rw [ensureReady_of_ready hp hx]
    exact h

theorem assign_eq_ok {s s' : Session} {section_ key : String} {v : Value}
    (h : s.assign section_ key v = .ok s') : ∃ t, s' = { s with settings := t } := by
  unfold assign at h
  rcases ht : Config.assign s.settings section_ key v with f | t <;> rw [ht] at h
  · cases h
  · exact ⟨t, (Except.ok.inj h).symm⟩

/-- **One operation** keeps a session in step with the attempts made on it. -/
theorem step_reflects {w : World} {s : Session} {log : List Attempt} (op : Op)
    (h : Reflects s (lastSuccess? log)) :
    Reflects (s.step w op).2 (lastSuccess? (logged w s log op)) := by
  cases op with
  | rebuild => exact rebuild_reflects h
  | ensureReady => exact ensureReady_reflects h
  | resolve identifier text => exact h
  | render => exact h
  | status => exact h
  | assign section_ key v =>
    -- settings change in place; nothing that was built does
    simp only [step, logged]
    split
    · next s' hs =>
      obtain ⟨t, rfl⟩ := assign_eq_ok hs
      exact ⟨h.phase_eq, h.index_eq, h.anomalies_eq, h.builtAt_eq⟩
    · exact h
  | setLimit limit => exact ⟨h.phase_eq, h.index_eq, h.anomalies_eq, h.builtAt_eq⟩

/-- **A whole run** keeps a session in step with the attempts made on it. -/
theorem run_reflects : ∀ (ops : List (World × Op)) {s : Session} {log : List Attempt},
    Reflects s (lastSuccess? log) → Reflects (s.run ops) (lastSuccess? (attemptsFrom s log ops))
  | [], _, _, h => h
  | (_, op) :: rest, _, _, h => run_reflects rest (step_reflects op h)

/-! ### Runs from a fresh session -/

/-- **What a session holds after any run from a fresh one.** The phase is empty or ready. It is
ready exactly if some attempt succeeded, if there is an index, and if there is a time. Index,
anomalies and time are those of the last attempt that succeeded, whose build is the one that the
parser, the case policy and the strictness of that moment give; an empty session has no anomalies. A
rebuild that fails changes nothing. Asking for the ready index is a rebuild as long as no attempt
has succeeded; afterwards it answers with the index at hand and does nothing else. -/
theorem run_holds_last_build {s₀ : Session} (h₀ : s₀.IsFresh) (ops : List (World × Op)) :
    let s := s₀.run ops
    let log := s₀.attempts ops
    (s.phase = .empty ∨ s.phase = .ready) ∧
    (s.phase = .ready ↔ AnySuccess log) ∧
    (s.index.isSome ↔ AnySuccess log) ∧
    (s.builtAt.isSome ↔ AnySuccess log) ∧
    (∀ a b, IsLastSuccess log a b →
      s.index = some b.index ∧ s.anomalies = b.anomalies ∧ s.builtAt = some a.world.clock ∧
      a.session.Builds a.world b ∧
      ∃ before op after, ops = before ++ (a.world, op) :: after ∧ a.session = s₀.run before) ∧
    (s.phase = .empty → s.anomalies = []) ∧
    (∀ w e, (s.rebuild w).1.outcome = .error e → (s.rebuild w).2 = s) ∧
    (∀ w, ¬ AnySuccess log →
      s.ensureReady w = ((s.rebuild w).1 >>= fun b => pure b.index, (s.rebuild w).2)) ∧
    (∀ w, AnySuccess log → ∃ x, s.index = some x ∧ s.ensureReady w = (pure x, s)) := by
  intro s log
  have h : Reflects s (lastSuccess? log) := run_reflects ops h₀.reflects
  have hready : s.phase = .ready ↔ AnySuccess log := h.ready_iff.trans isSome_lastSuccess?_iff
  have hphase : s.phase = .empty ∨ s.phase = .ready := by
    rw [h.phase_eq]
    split
    · exact Or.inr rfl
    · exact Or.inl rfl
  have hindex : s.index.isSome ↔ AnySuccess log := by
    rw [h.index_eq, Option.isSome_map]
    exact isSome_lastSuccess?_iff
  refine ⟨hphase, hready, hindex, ?_, ?_, ?_, fun w e => rebuild_of_error, ?_, ?_⟩
  · rw [h.builtAt_eq, Option.isSome_map]
    exact isSome_lastSuccess?_iff
  · intro a b hab
    have hlast := isLastSuccess_iff.mp hab
    obtain ⟨later, earlier, hlog, hb, -⟩ := hab
    refine ⟨by rw [h.index_eq, hlast]; rfl, by rw [h.anomalies_eq, hlast]; rfl,
      by rw [h.builtAt_eq, hlast]; rfl, Attempt.builds_of_build? hb, ?_⟩
    have ha : a ∈ s₀.attempts ops := by
      show a ∈ log
      rw [hlog]
      simp
    exact (mem_attemptsFrom ops s₀ [] ha).resolve_left (by simp)
  · intro hp
    have hnone : lastSuccess? log = none := by
      rw [← Option.not_isSome_iff_eq_none, ← h.ready_iff, hp]
      simp
    rw [h.anomalies_eq, hnone]
    rfl
  · intro w hw
    exact ensureReady_of_not_ready fun hp => hw (hready.mp hp)
  · intro w hw
    obtain ⟨x, hx⟩ := Option.isSome_iff_exists.mp (hindex.mpr hw)
    exact ⟨x, hx, ensureReady_of_ready (hready.mpr hw) hx⟩

/-- The settings of a session whose markup parser is the command `sp`, without a time limit. -/
def sampleSettings : Table := [("parser", .table [("command", .str "sp"), ("timeout", .int 0)])]

/-- A session on the document `d` that was never built. -/
def sampleSession : Session where
  path := Path.ofString "d"
  settings := sampleSettings
  parser := ⟨.str "sp", [.str "-oline", .str "-oid"], none, false⟩

/-- A world without commands. -/
def bareWorld : World := Snapshot.toWorld { cwd := [] }

/-- A world in which `sp` prints the lines `AID ID x` and `(P`. -/
def sampleWorld : World :=
  Snapshot.toWorld
    { cwd := []
      tools := [("sp", { script := .prints [65, 73, 68, 32, 73, 68, 32, 120, 10, 40, 80, 10] })]
      clock := 7 }

/-- A build that fails, one that succeeds, and again one that fails. -/
def sampleRun : List (World × Op) :=
  [(bareWorld, .rebuild), (sampleWorld, .ensureReady), (bareWorld, .rebuild)]

/-- The run ends ready although its last build failed, and the index at hand is given out. -/
theorem sampleRun_holds_last_build :
    (start bareWorld (Path.ofString "d") (some sampleSettings)).outcome = .ok sampleSession ∧
      AnySuccess (sampleSession.attempts sampleRun) ∧
      ∃ x, (sampleSession.run sampleRun).index = some x ∧
        (sampleSession.run sampleRun).ensureReady bareWorld =
          (pure x, sampleSession.run sampleRun) := by
  have hstart :
      (start bareWorld (Path.ofString "d") (some sampleSettings)).outcome = .ok sampleSession := rfl
  obtain ⟨-, hready, -, -, -, -, -, -, hgiven⟩ :=
    run_holds_last_build (isFresh_of_start hstart) sampleRun
  have hany : AnySuccess (sampleSession.attempts sampleRun) := hready.mp (by decide)
  exact ⟨hstart, hany, hgiven bareWorld hany⟩

end CrossRef.Session

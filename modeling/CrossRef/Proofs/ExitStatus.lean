import CrossRef.CommandLine.Program
import CrossRef.Proofs.BuildFailures
import CrossRef.Proofs.EffectiveSettings
import CrossRef.Proofs.Occurrences
import CrossRef.Snapshot

/-! # The status of a command on a document

A command on a document opens a session and builds the index. Only then does it list the identifiers
or look one up. The status with which it ends is decided on three levels: a lookup that fails has a
status of its own, a problem with the build is reported with status one, and every other failure
leaves the command and gets its status at the very end. If the markup parser never ends and has no
limit, neither does the command.

* `Indexed`: the session was opened, the document is a file, and the build succeeded.
* `indexing_eq_some_iff`, `indexing_interrupted_iff`, `indexing_endless_iff`: how opening and
  building end.
* `LooksUp`: a lookup is made in the index and in the text of the document, as it is by then.
* `Answers`, `Lists`: what a command has to say, and standard output takes it.
* `status_of_document_command`: which status stands for what, without verbose output. -/

namespace CrossRef

/-! ### The configuration -/

namespace Config

section

variable {P : Failure → Prop} (hproblem : ∀ p, ¬ P (.problem p)) (hfault : ∀ f, ¬ P (.fault f))
include hfault

theorem not_fails_fault {α : Type} (x : Except Fault α) :
    ¬ Fails P (x.mapError Failure.fault) := by
  rw [fails_mapError_iff]
  rintro ⟨f, -, hf⟩
  exact hfault f hf

theorem not_fails_override (room : Nat) (base : Table) (x : String × String) :
    ¬ Fails P (override room base x).outcome := by
  unfold override
  split
  · exact not_fails_ok _
  · simp only [Traced.outcome_bind, Traced.outcome_ofFault, Traced.note, Traced.outcome_tell,
      Traced.outcome_pure, fails_bind_iff, not_fails_fault hfault, not_fails_ok, and_false,
      exists_false, or_false, not_false_eq_true]

theorem not_fails_overridden (room : Nat) : ∀ (environment : List (String × String))
    (base : Table), ¬ Fails P (overridden room base environment).outcome
  | [], _ => not_fails_ok _
  | x :: rest, base => by
    rw [overridden, Traced.outcome_bind, fails_bind_iff]
    rintro (h | ⟨mid, -, h⟩)
    · exact not_fails_override hfault room base x h
    · exact not_fails_overridden room rest mid h

include hproblem

theorem not_fails_loaded (w : World) (file : Option Path) : ¬ Fails P (loaded w file) := by
  rcases file with _ | path
  · exact not_fails_ok _
  · simp only [loaded, load, fails_bind_iff, fails_map_iff]
    rintro (h | ⟨text, -, h⟩)
    · unfold readFile at h
      split at h
      · exact hproblem _ (fails_error_iff.mp h)
      · exact hfault _ (fails_error_iff.mp h)
      · split at h
        · exact hfault _ (fails_error_iff.mp h)
        · exact not_fails_ok _ h
    · unfold parseFile at h
      split at h
      · exact not_fails_ok _ h
      · exact hproblem _ (fails_error_iff.mp h)

/-- **The settings that hold** fail with a problem or a fault if they fail at all. -/
theorem not_fails_effective (w : World) (given : Option Path) (start : Path) (quiet : Bool) :
    ¬ Fails P (effective w given start quiet).outcome := by
  rw [effective_outcome]
  simp only [fails_bind_iff, not_fails_fault hfault, not_fails_loaded hproblem hfault,
    not_fails_overridden hfault, and_false, exists_false, or_false, not_false_eq_true]

end

end Config

namespace CommandLine

/-! ### Standard output -/

/-- **Standard output takes the lines,** each with its line end. -/
def Host.Takes (h : Host) (lines : List String) : Prop :=
  ∀ line ∈ lines, h.refusal? (line ++ "\n") = none

theorem Host.TakesAll.takes {h : Host} (hall : h.TakesAll) (lines : List String) : h.Takes lines :=
  fun line _ => hall (line ++ "\n")

/-- **Lines are written** if standard output takes them; otherwise the write fails. -/
theorem sayAll_cases (h : Host) : ∀ lines : List String,
    (h.Takes lines ∧ (sayAll h lines).outcome = .ok ()) ∨
      ¬ h.Takes lines ∧ ∃ reason, (sayAll h lines).outcome = .error (.fault (.notTaken reason))
  | [] => .inl ⟨nofun, rfl⟩
  | line :: lines => by
    unfold Host.Takes sayAll say write
    rw [List.forall_mem_cons, Traced.outcome_bind]
    rcases h.refusal? (line ++ "\n") with _ | reason
    · simpa [Except.bind, Host.Takes] using sayAll_cases h lines
    · exact .inr ⟨by simp, reason, rfl⟩

/-- What standard output does not take ends a command with a fault. -/
theorem sayAll_outcome_bind (h : Host) (lines : List String) :
    (h.Takes lines ∧ (sayAll h lines >>= fun _ => pure 0).outcome = .ok 0) ∨
      ¬ h.Takes lines ∧
        ∃ reason, (sayAll h lines >>= fun _ => (pure 0 : Console Nat)).outcome =
          .error (.fault (.notTaken reason)) := by
  rw [Traced.outcome_bind]
  rcases sayAll_cases h lines with ⟨htakes, hok⟩ | ⟨hnot, reason, hfault⟩
  · exact .inl ⟨htakes, by rw [hok]; rfl⟩
  · exact .inr ⟨hnot, reason, by rw [hfault]; rfl⟩

theorem say_eq_sayAll (h : Host) (line : String) : say h line = sayAll h [line] := by
  unfold sayAll sayAll say write
  rcases h.refusal? (line ++ "\n") with _ | reason <;> rfl

/-! ### Opening a session -/

theorem openSession_outcome (w : World) (g : Globals) (d : Document) :
    (openSession w g d).outcome =
      ((d.directory w).mapError .fault).bind fun directory =>
        (settingsFrom w g directory (!g.verbose)).outcome.bind fun config =>
          ((d.settings config).mapError .fault).bind fun config =>
            ((MarkupParser.ofConfig config).mapError .fault).bind fun parser =>
              .ok { path := d.file, settings := config, parser } := by
  unfold openSession Session.start
  simp only [Traced.outcome_bind, Traced.outcome_ofFault, Traced.outcome_pure]
  rfl

theorem path_of_openSession {w : World} {g : Globals} {d : Document} {s : Session}
    (h : (openSession w g d).outcome = .ok s) : s.path = d.file := by
  simp only [openSession_outcome, bind_eq_ok_iff, Except.ok.injEq] at h
  obtain ⟨_, -, _, -, _, -, _, -, rfl⟩ := h
  rfl

theorem not_fails_openSession {P : Failure → Prop} (hproblem : ∀ p, ¬ P (.problem p))
    (hfault : ∀ f, ¬ P (.fault f)) (w : World) (g : Globals) (d : Document) :
    ¬ Fails P (openSession w g d).outcome := by
  rw [openSession_outcome]
  simp only [settingsFrom, fails_bind_iff, Config.not_fails_fault hfault,
    Config.not_fails_effective hproblem hfault, not_fails_ok, and_false, exists_false, or_false,
    not_false_eq_true]

/-! ### Indexing a document -/

/-- **The document is indexed:** its session was opened, it is a file, and the build succeeded. -/
structure Indexed (w : World) (g : Globals) (d : Document) (s : Session) (b : Build) : Prop where
  opened : (openSession w g d).outcome = .ok s
  isFile : w.isFile d.file = .ok true
  builds : s.Builds w b

/-- **The user interrupts:** the document is a file, and the start of the markup parser is
interrupted. -/
def Interrupted (w : World) (g : Globals) (d : Document) : Prop :=
  ∃ s command, (openSession w g d).outcome = .ok s ∧ w.isFile d.file = .ok true ∧
    s.parser.commandTexts d.file.text = .ok command ∧ MarkupParser.IsClean command ∧
    w.launch command = .interrupted

/-- **The markup parser never ends:** the document is a file, and the command of the markup parser
is one that does not come to its end, with nothing to limit its time. -/
def Endless (w : World) (g : Globals) (d : Document) : Prop :=
  ∃ s command, (openSession w g d).outcome = .ok s ∧ w.isFile d.file = .ok true ∧
    s.parser.commandTexts d.file.text = .ok command ∧ MarkupParser.IsClean command ∧
    w.launch command = .endless ∧ s.parser.limit = none

/-- What opening a session and building its index comes to; nothing, if what is wrong was
reported. -/
def indexing (w : World) (g : Globals) (d : Document) : Except Failure (Option (Session × Build)) :=
  (openSession w g d).outcome.bind fun s => (buildOrReport w g s).outcome

/-- The end of a build whose problems are reported. -/
def reported (w : World) (s : Session) :
    Except Failure Build → Except Failure (Option (Session × Build))
  | .ok b => .ok (some (s.commit w b, b))
  | .error (.problem _) => .ok none
  | .error e => .error e

theorem buildOrReport_outcome (w : World) (g : Globals) (s : Session) :
    (buildOrReport w g s).outcome =
      ((w.isFile s.path).mapError .fault).bind fun isFile =>
        if isFile then reported w s (s.attempt w).outcome else .ok none := by
  unfold buildOrReport
  rw [Traced.outcome_bind, Traced.outcome_ofFault]
  refine congrArg (Except.bind _) (funext fun isFile => ?_)
  rcases isFile with _ | _
  · rfl
  · rw [if_pos rfl, if_pos rfl, Traced.outcome_bind, ← Session.rebuild_outcome]
    have hheard : (heard g (s.rebuild w).1).outcome = (s.rebuild w).1.outcome := rfl
    unfold Traced.caught
    rw [hheard]
    rcases h : (s.rebuild w).1.outcome with (p | f | _ | _) | b
    · rfl
    · rfl
    · rfl
    · rfl
    · rw [Session.rebuild_of_ok h]
      rfl

theorem onDocument_outcome (w : World) (g : Globals) (d : Document)
    (k : Session → Build → Console Nat) :
    (onDocument w g d k).outcome =
      (indexing w g d).bind fun
        | none => .ok failed
        | some (s, b) => (k s b).outcome := by
  unfold onDocument indexing
  rw [Traced.outcome_bind]
  show Except.bind (openSession w g d).outcome _ = _
  rcases (openSession w g d).outcome with e | s
  · rfl
  · show Traced.outcome (_ >>= _) = _
    rw [Traced.outcome_bind]
    refine congrArg (Except.bind _) (funext fun built => ?_)
    rcases built with _ | ⟨s, b⟩ <;> rfl

/-- **Indexing succeeds** with the session after its first build. -/
theorem indexing_eq_some_iff {w : World} {g : Globals} {d : Document} {s' : Session} {b : Build} :
    indexing w g d = .ok (some (s', b)) ↔ ∃ s, Indexed w g d s b ∧ s' = s.commit w b := by
  unfold indexing
  simp only [bind_eq_ok_iff, buildOrReport_outcome, mapError_eq_ok_iff]
  constructor
  · rintro ⟨s, hs, isFile, hfile, h⟩
    rcases isFile with _ | _
    · cases h
    · rw [if_pos rfl] at h
      rcases ha : (s.attempt w).outcome with (p | f | _ | _) | b' <;> rw [ha] at h
      · cases h
      · cases h
      · cases h
      · cases h
      · cases h
        exact ⟨s, ⟨hs, path_of_openSession hs ▸ hfile, Session.attempt_eq_ok_iff.mp ha⟩, rfl⟩
  · rintro ⟨s, ⟨hs, hfile, hb⟩, rfl⟩
    refine ⟨s, hs, true, (path_of_openSession hs).symm ▸ hfile, ?_⟩
    rw [if_pos rfl, Session.attempt_eq_ok_iff.mpr hb]
    rfl

/-- What is neither a problem nor a fault comes from the run of the markup parser. -/
theorem indexing_fails_iff {P : Failure → Prop} (hproblem : ∀ p, ¬ P (.problem p))
    (hfault : ∀ f, ¬ P (.fault f)) {w : World} {g : Globals} {d : Document} :
    Fails P (indexing w g d) ↔ ∃ s command, (openSession w g d).outcome = .ok s ∧
      w.isFile d.file = .ok true ∧ s.parser.commandTexts d.file.text = .ok command ∧
      Fails P (MarkupParser.run w command s.parser.limit) := by
  have hreported (s : Session) : Fails P (reported w s (s.attempt w).outcome) ↔
      Fails P (s.attempt w).outcome := by
    rcases (s.attempt w).outcome with (p | f | _ | _) | b <;> simp [reported, hproblem]
  unfold indexing
  simp only [fails_bind_iff, not_fails_openSession hproblem hfault, false_or,
    buildOrReport_outcome, Config.not_fails_fault hfault, mapError_eq_ok_iff]
  constructor
  · rintro ⟨s, hs, isFile, hfile, h⟩
    rcases isFile with _ | _
    · exact absurd h (not_fails_ok _)
    · rw [if_pos rfl, hreported, Session.attempt_fails_run_iff hproblem hfault] at h
      obtain ⟨command, hcommand, h⟩ := h
      rw [path_of_openSession hs] at hfile hcommand
      exact ⟨s, command, hs, hfile, hcommand, h⟩
  · rintro ⟨s, command, hs, hfile, hcommand, h⟩
    rw [← path_of_openSession hs] at hfile hcommand
    refine ⟨s, hs, true, hfile, ?_⟩
    rw [if_pos rfl, hreported, Session.attempt_fails_run_iff hproblem hfault]
    exact ⟨command, hcommand, h⟩

/-- **Indexing is interrupted** exactly if the user interrupts. -/
theorem indexing_interrupted_iff {w : World} {g : Globals} {d : Document} :
    Fails (· = .interrupt) (indexing w g d) ↔ Interrupted w g d := by
  rw [indexing_fails_iff (fun _ => nofun) (fun _ => nofun)]
  simp only [MarkupParser.run_interrupted_iff, Interrupted]

/-- **Indexing never ends** exactly if the markup parser does not. -/
theorem indexing_endless_iff {w : World} {g : Globals} {d : Document} :
    Fails (· = .endless) (indexing w g d) ↔ Endless w g d := by
  rw [indexing_fails_iff (fun _ => nofun) (fun _ => nofun)]
  simp only [MarkupParser.run_endless_iff, Endless]

theorem Indexed.unique {w : World} {g : Globals} {d : Document} {s s' : Session} {b b' : Build}
    (h : Indexed w g d s b) (h' : Indexed w g d s' b') : b = b' := by
  have hs := indexing_eq_some_iff.mpr ⟨s, h, rfl⟩
  have hs' := indexing_eq_some_iff.mpr ⟨s', h', rfl⟩
  rw [hs] at hs'
  exact (Prod.mk.inj (Option.some.inj (Except.ok.inj hs'))).2

/-! ### Lookups -/

/-- **A lookup is made** of a text that was given, in the index and in the text of the document as
it is once the index is built, and `Q` holds of the three. -/
def LooksUp (h : Host) (g : Globals) (d : Document) (identifier : Given String)
    (Q : Index → List Char → String → Prop) : Prop :=
  ∃ s b text k, Indexed h.world g d s b ∧ h.later.readText d.file = .ok text ∧
    identifier = .value k ∧ Q b.index text k

/-- The identifier is not declared. -/
def Undeclared (x : Index) (_ : List Char) (k : String) : Prop :=
  x.fold k ∉ Assoc.keys x.mapping

/-- The identifier is declared, and its declaration does not occur in the text. -/
def Stale (x : Index) (text : List Char) (k : String) : Prop :=
  ∃ attr element, Assoc.get? x.mapping (x.fold k) = some (attr, element) ∧
    ¬ Target.Occurs ⟨attr, x.fold k⟩ (Text.sameChar x.caseSensitive) text

/-- The identifier is declared, and its declaration occurs in the text. -/
def Found (x : Index) (text : List Char) (k : String) : Prop :=
  ∃ attr element, Assoc.get? x.mapping (x.fold k) = some (attr, element) ∧
    Target.Occurs ⟨attr, x.fold k⟩ (Text.sameChar x.caseSensitive) text

section lookups

variable {h : Host} {g : Globals} {d : Document} {s : Session} {b : Build} {text : List Char}
  {identifier : Given String} {Q : Index → List Char → String → Prop}

theorem looksUp_iff {k : String} (hb : Indexed h.world g d s b)
    (ht : h.later.readText d.file = .ok text) :
    LooksUp h g d (.value k) Q ↔ Q b.index text k := by
  constructor
  · rintro ⟨s', b', text', k', hb', ht', ⟨⟩, hQ⟩
    obtain rfl := hb.unique hb'
    obtain rfl := Except.ok.inj (ht.symm.trans ht')
    exact hQ
  · exact fun hQ => ⟨s, b, text, k, hb, ht, rfl, hQ⟩

theorem not_looksUp (hindexed : ¬ ∃ s b, Indexed h.world g d s b) :
    ¬ LooksUp h g d identifier Q := by
  rintro ⟨s, b, -, -, hb, -⟩
  exact hindexed ⟨s, b, hb⟩

theorem not_looksUp_of_unreadable {f : Fault} (hread : h.later.readText d.file = .error f) :
    ¬ LooksUp h g d identifier Q := by
  rintro ⟨_, _, text, _, -, ht, -⟩
  cases hread.symm.trans ht

theorem not_looksUp_void : ¬ LooksUp h g d .void Q := by
  rintro ⟨_, _, _, _, -, -, ⟨⟩, -⟩

/-- **A declaration is found, and standard output takes what is said of it.** -/
def Answers (h : Host) (g : Globals) (d : Document) (identifier : Given String) (json : Bool) :
    Prop :=
  ∃ s span, (openSession h.world g d).outcome = .ok s ∧ LooksUp h g d identifier fun x text k =>
    Declaration.resolve x k text = .ok span ∧ h.Takes [answerLine s x k json span]

theorem answers_iff {k : String} (hb : Indexed h.world g d s b)
    (ht : h.later.readText d.file = .ok text) (json : Bool) :
    Answers h g d (.value k) json ↔ ∃ span, Declaration.resolve b.index k text = .ok span ∧
      h.Takes [answerLine s b.index k json span] := by
  unfold Answers
  simp only [looksUp_iff hb ht, hb.opened, Except.ok.injEq, exists_and_left, exists_eq_left']

theorem not_answers {json : Bool} (hnot : ∀ Q, ¬ LooksUp h g d identifier Q) :
    ¬ Answers h g d identifier json := by
  rintro ⟨s, span, -, hlooks⟩
  exact hnot _ hlooks

/-- A lookup ends in one of three ways, and the declaration tells in which. -/
theorem lookup_cases (x : Index) (text : List Char) (k : String) :
    (Undeclared x text k ∧ ¬ Stale x text k ∧ ¬ Found x text k ∧
      ∃ i, Declaration.resolve x k text = .error (.unknown i)) ∨
    (¬ Undeclared x text k ∧ Stale x text k ∧ ¬ Found x text k ∧
      ∃ t, Declaration.resolve x k text = .error (.stale t)) ∨
    (¬ Undeclared x text k ∧ ¬ Stale x text k ∧ Found x text k ∧
      ∃ span, Declaration.resolve x k text = .ok span) := by
  have hdeclared {attr element : String}
      (hkey : Assoc.get? x.mapping (x.fold k) = some (attr, element)) : ¬ Undeclared x text k := by
    rw [Undeclared, ← Assoc.get?_eq_none_iff, hkey]
    simp
  have hresolves := Declaration.resolves x k text
  generalize Declaration.resolve x k text = found at hresolves ⊢
  cases hresolves with
  | unknown hkey =>
    have hnone := Assoc.get?_eq_none_iff.mpr hkey
    refine Or.inl ⟨hkey, ?_, ?_, _, rfl⟩
    · rintro ⟨_, _, h, -⟩
      rw [hnone] at h
      cases h
    · rintro ⟨_, _, h, -⟩
      rw [hnone] at h
      cases h
  | stale hkey hoccurs =>
    refine Or.inr (Or.inl ⟨hdeclared hkey, ⟨_, _, hkey, hoccurs⟩, ?_, _, rfl⟩)
    rintro ⟨_, _, h, hfound⟩
    obtain ⟨rfl, rfl⟩ := Prod.mk.inj (Option.some.inj (hkey.symm.trans h))
    exact hoccurs hfound
  | found hkey hoccurs =>
    refine Or.inr (Or.inr ⟨hdeclared hkey, ?_, ⟨_, _, hkey, hoccurs⟩, _, rfl⟩)
    rintro ⟨_, _, h, hstale⟩
    obtain ⟨rfl, rfl⟩ := Prod.mk.inj (Option.some.inj (hkey.symm.trans h))
    exact hstale hoccurs

end lookups

/-! ### Commands on an indexed document -/

section indexed

variable {h : Host} {g : Globals} {d : Document} {s : Session} {b : Build} {text : List Char}
  (hb : Indexed h.world g d s b)

theorem onDocument_indexed {w : World} (hb : Indexed w g d s b)
    (k : Session → Build → Console Nat) :
    (onDocument w g d k).outcome = (k (s.commit w b) b).outcome := by
  rw [onDocument_outcome, indexing_eq_some_iff.mpr ⟨s, hb, rfl⟩]
  rfl

theorem path_commit {w : World} (hb : Indexed w g d s b) : (s.commit w b).path = d.file := by
  rw [← path_of_openSession hb.opened]
  rfl

include hb

/-- The lookup in a session that was built is a lookup in the new index, if the document can be read
by then. -/
theorem locate_indexed (k : String) :
    locate h.later (s.commit h.world b) (.value k) none =
      ((h.later.readText d.file).mapError .fault).bind fun text =>
        (Declaration.resolve b.index k text).mapError fun m => .problem (.missing m) := by
  show (s.commit h.world b).resolve h.later k none = _
  rw [Session.resolve_none, Session.readyIndex_commit, path_commit hb]
  rfl

/-- What is void is not looked up, and the text is read all the same. -/
theorem locate_void : ∃ f, locate h.later (s.commit h.world b) .void none = .error (.fault f) := by
  unfold locate
  rw [Session.readyIndex_commit, path_commit hb]
  rcases h.later.readText d.file with f | text
  · exact ⟨f, rfl⟩
  · exact ⟨_, rfl⟩

theorem resolve_of_fault {f : Fault} {identifier : Given String}
    (hlocate : locate h.later (s.commit h.world b) identifier none = .error (.fault f))
    (json : Bool) : (resolve h g d identifier json).outcome = .error (.fault f) := by
  unfold resolve
  rw [onDocument_indexed hb, hlocate]
  rfl

/-- The status of a lookup that fails. -/
def missingStatus : Declaration.Missing → Nat
  | .unknown _ => notDeclared
  | .stale _ => notInText

theorem resolve_of_missing {k : String} {m : Declaration.Missing}
    (ht : h.later.readText d.file = .ok text)
    (hm : Declaration.resolve b.index k text = .error m) (json : Bool) :
    (resolve h g d (.value k) json).outcome = .ok (missingStatus m) := by
  unfold resolve
  rw [onDocument_indexed hb, locate_indexed hb, ht]
  show (withDeclaration ((Declaration.resolve b.index k text).mapError _) _ _).outcome = _
  rw [hm]
  cases m <;> rfl

theorem resolve_of_found {k : String} {span : Span} (ht : h.later.readText d.file = .ok text)
    (hspan : Declaration.resolve b.index k text = .ok span) (json : Bool) :
    (resolve h g d (.value k) json).outcome =
      (sayAll h [answerLine s b.index k json span] >>= fun _ => pure 0).outcome := by
  unfold resolve
  rw [onDocument_indexed hb, locate_indexed hb, ht, ← say_eq_sayAll]
  show (withDeclaration ((Declaration.resolve b.index k text).mapError _) _ _).outcome = _
  rw [hspan]
  rfl

/-- The lines of a list. -/
def listing (s : Session) (b : Build) (json : Bool) : List String :=
  if json then [Json.print (listingReport s b)]
  else if b.index.entries.isEmpty then []
  else Listing.render b.index

theorem list_outcome (json : Bool) :
    (list h g d json).outcome = (sayAll h (listing s b json) >>= fun _ => pure 0).outcome := by
  unfold list listing
  rw [onDocument_indexed hb]
  rcases json with _ | _
  · rcases hempty : b.index.entries.isEmpty with _ | _
    · rfl
    · rcases g.quiet with _ | _ <;> rfl
  · rw [if_pos rfl, if_pos rfl, say_eq_sayAll]
    rfl

end indexed

/-! ### Statuses -/

/-- The end that the outcome of a command has without verbose output. -/
def endingOf : Except Failure Nat → Ending
  | .ok status => .returned status
  | .error .interrupt => .returned cancelled
  | .error .endless => .never
  | .error _ => .returned failed

theorem ending_conclude {g : Globals} (hg : g.verbose = false) (x : Console Nat) :
    (conclude g x).ending = endingOf x.outcome := by
  unfold conclude
  rcases x.outcome with (p | f | _ | _) | status <;> simp [endingOf, hg]

theorem run_ending {h : Host} {args : List String} {i : Invocation} {c : Command}
    (hread : read args = .ok i) (hc : i.command = some c) (hv : i.globals.verbose = false) :
    (run h args).ending = endingOf (c.run h i.globals).outcome := by
  unfold run Invocation.run
  simp only [hread, hc]
  exact ending_conclude hv _

/-- **How a command ends that has no index:** it is interrupted, it never ends, or it fails. -/
inductive EndsUnindexed (w : World) (g : Globals) (d : Document) : Ending → Prop where
  | interrupted (hi : Interrupted w g d) (he : ¬ Endless w g d) :
      EndsUnindexed w g d (.returned cancelled)
  | never (hi : ¬ Interrupted w g d) (he : Endless w g d) : EndsUnindexed w g d .never
  | failed (hi : ¬ Interrupted w g d) (he : ¬ Endless w g d) :
      EndsUnindexed w g d (.returned failed)

theorem endsUnindexed {w : World} {g : Globals} {d : Document}
    (h : ¬ ∃ s b, Indexed w g d s b) (k : Session → Build → Console Nat) :
    EndsUnindexed w g d (endingOf (onDocument w g d k).outcome) := by
  rw [onDocument_outcome]
  have hinterrupted := indexing_interrupted_iff (w := w) (g := g) (d := d)
  have hendless := indexing_endless_iff (w := w) (g := g) (d := d)
  rcases hi : indexing w g d with (p | f | _ | _) | _ | ⟨s, b⟩ <;> rw [hi] at hinterrupted hendless
  · exact .failed (by simp [← hinterrupted]) (by simp [← hendless])
  · exact .failed (by simp [← hinterrupted]) (by simp [← hendless])
  · exact .interrupted (by simp [← hinterrupted]) (by simp [← hendless])
  · exact .never (by simp [← hinterrupted]) (by simp [← hendless])
  · exact .failed (by simp [← hinterrupted]) (by simp [← hendless])
  · obtain ⟨s₀, hs₀, -⟩ := indexing_eq_some_iff.mp hi
    exact absurd ⟨s₀, b, hs₀⟩ h

theorem Indexed.not_stopped {w : World} {g : Globals} {d : Document} {s : Session} {b : Build}
    (h : Indexed w g d s b) : ¬ Interrupted w g d ∧ ¬ Endless w g d := by
  rw [← indexing_interrupted_iff, ← indexing_endless_iff, indexing_eq_some_iff.mpr ⟨s, h, rfl⟩]
  exact ⟨not_fails_ok _, not_fails_ok _⟩

/-- **The status of a resolve** on a document that is indexed. -/
theorem resolve_status_of_indexed {h : Host} {g : Globals} {d : Document} {s : Session} {b : Build}
    (hb : Indexed h.world g d s b) (identifier : Given String) (json : Bool) :
    ∃ status, endingOf (resolve h g d identifier json).outcome = .returned status ∧ status ≠ 130 ∧
      (status = 2 ↔ LooksUp h g d identifier Undeclared) ∧
      (status = 3 ↔ LooksUp h g d identifier Stale) ∧
      (status = 0 ↔ Answers h g d identifier json) ∧
      (status = 1 ↔ ¬ LooksUp h g d identifier Undeclared ∧ ¬ LooksUp h g d identifier Stale ∧
        ¬ Answers h g d identifier json) := by
  -- a fault, and nothing was looked up
  have hfault {f : Fault} {identifier : Given String}
      (hlocate : locate h.later (s.commit h.world b) identifier none = .error (.fault f))
      (hnot : ∀ Q, ¬ LooksUp h g d identifier Q) :
      endingOf (resolve h g d identifier json).outcome = .returned 1 ∧
        ¬ Answers h g d identifier json :=
    ⟨by rw [resolve_of_fault hb hlocate]; rfl, not_answers hnot⟩
  cases identifier with
  | void =>
    obtain ⟨f, hlocate⟩ := locate_void hb
    obtain ⟨hend, hanswers⟩ := hfault hlocate fun _ => not_looksUp_void
    exact ⟨1, hend, by simp [not_looksUp_void, hanswers]⟩
  | value k =>
    rcases hread : h.later.readText d.file with f | text
    · have hlocate := locate_indexed hb k
      rw [hread] at hlocate
      obtain ⟨hend, hanswers⟩ := hfault hlocate fun _ => not_looksUp_of_unreadable hread
      exact ⟨1, hend, by simp [not_looksUp_of_unreadable hread, hanswers]⟩
    · simp only [looksUp_iff hb hread, answers_iff hb hread]
      rcases lookup_cases b.index text k with ⟨hu, hs, -, i, hi⟩ | ⟨hu, hs, -, t, ht⟩ |
        ⟨hu, hs, -, span, hspan⟩
      · exact ⟨2, by rw [resolve_of_missing hb hread hi]; rfl, by simp [hu, hs, hi]⟩
      · exact ⟨3, by rw [resolve_of_missing hb hread ht]; rfl, by simp [hu, hs, ht]⟩
      · rw [resolve_of_found hb hread hspan]
        rcases sayAll_outcome_bind h [answerLine s b.index k json span] with
          ⟨htakes, hok⟩ | ⟨hnot, reason, hrefused⟩
        · exact ⟨0, by rw [hok]; rfl, by simp [hu, hs, hspan, htakes]⟩
        · exact ⟨1, by rw [hrefused]; rfl, by simp [hu, hs, hspan, hnot]⟩

/-- **Where standard output takes everything,** what is found is answered. -/
theorem answers_iff_found {h : Host} (hall : h.TakesAll) {g : Globals} {d : Document}
    {identifier : Given String} {json : Bool} :
    Answers h g d identifier json ↔ LooksUp h g d identifier Found := by
  have hfound (x : Index) (text : List Char) (k : String) :
      Found x text k ↔ ∃ span, Declaration.resolve x k text = .ok span := by
    rcases lookup_cases x text k with ⟨-, -, hf, i, hi⟩ | ⟨-, -, hf, t, ht⟩ | ⟨-, -, hf, hspan⟩
    · exact iff_of_false hf (by simp [hi])
    · exact iff_of_false hf (by simp [ht])
    · exact iff_of_true hf hspan
  constructor
  · rintro ⟨s, span, -, s', b, text, k, hb, ht, hk, hspan, -⟩
    exact ⟨s', b, text, k, hb, ht, hk, (hfound b.index text k).mpr ⟨span, hspan⟩⟩
  · rintro ⟨s, b, text, k, hb, ht, hk, hf⟩
    obtain ⟨span, hspan⟩ := (hfound b.index text k).mp hf
    exact ⟨s, span, hb.opened, s, b, text, k, hb, ht, hk, hspan, hall.takes _⟩

/-- **A document is indexed, and standard output takes the list of its identifiers.** -/
def Lists (h : Host) (g : Globals) (d : Document) (json : Bool) : Prop :=
  ∃ s b, Indexed h.world g d s b ∧ h.Takes (listing s b json)

/-- **The status of a list** of a document that is indexed. -/
theorem list_status_of_indexed {h : Host} {g : Globals} {d : Document} {s : Session} {b : Build}
    (hb : Indexed h.world g d s b) (json : Bool) :
    ∃ status, endingOf (list h g d json).outcome = .returned status ∧ status ≠ 130 ∧
      (status = 0 ↔ Lists h g d json) ∧ (status = 1 ↔ ¬ Lists h g d json) := by
  have hlists : Lists h g d json ↔ h.Takes (listing s b json) := by
    constructor
    · rintro ⟨s', b', hb', htakes⟩
      obtain rfl := hb.unique hb'
      obtain rfl := Except.ok.inj (hb.opened.symm.trans hb'.opened)
      exact htakes
    · exact fun htakes => ⟨s, b, hb, htakes⟩
  rw [list_outcome hb, hlists]
  rcases sayAll_outcome_bind h (listing s b json) with ⟨htakes, hok⟩ | ⟨hnot, reason, hrefused⟩
  · exact ⟨0, by rw [hok]; rfl, by simp [htakes]⟩
  · exact ⟨1, by rw [hrefused]; rfl, by simp [hnot]⟩

theorem lists_iff_indexed {h : Host} (hall : h.TakesAll) {g : Globals} {d : Document}
    {json : Bool} : Lists h g d json ↔ ∃ s b, Indexed h.world g d s b := by
  constructor
  · rintro ⟨s, b, hb, -⟩
    exact ⟨s, b, hb⟩
  · rintro ⟨s, b, hb⟩
    exact ⟨s, b, hb, hall.takes _⟩

/-- **The status of a command on a document,** for a command line that asks for one without verbose
output. The program never ends if the markup parser never does and nothing limits its time. In all
other cases it returns a status, and nothing is raised.

A resolve ends with 130 if the user interrupts, with 2 if the identifier is not declared in the new
index, with 3 if it is and its declaration does not occur in the text of the document, with 0 if it
does and standard output takes the answer, and with 1 in all other cases. A list ends with 0 if the
document is indexed and standard output takes the list, with 130 if the user interrupts, and with 1
in all other cases. Where standard output takes everything, a resolve ends with 0 exactly if the
declaration occurs, and a list exactly if the document is indexed. -/
theorem status_of_document_command (h : Host) {args : List String} {i : Invocation}
    (hread : read args = .ok i) (hv : i.globals.verbose = false) :
    (∀ d identifier json, i.command = some (.resolve d identifier json) →
      ((run h args).ending = .never ↔ Endless h.world i.globals d) ∧
      (¬ Endless h.world i.globals d → ∃ status, (run h args).ending = .returned status ∧
        (status = 130 ↔ Interrupted h.world i.globals d) ∧
        (status = 2 ↔ LooksUp h i.globals d identifier Undeclared) ∧
        (status = 3 ↔ LooksUp h i.globals d identifier Stale) ∧
        (status = 0 ↔ Answers h i.globals d identifier json) ∧
        (status = 1 ↔ ¬ Interrupted h.world i.globals d ∧
          ¬ LooksUp h i.globals d identifier Undeclared ∧
          ¬ LooksUp h i.globals d identifier Stale ∧
          ¬ Answers h i.globals d identifier json) ∧
        (h.TakesAll → (status = 0 ↔ LooksUp h i.globals d identifier Found)))) ∧
    (∀ d json, i.command = some (.list d json) →
      ((run h args).ending = .never ↔ Endless h.world i.globals d) ∧
      (¬ Endless h.world i.globals d → ∃ status, (run h args).ending = .returned status ∧
        (status = 130 ↔ Interrupted h.world i.globals d) ∧
        (status = 0 ↔ Lists h i.globals d json) ∧
        (status = 1 ↔ ¬ Interrupted h.world i.globals d ∧ ¬ Lists h i.globals d json) ∧
        (h.TakesAll → (status = 0 ↔ ∃ s b, Indexed h.world i.globals d s b)))) := by
  refine ⟨fun d identifier json hc => ?_, fun d json hc => ?_⟩
  · have hend : (run h args).ending = endingOf (resolve h i.globals d identifier json).outcome :=
      run_ending hread hc hv
    rw [hend]
    by_cases hindexed : ∃ s b, Indexed h.world i.globals d s b
    · obtain ⟨s, b, hb⟩ := hindexed
      obtain ⟨hi, he⟩ := hb.not_stopped
      obtain ⟨status, hstatus, h130, h2, h3, h0, h1⟩ := resolve_status_of_indexed hb identifier json
      rw [hstatus]
      refine ⟨by simp [he], fun _ => ⟨status, rfl, by simp [hi, h130], h2, h3, h0, ?_, ?_⟩⟩
      · simp only [hi, not_false_eq_true, true_and, h1]
      · exact fun hall => h0.trans (answers_iff_found hall)
    · have hnone (Q) : ¬ LooksUp h i.globals d identifier Q := not_looksUp hindexed
      have hanswers : ¬ Answers h i.globals d identifier json := not_answers hnone
      have hends : EndsUnindexed h.world i.globals d
          (endingOf (resolve h i.globals d identifier json).outcome) := endsUnindexed hindexed _
      generalize endingOf (resolve h i.globals d identifier json).outcome = ending at hends ⊢
      cases hends with
      | interrupted hi he => simp [he, hi, hnone, hanswers, cancelled]
      | never hi he => simp [he]
      | failed hi he => simp [he, hi, hnone, hanswers, failed]
  · have hend : (run h args).ending = endingOf (list h i.globals d json).outcome :=
      run_ending hread hc hv
    rw [hend]
    by_cases hindexed : ∃ s b, Indexed h.world i.globals d s b
    · obtain ⟨s, b, hb⟩ := hindexed
      obtain ⟨hi, he⟩ := hb.not_stopped
      obtain ⟨status, hstatus, h130, h0, h1⟩ := list_status_of_indexed hb json
      rw [hstatus]
      refine ⟨by simp [he], fun _ => ⟨status, rfl, by simp [hi, h130], h0, ?_, ?_⟩⟩
      · simp only [hi, not_false_eq_true, true_and, h1]
      · exact fun hall => h0.trans (lists_iff_indexed hall)
    · have hlists : ¬ Lists h i.globals d json := by
        rintro ⟨s, b, hb, -⟩
        exact hindexed ⟨s, b, hb⟩
      have hends : EndsUnindexed h.world i.globals d
          (endingOf (list h i.globals d json).outcome) := endsUnindexed hindexed _
      generalize endingOf (list h i.globals d json).outcome = ending at hends ⊢
      cases hends with
      | interrupted hi he => simp [he, hi, hindexed, hlists, cancelled]
      | never hi he => simp [he]
      | failed hi he => simp [he, hi, hindexed, hlists, failed]

/-- The world in which the markup parser reports the identifier `x` in the document `d`, whose text
is the one given. -/
def sampleWorld (text : String) : World :=
  Snapshot.toWorld
    { cwd := []
      nodes := [(["d"], .file text.toUTF8.toList)]
      tools := [("nsgmls", { script := .prints "AID ID x\n(P\n".toUTF8.toList })] }

/-- A host on which nothing changes while a command runs, and which takes all that is written. -/
def sampleHost (w : World) : Host where
  world := w
  later := w
  refusal? := fun _ => none
  highlighter := View.Highlighter.small
  terminal := false
  hasCompletion := false
  hasServer := false
  interruptsServer := false

/-- The document of the command lines `list d` and `resolve d x`. -/
def sampleDocument : Document := ⟨Path.ofString "d", none, false⟩

/-- A resolve of `x` ends with 3, since `x` is declared and is not in the text; a list ends with 0.
Neither of them goes on for ever. -/
theorem status_on_sampleHost :
    let h := sampleHost (sampleWorld "<p>")
    ¬ Endless h.world ⟨none, false, false⟩ sampleDocument ∧
    (run h ["resolve", "d", "x"]).ending = .returned 3 ∧
    LooksUp h ⟨none, false, false⟩ sampleDocument (.value "x") Stale ∧
    (run h ["list", "d"]).ending = .returned 0 ∧
    ∃ s b, Indexed h.world ⟨none, false, false⟩ sampleDocument s b := by
  intro h
  have hresolve : read ["resolve", "d", "x"] =
      .ok ⟨⟨none, false, false⟩, some (.resolve sampleDocument (.value "x") false)⟩ := by
    decide +kernel
  have hlist : read ["list", "d"] =
      .ok ⟨⟨none, false, false⟩, some (.list sampleDocument false)⟩ := by
    decide +kernel
  have hthree : (run h ["resolve", "d", "x"]).ending = .returned 3 := by decide +kernel
  have hzero : (run h ["list", "d"]).ending = .returned 0 := by decide +kernel
  have hall : h.TakesAll := fun _ => rfl
  obtain ⟨hnever, hends⟩ := (status_of_document_command h hresolve rfl).1 _ _ _ rfl
  obtain ⟨-, hends'⟩ := (status_of_document_command h hlist rfl).2 _ _ rfl
  have hends_never : ¬ Endless h.world ⟨none, false, false⟩ sampleDocument := by
    rw [← hnever, hthree]
    nofun
  obtain ⟨three, hend, -, -, hstale, -⟩ := hends hends_never
  obtain ⟨naught, hend', -, -, -, hindexed⟩ := hends' hends_never
  obtain rfl : three = 3 := Ending.returned.inj (hend.symm.trans hthree)
  obtain rfl : naught = 0 := Ending.returned.inj (hend'.symm.trans hzero)
  exact ⟨hends_never, hthree, hstale.mp rfl, hzero, (hindexed hall).mp rfl⟩

/-- Without a limit a markup parser that never ends is waited for. -/
example :
    let w := Snapshot.toWorld
      { cwd := []
        nodes := [(["d"], .file [])]
        environment := [("ESISREF_PARSER_TIMEOUT", "0")]
        tools := [("nsgmls", { script := .hangs })] }
    (run (sampleHost w) ["list", "d"]).ending = .never := by
  decide +kernel

end CommandLine

end CrossRef

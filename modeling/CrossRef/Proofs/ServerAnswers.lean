import CrossRef.Proofs.BuildFailures
import CrossRef.Proofs.RegistryRuns

/-! # What a server answers

A tool answers with a table in which `success` is true or false, or a failure *escapes* from it and
there is no answer. Which of the three it is depends on the world at the time of the call and on the
indexes that the server holds. These are looked at here for a server that was called many times,
each time in a world of its own.

* `Shaped`: a configuration from which the command line of the markup parser can be made.
* `IndexAt`: the server holds an index for a location.
* `Kept`: the invariant, all sessions are about the location they are held for.
* `replies_call`: how one call ends in a server that is kept so.
* `indexAt_call_iff`: which indexes are held after one call.
* `run_replies`: both for all calls in a run from a new server. -/

namespace CrossRef

/-! ### Settings -/

/-- **A configuration of the usual shape:** it describes the markup parser `p`, whose command and
arguments are texts, and its settings for the index can be used. -/
structure MarkupParser.Shaped (config : Table) (p : MarkupParser) : Prop where
  parser_eq : ofConfig config = .ok p
  texts : ∃ (name : String) (arguments : List String),
    p.command = .str name ∧ p.arguments = arguments.map .str
  index : ∃ t, sectionOf config "index" = .ok t

namespace MarkupParser

theorem Shaped.exists_commandTexts {config : Table} {p : MarkupParser} (h : Shaped config p)
    (path : String) : ∃ command, p.commandTexts path = .ok command := by
  obtain ⟨name, arguments, hname, harguments⟩ := h.texts
  exact ⟨_, commandTexts_of_texts hname harguments path⟩

theorem shaped_defaults : ∃ p, Shaped Config.defaults p :=
  ⟨⟨.str "nsgmls", _, _, _⟩, rfl, ⟨"nsgmls", ["-oline", "-oid"], rfl, rfl⟩, ⟨_, rfl⟩⟩

end MarkupParser

/-! ### Lookups in a session -/

namespace Session

theorem start_outcome {config : Table} {p : MarkupParser} (h : MarkupParser.ofConfig config = .ok p)
    (w : World) (path : Path) :
    (start w path (some config)).outcome = .ok { path, settings := config, parser := p } := by
  unfold start
  simp only [Traced.outcome_bind, Traced.outcome_pure, Traced.outcome_ofFault, Except.bind, h]
  rfl

theorem not_escapes_readyIndex (s : Session) : ¬ Fails Failure.Escapes s.readyIndex := by
  unfold readyIndex
  split
  · exact not_fails_ok _
  · exact fun h => Failure.not_escapes_problem _ (fails_error_iff.mp h)

/-- **A lookup escapes** if there is an index and the document cannot be read. -/
theorem resolve_escapes_iff {w : World} {s : Session} {identifier : String} :
    Fails Failure.Escapes (s.resolve w identifier none) ↔
      (∃ x, s.readyIndex = .ok x) ∧ ∃ f, w.read s.path = .error f := by
  have hmissing (x : Except Declaration.Missing Span) :
      ¬ Fails (fun m => Failure.Escapes (.problem (.missing m))) x := fun ⟨_, _, h⟩ =>
    Failure.not_escapes_problem _ h
  have hread : Fails (fun f => Failure.Escapes (.fault f)) (w.read s.path) ↔
      ∃ f, w.read s.path = .error f :=
    ⟨fun ⟨f, hf, _⟩ => ⟨f, hf⟩, fun ⟨f, hf⟩ => ⟨f, hf, Failure.escapes_fault f⟩⟩
  rw [resolve_none]
  simp only [fails_bind_iff, not_escapes_readyIndex, fails_mapError_iff, World.readText,
    fails_map_iff, hread, hmissing, false_or, and_false, exists_false, or_false, exists_and_right]

theorem resolve_none_eq_ok_iff {w : World} {s : Session} {identifier : String} {span : Span} :
    s.resolve w identifier none = .ok span ↔ ∃ x text, s.readyIndex = .ok x ∧
      w.readText s.path = .ok text ∧ Declaration.resolve x identifier text = .ok span := by
  rw [resolve_none]
  simp only [bind_eq_ok_iff, mapError_eq_ok_iff]
  constructor
  · rintro ⟨x, hx, text, htext, h⟩
    exact ⟨x, text, hx, htext, h⟩
  · rintro ⟨x, text, hx, htext, h⟩
    exact ⟨x, hx, text, htext, h⟩

end Session

namespace Server

/-! ### Answers -/

/-- **How a call ends.** A failure escapes if `escapes`. Otherwise there is an answer, whose success
is true exactly if `succeeds`; what went wrong is told in it if not. -/
def Replies (escapes succeeds : Prop) (result : Except Failure Table) : Prop :=
  (escapes → Fails Failure.Escapes result) ∧
  (¬ escapes → ∃ fields success, result = .ok fields ∧
    Assoc.get? fields "success" = some (.bool success) ∧ (success = true ↔ succeeds) ∧
    (success = false → ∃ message, Assoc.get? fields "error" = some (.str message)))

theorem replies_congr {e e' s s' : Prop} {result : Except Failure Table} (he : e ↔ e') (hs : s ↔ s')
    (h : Replies e s result) : Replies e' s' result := by
  rwa [← propext he, ← propext hs]

/-- **An outcome as an answer** escapes if it is no problem, and succeeds if it is none at all. -/
theorem replies_answer {α : Type} {ok : α → Table} {problem : Problem → Table}
    (hok : ∀ a, Assoc.get? (ok a) "success" = some (.bool true))
    (hproblem : ∀ p, Assoc.get? (problem p) "success" = some (.bool false) ∧
      Assoc.get? (problem p) "error" = some (.str p.message)) (x : Except Failure α) :
    Replies (Fails Failure.Escapes x) (∃ a, x = .ok a) (answer ok problem x) := by
  rcases x with (p | f | _ | _) | a
  · refine ⟨fun h => absurd (fails_error_iff.mp h) (Failure.not_escapes_problem p), fun _ => ?_⟩
    exact ⟨_, false, rfl, (hproblem p).1, by simp, fun _ => ⟨_, (hproblem p).2⟩⟩
  · have hf : Fails Failure.Escapes (.error (.fault f) : Except Failure α) :=
      fails_error_iff.mpr (Failure.escapes_fault f)
    exact ⟨fun _ => fails_error_iff.mpr (Failure.escapes_fault f), fun h => absurd hf h⟩
  · have hf : Fails Failure.Escapes (.error .interrupt : Except Failure α) :=
      fails_error_iff.mpr Failure.escapes_interrupt
    exact ⟨fun _ => fails_error_iff.mpr Failure.escapes_interrupt, fun h => absurd hf h⟩
  · have hf : Fails Failure.Escapes (.error .endless : Except Failure α) :=
      fails_error_iff.mpr Failure.escapes_endless
    exact ⟨fun _ => fails_error_iff.mpr Failure.escapes_endless, fun h => absurd hf h⟩
  · exact ⟨fun h => absurd h (not_fails_ok a), fun _ => ⟨_, true, rfl, hok a, by simp, nofun⟩⟩

theorem answer_success_iff {α : Type} {ok : α → Table} {problem : Problem → Table}
    (hok : ∀ a, Assoc.get? (ok a) "success" = some (.bool true))
    (hproblem : ∀ p, Assoc.get? (problem p) "success" = some (.bool false)) (x : Except Failure α) :
    (∃ fields, answer ok problem x = .ok fields ∧
      Assoc.get? fields "success" = some (.bool true)) ↔ ∃ a, x = .ok a := by
  rcases x with (p | f | _ | _) | a
  · simp [answer, hproblem]
  · simp [answer]
  · simp [answer]
  · simp [answer]
  · simp [answer, hok]

/-! ### Calls -/

/-- **The server after a sequence of calls,** each in a world of its own. -/
def run (server : Server) : List (World × Request) → Server
  | [] => server
  | (w, request) :: rest => run (server.call w request).2 rest

/-- The path of a document as the server reads it. -/
def spelled (server : Server) (path : String) : Path :=
  server.workingDirectory.join (Path.ofString path)

/-- The location of a document. -/
def documentAt (w : World) (server : Server) (path : String) : Location :=
  (server.spelled path).resolve w.cwd

/-- **The server holds the index** `x` for a location. -/
def IndexAt (server : Server) (l : Location) (x : Index) : Prop :=
  ∃ n s, Assoc.get? server.registry.sessions l = some (n, s) ∧ s.readyIndex = .ok x

/-- **What lets a call escape:** a zero character in a path, a run of the markup parser that
escapes, and a document that is indexed and cannot be read. -/
def Escapes (w : World) (server : Server) (p : MarkupParser) : Request → Prop
  | .rebuildIndex path => (server.spelled path).hasNul = true ∨
      ∃ command, p.commandTexts (Path.ofLocation (server.documentAt w path)).text = .ok command ∧
        MarkupParser.RunEscapes w command p.limit
  | .indexStatus path | .listIdentifiers path => (server.spelled path).hasNul = true
  | .resolveIdentifier path _ => (server.spelled path).hasNul = true ∨
      (∃ x, server.IndexAt (server.documentAt w path) x) ∧
        ∃ f, w.read (.ofLocation (server.documentAt w path)) = .error f
  | .identifierAtLine _ => False

/-- **What a call needs to succeed.** -/
def Succeeds (w : World) (server : Server) (config : Table) (p : MarkupParser) : Request → Prop
  | .rebuildIndex path => ∃ b, Session.Builds w
      { path := .ofLocation (server.documentAt w path), settings := config, parser := p } b
  | .indexStatus _ => True
  | .listIdentifiers path => ∃ x, server.IndexAt (server.documentAt w path) x
  | .resolveIdentifier path identifier => ∃ x text span,
      server.IndexAt (server.documentAt w path) x ∧
      w.readText (.ofLocation (server.documentAt w path)) = .ok text ∧
      Declaration.resolve x identifier text = .ok span
  | .identifierAtLine line => ∃ identifier, Listing.identifierOnLine? line = some identifier

/-- **The call rebuilds the index** of the document at `l`: it says so in its answer. -/
def Rebuilds (w : World) (server : Server) (l : Location) (request : Request) : Prop :=
  ∃ path fields, request = .rebuildIndex path ∧ w.locate (server.spelled path) = .ok l ∧
    (server.call w request).1 = .ok fields ∧ Assoc.get? fields "success" = some (.bool true)

/-- **The index of the document at `l` was rebuilt** in the course of a run. -/
def Rebuilt (server : Server) (calls : List (World × Request)) (l : Location) : Prop :=
  ∃ before w request after, calls = before ++ (w, request) :: after ∧
    Rebuilds w (server.run before) l request

/-! ### The invariant -/

/-- The session is about the document at `l`, with the settings of the server. -/
structure Holds (config : Table) (p : MarkupParser) (l : Location) (s : Session) : Prop where
  path_eq : s.path = .ofLocation l
  settings_eq : s.settings = config
  parser_eq : s.parser = p
  normal : Path.IsNormal l

/-- **A server that is kept:** its sessions share `config` and are about the locations they are held
for. -/
structure Kept (config : Table) (p : MarkupParser) (server : Server) : Prop where
  shaped : MarkupParser.Shaped config p
  isCut : server.workingDirectory.IsCut
  shared_eq : server.registry.shared = some config
  holds : ∀ l n s, Assoc.get? server.registry.sessions l = some (n, s) → Holds config p l s

section kept

variable {config : Table} {p : MarkupParser} {server : Server} {w : World} {l : Location}
  {path : String} {n : Nat} {s : Session}

theorem Holds.attempt_escapes_iff (h : Holds config p l s) (hp : MarkupParser.Shaped config p) :
    Fails Failure.Escapes (s.attempt w).outcome ↔
      ∃ command, p.commandTexts (Path.ofLocation l).text = .ok command ∧
        MarkupParser.RunEscapes w command p.limit := by
  obtain ⟨command, hcommand⟩ := hp.exists_commandTexts (Path.ofLocation l).text
  have hcommand' : s.parser.commandTexts s.path.text = .ok command := by
    rw [h.parser_eq, h.path_eq, hcommand]
  have hindex : s.HasIndexSettings := by
    rw [Session.HasIndexSettings, h.settings_eq]
    exact hp.index
  have hnul : s.path.hasNul = false := by
    rw [h.path_eq]
    exact Path.hasNul_ofLocation h.normal
  rw [Session.attempt_escapes_iff hcommand' hindex hnul, h.parser_eq, hcommand]
  simp

theorem Holds.builds_iff (h : Holds config p l s) {b : Build} :
    (s.attempt w).outcome = .ok b ↔
      Session.Builds w { path := .ofLocation l, settings := config, parser := p } b := by
  have hs : s.attempt w =
      Session.attempt w { path := s.path, settings := s.settings, parser := s.parser } := rfl
  rw [hs, h.path_eq, h.settings_eq, h.parser_eq, Session.attempt_eq_ok_iff]

theorem IndexAt.of_get? (hget : Assoc.get? server.registry.sessions l = some (n, s)) {x : Index} :
    server.IndexAt l x ↔ s.readyIndex = .ok x := by
  constructor
  · rintro ⟨n', s', h, hx⟩
    obtain ⟨rfl, rfl⟩ := Prod.mk.inj (Option.some.inj (hget.symm.trans h))
    exact hx
  · exact fun hx => ⟨n, s, hget, hx⟩

/-- An index is that of the document with the session `s`, or of another one. -/
theorem indexAt_split (hbefore : ∀ x, server.IndexAt l x ↔ s.readyIndex = .ok x) {l' : Location}
    {x : Index} :
    server.IndexAt l' x ↔ l' = l ∧ s.readyIndex = .ok x ∨ l' ≠ l ∧ server.IndexAt l' x := by
  by_cases hl : l' = l
  · subst hl
    simp [hbefore]
  · simp [hl]

/-- One more session that is about the location it is held for. -/
theorem holds_put {sessions : Assoc Location (Nat × Session)} (hs : Holds config p l s)
    (h : ∀ l n s, Assoc.get? sessions l = some (n, s) → Holds config p l s) :
    ∀ l' n' s', Assoc.get? (Assoc.put sessions l (n, s)) l' = some (n', s') →
      Holds config p l' s' := by
  intro l' n' s' hget
  by_cases hl : l' = l
  · subst hl
    rw [Assoc.get?_put_self] at hget
    obtain ⟨rfl, rfl⟩ := Prod.mk.inj (Option.some.inj hget)
    exact hs
  · rw [Assoc.get?_put_of_ne hl] at hget
    exact h l' n' s' hget

/-- A server with one session put in place. -/
theorem Kept.of_put {server' : Server} (h : Kept config p server) (hs : Holds config p l s)
    (hdirectory : server'.workingDirectory = server.workingDirectory)
    (hshared : server'.registry.shared = server.registry.shared)
    (hsessions : server'.registry.sessions = Assoc.put server.registry.sessions l (n, s)) :
    Kept config p server' := by
  refine ⟨h.shaped, hdirectory ▸ h.isCut, hshared.trans h.shared_eq, ?_⟩
  rw [hsessions]
  exact holds_put hs h.holds

theorem indexAt_put_iff {server' : Server} {l' : Location} {x : Index}
    (hsessions : server'.registry.sessions = Assoc.put server.registry.sessions l (n, s)) :
    server'.IndexAt l' x ↔ l' = l ∧ s.readyIndex = .ok x ∨ l' ≠ l ∧ server.IndexAt l' x := by
  unfold IndexAt
  rw [hsessions]
  by_cases hl : l' = l
  · subst hl
    rw [Assoc.get?_put_self]
    simp
  · rw [Assoc.get?_put_of_ne hl]
    simp [hl]

/-- **What the selection of a session comes to:** the path cannot be located, or there is a session
for it from now on. No index comes or goes. -/
inductive Selected (config : Table) (p : MarkupParser) (w : World) (server : Server)
    (path : String) : Except Failure (Nat × Session) × Path × Server → Prop where
  | lost (hnul : (server.spelled path).hasNul = true) :
      Selected config p w server path (.error (.fault .nulCharacter), .ofString path, server)
  | found {n : Nat} {s : Session} {server' : Server} (hnul : (server.spelled path).hasNul = false)
      (hkept : Kept config p server')
      (hget : Assoc.get? server'.registry.sessions (server.documentAt w path) = some (n, s))
      (hindex : ∀ l x, server'.IndexAt l x ↔ server.IndexAt l x) :
      Selected config p w server path
        (.ok (n, s), .ofLocation (server.documentAt w path), server')

theorem session_eq (hl : w.locate (server.spelled path) = .ok l) :
    server.session w path =
      ((server.registry.get w (.ofLocation l)).1, .ofLocation l,
        { server with registry := (server.registry.get w (.ofLocation l)).2 }) := by
  have hlocate : Server.locate w server.workingDirectory (.ofString path) =
      .ok (.ofLocation l) := by
    show (w.locate (server.spelled path)).map _ = _
    rw [hl]
    rfl
  unfold session
  dsimp only
  rw [hlocate]

theorem selected (h : Kept config p server) (hw : Path.IsNormal w.cwd) (path : String) :
    Selected config p w server path (server.session w path) := by
  rcases hnul : (server.spelled path).hasNul with _ | _
  · have hl : w.locate (server.spelled path) = .ok (server.documentAt w path) :=
      World.locate_eq_ok_iff.mpr ⟨hnul, rfl⟩
    have hnormal : Path.IsNormal (server.documentAt w path) :=
      World.isNormal_of_locate hw (Path.isCut_join h.isCut (Path.isCut_ofString path)) hl
    have hself := World.locate_ofLocation hnormal w
    have hgot := Registry.got w server.registry (.ofLocation (server.documentAt w path))
    rw [session_eq hl]
    generalize server.registry.get w (.ofLocation (server.documentAt w path)) = result at hgot ⊢
    cases hgot with
    | lost hl' =>
      rw [hself] at hl'
      cases hl'
    | held hl' hs =>
      obtain rfl := Except.ok.inj (hself.symm.trans hl')
      exact .found hnul h hs fun _ _ => Iff.rfl
    | failed hl' hs he =>
      rw [h.shared_eq, Session.start_outcome h.shaped.parser_eq] at he
      cases he
    | @started l' s hl' hs he =>
      obtain rfl := Except.ok.inj (hself.symm.trans hl')
      rw [h.shared_eq, Session.start_outcome h.shaped.parser_eq] at he
      obtain rfl := Except.ok.inj he
      refine .found hnul (h.of_put ⟨rfl, rfl, rfl, hnormal⟩ rfl rfl rfl)
        (Assoc.get?_put_self ..) fun l x => ?_
      rw [indexAt_put_iff rfl]
      -- a session that was just started has no index, and there was none before
      by_cases hl : l = server.documentAt w path
      · subst hl
        refine iff_of_false ?_ ?_
        · rintro (⟨-, hx⟩ | ⟨hne, -⟩)
          · cases hx
          · exact hne rfl
        · rintro ⟨_, _, hget, -⟩
          rw [hs] at hget
          cases hget
      · simp [hl]
  · have hlost : Server.locate w server.workingDirectory (.ofString path) =
        .error .nulCharacter := by
      show (w.locate (server.spelled path)).map _ = _
      unfold World.locate
      rw [hnul]
      rfl
    unfold session
    dsimp only
    rw [hlost]
    exact .lost hnul

/-! ### One call -/

/-- The path of the document that a request is about. -/
def Request.path? : Request → Option String
  | .rebuildIndex path | .indexStatus path | .listIdentifiers path => some path
  | .resolveIdentifier path _ => some path
  | .identifierAtLine _ => none

/-- The answer to a request from the session of its document. -/
def Request.reply (w : World) (s : Session) : Request → Except Failure Table
  | .rebuildIndex _ =>
    answer builtFields
      (fun p => problemFields p ++ [("status", .table (statusFields (s.rebuild w).2.status))])
      (s.rebuild w).1.outcome
  | .indexStatus _ => .ok (success (statusFields s.status))
  | .listIdentifiers _ => answer listingFields problemFields s.readyIndex
  | .resolveIdentifier _ identifier =>
    answer (fun span => success (("path", .str s.path.text) :: spanFields span)) problemFields
      (s.resolve w identifier none)
  | .identifierAtLine line => .ok (lineFields (Listing.identifierOnLine? line))

/-- The session of the document after a request. -/
def Request.leaves (w : World) (s : Session) : Request → Session
  | .rebuildIndex _ => (s.rebuild w).2
  | _ => s

/-- The server after a request, given the session it has selected. -/
def Request.stores (w : World) (server : Server) (path : Path) (n : Nat) (s : Session) :
    Request → Server
  | .rebuildIndex _ => { server with registry := server.registry.store w path n (s.rebuild w).2 }
  | _ => server

theorem call_of_path? {request : Request} (hpath : request.path? = some path) :
    server.call w request =
      match server.session w path with
      | (.error e, _, server) => (.error e, server)
      | (.ok (n, s), path, server) => (request.reply w s, request.stores w server path n s) := by
  cases request <;> cases hpath <;> unfold call <;> dsimp only <;>
    rcases server.session w path with ⟨_ | _, _, _⟩ <;> rfl

/-- **What a call comes to** in a server that is kept. A call on a document leaves the indexes of
all other documents alone. -/
inductive Called (config : Table) (p : MarkupParser) (w : World) (server : Server)
    (request : Request) : Except Failure Table × Server → Prop where
  | line {line : String} (hrequest : request = .identifierAtLine line) :
      Called config p w server request (.ok (lineFields (Listing.identifierOnLine? line)), server)
  | lost {path : String} (hpath : request.path? = some path)
      (hnul : (server.spelled path).hasNul = true) :
      Called config p w server request (.error (.fault .nulCharacter), server)
  | asked {path : String} {s : Session} {server' : Server} (hpath : request.path? = some path)
      (hnul : (server.spelled path).hasNul = false)
      (hholds : Holds config p (server.documentAt w path) s)
      (hbefore : ∀ x, server.IndexAt (server.documentAt w path) x ↔ s.readyIndex = .ok x)
      (hkept : Kept config p server')
      (hafter : ∀ l x, server'.IndexAt l x ↔
        l = server.documentAt w path ∧ (request.leaves w s).readyIndex = .ok x ∨
          l ≠ server.documentAt w path ∧ server.IndexAt l x) :
      Called config p w server request (request.reply w s, server')

theorem Holds.rebuild (h : Holds config p l s) : Holds config p l (s.rebuild w).2 := by
  rcases ho : (s.rebuild w).1.outcome with e | b
  · rw [Session.rebuild_of_error ho]
    exact h
  · rw [Session.rebuild_of_ok ho]
    exact ⟨h.path_eq, h.settings_eq, h.parser_eq, h.normal⟩

theorem called (h : Kept config p server) (hw : Path.IsNormal w.cwd) (request : Request) :
    Called config p w server request (server.call w request) := by
  rcases hpath : request.path? with _ | path
  · cases request <;> cases hpath
    exact .line rfl
  · have hselected := selected h hw path
    rw [call_of_path? hpath]
    generalize server.session w path = result at hselected ⊢
    cases hselected with
    | lost hnul => exact .lost hpath hnul
    | @found n s server' hnul hkept hget hindex =>
      have hholds := hkept.holds _ n s hget
      have hbefore (x : Index) : server.IndexAt (server.documentAt w path) x ↔
          s.readyIndex = .ok x := (hindex _ x).symm.trans (IndexAt.of_get? hget)
      have hstays (l : Location) (x : Index) : server'.IndexAt l x ↔
          l = server.documentAt w path ∧ s.readyIndex = .ok x ∨
            l ≠ server.documentAt w path ∧ server.IndexAt l x :=
        (hindex l x).trans (indexAt_split hbefore)
      cases request with
      | rebuildIndex path' =>
        have hsessions : (server'.registry.store w (.ofLocation (server.documentAt w path)) n
            (s.rebuild w).2).sessions = Assoc.put server'.registry.sessions
              (server.documentAt w path) (n, (s.rebuild w).2) := by
          unfold Registry.store
          rw [Path.resolve_ofLocation hholds.normal]
        refine .asked hpath hnul hholds hbefore (hkept.of_put hholds.rebuild rfl rfl hsessions) ?_
        intro l x
        rw [indexAt_put_iff hsessions, hindex]
        rfl
      | indexStatus path' => exact .asked hpath hnul hholds hbefore hkept hstays
      | listIdentifiers path' => exact .asked hpath hnul hholds hbefore hkept hstays
      | resolveIdentifier path' identifier => exact .asked hpath hnul hholds hbefore hkept hstays
      | identifierAtLine line => cases hpath

theorem replies_of_lost {escapes succeeds : Prop} (h : escapes) :
    Replies escapes succeeds (.error (.fault .nulCharacter)) :=
  ⟨fun _ => fails_error_iff.mpr (Failure.escapes_fault _), fun h' => absurd h h'⟩

/-- **How one call ends.** -/
theorem replies_call (h : Kept config p server) (hw : Path.IsNormal w.cwd) (request : Request) :
    Replies (Escapes w server p request) (Succeeds w server config p request)
      (server.call w request).1 := by
  have hcalled := called h hw request
  generalize server.call w request = result at hcalled ⊢
  cases hcalled with
  | @line line hrequest =>
    subst hrequest
    refine ⟨False.elim, fun _ => ?_⟩
    rcases hline : Listing.identifierOnLine? line with _ | identifier
    · exact ⟨_, false, rfl, rfl, by simp [Succeeds, hline], fun _ => ⟨_, rfl⟩⟩
    · exact ⟨_, true, rfl, rfl, by simp [Succeeds, hline], nofun⟩
  | lost hpath hnul =>
    refine replies_of_lost ?_
    cases request <;> cases hpath
    · exact Or.inl hnul
    · exact hnul
    · exact hnul
    · exact Or.inl hnul
  | @asked path s server' hpath hnul hholds hbefore hkept hafter =>
    cases request with
    | rebuildIndex path' =>
      cases hpath
      refine replies_congr ?_ ?_
        (replies_answer (fun _ => rfl) (fun _ => ⟨rfl, rfl⟩) (s.rebuild w).1.outcome)
      · rw [Session.rebuild_outcome, hholds.attempt_escapes_iff h.shaped]
        simp [Escapes, hnul]
      · simp only [Session.rebuild_outcome, hholds.builds_iff, Succeeds]
    | indexStatus path' =>
      cases hpath
      refine ⟨fun hescapes => ?_, fun _ => ⟨_, true, rfl, rfl, by simp [Succeeds], nofun⟩⟩
      exact absurd (hescapes.symm.trans hnul) (by decide)
    | listIdentifiers path' =>
      cases hpath
      refine replies_congr ?_ ?_ (replies_answer (fun _ => rfl) (fun _ => ⟨rfl, rfl⟩) s.readyIndex)
      · simp [s.not_escapes_readyIndex, Escapes, hnul]
      · simp only [Succeeds, hbefore]
    | resolveIdentifier path' identifier =>
      cases hpath
      refine replies_congr ?_ ?_
        (replies_answer (fun _ => rfl) (fun _ => ⟨rfl, rfl⟩) (s.resolve w identifier none))
      · simp only [Session.resolve_escapes_iff, Escapes, hbefore, hholds.path_eq, hnul,
          Bool.false_eq_true, false_or]
      · simp only [Session.resolve_none_eq_ok_iff, Succeeds, hbefore, hholds.path_eq]
        exact ⟨fun ⟨span, x, text, h⟩ => ⟨x, text, span, h⟩,
          fun ⟨x, text, span, h⟩ => ⟨span, x, text, h⟩⟩
    | identifierAtLine line => cases hpath

theorem Kept.call (h : Kept config p server) (hw : Path.IsNormal w.cwd) (request : Request) :
    Kept config p (server.call w request).2 := by
  have hcalled := called h hw request
  generalize server.call w request = result at hcalled ⊢
  cases hcalled with
  | line => exact h
  | lost => exact h
  | asked hpath hnul hholds hbefore hkept hafter => exact hkept

/-- **Which documents have an index after one call:** those that had one before, and the one that is
rebuilt. -/
theorem indexAt_call_iff (h : Kept config p server) (hw : Path.IsNormal w.cwd) {request : Request} :
    (∃ x, (server.call w request).2.IndexAt l x) ↔
      (∃ x, server.IndexAt l x) ∨ Rebuilds w server l request := by
  rcases hr : server.call w request with ⟨result, server₁⟩
  have hcalled := called h hw request
  rw [hr] at hcalled
  have hrebuilds : Rebuilds w server l request ↔ ∃ path, request = .rebuildIndex path ∧
      w.locate (server.spelled path) = .ok l ∧ ∃ fields, result = .ok fields ∧
        Assoc.get? fields "success" = some (.bool true) := by
    simp only [Rebuilds, hr, exists_and_left]
  cases hcalled with
  | line hrequest =>
    subst hrequest
    simp [hrebuilds]
  | lost hpath hnul => simp [hrebuilds]
  | @asked path s server' hpath hnul hholds hbefore hkept hafter =>
    have hstays (hleaves : request.leaves w s = s) : (∃ x, server₁.IndexAt l x) ↔
        ∃ x, server.IndexAt l x := by
      refine exists_congr fun x => (hafter l x).trans ?_
      rw [hleaves]
      exact (indexAt_split hbefore).symm
    cases request with
    | rebuildIndex path' =>
      cases hpath
      have hlocate : w.locate (server.spelled path) = .ok l ↔ l = server.documentAt w path := by
        rw [World.locate_eq_ok_iff]
        exact ⟨fun h => h.2.symm, fun hl => ⟨hnul, hl.symm⟩⟩
      have hbuilds : Rebuilds w server l (.rebuildIndex path) ↔
          l = server.documentAt w path ∧ ∃ b, (s.rebuild w).1.outcome = .ok b := by
        have hsuccess : (∃ fields, (Request.rebuildIndex path).reply w s = .ok fields ∧
            Assoc.get? fields "success" = some (.bool true)) ↔
              ∃ b, (s.rebuild w).1.outcome = .ok b :=
          answer_success_iff (fun _ => rfl) (fun _ => rfl) _
        rw [hrebuilds, ← hlocate, ← hsuccess]
        simp only [Request.rebuildIndex.injEq, exists_eq_left']
      rcases ho : (s.rebuild w).1.outcome with e | b
      · rw [hstays (Session.rebuild_of_error ho), hbuilds, ho]
        simp
      · have hready : ((Request.rebuildIndex path).leaves w s).readyIndex = .ok b.index := by
          show (s.rebuild w).2.readyIndex = _
          rw [Session.rebuild_of_ok ho, Session.readyIndex_commit]
        simp only [hafter, hready, hbuilds, ho]
        by_cases hl : l = server.documentAt w path
        · simp [hl]
        · simp [hl]
    | indexStatus path' => simp [hrebuilds, hstays rfl]
    | listIdentifiers path' => simp [hrebuilds, hstays rfl]
    | resolveIdentifier path' identifier => simp [hrebuilds, hstays rfl]
    | identifierAtLine line => cases hpath

end kept

/-! ### Runs from a new server -/

theorem rebuilt_nil {server : Server} {l : Location} : ¬ Rebuilt server [] l := by
  rintro ⟨before, w, request, after, h, -⟩
  exact absurd h (by simp)

theorem rebuilt_cons_iff {server : Server} {w : World} {request : Request}
    {rest : List (World × Request)} {l : Location} :
    Rebuilt server ((w, request) :: rest) l ↔
      Rebuilds w server l request ∨ Rebuilt (server.call w request).2 rest l := by
  constructor
  · rintro ⟨_ | ⟨_, before⟩, w', request', after, h, hrebuilds⟩
    · obtain ⟨⟨rfl, rfl⟩, rfl⟩ := List.cons.inj h
      exact Or.inl hrebuilds
    · obtain ⟨rfl, rfl⟩ := List.cons.inj h
      exact Or.inr ⟨before, w', request', after, rfl, hrebuilds⟩
  · rintro (hrebuilds | ⟨before, w', request', after, rfl, hrebuilds⟩)
    · exact ⟨[], w, request, rest, rfl, hrebuilds⟩
    · exact ⟨(w, request) :: before, w', request', after, rfl, hrebuilds⟩

/-- **A whole run** keeps a server, and an index is there afterwards if it was there before or was
rebuilt on the way. -/
theorem Kept.run {config : Table} {p : MarkupParser} : ∀ (calls : List (World × Request))
    {server : Server}, Kept config p server → (∀ x ∈ calls, Path.IsNormal x.1.cwd) →
      Kept config p (server.run calls) ∧ ∀ l, (∃ x, (server.run calls).IndexAt l x) ↔
        (∃ x, server.IndexAt l x) ∨ Rebuilt server calls l
  | [], server, h, _ => ⟨h, fun l => by simp only [Server.run, rebuilt_nil, or_false]⟩
  | (w, request) :: rest, server, h, hcwd => by
    rw [List.forall_mem_cons] at hcwd
    obtain ⟨hkept, hindex⟩ := Kept.run rest (h.call hcwd.1 request) hcwd.2
    refine ⟨hkept, fun l => ?_⟩
    rw [rebuilt_cons_iff, ← or_assoc, ← indexAt_call_iff h hcwd.1]
    exact hindex l

/-- A new server has a path of the usual form for its working directory, and no sessions. -/
theorem create_eq_ok {w : World} {directory : Option String} {server : Server}
    (hw : Path.IsNormal w.cwd)
    (hcreate : (create w true (directory.map Path.ofString)).outcome = .ok server) :
    server.workingDirectory.IsCut ∧ server.registry.sessions = [] := by
  unfold create at hcreate
  simp only [if_true, Traced.outcome_bind, bind_eq_ok_iff, Traced.outcome_pure,
    Except.ok.injEq] at hcreate
  obtain ⟨_, -, rfl⟩ := hcreate
  refine ⟨?_, rfl⟩
  rcases directory with _ | text
  · exact Path.isCut_ofLocation hw
  · exact Path.isCut_ofString text

theorem kept_create {w : World} {directory : Option String} {server : Server} {config : Table}
    {p : MarkupParser} (hw : Path.IsNormal w.cwd)
    (hcreate : (create w true (directory.map Path.ofString)).outcome = .ok server)
    (hconfig : server.registry.shared = some config) (hshaped : MarkupParser.Shaped config p) :
    Kept config p server ∧ ∀ l x, ¬ server.IndexAt l x := by
  obtain ⟨hcut, hsessions⟩ := create_eq_ok hw hcreate
  refine ⟨⟨hshaped, hcut, hconfig, fun l n s hget => ?_⟩, ?_⟩
  · rw [hsessions] at hget
    cases hget
  · rintro l x ⟨n, s, hget, -⟩
    rw [hsessions] at hget
    cases hget

/-- **How every call of a server ends,** after any run of calls on a new server, each in a world of
its own, with a configuration of the usual shape.

The call answers, with success true or false, unless a failure escapes from it. That is so for a
path with a zero character, for a rebuild whose run of the markup parser is interrupted or cannot be
waited for, and for a lookup in a document that was rebuilt before and cannot be read any more. The
index of a document is there exactly if it was rebuilt in the run. -/
theorem run_replies {w₀ : World} {directory : Option String} {server₀ : Server} {config : Table}
    {p : MarkupParser} (hcwd₀ : Path.IsNormal w₀.cwd)
    (hcreate : (create w₀ true (directory.map Path.ofString)).outcome = .ok server₀)
    (hconfig : server₀.registry.shared = some config) (hshaped : MarkupParser.Shaped config p)
    (calls : List (World × Request)) (hcwd : ∀ x ∈ calls, Path.IsNormal x.1.cwd) :
    let server := server₀.run calls
    (∀ w : World, Path.IsNormal w.cwd → ∀ request,
      Replies (Escapes w server p request) (Succeeds w server config p request)
        (server.call w request).1) ∧
    ∀ l, (∃ x, server.IndexAt l x) ↔ Rebuilt server₀ calls l := by
  intro server
  obtain ⟨hnew, hnone⟩ := kept_create hcwd₀ hcreate hconfig hshaped
  obtain ⟨hkept, hindex⟩ := hnew.run calls hcwd
  refine ⟨fun w hw request => replies_call hkept hw request, fun l => (hindex l).trans ?_⟩
  exact or_iff_right fun ⟨x, hx⟩ => hnone l x hx

/-- A directory with the document `d`, which declares `x`. -/
def sampleSnapshot : Snapshot where
  cwd := ["w"]
  nodes := [(["w"], .directory), (["w", "d"], .file "<p id=x>".toUTF8.toList)]
  tools := [("nsgmls", { script := .prints "AID ID x\n(P\n".toUTF8.toList })]

/-- A new server in that directory. -/
def sampleServer : Server := ⟨.ofLocation ["w"], { shared := some Config.defaults }⟩

/-- After a rebuild of `d` the lookup of `x` is answered as long as the document is there, and
escapes once it is deleted. -/
theorem sampleServer_replies :
    let server := sampleServer.run [(sampleSnapshot.toWorld, .rebuildIndex "d")]
    (∃ fields success,
      (server.call sampleSnapshot.toWorld (.resolveIdentifier "d" "x")).1 = .ok fields ∧
        Assoc.get? fields "success" = some (.bool success)) ∧
    Fails Failure.Escapes
      (server.call (sampleSnapshot.delete ["w", "d"]).toWorld (.resolveIdentifier "d" "x")).1 := by
  intro server
  obtain ⟨p, hshaped⟩ := MarkupParser.shaped_defaults
  have hcreate : (create sampleSnapshot.toWorld true (Option.map Path.ofString none)).outcome =
      .ok sampleServer := rfl
  obtain ⟨hreplies, hindex⟩ := run_replies (by decide) hcreate rfl hshaped
    [(sampleSnapshot.toWorld, .rebuildIndex "d")] (by decide)
  have hrebuilt : Rebuilt sampleServer [(sampleSnapshot.toWorld, .rebuildIndex "d")] ["w", "d"] :=
    ⟨[], _, _, [], rfl, "d", _, rfl, rfl, rfl, rfl⟩
  constructor
  · obtain ⟨fields, success, hfields, hsuccess, -⟩ :=
      (hreplies sampleSnapshot.toWorld (by decide) (.resolveIdentifier "d" "x")).2 (by
        rintro (h | ⟨-, f, h⟩)
        · cases h
        · cases h)
    exact ⟨fields, success, hfields, hsuccess⟩
  · exact (hreplies _ (by decide) (.resolveIdentifier "d" "x")).1
      (Or.inr ⟨(hindex ["w", "d"]).mpr hrebuilt, _, rfl⟩)

/-- **A lookup in a document that was deleted is not answered:** the rebuild before it succeeds, and
then the refusal of the operating system to open the document escapes. -/
theorem lookup_in_deleted_document_escapes :
    (create sampleSnapshot.toWorld true none).outcome = .ok sampleServer ∧
    (∃ fields, (sampleServer.call sampleSnapshot.toWorld (.rebuildIndex "d")).1 = .ok fields ∧
      Assoc.get? fields "success" = some (.bool true)) ∧
    ((sampleServer.call sampleSnapshot.toWorld (.rebuildIndex "d")).2.call
        (sampleSnapshot.delete ["w", "d"]).toWorld (.resolveIdentifier "d" "x")).1 =
      .error (.fault (.system ⟨.notFound, "/w/d"⟩)) :=
  ⟨rfl, ⟨_, rfl, rfl⟩, rfl⟩

end Server

end CrossRef

import CrossRef.Proofs.RegistryFrame
import CrossRef.Proofs.ServerAnswers

/-! # What a server remembers

Of all that happened to a document a server remembers its last successful rebuild and nothing else.
Every document has a session for this purpose, the one that is held for it or the one that would be
started; it is equal to a new session, or to a new session right after that rebuild. All answers
about a document are read off its session, so they depend on the history in this way only.

* `newSession`, `sessionAt`: the session of a document, before and in the course of a run.
* `Serves`: the invariant, the sessions of a server are about the locations they are held for.
* `call_located`: one call on a document reads off its session, and opens it if need be.
* `call_launch_of_reads`, `call_launch_of_rebuild`: only a rebuild starts a command, and only one.
* `sessionAt_run_of_not_rebuilt`, `sessionAt_run_of_lastRebuilt`: what a run leaves of a session.
* `run_remembers_last_rebuild`: what follows for the answers of a server after any run. -/

namespace CrossRef

theorem Traced.ofFault_ok_bind {ω α β : Type} (a : α) (f : α → Traced ω β) :
    (Traced.ofFault (.ok a) >>= f) = f a := rfl

/-! ### Worlds that differ in their commands -/

namespace World

variable (w : World) (launch : List String → Launch)

theorem walk_launch : ∀ (l : Location) (parts : List String),
    ({ w with launch } : World).walk l parts = w.walk l parts
  | _, [] => rfl
  | l, part :: parts => by
    have ih := walk_launch (Path.step l part) parts
    unfold walk
    rw [ih]

theorem readText_launch (path : Path) :
    ({ w with launch } : World).readText path = w.readText path := by
  unfold readText read find
  rw [walk_launch]

end World

namespace Session

theorem resolve_launch (w : World) (launch : List String → Launch) (s : Session)
    (identifier : String) :
    s.resolve { w with launch } identifier none = s.resolve w identifier none := by
  rw [resolve_none, resolve_none, World.readText_launch]

theorem caseSensitive_launch (w : World) (launch : List String → Launch) (s : Session) :
    s.caseSensitive { w with launch } = s.caseSensitive w := by
  unfold caseSensitive looksLikeXml
  rw [World.readText_launch]

/-- A build starts the command line for its document and no other. -/
theorem rebuild_launch {w : World} {launch : List String → Launch} {s : Session}
    (h : ∀ command, s.parser.commandTexts s.path.text = .ok command →
      launch command = w.launch command) : s.rebuild { w with launch } = s.rebuild w := by
  have hrun {command : List String} (hc : s.parser.commandTexts s.path.text = .ok command) :
      MarkupParser.run { w with launch } command s.parser.limit =
        MarkupParser.run w command s.parser.limit := by
    unfold MarkupParser.run
    simp only [h command hc]
  have hevents : s.parser.events { w with launch } s.path.text =
      s.parser.events w s.path.text := by
    unfold MarkupParser.events
    rcases hc : s.parser.commandTexts s.path.text with f | command
    · rfl
    · rw [Traced.ofFault_ok_bind, Traced.ofFault_ok_bind, hrun hc]
  have hattempt : s.attempt { w with launch } = s.attempt w := by
    unfold attempt
    rw [hevents, caseSensitive_launch]
  have hbegin (w : World) : s.begin.attempt w = s.attempt w := rfl
  unfold rebuild build
  rw [hbegin, hbegin, hattempt]
  rfl

end Session

namespace Server

/-! ### The session of a document -/

section sessions

variable {config : Table} {p : MarkupParser} {server : Server} {w : World} {l : Location}
  {path : String} {request : Request}

/-- A session for the document at `l` that was never built. -/
def newSession (config : Table) (p : MarkupParser) (l : Location) : Session :=
  { path := .ofLocation l, settings := config, parser := p }

/-- **The session of a document:** the one that is held for it, else a new one. -/
def sessionAt (config : Table) (p : MarkupParser) (server : Server) (l : Location) : Session :=
  ((Assoc.get? server.registry.sessions l).map (·.2)).getD (newSession config p l)

/-- The number of the session of a document. -/
def serialOf (server : Server) (l : Location) : Nat :=
  ((Assoc.get? server.registry.sessions l).map (·.1)).getD server.registry.started

/-- The server with one more session, behind all others. -/
def enrolled (server : Server) (l : Location) (s : Session) : Server :=
  { server with
    registry :=
      { server.registry with
        sessions := server.registry.sessions ++ [(l, server.registry.started, s)]
        started := server.registry.started + 1 } }

/-- The server once the document at `l` has a session. -/
def opened (config : Table) (p : MarkupParser) (server : Server) (l : Location) : Server :=
  if l ∈ Assoc.keys server.registry.sessions then server
  else server.enrolled l (newSession config p l)

/-- **A server that serves the documents of its registry:** its configuration describes the markup
parser `p`, its sessions share that configuration, and each is about the location it is held for. -/
structure Serves (config : Table) (p : MarkupParser) (server : Server) : Prop where
  accepted : MarkupParser.ofConfig config = .ok p
  isCut : server.workingDirectory.IsCut
  shared_eq : server.registry.shared = some config
  holds : ∀ l n s, Assoc.get? server.registry.sessions l = some (n, s) → Holds config p l s

/-- **The request asks for the document at `l`.** -/
def Asks (w : World) (server : Server) (l : Location) (request : Request) : Prop :=
  ∃ path, request.path? = some path ∧ w.locate (server.spelled path) = .ok l

/-- The request is none for a rebuild. -/
def Request.Reads (request : Request) : Prop := ∀ path, request ≠ .rebuildIndex path

theorem Asks.unique {l' : Location} (h : Asks w server l request) (h' : Asks w server l' request) :
    l = l' := by
  obtain ⟨path, hpath, hl⟩ := h
  obtain ⟨path', hpath', hl'⟩ := h'
  obtain rfl : path = path' := Option.some.inj (hpath.symm.trans hpath')
  exact Except.ok.inj (hl.symm.trans hl')

theorem Serves.isNormal (h : Serves config p server) (hw : Path.IsNormal w.cwd)
    (hl : w.locate (server.spelled path) = .ok l) : Path.IsNormal l :=
  World.isNormal_of_locate hw (Path.isCut_join h.isCut (Path.isCut_ofString path)) hl

theorem Serves.sessionAt_holds (h : Serves config p server) (hl : Path.IsNormal l) :
    Holds config p l (sessionAt config p server l) := by
  unfold sessionAt
  rcases hs : Assoc.get? server.registry.sessions l with _ | ⟨n, s⟩
  · exact ⟨rfl, rfl, rfl, hl⟩
  · exact h.holds l n s hs

/-- A server with one session put in place. -/
theorem Serves.of_put {server' : Server} {n : Nat} {s : Session} (h : Serves config p server)
    (hs : Holds config p l s) (hdirectory : server'.workingDirectory = server.workingDirectory)
    (hshared : server'.registry.shared = server.registry.shared)
    (hsessions : server'.registry.sessions = Assoc.put server.registry.sessions l (n, s)) :
    Serves config p server' := by
  refine ⟨h.accepted, hdirectory ▸ h.isCut, hshared.trans h.shared_eq, ?_⟩
  rw [hsessions]
  exact holds_put hs h.holds

theorem sessionAt_put {server' : Server} {n : Nat} {s : Session}
    (hsessions : server'.registry.sessions = Assoc.put server.registry.sessions l (n, s))
    (l' : Location) :
    sessionAt config p server' l' = if l' = l then s else sessionAt config p server l' := by
  unfold sessionAt
  rw [hsessions]
  split
  · next hl =>
    rw [hl, Assoc.get?_put_self]
    rfl
  · next hl => rw [Assoc.get?_put_of_ne hl]

/-! ### Opening the session of a document -/

theorem opened_of_mem (h : l ∈ Assoc.keys server.registry.sessions) :
    opened config p server l = server := if_pos h

theorem opened_of_not_mem (h : l ∉ Assoc.keys server.registry.sessions) :
    opened config p server l = server.enrolled l (newSession config p l) := if_neg h

/-- Opening a session puts the session of the document in place. -/
theorem sessions_opened : (opened config p server l).registry.sessions =
    Assoc.put server.registry.sessions l (server.serialOf l, sessionAt config p server l) := by
  rcases hs : Assoc.get? server.registry.sessions l with _ | ⟨n, s⟩
  · have hnew := Assoc.get?_eq_none_iff.mp hs
    rw [opened_of_not_mem hnew, serialOf, sessionAt, hs, Assoc.put_of_not_mem _ hnew]
    rfl
  · have hmem : l ∈ Assoc.keys server.registry.sessions := by
      rw [Assoc.mem_keys_iff, hs]
      rfl
    have hput : Assoc.put server.registry.sessions l
        (server.serialOf l, sessionAt config p server l) = server.registry.sessions := by
      refine Assoc.put_of_get? (hs.trans ?_)
      rw [serialOf, sessionAt, hs]
      rfl
    rw [opened_of_mem hmem, hput]

/-- **The selection of a session** opens the one of the document. -/
theorem session_opened (h : Serves config p server) (hw : Path.IsNormal w.cwd)
    (hl : w.locate (server.spelled path) = .ok l) :
    server.session w path =
      (.ok (server.serialOf l, sessionAt config p server l), .ofLocation l,
        opened config p server l) := by
  have hself := World.locate_ofLocation (h.isNormal hw hl) w
  rw [session_eq hl]
  rcases hs : Assoc.get? server.registry.sessions l with _ | ⟨n, s⟩
  · have hnew := Assoc.get?_eq_none_iff.mp hs
    have husable : server.registry.Usable w l config p := by
      refine ⟨?_, h.accepted⟩
      unfold Registry.settingsFor
      rw [h.shared_eq]
    rw [Registry.get_of_usable hself hnew husable, opened_of_not_mem hnew, serialOf, sessionAt, hs]
    rfl
  · have hget : server.registry.get w (.ofLocation l) = (.ok (n, s), server.registry) := by
      unfold Registry.get Registry.getAt
      rw [hself]
      simp only [hs]
    have hmem : l ∈ Assoc.keys server.registry.sessions := by
      rw [Assoc.mem_keys_iff, hs]
      rfl
    rw [hget, opened_of_mem hmem, serialOf, sessionAt, hs]
    rfl

/-! ### One call -/

/-- **A call on a document** is answered from the session of the document, which it opens if need
be. -/
theorem call_located (h : Serves config p server) (hw : Path.IsNormal w.cwd)
    (hpath : request.path? = some path) (hl : w.locate (server.spelled path) = .ok l) :
    server.call w request =
      (request.reply w (sessionAt config p server l),
        request.stores w (opened config p server l) (.ofLocation l) (server.serialOf l)
          (sessionAt config p server l)) := by
  rw [call_of_path? hpath, session_opened h hw hl]

/-- A call whose path cannot be located is not answered. -/
theorem call_lost {f : Fault} (hpath : request.path? = some path)
    (hf : w.locate (server.spelled path) = .error f) :
    server.call w request = (.error (.fault f), server) := by
  have hlost : Server.locate w server.workingDirectory (.ofString path) = .error f := by
    show (w.locate (server.spelled path)).map _ = _
    rw [hf]
    rfl
  rw [call_of_path? hpath]
  unfold session
  dsimp only
  rw [hlost]

/-- A call that asks for no document leaves the server as it is. -/
theorem call_of_not_asks (h : ∀ l, ¬ Asks w server l request) :
    (server.call w request).2 = server := by
  rcases hpath : request.path? with _ | path
  · cases request <;> cases hpath
    rfl
  · rcases hl : w.locate (server.spelled path) with f | l
    · rw [call_lost hpath hl]
    · exact absurd ⟨path, hpath, hl⟩ (h l)

/-- **All that a call does to the sessions of a server** is to put that of its document in place. -/
theorem sessions_call (h : Serves config p server) (hw : Path.IsNormal w.cwd)
    (hasks : Asks w server l request) : (server.call w request).2.registry.sessions =
      Assoc.put server.registry.sessions l
        (server.serialOf l, request.leaves w (sessionAt config p server l)) := by
  obtain ⟨path, hpath, hl⟩ := hasks
  rw [call_located h hw hpath hl]
  cases request with
  | rebuildIndex path' =>
    show Assoc.put (opened config p server l).registry.sessions
      ((Path.ofLocation l).resolve w.cwd) _ = _
    rw [Path.resolve_ofLocation (h.isNormal hw hl), sessions_opened, Assoc.put_put]
    rfl
  | indexStatus path' => exact sessions_opened
  | listIdentifiers path' => exact sessions_opened
  | resolveIdentifier path' identifier => exact sessions_opened
  | identifierAtLine line => cases hpath

/-- The working directory and the shared configuration of a server stay. -/
theorem constant_call (h : Serves config p server) (hw : Path.IsNormal w.cwd) (request : Request) :
    (server.call w request).2.workingDirectory = server.workingDirectory ∧
    (server.call w request).2.registry.shared = server.registry.shared := by
  have hopened (l : Location) : (opened config p server l).workingDirectory =
      server.workingDirectory ∧ (opened config p server l).registry.shared =
        server.registry.shared := by
    unfold opened
    split <;> exact ⟨rfl, rfl⟩
  by_cases hasks : ∃ l, Asks w server l request
  · obtain ⟨l, path, hpath, hl⟩ := hasks
    rw [call_located h hw hpath hl]
    cases request <;> exact hopened l
  · rw [call_of_not_asks fun l hl => hasks ⟨l, hl⟩]
    exact ⟨rfl, rfl⟩

theorem spelled_call (h : Serves config p server) (hw : Path.IsNormal w.cwd) :
    (server.call w request).2.spelled path = server.spelled path := by
  unfold spelled
  rw [(constant_call h hw request).1]

theorem leaves_holds {s : Session} (hs : Holds config p l s) :
    Holds config p l (request.leaves w s) := by
  cases request with
  | rebuildIndex path' => exact hs.rebuild
  | _ => exact hs

/-- **One call** keeps a server serving. -/
theorem Serves.call (h : Serves config p server) (hw : Path.IsNormal w.cwd) (request : Request) :
    Serves config p (server.call w request).2 := by
  obtain ⟨hdirectory, hshared⟩ := constant_call h hw request
  by_cases hasks : ∃ l, Asks w server l request
  · obtain ⟨l, hl⟩ := hasks
    obtain ⟨path, hpath, hlocate⟩ := hl
    have hholds := h.sessionAt_holds (h.isNormal hw hlocate)
    exact h.of_put (leaves_holds hholds) hdirectory hshared
      (sessions_call h hw ⟨path, hpath, hlocate⟩)
  · rwa [call_of_not_asks fun l hl => hasks ⟨l, hl⟩]

/-- **A call changes the session of its document alone,** and changes it as the request does. -/
theorem sessionAt_call_of_asks (h : Serves config p server) (hw : Path.IsNormal w.cwd)
    (hasks : Asks w server l request) : sessionAt config p (server.call w request).2 l =
      request.leaves w (sessionAt config p server l) := by
  rw [sessionAt_put (sessions_call h hw hasks), if_pos rfl]

theorem sessionAt_call_of_not_asks (h : Serves config p server) (hw : Path.IsNormal w.cwd)
    (hasks : ¬ Asks w server l request) :
    sessionAt config p (server.call w request).2 l = sessionAt config p server l := by
  by_cases hother : ∃ l', Asks w server l' request
  · obtain ⟨l', hl'⟩ := hother
    have hne : l ≠ l' := fun e => hasks (e ▸ hl')
    rw [sessionAt_put (sessions_call h hw hl'), if_neg hne]
  · rw [call_of_not_asks fun l' hl' => hother ⟨l', hl'⟩]

theorem mem_keys_call_iff (h : Serves config p server) (hw : Path.IsNormal w.cwd) :
    l ∈ Assoc.keys (server.call w request).2.registry.sessions ↔
      l ∈ Assoc.keys server.registry.sessions ∨ Asks w server l request := by
  by_cases hother : ∃ l', Asks w server l' request
  · obtain ⟨l', hl'⟩ := hother
    rw [sessions_call h hw hl', Assoc.mem_keys_put]
    exact or_congr_right ⟨fun e => e ▸ hl', fun hl => hl.unique hl'⟩
  · rw [call_of_not_asks fun l' hl' => hother ⟨l', hl'⟩]
    exact (or_iff_left fun hl => hother ⟨l, hl⟩).symm

/-! ### Requests that read -/

/-- **A request that reads** leaves the server as it is, or opens a new session for a document that
has none. -/
theorem call_of_reads (h : Serves config p server) (hw : Path.IsNormal w.cwd)
    (hreads : request.Reads) : (server.call w request).2 = server ∨
      ∃ l, Asks w server l request ∧ l ∉ Assoc.keys server.registry.sessions ∧
        (server.call w request).2 = server.enrolled l (newSession config p l) := by
  by_cases hasks : ∃ l, Asks w server l request
  · obtain ⟨l, path, hpath, hl⟩ := hasks
    have hcall : (server.call w request).2 = opened config p server l := by
      rw [call_located h hw hpath hl]
      cases request with
      | rebuildIndex path' => exact absurd rfl (hreads path')
      | _ => rfl
    rw [hcall]
    by_cases hmem : l ∈ Assoc.keys server.registry.sessions
    · exact Or.inl (opened_of_mem hmem)
    · exact Or.inr ⟨l, ⟨path, hpath, hl⟩, hmem, opened_of_not_mem hmem⟩
  · exact Or.inl (call_of_not_asks fun l hl => hasks ⟨l, hl⟩)

theorem session_launch (hshared : server.registry.shared = some config)
    (launch : List String → Launch) :
    server.session { w with launch } path = server.session w path := by
  have hget (path : Path) :
      server.registry.get { w with launch } path = server.registry.get w path := by
    have hlocate : ({ w with launch } : World).locate path = w.locate path := rfl
    unfold Registry.get Registry.getAt
    rw [hlocate, hshared]
    rfl
  have hlocate : Server.locate { w with launch } server.workingDirectory (.ofString path) =
      Server.locate w server.workingDirectory (.ofString path) := rfl
  unfold session
  simp only [hlocate, hget]

/-- **A request that reads starts no command:** whatever comes of starting one, the answer and the
server afterwards are the same. -/
theorem call_launch_of_reads (hshared : server.registry.shared = some config)
    (hreads : request.Reads) (launch : List String → Launch) :
    server.call { w with launch } request = server.call w request := by
  rcases hpath : request.path? with _ | path
  · cases request <;> cases hpath
    rfl
  · rw [call_of_path? hpath, call_of_path? hpath, session_launch hshared]
    rcases server.session w path with ⟨_ | ⟨n, s⟩, located, server'⟩
    · rfl
    · cases request with
      | rebuildIndex path' => exact absurd rfl (hreads path')
      | resolveIdentifier path' identifier =>
        show (answer _ _ (s.resolve { w with launch } identifier none), server') = _
        rw [Session.resolve_launch]
        rfl
      | _ => rfl

/-- **A rebuild starts one command line,** that of its document. -/
theorem call_launch_of_rebuild (h : Serves config p server) (hw : Path.IsNormal w.cwd)
    (hl : w.locate (server.spelled path) = .ok l) {launch : List String → Launch}
    (hlaunch : ∀ command, p.commandTexts (Path.ofLocation l).text = .ok command →
      launch command = w.launch command) :
    server.call { w with launch } (.rebuildIndex path) = server.call w (.rebuildIndex path) := by
  have hholds := h.sessionAt_holds (h.isNormal hw hl)
  have hrebuild : (sessionAt config p server l).rebuild { w with launch } =
      (sessionAt config p server l).rebuild w := by
    refine Session.rebuild_launch fun command hcommand => hlaunch command ?_
    rwa [hholds.parser_eq, hholds.path_eq] at hcommand
  have hl' : ({ w with launch } : World).locate (server.spelled path) = .ok l := hl
  have hw' : Path.IsNormal ({ w with launch } : World).cwd := hw
  rw [call_located h hw rfl hl, call_located h hw' rfl hl']
  unfold Request.reply Request.stores
  simp only [hrebuild]
  rfl

/-! ### Rebuilds -/

/-- **A call rebuilds the index** of its document exactly if a build in its world succeeds. -/
theorem rebuilds_iff (h : Serves config p server) (hw : Path.IsNormal w.cwd) :
    Rebuilds w server l request ↔
      (∃ path, request = .rebuildIndex path ∧ w.locate (server.spelled path) = .ok l) ∧
        ∃ b, (newSession config p l).Builds w b := by
  have hsuccess {path : String} (hl : w.locate (server.spelled path) = .ok l) :
      (∃ fields, (server.call w (.rebuildIndex path)).1 = .ok fields ∧
        Assoc.get? fields "success" = some (.bool true)) ↔
          ∃ b, (newSession config p l).Builds w b := by
    have hholds := h.sessionAt_holds (h.isNormal hw hl)
    rw [call_located h hw rfl hl]
    refine (answer_success_iff (fun _ => rfl) (fun _ => rfl) _).trans ?_
    simp only [Session.rebuild_outcome, hholds.builds_iff, newSession]
  constructor
  · rintro ⟨path, fields, rfl, hl, hanswer⟩
    exact ⟨⟨path, rfl, hl⟩, (hsuccess hl).mp ⟨fields, hanswer⟩⟩
  · rintro ⟨⟨path, rfl, hl⟩, hb⟩
    obtain ⟨fields, hanswer⟩ := (hsuccess hl).mpr hb
    exact ⟨path, fields, rfl, hl, hanswer⟩

theorem Holds.commit {s : Session} (h : Holds config p l s) (b : Build) :
    s.commit w b = (newSession config p l).commit w b := by
  unfold Session.commit newSession
  rw [h.path_eq, h.settings_eq, h.parser_eq]

/-- After a successful rebuild the session is a new one with that build, whatever it held before. -/
theorem sessionAt_call_of_rebuilds (h : Serves config p server) (hw : Path.IsNormal w.cwd)
    {b : Build} (hr : Rebuilds w server l request) (hb : (newSession config p l).Builds w b) :
    sessionAt config p (server.call w request).2 l = (newSession config p l).commit w b := by
  obtain ⟨⟨path, rfl, hl⟩, -⟩ := (rebuilds_iff h hw).mp hr
  have hholds := h.sessionAt_holds (h.isNormal hw hl)
  have ho : ((sessionAt config p server l).rebuild w).1.outcome = .ok b := by
    rw [Session.rebuild_outcome]
    exact hholds.builds_iff.mpr hb
  rw [sessionAt_call_of_asks h hw ⟨path, rfl, hl⟩]
  show ((sessionAt config p server l).rebuild w).2 = _
  rw [Session.rebuild_of_ok ho, hholds.commit]

/-- Any other call leaves the session as it is, a rebuild that fails as well. -/
theorem sessionAt_call_of_not_rebuilds (h : Serves config p server) (hw : Path.IsNormal w.cwd)
    (hr : ¬ Rebuilds w server l request) :
    sessionAt config p (server.call w request).2 l = sessionAt config p server l := by
  by_cases hasks : Asks w server l request
  · rw [sessionAt_call_of_asks h hw hasks]
    obtain ⟨path, hpath, hl⟩ := hasks
    cases request with
    | rebuildIndex path' =>
      cases hpath
      have hholds := h.sessionAt_holds (h.isNormal hw hl)
      show ((sessionAt config p server l).rebuild w).2 = _
      rcases ho : ((sessionAt config p server l).rebuild w).1.outcome with e | b
      · exact Session.rebuild_of_error ho
      · rw [Session.rebuild_outcome] at ho
        exact absurd ((rebuilds_iff h hw).mpr ⟨⟨path, rfl, hl⟩, b, hholds.builds_iff.mp ho⟩) hr
    | _ => rfl
  · exact sessionAt_call_of_not_asks h hw hasks

end sessions

/-! ### Runs -/

theorem run_append (server : Server) : ∀ before after : List (World × Request),
    server.run (before ++ after) = (server.run before).run after
  | [], _ => rfl
  | (w, request) :: before, after => run_append (server.call w request).2 before after

/-- **The last rebuild of the document at `l` that succeeded:** it was made in the world `w` and
gave `b`, and no rebuild of that document has succeeded since. -/
def LastRebuilt (config : Table) (p : MarkupParser) (server : Server)
    (calls : List (World × Request)) (l : Location) (w : World) (b : Build) : Prop :=
  ∃ before request after, calls = before ++ (w, request) :: after ∧
    Rebuilds w (server.run before) l request ∧ (newSession config p l).Builds w b ∧
    ¬ Rebuilt ((server.run before).call w request).2 after l

section runs

variable {config : Table} {p : MarkupParser} {l : Location}

/-- **A whole run** keeps a server serving. -/
theorem Serves.run : ∀ {calls : List (World × Request)} {server : Server},
    Serves config p server → (∀ x ∈ calls, Path.IsNormal x.1.cwd) →
      Serves config p (server.run calls)
  | [], _, h, _ => h
  | (w, request) :: rest, server, h, hcwd => by
    rw [List.forall_mem_cons] at hcwd
    rw [Server.run]
    exact Serves.run (h.call hcwd.1 request) hcwd.2

/-- Without a successful rebuild a session stays as it was. -/
theorem sessionAt_run_of_not_rebuilt : ∀ {calls : List (World × Request)} {server : Server},
    Serves config p server → (∀ x ∈ calls, Path.IsNormal x.1.cwd) → ¬ Rebuilt server calls l →
      sessionAt config p (server.run calls) l = sessionAt config p server l
  | [], _, _, _, _ => rfl
  | (w, request) :: rest, server, h, hcwd, hr => by
    rw [List.forall_mem_cons] at hcwd
    rw [rebuilt_cons_iff, not_or] at hr
    exact (sessionAt_run_of_not_rebuilt (h.call hcwd.1 request) hcwd.2 hr.2).trans
      (sessionAt_call_of_not_rebuilds h hcwd.1 hr.1)

/-- **After any run** the session of a document is a new one with its last successful build. -/
theorem sessionAt_run_of_lastRebuilt {calls : List (World × Request)} {server : Server} {w : World}
    {b : Build} (h : Serves config p server) (hcwd : ∀ x ∈ calls, Path.IsNormal x.1.cwd)
    (hlast : LastRebuilt config p server calls l w b) :
    sessionAt config p (server.run calls) l = (newSession config p l).commit w b := by
  obtain ⟨before, request, after, rfl, hr, hb, hlater⟩ := hlast
  rw [List.forall_mem_append, List.forall_mem_cons] at hcwd
  obtain ⟨hbefore, hw, hafter⟩ := hcwd
  have hserves := h.run hbefore
  rw [run_append]
  exact (sessionAt_run_of_not_rebuilt (hserves.call hw request) hafter hlater).trans
    (sessionAt_call_of_rebuilds hserves hw hr hb)

/-- Of the successful rebuilds of a run one is the last. -/
theorem exists_lastRebuilt : ∀ {calls : List (World × Request)} {server : Server},
    Serves config p server → (∀ x ∈ calls, Path.IsNormal x.1.cwd) → Rebuilt server calls l →
      ∃ w b, LastRebuilt config p server calls l w b
  | [], _, _, _, hr => absurd hr rebuilt_nil
  | (w, request) :: rest, server, h, hcwd, hr => by
    rw [List.forall_mem_cons] at hcwd
    by_cases hlater : Rebuilt (server.call w request).2 rest l
    · obtain ⟨w', b, before, request', after, rfl, hlast⟩ :=
        exists_lastRebuilt (h.call hcwd.1 request) hcwd.2 hlater
      exact ⟨w', b, (w, request) :: before, request', after, rfl, hlast⟩
    · have hnow := (rebuilt_cons_iff.mp hr).resolve_right hlater
      obtain ⟨-, b, hb⟩ := (rebuilds_iff h hcwd.1).mp hnow
      exact ⟨w, b, [], request, rest, rfl, hnow, hb, hlater⟩

/-- The documents with a session are those that were asked for. -/
theorem mem_keys_run_iff : ∀ {calls : List (World × Request)} {server : Server},
    Serves config p server → (∀ x ∈ calls, Path.IsNormal x.1.cwd) →
      (l ∈ Assoc.keys (server.run calls).registry.sessions ↔
        l ∈ Assoc.keys server.registry.sessions ∨ ∃ x ∈ calls, Asks x.1 server l x.2)
  | [], _, _, _ => by simp [Server.run]
  | (w, request) :: rest, server, h, hcwd => by
    rw [List.forall_mem_cons] at hcwd
    have hasks (x : World × Request) :
        Asks x.1 (server.call w request).2 l x.2 ↔ Asks x.1 server l x.2 := by
      unfold Asks
      simp only [spelled_call h hcwd.1]
    rw [Server.run, mem_keys_run_iff (h.call hcwd.1 request) hcwd.2, mem_keys_call_iff h hcwd.1,
      List.exists_mem_cons_iff, or_assoc]
    simp only [hasks]

end runs

/-! ### Answers after a run -/

/-- The call is answered, and the answer is that the index is not ready. -/
def AnswersNotReady (result : Except Failure Table) : Prop :=
  ∃ fields, result = .ok fields ∧ Assoc.get? fields "success" = some (.bool false) ∧
    Assoc.get? fields "error_type" = some (.str "IndexNotReadyError")

section answers

variable {config : Table} {p : MarkupParser} {server : Server} {w : World} {l : Location}
  {path : String}

theorem serves_create {directory : Option String} (hw : Path.IsNormal w.cwd)
    (hcreate : (create w true (directory.map Path.ofString)).outcome = .ok server)
    (hconfig : server.registry.shared = some config)
    (haccepts : MarkupParser.ofConfig config = .ok p) : Serves config p server := by
  obtain ⟨hcut, hsessions⟩ := create_eq_ok hw hcreate
  refine ⟨haccepts, hcut, hconfig, fun l n s hget => ?_⟩
  rw [hsessions] at hget
  cases hget

theorem sessionAt_of_sessions_nil (h : server.registry.sessions = []) :
    sessionAt config p server l = newSession config p l := by
  rw [sessionAt, h]
  rfl

/-- A document with a new session has no listing and no declarations to show. -/
theorem answersNotReady_of_new (h : Serves config p server) (hw : Path.IsNormal w.cwd)
    (hl : w.locate (server.spelled path) = .ok l)
    (hnew : sessionAt config p server l = newSession config p l) :
    AnswersNotReady (server.call w (.listIdentifiers path)).1 ∧
    ∀ identifier, AnswersNotReady (server.call w (.resolveIdentifier path identifier)).1 := by
  refine ⟨?_, fun identifier => ?_⟩ <;> rw [call_located h hw rfl hl, hnew]
  · exact ⟨_, rfl, rfl, rfl⟩
  · exact ⟨_, rfl, rfl, rfl⟩

/-- A document is listed with the index of its session. -/
theorem list_of_commit {w₁ : World} {b : Build} (h : Serves config p server)
    (hw : Path.IsNormal w.cwd) (hl : w.locate (server.spelled path) = .ok l)
    (hbuilt : sessionAt config p server l = (newSession config p l).commit w₁ b) :
    (server.call w (.listIdentifiers path)).1 = .ok (listingFields b.index) := by
  rw [call_located h hw rfl hl, hbuilt]
  rfl

theorem indexStatus_located (h : Serves config p server) (hw : Path.IsNormal w.cwd)
    (hl : w.locate (server.spelled path) = .ok l) : (server.call w (.indexStatus path)).1 =
      .ok (success (statusFields (sessionAt config p server l).status)) := by
  rw [call_located h hw rfl hl]
  rfl

/-- **A rebuild that is answered without success** tells the status that the document had. -/
theorem status_of_failed_rebuild {fields : Table} (h : Serves config p server)
    (hw : Path.IsNormal w.cwd) (hl : w.locate (server.spelled path) = .ok l)
    (hanswer : (server.call w (.rebuildIndex path)).1 = .ok fields)
    (hfailed : Assoc.get? fields "success" = some (.bool false)) :
    Assoc.get? fields "status" =
      some (.table (statusFields (sessionAt config p server l).status)) := by
  rw [call_located h hw rfl hl] at hanswer
  generalize sessionAt config p server l = s at hanswer ⊢
  simp only [Request.reply] at hanswer
  rcases ho : (s.rebuild w).1.outcome with (problem | f | _ | _) | b <;> rw [ho] at hanswer
  · obtain rfl := Except.ok.inj hanswer
    rw [Session.rebuild_of_error ho]
    rfl
  · cases hanswer
  · cases hanswer
  · cases hanswer
  · obtain rfl := Except.ok.inj hanswer
    cases hfailed

end answers

/-- **What a server remembers,** after any run of calls on a new server whose configuration
describes a markup parser, each call in a world of its own.

A request that reads starts no command, and a rebuild starts no command line but that of its
document. A request that reads leaves the server as it is, or registers one empty session, for a
document that no call has asked for. As long as no rebuild of a document has succeeded, its listing
and its declarations are refused under every spelling of its path. Afterwards its listing is that of
the last rebuild that succeeded, whatever failed since. A rebuild that is answered without success
tells the status that the document had before, and has still. -/
theorem run_remembers_last_rebuild {w₀ : World} {directory : Option String} {server₀ : Server}
    {config : Table} {p : MarkupParser} (hcwd₀ : Path.IsNormal w₀.cwd)
    (hcreate : (create w₀ true (directory.map Path.ofString)).outcome = .ok server₀)
    (hconfig : server₀.registry.shared = some config)
    (haccepts : MarkupParser.ofConfig config = .ok p)
    (calls : List (World × Request)) (hcwd : ∀ x ∈ calls, Path.IsNormal x.1.cwd) :
    let server := server₀.run calls
    (∀ w launch request, request.Reads →
      server.call { w with launch } request = server.call w request) ∧
    (∀ w : World, Path.IsNormal w.cwd → ∀ path l launch, w.locate (server.spelled path) = .ok l →
      (∀ command, p.commandTexts (Path.ofLocation l).text = .ok command →
        launch command = w.launch command) →
      server.call { w with launch } (.rebuildIndex path) = server.call w (.rebuildIndex path)) ∧
    (∀ w : World, Path.IsNormal w.cwd → ∀ request, request.Reads →
      (server.call w request).2 = server ∨
      ∃ l s, Asks w server l request ∧ (∀ x ∈ calls, ¬ Asks x.1 server₀ l x.2) ∧
        s.IsFresh ∧ s.path = .ofLocation l ∧ (server.call w request).2 = server.enrolled l s) ∧
    (∀ l, ¬ Rebuilt server₀ calls l → ∀ w : World, Path.IsNormal w.cwd → ∀ path,
      w.locate (server.spelled path) = .ok l →
      AnswersNotReady (server.call w (.listIdentifiers path)).1 ∧
      ∀ identifier, AnswersNotReady (server.call w (.resolveIdentifier path identifier)).1) ∧
    (∀ l, Rebuilt server₀ calls l → ∃ w b, LastRebuilt config p server₀ calls l w b) ∧
    (∀ l w₁ b, LastRebuilt config p server₀ calls l w₁ b → ∀ w : World, Path.IsNormal w.cwd →
      ∀ path, w.locate (server.spelled path) = .ok l →
      (server.call w (.listIdentifiers path)).1 = .ok
        [("success", .bool true),
         ("lines", .array ((["Identifier (element)", "--------------------"] ++
            b.index.entries.map fun e => e.identifier ++ " (" ++ e.element ++ ")").map .str)),
         ("entries", .array (b.index.entries.map fun e => .table
            [("identifier", .str e.identifier), ("attribute", .str e.attr),
             ("element", .str e.element)]))]) ∧
    (∀ w : World, Path.IsNormal w.cwd → ∀ path fields,
      (server.call w (.rebuildIndex path)).1 = .ok fields →
      Assoc.get? fields "success" = some (.bool false) →
      ∃ status, Assoc.get? fields "status" = some (.table status) ∧
        ∀ w' : World, Path.IsNormal w'.cwd → ∀ path',
          w'.locate (server.spelled path') = w.locate (server.spelled path) →
          (server.call w' (.indexStatus path')).1 = .ok (success status) ∧
          ((server.call w (.rebuildIndex path)).2.call w' (.indexStatus path')).1 =
            .ok (success status)) := by
  intro server
  have hnew := serves_create hcwd₀ hcreate hconfig haccepts
  have hnone := (create_eq_ok hcwd₀ hcreate).2
  have h : Serves config p server := hnew.run hcwd
  refine ⟨fun w launch request hreads => call_launch_of_reads h.shared_eq hreads launch,
    fun w hw path l launch hl hlaunch => call_launch_of_rebuild h hw hl hlaunch, ?_, ?_,
    fun l => exists_lastRebuilt hnew hcwd, ?_, ?_⟩
  · intro w hw request hreads
    refine (call_of_reads h hw hreads).imp_right ?_
    rintro ⟨l, hasks, hmem, hcall⟩
    rw [mem_keys_run_iff hnew hcwd, hnone] at hmem
    refine ⟨l, newSession config p l, hasks, fun x hx hxl => hmem (Or.inr ⟨x, hx, hxl⟩),
      ⟨rfl, rfl, rfl, rfl⟩, rfl, hcall⟩
  · intro l hr w hw path hl
    refine answersNotReady_of_new h hw hl ?_
    rw [sessionAt_run_of_not_rebuilt hnew hcwd hr, sessionAt_of_sessions_nil hnone]
  · intro l w₁ b hlast w hw path hl
    exact list_of_commit h hw hl (sessionAt_run_of_lastRebuilt hnew hcwd hlast)
  · intro w hw path fields hanswer hfailed
    rcases hl : w.locate (server.spelled path) with f | l
    · rw [call_lost rfl hl] at hanswer
      cases hanswer
    · refine ⟨_, status_of_failed_rebuild h hw hl hanswer hfailed, fun w' hw' path' hl' => ?_⟩
      have hsame : sessionAt config p (server.call w (.rebuildIndex path)).2 l =
          sessionAt config p server l := by
        refine sessionAt_call_of_not_rebuilds h hw ?_
        rintro ⟨path'', fields', -, -, hanswer', hsuccess⟩
        obtain rfl := Except.ok.inj (hanswer.symm.trans hanswer')
        rw [hfailed] at hsuccess
        cases hsuccess
      refine ⟨indexStatus_located h hw' hl', ?_⟩
      rw [← hsame]
      refine indexStatus_located (h.call hw _) hw' ?_
      rwa [spelled_call h hw]

/-- The directory of the sample after the document and the command are gone. -/
def clearedSnapshot : Snapshot := (sampleSnapshot.setTool "nsgmls" none).delete ["w", "d"]

/-- As long as its only rebuild has failed, the declarations of `d` are refused. After a rebuild
that succeeded it is listed under another spelling, although command and document are gone and the
rebuild that followed has failed. -/
theorem sampleServer_remembers :
    AnswersNotReady ((sampleServer.run [(clearedSnapshot.toWorld, .rebuildIndex "d")]).call
      sampleSnapshot.toWorld (.resolveIdentifier "./d" "x")).1 ∧
    ((sampleServer.run [(sampleSnapshot.toWorld, .rebuildIndex "d"),
        (clearedSnapshot.toWorld, .rebuildIndex "d")]).call clearedSnapshot.toWorld
          (.listIdentifiers "../w/d")).1 = .ok
      [("success", .bool true),
       ("lines", .array [.str "Identifier (element)", .str "--------------------", .str "x (p)"]),
       ("entries", .array [.table [("identifier", .str "x"), ("attribute", .str "id"),
          ("element", .str "p")]])] := by
  have hcreate : (create sampleSnapshot.toWorld true (Option.map Path.ofString none)).outcome =
      .ok sampleServer := rfl
  have hfails (server : Server) (hanswer : ∃ fields,
      (server.call clearedSnapshot.toWorld (.rebuildIndex "d")).1 = .ok fields ∧
        Assoc.get? fields "success" = some (.bool false)) :
      ¬ Rebuilt server [(clearedSnapshot.toWorld, .rebuildIndex "d")] ["w", "d"] := by
    obtain ⟨fields, hfields, hfailed⟩ := hanswer
    rw [rebuilt_cons_iff, not_or]
    refine ⟨?_, rebuilt_nil⟩
    rintro ⟨path, fields', -, -, hfields', hsuccess⟩
    obtain rfl := Except.ok.inj (hfields.symm.trans hfields')
    cases hfailed.symm.trans hsuccess
  constructor
  · obtain ⟨-, -, -, hrefused, -⟩ := run_remembers_last_rebuild (by decide) hcreate rfl rfl
      [(clearedSnapshot.toWorld, .rebuildIndex "d")] (by decide)
    have hnone := hfails sampleServer ⟨_, rfl, rfl⟩
    exact (hrefused ["w", "d"] hnone sampleSnapshot.toWorld (by decide) "./d" rfl).2 "x"
  · obtain ⟨-, -, -, -, -, hlisted, -⟩ := run_remembers_last_rebuild (by decide) hcreate rfl rfl
      [(sampleSnapshot.toWorld, .rebuildIndex "d"), (clearedSnapshot.toWorld, .rebuildIndex "d")]
      (by decide)
    have hlater := hfails (sampleServer.call sampleSnapshot.toWorld (.rebuildIndex "d")).2
      ⟨_, rfl, rfl⟩
    have hlist := hlisted ["w", "d"] sampleSnapshot.toWorld _
      ⟨[], _, _, rfl, ⟨"d", _, rfl, rfl, rfl, rfl⟩, Session.attempt_eq_ok_iff.mp rfl, hlater⟩
      clearedSnapshot.toWorld (by decide) "../w/d" rfl
    rw [hlist]
    generalize hb : Index.build _ _ = b
    have hentries : b.index.entries = [⟨"x", "id", "p"⟩] := by
      rw [← hb]
      decide +kernel
    rw [hentries]
    rfl

end Server

end CrossRef

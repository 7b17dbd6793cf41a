import CrossRef.Proofs.SessionRuns

/-! # How a build fails

A build runs the markup parser and makes an index of its output. What goes wrong with the command
and with the events is a problem, and is reported. All else *escapes*: the user's interrupt, a
command line that cannot be passed on, a limit that cannot be waited for, and a command without a
limit that never ends.

* `ran`: all that a run of a command line can come to.
* `run_interrupted_iff`, `run_endless_iff`, `run_escapes_iff`: when a run is interrupted, when it
  never ends, and when it escapes.
* `attempt_fails_run_iff`, `attempt_escapes_iff`: what of this a build passes on. -/

namespace CrossRef

/-- **The failure escapes:** it is no problem, so nothing reports it. -/
def Failure.Escapes (e : Failure) : Prop := ∀ p, e ≠ .problem p

theorem Failure.not_escapes_problem (p : Problem) : ¬ (Failure.problem p).Escapes :=
  fun h => h p rfl

theorem Failure.escapes_fault (f : Fault) : (Failure.fault f).Escapes := fun _ => nofun

theorem Failure.escapes_interrupt : Failure.interrupt.Escapes := fun _ => nofun

theorem Failure.escapes_endless : Failure.endless.Escapes := fun _ => nofun

namespace MarkupParser

/-! ### Command lines -/

theorem textsFrom_map_str : ∀ (i : Nat) (items : List String),
    textsFrom i (items.map .str) = .ok items
  | _, [] => rfl
  | i, s :: items => by
    rw [List.map_cons, textsFrom, textsFrom_map_str (i + 1) items]
    rfl

/-- A command and arguments that are texts make a command line. -/
theorem commandTexts_of_texts {p : MarkupParser} {name : String} {arguments : List String}
    (hname : p.command = .str name) (harguments : p.arguments = arguments.map .str)
    (path : String) : p.commandTexts path = .ok (name :: arguments ++ [path]) := by
  have hline : p.commandLine path = (name :: arguments ++ [path]).map .str := by
    unfold commandLine
    rw [hname, harguments]
    simp
  rw [commandTexts, hline, textsFrom_map_str]

/-! ### Runs of a command line -/

/-- There is no zero character in the command line. -/
def IsClean (command : List String) : Prop := ∀ item ∈ command, '\x00' ∉ item.toList

/-- The command is started: it ends, or it goes on for ever. -/
def Starts (w : World) (command : List String) : Prop :=
  w.launch command = .endless ∨
    ∃ status output errors, w.launch command = .finished status output errors

/-- The limit can be waited for. -/
def Waitable (limit : Option Double) : Prop := ∀ x f, limit = some x → checkLimit x ≠ .error f

/-- **What a run of a command line can come to.** -/
inductive Ran (w : World) (command : List String) (limit : Option Double) :
    Except Failure Output → Prop where
  | unclean (hclean : ¬ IsClean command) : Ran w command limit (.error (.fault .nulCharacter))
  | refused {p : Problem} {reason : OsError.Reason} (hclean : IsClean command)
      (hlaunch : w.launch command = .failed reason) : Ran w command limit (.error (.problem p))
  | interrupted (hclean : IsClean command) (hlaunch : w.launch command = .interrupted) :
      Ran w command limit (.error .interrupt)
  | endless (hclean : IsClean command) (hlaunch : w.launch command = .endless)
      (hlimit : limit = none) : Ran w command limit (.error .endless)
  | unwaitable {x : Double} {f : Fault} (hclean : IsClean command) (hstarts : Starts w command)
      (hlimit : limit = some x) (hx : checkLimit x = .error f) :
      Ran w command limit (.error (.fault f))
  | late {x : Double} {p : Problem} (hclean : IsClean command) (hstarts : Starts w command)
      (hlimit : limit = some x) (hwait : Waitable limit) : Ran w command limit (.error (.problem p))
  | finished {o : Output} {status : Int} {output errors : List UInt8} (hclean : IsClean command)
      (hlaunch : w.launch command = .finished status output errors) (hwait : Waitable limit) :
      Ran w command limit (.ok o)

theorem isClean_iff {command : List String} :
    ¬ (command.any (·.toList.contains '\x00')) = true ↔ IsClean command := by
  simp [IsClean]

theorem waitable_some {x : Double} {b : Bool} (h : checkLimit x = .ok b) : Waitable (some x) := by
  rintro _ f ⟨⟩ hf
  rw [h] at hf
  cases hf

theorem await_some (command : List String) (x : Double) (ending : Option Output) :
    await command (some x) ending =
      match checkLimit x with
      | .error f => .error (.fault f)
      | .ok true => .error (timedOut command x)
      | .ok false => ending.elim (.error (timedOut command x)) .ok := by
  rcases ending with _ | o <;> simp only [await] <;> rcases checkLimit x with f | _ | _ <;> rfl

theorem ran (w : World) (command : List String) (limit : Option Double) :
    Ran w command limit (run w command limit) := by
  unfold run
  split
  · next h => exact .unclean fun hclean => isClean_iff.mpr hclean h
  · next h =>
    have hclean := isClean_iff.mp h
    split
    · next hl => exact .refused hclean hl
    · next reason _ hl => exact .refused hclean hl
    · next hl => exact .interrupted hclean hl
    · next hl =>
      have hstarts : Starts w command := Or.inl hl
      rcases limit with _ | x
      · exact .endless hclean hl rfl
      · rw [await_some]
        rcases hx : checkLimit x with f | _ | _
        · exact .unwaitable hclean hstarts rfl hx
        · exact .late hclean hstarts rfl (waitable_some hx)
        · exact .late hclean hstarts rfl (waitable_some hx)
    · next status output errors hl =>
      have hstarts : Starts w command := Or.inr ⟨status, output, errors, hl⟩
      rcases limit with _ | x
      · exact .finished hclean hl fun _ _ => nofun
      · rw [await_some]
        rcases hx : checkLimit x with f | _ | _
        · exact .unwaitable hclean hstarts rfl hx
        · exact .finished hclean hl (waitable_some hx)
        · exact .late hclean hstarts rfl (waitable_some hx)

theorem Starts.not_interrupted {w : World} {command : List String} (h : Starts w command) :
    w.launch command ≠ .interrupted := by
  rintro hl
  rcases h with h | ⟨_, _, _, h⟩ <;> rw [hl] at h <;> cases h

/-- **A run is interrupted** if the user interrupts its start. -/
theorem run_interrupted_iff {w : World} {command : List String} {limit : Option Double} :
    Fails (· = .interrupt) (run w command limit) ↔
      IsClean command ∧ w.launch command = .interrupted := by
  have hran := ran w command limit
  generalize run w command limit = result at hran ⊢
  cases hran with
  | unclean hclean => simp [hclean]
  | refused hclean hlaunch => simp [hlaunch]
  | interrupted hclean hlaunch => simp [hclean, hlaunch]
  | endless hclean hlaunch => simp [hlaunch]
  | unwaitable hclean hstarts => simp [hstarts.not_interrupted]
  | late hclean hstarts => simp [hstarts.not_interrupted]
  | finished hclean hlaunch => simp [hlaunch]

/-- **A run never ends** if its command does not and nothing limits its time. -/
theorem run_endless_iff {w : World} {command : List String} {limit : Option Double} :
    Fails (· = .endless) (run w command limit) ↔
      IsClean command ∧ w.launch command = .endless ∧ limit = none := by
  have hran := ran w command limit
  generalize run w command limit = result at hran ⊢
  cases hran with
  | unclean hclean => simp [hclean]
  | refused hclean hlaunch => simp [hlaunch]
  | interrupted hclean hlaunch => simp [hlaunch]
  | endless hclean hlaunch hlimit => simp [hclean, hlaunch, hlimit]
  | unwaitable hclean hstarts hlimit => simp [hlimit]
  | late hclean hstarts hlimit => simp [hlimit]
  | finished hclean hlaunch => simp [hlaunch]

/-- **What lets a run escape.** -/
def RunEscapes (w : World) (command : List String) (limit : Option Double) : Prop :=
  ¬ IsClean command ∨ w.launch command = .interrupted ∨
    w.launch command = .endless ∧ limit = none ∨ Starts w command ∧ ¬ Waitable limit

theorem run_escapes_iff {w : World} {command : List String} {limit : Option Double} :
    Fails Failure.Escapes (run w command limit) ↔ RunEscapes w command limit := by
  have hran := ran w command limit
  unfold RunEscapes
  generalize run w command limit = result at hran ⊢
  cases hran with
  | unclean hclean =>
    exact iff_of_true (fails_error_iff.mpr (Failure.escapes_fault _)) (Or.inl hclean)
  | refused hclean hlaunch =>
    refine iff_of_false (fun h => Failure.not_escapes_problem _ (fails_error_iff.mp h)) ?_
    simp [hclean, hlaunch, Starts]
  | interrupted hclean hlaunch =>
    exact iff_of_true (fails_error_iff.mpr Failure.escapes_interrupt) (Or.inr (Or.inl hlaunch))
  | endless hclean hlaunch hlimit =>
    exact iff_of_true (fails_error_iff.mpr Failure.escapes_endless)
      (Or.inr (Or.inr (Or.inl ⟨hlaunch, hlimit⟩)))
  | unwaitable hclean hstarts hlimit hx =>
    exact iff_of_true (fails_error_iff.mpr (Failure.escapes_fault _))
      (Or.inr (Or.inr (Or.inr ⟨hstarts, fun hwait => hwait _ _ hlimit hx⟩)))
  | late hclean hstarts hlimit hwait =>
    refine iff_of_false (fun h => Failure.not_escapes_problem _ (fails_error_iff.mp h)) ?_
    simp [hclean, hstarts.not_interrupted, hlimit, hlimit ▸ hwait]
  | finished hclean hlaunch hwait =>
    refine iff_of_false (not_fails_ok _) ?_
    simp [hclean, hlaunch, hwait]

/-! ### Events -/

theorem not_fails_judge {P : Failure → Prop} (hP : ∀ p, ¬ P (.problem p)) (p : MarkupParser)
    (command : List String) (path : String) (o : Output) :
    ¬ Fails P (p.judge command path o).outcome := by
  unfold judge
  split
  · exact not_fails_ok _
  · split
    · exact not_fails_ok _
    · exact fun h => hP _ (fails_error_iff.mp h)

/-- The events of a document fail, but for problems, with the command line or with its run. -/
theorem events_fails_iff {P : Failure → Prop} (hP : ∀ p, ¬ P (.problem p)) {w : World}
    {p : MarkupParser} {path : String} : Fails P (p.events w path).outcome ↔
      Fails (fun f => P (.fault f)) (p.commandTexts path) ∨
        ∃ command, p.commandTexts path = .ok command ∧ Fails P (run w command p.limit) := by
  unfold events
  simp only [Traced.outcome_bind, Traced.outcome_ofFault, Traced.note, Traced.outcome_tell,
    Traced.outcome_ofExcept, fails_bind_iff, fails_mapError_iff, mapError_eq_ok_iff, not_fails_ok,
    not_fails_judge hP, and_false, exists_false, or_false, false_or]
  simp

end MarkupParser

/-! ### Builds -/

namespace Session

theorem not_fails_indexEvents {P : Failure → Prop} (hP : ∀ p, ¬ P (.problem p))
    (policy strict : Bool) (events : List Event) :
    ¬ Fails P (indexEvents policy strict events).outcome := by
  rw [Ownership.indexEvents_outcome]
  split
  · exact fun h => hP _ (fails_error_iff.mp h)
  · exact not_fails_ok _

/-- A build fails, but for problems, with the events or with the settings for the index. -/
theorem attempt_fails_iff {P : Failure → Prop} (hP : ∀ p, ¬ P (.problem p)) {w : World}
    {s : Session} : Fails P (s.attempt w).outcome ↔
      Fails P (s.parser.events w s.path.text).outcome ∨
        ∃ events, (s.parser.events w s.path.text).outcome = .ok events ∧
          (Fails (fun f => P (.fault f)) (s.caseSensitive w) ∨
            ∃ policy, s.caseSensitive w = .ok policy ∧ Fails (fun f => P (.fault f)) s.strict) := by
  unfold attempt
  simp only [Traced.outcome_bind, Traced.outcome_ofFault, fails_bind_iff, fails_mapError_iff,
    mapError_eq_ok_iff, not_fails_indexEvents hP, and_false, exists_false, or_false]

/-- What is neither a problem nor a fault comes from the run of the command. -/
theorem attempt_fails_run_iff {P : Failure → Prop} (hP : ∀ p, ¬ P (.problem p))
    (hfault : ∀ f, ¬ P (.fault f)) {w : World} {s : Session} : Fails P (s.attempt w).outcome ↔
      ∃ command, s.parser.commandTexts s.path.text = .ok command ∧
        Fails P (MarkupParser.run w command s.parser.limit) := by
  have hnot {α : Type} (x : Except Fault α) : ¬ Fails (fun f => P (.fault f)) x :=
    fun ⟨f, _, hf⟩ => hfault f hf
  rw [attempt_fails_iff hP, MarkupParser.events_fails_iff hP]
  simp only [hnot, false_or, and_false, exists_false, or_false]

/-- The settings of the session for its index can be used. -/
def HasIndexSettings (s : Session) : Prop := ∃ t, MarkupParser.sectionOf s.settings "index" = .ok t

theorem exists_looksLikeXml {w : World} {path : Path} (hpath : path.hasNul = false) :
    ∃ b, looksLikeXml w path = .ok b := by
  unfold looksLikeXml World.readText World.read
  rw [if_neg (by simp [hpath])]
  rcases w.find path with reason | _ | _ | _
  · exact ⟨_, rfl⟩
  · exact ⟨_, rfl⟩
  · exact ⟨_, rfl⟩
  · exact ⟨_, rfl⟩

theorem exists_caseSensitive {w : World} {s : Session} (hs : s.HasIndexSettings)
    (hpath : s.path.hasNul = false) : ∃ b, s.caseSensitive w = .ok b := by
  obtain ⟨t, ht⟩ := hs
  simp only [caseSensitive, ht, bind, Except.bind]
  split
  · exact ⟨_, rfl⟩
  · split
    · exact exists_looksLikeXml hpath
    · exact ⟨_, rfl⟩
  · exact ⟨_, rfl⟩

theorem exists_strict {s : Session} (hs : s.HasIndexSettings) : ∃ b, s.strict = .ok b := by
  obtain ⟨t, ht⟩ := hs
  unfold strict
  rw [ht]
  exact ⟨_, rfl⟩

/-- **A build escapes** exactly if the run of its command does, as long as the command line is made
of texts and the settings for the index can be used. -/
theorem attempt_escapes_iff {w : World} {s : Session} {command : List String}
    (hcommand : s.parser.commandTexts s.path.text = .ok command) (hs : s.HasIndexSettings)
    (hpath : s.path.hasNul = false) :
    Fails Failure.Escapes (s.attempt w).outcome ↔
      MarkupParser.RunEscapes w command s.parser.limit := by
  obtain ⟨policy, hpolicy⟩ := exists_caseSensitive (w := w) hs hpath
  obtain ⟨refuses, hrefuses⟩ := exists_strict hs
  rw [attempt_fails_iff Failure.not_escapes_problem,
    MarkupParser.events_fails_iff Failure.not_escapes_problem, hcommand, hpolicy, hrefuses,
    ← MarkupParser.run_escapes_iff]
  simp

end Session

end CrossRef

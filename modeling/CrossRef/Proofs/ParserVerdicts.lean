import CrossRef.Proofs.BuildFailures
import CrossRef.Proofs.LineCuts
import CrossRef.Proofs.Trimming
import CrossRef.Proofs.Utf8Texts

/-! # Verdicts on a run of the markup parser

A run of the markup parser gives events, or it is reported why not: the command could not be
started, it did not end in time, or it ended in a way that is not accepted. In the last case the
report tells the end of the command's standard error and, in its wording, the last line of it.

The standard error is trimmed and cut into lines at the wide set of breaks, and the lines that are
kept are joined with line feeds. For the wording this text is cut once more. That gives the same
lines again, since none of them has a break in it and the last is not empty.

* `wideLines_intercalate`: lines that are joined and cut again.
* `Completes`, `TimesOut`, `Accepted`: what the world does with a command line, and what is accepted.
* `IsEndOf.lastLine_eq`: the last line of what is kept of a standard error.
* `events_verdict`: when there are events, and what is reported otherwise. -/

namespace CrossRef

/-! ### Lines that are joined and cut again -/

namespace Text

/-- No line break, in the wide sense, is among the characters. -/
def BreakFree (cs : List Char) : Prop := ∀ c ∈ cs, isWideBreak c = false

theorem wideLines_cons_of_not_break {c : Char} (hc : isWideBreak c = false) (cs : List Char) :
    wideLines (c :: cs) = consPiece c (wideLines cs) := by
  rw [wideLines, if_neg (by simp [hc])]
  rintro _ rfl
  exact absurd hc (by decide)

theorem wideLines_append_feed {l : List Char} (hl : BreakFree l) (cs : List Char) :
    wideLines (l ++ '\n' :: cs) = l :: wideLines cs := by
  induction l with
  | nil => rfl
  | cons c l ih =>
    obtain ⟨hc, hl⟩ := List.forall_mem_cons.mp hl
    rw [List.cons_append, wideLines_cons_of_not_break hc, ih hl]
    rfl

theorem wideLines_of_breakFree {c : Char} {l : List Char} (hl : BreakFree (c :: l)) :
    wideLines (c :: l) = [c :: l] := by
  induction l generalizing c with
  | nil => rw [wideLines_cons_of_not_break (hl c (by simp))]; rfl
  | cons d l ih =>
    obtain ⟨hc, hl⟩ := List.forall_mem_cons.mp hl
    rw [wideLines_cons_of_not_break hc, ih hl]
    rfl

/-- **Lines that are joined with line feeds are found again by cutting,** if none has a break in it
and the last is not empty. -/
theorem wideLines_intercalate : ∀ {lines : List (List Char)}, (∀ l ∈ lines, BreakFree l) →
    (∀ l ∈ lines.getLast?, l ≠ []) → wideLines (['\n'].intercalate lines) = lines
  | [], _, _ => rfl
  | [l], hfree, hlast => by
    obtain ⟨c, l, rfl⟩ := List.exists_cons_of_ne_nil (hlast l rfl)
    rw [List.intercalate_singleton]
    exact wideLines_of_breakFree (hfree _ (by simp))
  | l :: m :: rest, hfree, hlast => by
    obtain ⟨hl, hrest⟩ := List.forall_mem_cons.mp hfree
    have ih := wideLines_intercalate hrest (by rwa [List.getLast?_cons_cons] at hlast)
    rw [List.intercalate_cons_cons, List.append_assoc, List.singleton_append,
      wideLines_append_feed hl, ih]

theorem breakFree_of_mem_consPiece {c : Char} (hc : isWideBreak c = false)
    {lines : List (List Char)} (hlines : ∀ l ∈ lines, BreakFree l) {l : List Char}
    (h : l ∈ consPiece c lines) : BreakFree l := by
  rcases lines with _ | ⟨m, lines⟩
  · rw [List.mem_singleton.mp h]
    exact List.forall_mem_cons.mpr ⟨hc, by simp⟩
  · obtain ⟨hm, hrest⟩ := List.forall_mem_cons.mp hlines
    rcases List.mem_cons.mp h with rfl | h
    · exact List.forall_mem_cons.mpr ⟨hc, hm⟩
    · exact hrest l h

/-- No line has a break in it. -/
theorem breakFree_of_mem_wideLines {cs : List Char} : ∀ l ∈ wideLines cs, BreakFree l := by
  have hnil : BreakFree [] := by simp [BreakFree]
  fun_induction wideLines cs with
  | case1 => simp
  | case2 cs ih => exact List.forall_mem_cons.mpr ⟨hnil, ih⟩
  | case3 c cs _ hc ih => exact List.forall_mem_cons.mpr ⟨hnil, ih⟩
  | case4 c cs _ hc ih =>
    exact fun l hl => breakFree_of_mem_consPiece (by simpa using hc) ih hl

theorem exists_getLast?_consPiece {c : Char} {lines : List (List Char)}
    (h : ∀ l ∈ lines.getLast?, l ≠ []) :
    ∃ l, (consPiece c lines).getLast? = some l ∧ l ≠ [] := by
  rcases lines with _ | ⟨m, _ | ⟨n, lines⟩⟩
  · exact ⟨[c], rfl, by simp⟩
  · exact ⟨c :: m, rfl, by simp⟩
  · obtain ⟨l, hl⟩ : ∃ l, (n :: lines).getLast? = some l :=
      ⟨_, List.getLast?_eq_some_getLast (by simp)⟩
    exact ⟨l, by rwa [consPiece, List.getLast?_cons_cons], h l (by rwa [List.getLast?_cons_cons])⟩

/-- A break in front of a text leaves the end of the text alone. -/
theorem getLast?_of_break_cons {c d : Char} {cs : List Char} (hd : isWideBreak d = true)
    (hc : isWideBreak c = false) (h : (d :: cs).getLast? = some c) : cs.getLast? = some c := by
  rcases cs with _ | ⟨e, cs⟩
  · have hdc : d = c := Option.some.inj h
    rw [hdc, hc] at hd
    cases hd
  · rwa [List.getLast?_cons_cons] at h

/-- The last line of a text that does not end with a break is not empty. -/
theorem exists_getLast?_wideLines {cs : List Char} {c : Char} (h : cs.getLast? = some c)
    (hc : isWideBreak c = false) : ∃ l, (wideLines cs).getLast? = some l ∧ l ≠ [] := by
  have hnext {lines : List (List Char)} (h : ∃ l, lines.getLast? = some l ∧ l ≠ []) :
      ∃ l, ([] :: lines).getLast? = some l ∧ l ≠ [] := by
    obtain ⟨l, hl, hne⟩ := h
    exact ⟨l, by rw [List.getLast?_cons, hl]; rfl, hne⟩
  fun_induction wideLines cs with
  | case1 => cases h
  | case2 cs ih =>
    have hfeed := getLast?_of_break_cons (by decide) hc h
    exact hnext (ih (getLast?_of_break_cons (by decide) hc hfeed))
  | case3 d cs _ hd ih => exact hnext (ih (getLast?_of_break_cons hd hc h))
  | case4 d cs _ hd ih =>
    refine exists_getLast?_consPiece fun l hl => ?_
    rcases cs with _ | ⟨e, cs⟩
    · cases hl
    · obtain ⟨m, hm, hne⟩ := ih (by rwa [List.getLast?_cons_cons] at h)
      rw [hm] at hl
      cases hl
      exact hne

/-- Nothing is left of a text by trimming exactly if it is all white space. -/
theorem trim_eq_nil_iff {cs : List Char} : trim cs = [] ↔ AllBlank cs := by
  constructor
  · intro h c hc
    have hcount : cs.countP isSolid = 0 := by rw [← countP_isSolid_trim, h]; rfl
    exact isSolid_eq_false_iff.mp (by simpa using List.countP_eq_zero.mp hcount c hc)
  · intro h
    have hnil : AllBlank [] := by simp [AllBlank]
    exact trim_eq_iff.mpr ⟨cs, [], by simp, h, hnil, by simp [IsTrim]⟩

/-- A trimmed text has a last line that is not empty, unless nothing is left of it. -/
theorem exists_getLast?_wideLines_trim {cs : List Char} (h : ¬ AllBlank cs) :
    ∃ l, (wideLines (trim cs)).getLast? = some l ∧ l ≠ [] := by
  obtain ⟨c, hc⟩ : ∃ c, (trim cs).getLast? = some c :=
    ⟨_, List.getLast?_eq_some_getLast fun hnil => h (trim_eq_nil_iff.mp hnil)⟩
  have hblank : isBlank c = false := isSolid_eq_true_iff.mp ((isTrim_trim cs).2 c hc)
  refine exists_getLast?_wideLines hc (Bool.eq_false_iff.mpr fun hbreak => ?_)
  rw [isBlank_of_isWideBreak hbreak] at hblank
  cases hblank

/-! ### Decoding -/

theorem unixLines_eq_nil_iff {cs : List Char} : unixLines cs = [] ↔ cs = [] := by
  fun_cases unixLines cs <;> simp

end Text

theorem World.decoded_eq_nil_iff {bytes : List UInt8} : decoded bytes = [] ↔ bytes = [] := by
  unfold decoded Text.Utf8.decodeReplacing
  rw [Text.unixLines_eq_nil_iff, List.map_eq_nil_iff, Text.Utf8.pieces_eq_nil_iff]

namespace MarkupParser

/-! ### The end of a standard error -/

/-- **`tail` is the end of a standard error:** the last twenty of the lines of the trimmed text, or
all if there are fewer, joined with line feeds. -/
def IsEndOf (errors : List Char) (tail : String) : Prop :=
  ∃ front kept, Text.wideLines (Text.trim errors) = front ++ kept ∧
    kept.length = min 20 (Text.wideLines (Text.trim errors)).length ∧
    tail = Text.joined "\n" (kept.map String.ofList)

theorem isEndOf_errorTail (errors : List Char) : IsEndOf errors (errorTail errors) := by
  refine ⟨_, _, (List.take_append_drop _ _).symm, ?_, rfl⟩
  rw [List.length_drop, errorLines]
  omega

theorem toList_joined_feed (lines : List (List Char)) :
    (Text.joined "\n" (lines.map String.ofList)).toList = ['\n'].intercalate lines := by
  rw [Text.joined, String.toList_intercalate, List.map_map]
  simp [Function.comp_def]

theorem errorTail_of_allBlank {errors : List Char} (h : Text.AllBlank errors) :
    errorTail errors = "" := by
  unfold errorTail
  rw [Text.trim_eq_nil_iff.mpr h]
  rfl

/-- **The last line of the end of a standard error** is that of the whole, if it is not empty. -/
theorem IsEndOf.lastLine_eq {errors last : List Char} {tail : String} (h : IsEndOf errors tail)
    (hlast : (Text.wideLines (Text.trim errors)).getLast? = some last) (hne : last ≠ []) :
    tail ≠ "" ∧ Problem.lastLine tail = String.ofList last := by
  obtain ⟨front, kept, hlines, hlength, rfl⟩ := h
  have hkept : kept ≠ [] := by
    have hpos : 0 < (Text.wideLines (Text.trim errors)).length := by
      refine List.length_pos_iff.mpr fun hnil => ?_
      rw [hnil] at hlast
      cases hlast
    refine List.length_pos_iff.mp ?_
    omega
  have hlast' : kept.getLast? = some last := by
    rwa [hlines, List.getLast?_append_of_ne_nil _ hkept] at hlast
  -- the lines that are joined have no breaks in them, so cutting gives them back
  have hcut : Text.wideLines (Text.joined "\n" (kept.map String.ofList)).toList = kept := by
    rw [toList_joined_feed]
    refine Text.wideLines_intercalate (fun l hl => ?_) fun l hl => ?_
    · have hmem : l ∈ Text.wideLines (Text.trim errors) := by
        rw [hlines]
        exact List.mem_append_right front hl
      exact Text.breakFree_of_mem_wideLines l hmem
    · rw [hlast'] at hl
      cases hl
      exact hne
  refine ⟨fun hempty => ?_, ?_⟩
  · rw [hempty] at hcut
    exact hkept hcut.symm
  · rw [Problem.lastLine, hcut, hlast']
    rfl

/-! ### What the world does with a command line -/

/-- **The command runs to its end:** it is started and ends with a status and its output, and the
limit, if there is one, leaves it time. -/
def Completes (w : World) (command : List String) (limit : Option Double) (status : Int)
    (output errors : List UInt8) : Prop :=
  w.launch command = .finished status output errors ∧ ∀ x ∈ limit, x.isNotPositive = false

/-- **The limit `x` passes:** the command is started, but the limit leaves it no time or it never
ends. -/
def TimesOut (w : World) (command : List String) (limit : Option Double) (x : Double) : Prop :=
  limit = some x ∧ Starts w command ∧ (x.isNotPositive = true ∨ w.launch command = .endless)

/-- **The status and output of a command are accepted.** -/
def Accepted (tolerant : Bool) (status : Int) (output : List UInt8) : Prop :=
  status = 0 ∨ status = 1 ∧ output ≠ [] ∧ tolerant = true

theorem checkLimit_of_waitable {x : Double} (h : Waitable (some x)) :
    checkLimit x = .ok x.isNotPositive := by
  rcases hx : checkLimit x with f | b
  · exact absurd hx (h x f rfl)
  · unfold checkLimit at hx
    split at hx
    · next hp => rw [hp]; exact hx.symm
    · next hp =>
      obtain ⟨_, -, rfl⟩ := map_eq_ok_iff.mp hx
      rw [Bool.eq_false_iff.mpr hp]

section launch

variable {w : World} {command : List String} {limit : Option Double}

/-- A command line that the user does not interrupt, and that is not left to run for ever. -/
theorem launch_cases (hquiet : w.launch command ≠ .interrupted)
    (hends : limit = none → w.launch command ≠ .endless) :
    (∃ status output errors, Completes w command limit status output errors) ∨
      (∃ x, TimesOut w command limit x) ∨ ∃ reason, w.launch command = .failed reason := by
  rcases hl : w.launch command with reason | _ | _ | ⟨status, output, errors⟩
  · exact Or.inr (Or.inr ⟨reason, rfl⟩)
  · exact absurd hl hquiet
  · rcases limit with _ | x
    · exact absurd hl (hends rfl)
    · exact Or.inr (Or.inl ⟨x, rfl, Or.inl hl, Or.inr hl⟩)
  · rcases limit with _ | x
    · exact Or.inl ⟨status, output, errors, hl, nofun⟩
    · rcases hx : x.isNotPositive with _ | _
      · exact Or.inl ⟨status, output, errors, hl, by rintro _ ⟨⟩; exact hx⟩
      · exact Or.inr (Or.inl ⟨x, rfl, Or.inr ⟨_, _, _, hl⟩, Or.inl hx⟩)

theorem run_of_completes {status : Int} {output errors : List UInt8} (hclean : IsClean command)
    (hwait : Waitable limit) (h : Completes w command limit status output errors) :
    run w command limit = .ok ⟨status, World.decoded output, World.decoded errors⟩ := by
  obtain ⟨hl, hx⟩ := h
  unfold run
  rw [if_neg (isClean_iff.mpr hclean), hl]
  rcases limit with _ | x
  · rfl
  · simp only [await_some, checkLimit_of_waitable hwait, hx x rfl, Option.elim_some]

theorem run_of_timesOut {x : Double} (hclean : IsClean command) (hwait : Waitable limit)
    (h : TimesOut w command limit x) : run w command limit = .error (timedOut command x) := by
  obtain ⟨rfl, hstarts, hx⟩ := h
  unfold run
  rw [if_neg (isClean_iff.mpr hclean)]
  rcases hstarts with hl | ⟨status, output, errors, hl⟩ <;> rw [hl]
  · simp only [await_some, checkLimit_of_waitable hwait]
    cases x.isNotPositive <;> rfl
  · have hx' : x.isNotPositive = true := hx.resolve_right (by rw [hl]; nofun)
    simp only [await_some, checkLimit_of_waitable hwait, hx']

/-- A command that cannot be started has neither a status nor a standard error. -/
theorem run_of_failed {reason : OsError.Reason} (hclean : IsClean command)
    (h : w.launch command = .failed reason) (limit : Option Double) :
    ∃ trouble, run w command limit = .error (.problem (.tool command trouble)) ∧
      trouble.status? = none ∧ trouble.errors = "" := by
  unfold run
  rw [if_neg (isClean_iff.mpr hclean), h]
  cases reason <;> exact ⟨_, rfl, rfl, rfl⟩

end launch

/-! ### Verdicts -/

theorem accepts_iff {p : MarkupParser} {status : Int} {output : List UInt8} {errors : List Char} :
    status = 0 ∨ p.accepts ⟨status, World.decoded output, errors⟩ = true ↔
      Accepted p.tolerant status output := by
  unfold Accepted accepts
  simp only [Bool.and_eq_true, beq_iff_eq, Bool.not_eq_true', List.isEmpty_eq_false_iff, ne_eq,
    World.decoded_eq_nil_iff]
  constructor
  · exact Or.imp_right fun ⟨⟨ht, hs⟩, ho⟩ => ⟨hs, ho, ht⟩
  · exact Or.imp_right fun ⟨hs, ho, ht⟩ => ⟨⟨ht, hs⟩, ho⟩

section verdict

variable {w : World} {p : MarkupParser} {path : String} {command : List String}

theorem events_outcome (h : p.commandTexts path = .ok command) : (p.events w path).outcome =
    (run w command p.limit).bind fun o => (p.judge command path o).outcome := by
  unfold events
  simp only [Traced.outcome_bind, Traced.outcome_ofFault, h, Traced.note, Traced.outcome_tell,
    Traced.outcome_ofExcept]
  rfl

theorem events_of_run_error {e : Failure} (hc : p.commandTexts path = .ok command)
    (hr : run w command p.limit = .error e) : (p.events w path).outcome = .error e := by
  rw [events_outcome hc, hr]
  rfl

theorem events_of_refused {o : Output} (hc : p.commandTexts path = .ok command)
    (hr : run w command p.limit = .ok o) (hs : ¬ (o.status = 0 ∨ p.accepts o = true)) :
    (p.events w path).outcome =
      .error (.problem (.tool command (.exited o.status (errorTail o.errors)))) := by
  rw [events_outcome hc, hr]
  show (p.judge command path o).outcome = _
  unfold judge
  simp only [if_neg fun h => hs (Or.inl h), if_neg fun h => hs (Or.inr h)]
  rfl

end verdict

/-- **What is reported about a command line that ended,** by its status and standard error: the
status, the end of the standard error, and a wording that adds the last line of the trimmed standard
error unless all of it is white space. The line is then not empty. -/
structure ExitReport (name : String) (arguments : List String) (status : Int) (errors : List Char)
    (trouble : ToolTrouble) : Prop where
  status_eq : trouble.status? = some status
  errors_end : IsEndOf errors trouble.errors
  message_of_blank : Text.AllBlank errors → (Problem.tool (name :: arguments) trouble).message =
    name ++ " exited with status " ++ toString status
  message_of_not_blank : ¬ Text.AllBlank errors → ∃ last,
    (Text.wideLines (Text.trim errors)).getLast? = some last ∧ last ≠ [] ∧
    (Problem.tool (name :: arguments) trouble).message =
      name ++ " exited with status " ++ toString status ++ ": " ++ String.ofList last

theorem message_exited (name : String) (arguments : List String) (status : Int)
    (errors : String) : (Problem.tool (name :: arguments) (.exited status errors)).message =
      name ++ " exited with status " ++ toString status ++
        (if errors.isEmpty then "" else ": " ++ Problem.lastLine errors) := rfl

theorem exitReport_exited (name : String) (arguments : List String) (status : Int)
    (errors : List Char) :
    ExitReport name arguments status errors (.exited status (errorTail errors)) := by
  refine ⟨rfl, isEndOf_errorTail errors, fun h => ?_, fun h => ?_⟩
  · have hempty : (errorTail errors).isEmpty = true := by
      rw [errorTail_of_allBlank h]
      rfl
    rw [message_exited, if_pos hempty, String.append_empty]
  · obtain ⟨last, hlast, hne⟩ := Text.exists_getLast?_wideLines_trim h
    obtain ⟨htail, heq⟩ := (isEndOf_errorTail errors).lastLine_eq hlast hne
    have hempty : ¬ (errorTail errors).isEmpty = true := fun hnil =>
      htail (String.isEmpty_iff.mp hnil)
    refine ⟨last, hlast, hne, ?_⟩
    rw [message_exited, if_neg hempty, heq, ← String.append_assoc]

/-- **The verdict on a run of the markup parser.** Let command and arguments be texts without zero
characters and the limit one that can be waited for, and let the user not interrupt. There are
events exactly if the command runs to its end with status zero, or with status one and some output
if the parser is tolerant; they are those of the output. If the limit passes, that is reported. In
all other cases it is reported that there is trouble with the command line: either it could not be
started, and there is neither a status nor a standard error, or it ran to its end, and its status
and the end of its standard error are told. -/
theorem events_verdict {w : World} {p : MarkupParser} {path name : String}
    {arguments : List String} (hname : p.command = .str name)
    (harguments : p.arguments = arguments.map .str)
    (hclean : IsClean (name :: arguments ++ [path])) (hwait : Waitable p.limit)
    (hquiet : w.launch (name :: arguments ++ [path]) ≠ .interrupted)
    (hends : p.limit = none → w.launch (name :: arguments ++ [path]) ≠ .endless) :
    let command := name :: arguments ++ [path]
    let result := (p.events w path).outcome
    (∀ events, result = .ok events ↔ ∃ status output errors,
      Completes w command p.limit status output errors ∧ Accepted p.tolerant status output ∧
        events = eventsOf (World.decoded output)) ∧
    (∀ x, TimesOut w command p.limit x →
      result = .error (.problem (.timeout command (if x.isZero then .zero false else x)))) ∧
    ((¬ ∃ events, result = .ok events) → (¬ ∃ x, TimesOut w command p.limit x) →
      ∃ trouble, result = .error (.problem (.tool command trouble)) ∧
        ((∃ reason, w.launch command = .failed reason ∧
            trouble.status? = none ∧ trouble.errors = "") ∨
          ∃ status output errors, Completes w command p.limit status output errors ∧
            ExitReport name (arguments ++ [path]) status (World.decoded errors) trouble)) := by
  intro command result
  have hc : p.commandTexts path = .ok command := commandTexts_of_texts hname harguments path
  have haccepted {status : Int} {output errors : List UInt8}
      (h : Completes w command p.limit status output errors)
      (ha : Accepted p.tolerant status output) : result = .ok (eventsOf (World.decoded output)) :=
    events_of_run hc (run_of_completes hclean hwait h) (accepts_iff.mpr ha)
  have hrefused {status : Int} {output errors : List UInt8}
      (h : Completes w command p.limit status output errors)
      (ha : ¬ Accepted p.tolerant status output) : result =
        .error (.problem (.tool command (.exited status (errorTail (World.decoded errors))))) :=
    events_of_refused hc (run_of_completes hclean hwait h) fun h => ha (accepts_iff.mp h)
  have hlate {x : Double} (h : TimesOut w command p.limit x) :
      result = .error (timedOut command x) :=
    events_of_run_error hc (run_of_timesOut hclean hwait h)
  have hfailed {reason : OsError.Reason} (h : w.launch command = .failed reason) :
      ∃ trouble, result = .error (.problem (.tool command trouble)) ∧
        trouble.status? = none ∧ trouble.errors = "" := by
    obtain ⟨trouble, hrun, htrouble⟩ := run_of_failed hclean h p.limit
    exact ⟨trouble, events_of_run_error hc hrun, htrouble⟩
  have hcases := launch_cases hquiet hends
  refine ⟨fun events => ⟨fun hok => ?_, ?_⟩, fun x => hlate, fun hnone htime => ?_⟩
  · rcases hcases with ⟨status, output, errors, hdone⟩ | ⟨x, hx⟩ | ⟨reason, hreason⟩
    · by_cases ha : Accepted p.tolerant status output
      · rw [haccepted hdone ha] at hok
        exact ⟨status, output, errors, hdone, ha, (Except.ok.inj hok).symm⟩
      · rw [hrefused hdone ha] at hok
        cases hok
    · rw [hlate hx] at hok
      cases hok
    · obtain ⟨trouble, htrouble, -⟩ := hfailed hreason
      rw [htrouble] at hok
      cases hok
  · rintro ⟨status, output, errors, hdone, ha, rfl⟩
    exact haccepted hdone ha
  · rcases hcases with ⟨status, output, errors, hdone⟩ | hx | ⟨reason, hreason⟩
    · have ha : ¬ Accepted p.tolerant status output := fun ha => hnone ⟨_, haccepted hdone ha⟩
      exact ⟨_, hrefused hdone ha,
        Or.inr ⟨status, output, errors, hdone, exitReport_exited name _ status _⟩⟩
    · exact absurd hx htime
    · obtain ⟨trouble, htrouble, hstatus⟩ := hfailed hreason
      exact ⟨trouble, htrouble, Or.inl ⟨reason, hreason, hstatus⟩⟩

/-- A command that prints `(P` and ends with status one; on its standard error it leaves `E: x`, an
empty line, and white space behind a form feed. -/
def complaint : Tool where
  script := .prints [40, 80, 10]
  errors := [69, 58, 32, 120, 10, 10, 12, 32, 10]
  status := 1

/-- A world in which `sp` complains. -/
def complaining : World := Snapshot.toWorld { cwd := [], tools := [("sp", complaint)] }

/-- A parser that is not tolerant reports the one line that is not white space. -/
theorem events_verdict_complaining : ∃ trouble,
    (plainParser.events complaining "d").outcome = .error (.problem (.tool ["sp", "d"] trouble)) ∧
      trouble.status? = some 1 ∧
      (Problem.tool ["sp", "d"] trouble).message = "sp exited with status 1: E: x" := by
  have hlaunch : complaining.launch ["sp", "d"] =
      .finished 1 [40, 80, 10] [69, 58, 32, 120, 10, 10, 12, 32, 10] := rfl
  have hclean : IsClean ["sp", "d"] := isClean_iff.mp (by decide)
  have hquiet : complaining.launch ["sp", "d"] ≠ .interrupted := by rw [hlaunch]; nofun
  have hends : plainParser.limit = none → complaining.launch ["sp", "d"] ≠ .endless :=
    fun _ => by rw [hlaunch]; nofun
  obtain ⟨hok, -, hreport⟩ := @events_verdict complaining plainParser "d" "sp" [] rfl rfl hclean
    (fun _ _ => nofun) hquiet hends
  have hnone : ¬ ∃ events, (plainParser.events complaining "d").outcome = .ok events := by
    rintro ⟨events, hevents⟩
    obtain ⟨status, output, errors, ⟨hdone, -⟩, ha, -⟩ := (hok events).mp hevents
    cases hlaunch.symm.trans hdone
    exact absurd ha (by simp [Accepted, plainParser])
  have htime : ¬ ∃ x, TimesOut complaining ["sp", "d"] plainParser.limit x :=
    fun ⟨x, hx, _⟩ => by cases hx
  obtain ⟨trouble, htrouble, ⟨reason, hreason, -⟩ | ⟨status, output, errors, ⟨hdone, -⟩, h⟩⟩ :=
    hreport hnone htime
  · cases hlaunch.symm.trans hreason
  · cases hlaunch.symm.trans hdone
    obtain ⟨last, hlast, -, hmessage⟩ := h.message_of_not_blank (by decide)
    have hline : last = ['E', ':', ' ', 'x'] := Option.some.inj (hlast.symm.trans (by decide))
    rw [hline] at hmessage
    exact ⟨trouble, htrouble, h.status_eq, hmessage⟩

end MarkupParser

end CrossRef

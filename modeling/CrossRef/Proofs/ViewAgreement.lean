import CrossRef.Proofs.ExitStatus

/-! # A resolve and a view of one identifier

Both commands open a session for the document, build its index and look the identifier up, the one
in the document as it is read for the lookup, the other in a text that it has read itself. They are
compared here for command lines that ask for the same document, identifier and options, where
standard output takes everything: a failure of the first is a failure of the second with the same
status, and where both succeed they name the same place. Only the settings of the view can set them
apart.

* `Unusable`: the settings of the view that cannot be used.
* `viewLines_cases`: a view fails exactly with these, and begins with its header otherwise.
* `resolve_output`, `view_of_found`: what both commands write once they have the declaration.
* `compared`: the ways in which a resolve and a view of one identifier can end.
* `view_agrees_with_resolve`: how the two runs compare. -/

namespace CrossRef.CommandLine

/-! ### Standard output -/

/-- What some acts write to standard output. -/
def written (acts : List Act) : String := Report.output ⟨acts, .returned 0⟩

theorem written_append (before after : List Act) :
    written (before ++ after) = written before ++ written after := by
  unfold written Report.output
  rw [List.filterMap_append, String.join_append]

theorem written_out (text : String) : written [.out text] = text :=
  String.empty_append

theorem write_of_takesAll {h : Host} (hall : h.TakesAll) (text : String) :
    write h text = .tell [.out text] := by
  unfold write
  rw [hall text]

theorem sayAll_of_takesAll {h : Host} (hall : h.TakesAll) : ∀ lines : List String,
    sayAll h lines = .tell (lines.map fun line => .out (line ++ "\n"))
  | [] => rfl
  | line :: lines => by
    unfold sayAll say
    rw [write_of_takesAll hall, sayAll_of_takesAll hall lines]
    rfl

/-- **A computation that writes nothing to standard output** and starts no server. -/
def Silent {α : Type} (x : Console α) : Prop := ∀ a ∈ x.trace, ∃ text, a = .err text

section silent

variable {α β : Type}

theorem Silent.written {x : Console α} (h : Silent x) : written x.trace = "" := by
  refine congrArg String.join (List.filterMap_eq_nil_iff.mpr fun a ha => ?_)
  obtain ⟨text, rfl⟩ := h a ha
  rfl

theorem trace_bind_of_ok {x : Console α} {f : α → Console β} {a : α} (h : x.outcome = .ok a) :
    (x >>= f).trace = x.trace ++ (f a).trace := by
  show (Traced.bind x f).trace = _
  unfold Traced.bind
  rw [h]

theorem silent_bind {x : Console α} {f : α → Console β} (hx : Silent x)
    (hf : ∀ a, Silent (f a)) : Silent (x >>= f) := by
  rcases h : x.outcome with e | a
  · have htrace : (x >>= f).trace = x.trace := by
      show (Traced.bind x f).trace = _
      unfold Traced.bind
      rw [h]
    unfold Silent
    rwa [htrace]
  · unfold Silent
    rw [trace_bind_of_ok h]
    exact fun b hb => (List.mem_append.mp hb).elim (hx b) (hf a b)

theorem silent_of_trace_nil {x : Console α} (h : x.trace = []) : Silent x := by
  unfold Silent
  rw [h]
  exact fun a ha => absurd ha List.not_mem_nil

theorem silent_heard (g : Globals) (x : Noted α) : Silent (heard g x) := by
  intro a ha
  obtain ⟨n, -, ha⟩ := List.mem_flatMap.mp ha
  unfold Globals.shown at ha
  split at ha
  · exact ⟨_, List.mem_singleton.mp ha⟩
  · cases ha

theorem silent_report (line : String) : Silent (report line) :=
  fun _ ha => ⟨_, List.mem_singleton.mp ha⟩

theorem silent_reportAll (lines : List String) : Silent (reportAll lines) := by
  intro a ha
  obtain ⟨line, -, rfl⟩ := List.mem_map.mp ha
  exact ⟨_, rfl⟩

theorem silent_buildOrReport (w : World) (g : Globals) (s : Session) :
    Silent (buildOrReport w g s) := by
  refine silent_bind (silent_of_trace_nil rfl) fun isFile => ?_
  rcases isFile with _ | _
  · exact silent_bind (silent_report _) fun _ => silent_of_trace_nil rfl
  · refine silent_bind (silent_heard g _) fun built => ?_
    rcases built with p | b
    · exact silent_bind (silent_report _) fun _ => silent_of_trace_nil rfl
    · exact silent_bind (silent_reportAll _) fun _ => silent_of_trace_nil rfl

end silent

/-- **Until a document is indexed** nothing is written to standard output. -/
theorem written_onDocument {w : World} {g : Globals} {d : Document} {s : Session} {b : Build}
    (h : Indexed w g d s b) (k : Session → Build → Console Nat) :
    written (onDocument w g d k).trace = written (k (s.commit w b) b).trace := by
  have hopened : (heard g (openSession w g d)).outcome = .ok s := h.opened
  have hbuilt : (buildOrReport w g s).outcome = .ok (some (s.commit w b, b)) := by
    have hindexing := indexing_eq_some_iff.mpr ⟨s, h, rfl⟩
    unfold indexing at hindexing
    rwa [h.opened] at hindexing
  unfold onDocument
  rw [trace_bind_of_ok hopened, trace_bind_of_ok hbuilt, written_append, written_append,
    (silent_heard g _).written, (silent_buildOrReport w g s).written]
  simp

/-! ### Views -/

/-- **The settings of a view cannot be used:** their section is no table, the number of lines is
left to a setting that is no number, or there are colours and the highlighter does not know the
style. -/
def Unusable (p : View.Highlighter) (config : Table) (context : Option Int) (colours : Bool) :
    Prop :=
  (∃ f, View.settings config = .error f) ∨
  ∃ t, View.settings config = .ok t ∧
    (context = none ∧ (∃ f, View.linesAround t = .error f) ∨
      colours = true ∧ ∃ f, p.style (View.styleSetting t) = .error f)

section lines

variable (p : View.Highlighter)

/-- The style of a view: none without colours. -/
def styleFor (t : Table) (colours : Bool) : Except Fault (Option View.Style) :=
  if colours then (p.style (View.styleSetting t)).map some else pure none

theorem styleFor_eq_error_iff {t : Table} {colours : Bool} :
    (∃ f, styleFor p t colours = .error f) ↔
      colours = true ∧ ∃ f, p.style (View.styleSetting t) = .error f := by
  unfold styleFor
  rcases colours with _ | _
  · simp [pure, Except.pure]
  · rcases p.style (View.styleSetting t) with f | style <;> simp [Except.map]

/-- A view with a number of lines fails exactly if it has no style that it needs. -/
theorem viewLines_some_cases {config t : Table} (ht : View.settings config = .ok t) (n : Int)
    (colours : Bool) (path : String) (text : List Char) (span : Span) :
    ((∃ f, styleFor p t colours = .error f) ∧
      ∃ f, viewLines p config (some n) colours path text span = .error f) ∨
    ((¬ ∃ f, styleFor p t colours = .error f) ∧
      ∃ rest, viewLines p config (some n) colours path text span =
        .ok (View.headerLine path span :: rest)) := by
  unfold viewLines styleFor
  simp only [ht, bind, Except.bind]
  rcases colours with _ | _
  · exact Or.inr ⟨by simp [pure, Except.pure], _, rfl⟩
  · rcases p.style (View.styleSetting t) with f | style
    · exact Or.inl ⟨⟨f, rfl⟩, f, rfl⟩
    · exact Or.inr ⟨by simp [Except.map], _, rfl⟩

theorem viewLines_none {config t : Table} (ht : View.settings config = .ok t) (colours : Bool)
    (path : String) (text : List Char) (span : Span) :
    viewLines p config none colours path text span = (View.linesAround t).bind fun n =>
      viewLines p config (some n) colours path text span := by
  unfold viewLines
  simp only [ht, bind, Except.bind]
  rcases View.linesAround t with f | n <;> rfl

/-- **A view fails** exactly if its settings cannot be used; otherwise it begins with its header. -/
theorem viewLines_cases (config : Table) (context : Option Int) (colours : Bool) (path : String)
    (text : List Char) (span : Span) :
    (Unusable p config context colours ∧
      ∃ f, viewLines p config context colours path text span = .error f) ∨
    (¬ Unusable p config context colours ∧
      ∃ rest, viewLines p config context colours path text span =
        .ok (View.headerLine path span :: rest)) := by
  unfold Unusable
  rcases ht : View.settings config with f | t
  · refine Or.inl ⟨Or.inl ⟨f, rfl⟩, f, ?_⟩
    unfold viewLines
    rw [ht]
    rfl
  · simp only [reduceCtorEq, exists_false, false_or, Except.ok.injEq, exists_eq_left',
      ← styleFor_eq_error_iff]
    have hsome (n : Int) := viewLines_some_cases p ht n colours path text span
    rcases context with _ | n
    · -- a number that cannot be read fails the view before its style is looked for
      rw [viewLines_none p ht]
      rcases View.linesAround t with f | n
      · exact Or.inl ⟨Or.inl ⟨rfl, f, rfl⟩, f, rfl⟩
      · simpa [Except.bind] using hsome n
    · simpa using hsome n

end lines

/-! ### Both commands -/

/-- The place of a declaration, as both commands write it. -/
def placeIn (d : Document) (span : Span) : String :=
  d.file.text ++ ":" ++ toString span.line ++ ":" ++ toString span.column

/-- The end of a view whose lines are made. -/
def showLines (h : Host) (lines : Except Fault (List (List Char))) : Console Nat := do
  let lines ← Traced.ofFault lines
  sayAll h (lines.map String.ofList)
  pure 0

section document

variable {h : Host} {g : Globals} {d : Document} {s : Session} {b : Build} {text : List Char}
  (hb : Indexed h.world g d s b)

theorem showLines_of_takesAll (hall : h.TakesAll) (lines : List (List Char)) :
    showLines h (.ok lines) =
      ⟨(lines.map String.ofList).map fun line => .out (line ++ "\n"), .ok 0⟩ := by
  show (sayAll h (lines.map String.ofList) >>= fun _ => pure 0) = _
  rw [sayAll_of_takesAll hall]
  show (⟨_ ++ [], .ok 0⟩ : Console Nat) = _
  rw [List.append_nil]
  rfl

theorem written_showLines (hall : h.TakesAll) (header : List Char) (rest : List (List Char)) :
    ∃ more, written (showLines h (.ok (header :: rest))).trace =
      String.ofList header ++ "\n" ++ more := by
  refine ⟨written (showLines h (.ok rest)).trace, ?_⟩
  rw [← written_out (String.ofList header ++ "\n"), ← written_append,
    showLines_of_takesAll hall, showLines_of_takesAll hall]
  rfl

include hb

/-- **What a resolve writes** once it has found the declaration. -/
theorem resolve_output (hall : h.TakesAll) {k : String} {span : Span}
    (ht : h.later.readText d.file = .ok text)
    (hspan : Declaration.resolve b.index k text = .ok span) :
    written (resolve h g d (.value k) false).trace =
      placeIn d span ++ ": " ++ span.text ++ "\n" := by
  have hplace : placeOf (s.commit h.world b) span = placeIn d span := by
    unfold placeOf placeIn
    rw [path_commit hb]
  unfold resolve
  rw [written_onDocument hb, locate_indexed hb, ht, ← hplace]
  show written (withDeclaration ((Declaration.resolve b.index k text).mapError _) _ _).trace = _
  rw [hspan]
  simp only [say, write_of_takesAll hall]
  exact written_out (placeOf (s.commit h.world b) span ++ ": " ++ span.text ++ "\n")

/-- **The two ways of looking up agree:** in the document as it is, and in its text as given. -/
theorem locate_given_eq (ht : h.later.readText d.file = .ok text) (identifier : Given String) :
    locate h.later (s.commit h.world b) identifier (some (String.ofList text)) =
      locate h.later (s.commit h.world b) identifier none := by
  rw [← path_commit hb] at ht
  cases identifier with
  | value k =>
    show (s.commit h.world b).resolve h.later k (some (String.ofList text)) =
      (s.commit h.world b).resolve h.later k none
    unfold Session.resolve
    simp only [Session.readyIndex_commit, ht, String.toList_ofList]
  | void =>
    unfold locate
    rw [Session.readyIndex_commit, ht]
    rfl

/-- A view whose document cannot be read once its index is built. -/
theorem view_of_unreadable {f : Fault} (hread : h.later.readText d.file = .error f)
    (identifier : Given String) (context : Option Int) (plain : Bool) :
    (view h g d identifier context plain).outcome = .error (.fault f) := by
  unfold view
  rw [onDocument_indexed hb, path_commit hb, hread]
  rfl

/-- **A view of an indexed document** is a lookup like that of a resolve, and then the lines. -/
theorem view_indexed (ht : h.later.readText d.file = .ok text) (identifier : Given String)
    (context : Option Int) (plain : Bool) :
    let looked := withDeclaration (locate h.later (s.commit h.world b) identifier none) ""
      fun span => showLines h (viewLines h.highlighter s.settings context (!plain && h.terminal)
        d.file.text text span)
    (view h g d identifier context plain).outcome = looked.outcome ∧
      written (view h g d identifier context plain).trace = written looked.trace := by
  intro looked
  unfold view
  rw [onDocument_indexed hb, written_onDocument hb, path_commit hb, ht]
  show (withDeclaration (locate h.later (s.commit h.world b) identifier
      (some (String.ofList text))) "" _).outcome = _ ∧ written (withDeclaration
        (locate h.later (s.commit h.world b) identifier (some (String.ofList text))) "" _).trace = _
  rw [locate_given_eq hb ht]
  exact ⟨rfl, rfl⟩

/-- A view whose lookup fails ends like it. -/
theorem view_of_fault (ht : h.later.readText d.file = .ok text) {f : Fault}
    {identifier : Given String}
    (hlocate : locate h.later (s.commit h.world b) identifier none = .error (.fault f))
    (context : Option Int) (plain : Bool) :
    (view h g d identifier context plain).outcome = .error (.fault f) := by
  rw [(view_indexed hb ht _ _ _).1, hlocate]
  rfl

/-- A view whose lookup misses the declaration has the status of the lookup. -/
theorem view_of_missing {k : String} {m : Declaration.Missing}
    (ht : h.later.readText d.file = .ok text)
    (hm : Declaration.resolve b.index k text = .error m) (context : Option Int) (plain : Bool) :
    (view h g d (.value k) context plain).outcome = .ok (missingStatus m) := by
  rw [(view_indexed hb ht _ _ _).1, locate_indexed hb, ht]
  show (withDeclaration ((Declaration.resolve b.index k text).mapError _) _ _).outcome = _
  rw [hm]
  cases m <;> rfl

/-- A view whose lookup succeeds shows its lines. -/
theorem view_of_found {k : String} {span : Span} (ht : h.later.readText d.file = .ok text)
    (hspan : Declaration.resolve b.index k text = .ok span) (context : Option Int)
    (plain : Bool) :
    let shown := showLines h (viewLines h.highlighter s.settings context (!plain && h.terminal)
      d.file.text text span)
    (view h g d (.value k) context plain).outcome = shown.outcome ∧
      written (view h g d (.value k) context plain).trace = written shown.trace := by
  intro shown
  obtain ⟨hview, hwritten⟩ := view_indexed hb ht (.value k) context plain
  have hlocate : locate h.later (s.commit h.world b) (.value k) none = .ok span := by
    rw [locate_indexed hb, ht]
    show (Declaration.resolve b.index k text).mapError _ = _
    rw [hspan]
    rfl
  rw [hlocate] at hview hwritten
  exact ⟨hview, hwritten⟩

end document

/-! ### The comparison -/

/-- **How a resolve and a view of one identifier compare:** both fail alike, or never end, or the
settings of the view cannot be used, or both succeed at the same place. -/
inductive Compared (h : Host) (g : Globals) (d : Document) (identifier : Given String)
    (context : Option Int) (json plain : Bool) (resolved viewed : Console Nat) : Prop where
  | never (hendless : Endless h.world g d) (hresolve : endingOf resolved.outcome = .never)
      (hview : endingOf viewed.outcome = .never)
  | failed {status : Nat} (hne : status ≠ 0)
      (hresolve : endingOf resolved.outcome = .returned status)
      (hview : endingOf viewed.outcome = .returned status)
  | unusable {s : Session} (hresolve : resolved.outcome = .ok 0)
      (hview : endingOf viewed.outcome = .returned 1)
      (hopened : (openSession h.world g d).outcome = .ok s)
      (hunusable : Unusable h.highlighter s.settings context (!plain && h.terminal))
  | found {s : Session} {span : Span} {more : String} (hresolve : resolved.outcome = .ok 0)
      (hview : viewed.outcome = .ok 0) (hopened : (openSession h.world g d).outcome = .ok s)
      (husable : ¬ Unusable h.highlighter s.settings context (!plain && h.terminal))
      (hspan : LooksUp h g d identifier fun x text k => Declaration.resolve x k text = .ok span)
      (hresolved : json = false →
        written resolved.trace = placeIn d span ++ ": " ++ span.text ++ "\n")
      (hviewed : written viewed.trace = placeIn d span ++ "\n" ++ more)

/-- Without an index all commands on a document end alike. -/
theorem compared_of_not_indexed {h : Host} {g : Globals} {d : Document}
    (hindexed : ¬ ∃ s b, Indexed h.world g d s b) (identifier : Given String)
    (context : Option Int) (json plain : Bool) :
    Compared h g d identifier context json plain (resolve h g d identifier json)
      (view h g d identifier context plain) := by
  have hresolve : EndsUnindexed h.world g d (endingOf (resolve h g d identifier json).outcome) :=
    endsUnindexed hindexed _
  have hview : EndsUnindexed h.world g d
      (endingOf (view h g d identifier context plain).outcome) := endsUnindexed hindexed _
  generalize hr : endingOf (resolve h g d identifier json).outcome = ending at hresolve
  generalize hv : endingOf (view h g d identifier context plain).outcome = ending' at hview
  cases hresolve with
  | interrupted hi he =>
    cases hview with
    | interrupted => exact .failed (Nat.succ_ne_zero _) hr hv
    | never hi' => exact absurd hi hi'
    | failed hi' => exact absurd hi hi'
  | never hi he =>
    cases hview with
    | interrupted hi' => exact absurd hi' hi
    | never => exact .never he hr hv
    | failed _ he' => exact absurd he he'
  | failed hi he =>
    cases hview with
    | interrupted hi' => exact absurd hi' hi
    | never _ he' => exact absurd he' he
    | failed => exact .failed (Nat.succ_ne_zero _) hr hv

section indexed

variable {h : Host} {g : Globals} {d : Document} {s : Session} {b : Build} {text : List Char}
  {identifier : Given String} {context : Option Int} {json plain : Bool}

theorem compared_of_fault {f f' : Fault}
    (hresolve : (resolve h g d identifier json).outcome = .error (.fault f))
    (hview : (view h g d identifier context plain).outcome = .error (.fault f')) :
    Compared h g d identifier context json plain (resolve h g d identifier json)
      (view h g d identifier context plain) :=
  .failed Nat.one_ne_zero (congrArg endingOf hresolve) (congrArg endingOf hview)

variable (hb : Indexed h.world g d s b)
include hb

/-- A document that cannot be read ends both commands. -/
theorem compared_of_unreadable {f : Fault} (hread : h.later.readText d.file = .error f) :
    Compared h g d identifier context json plain (resolve h g d identifier json)
      (view h g d identifier context plain) := by
  have hview := view_of_unreadable hb hread identifier context plain
  cases identifier with
  | void =>
    obtain ⟨f', hlocate⟩ := locate_void hb
    exact compared_of_fault (resolve_of_fault hb hlocate json) hview
  | value k =>
    have hlocate := locate_indexed hb k
    rw [hread] at hlocate
    exact compared_of_fault (resolve_of_fault hb hlocate json) hview

/-- Once the declaration is found, only the settings of the view can fail. -/
theorem compared_of_found (hall : h.TakesAll) {k : String} {span : Span}
    (hread : h.later.readText d.file = .ok text)
    (hspan : Declaration.resolve b.index k text = .ok span) :
    Compared h g d (.value k) context json plain (resolve h g d (.value k) json)
      (view h g d (.value k) context plain) := by
  obtain ⟨hview, hwritten⟩ := view_of_found hb hread hspan context plain
  have hresolve : (resolve h g d (.value k) json).outcome = .ok 0 := by
    rw [resolve_of_found hb hread hspan, sayAll_of_takesAll hall]
    rfl
  rcases viewLines_cases h.highlighter s.settings context (!plain && h.terminal)
    d.file.text text span with ⟨hunusable, f, hlines⟩ | ⟨husable, rest, hlines⟩
  · rw [hlines] at hview
    refine .unusable hresolve ?_ hb.opened hunusable
    rw [hview]
    rfl
  · rw [hlines] at hview hwritten
    rw [showLines_of_takesAll hall] at hview
    obtain ⟨more, hmore⟩ := written_showLines hall (View.headerLine d.file.text span) rest
    have hheader : String.ofList (View.headerLine d.file.text span) = placeIn d span :=
      String.ofList_toList
    refine .found hresolve hview hb.opened husable ((looksUp_iff hb hread).mpr hspan) ?_
      (hheader ▸ hwritten.trans hmore)
    rintro rfl
    exact resolve_output hb hall hread hspan

end indexed

theorem compared {h : Host} (hall : h.TakesAll) (g : Globals) (d : Document)
    (identifier : Given String) (context : Option Int) (json plain : Bool) :
    Compared h g d identifier context json plain (resolve h g d identifier json)
      (view h g d identifier context plain) := by
  by_cases hindexed : ∃ s b, Indexed h.world g d s b
  · obtain ⟨s, b, hb⟩ := hindexed
    rcases hread : h.later.readText d.file with f | text
    · exact compared_of_unreadable hb hread
    · cases identifier with
      | void =>
        obtain ⟨f, hlocate⟩ := locate_void hb
        exact compared_of_fault (resolve_of_fault hb hlocate json)
          (view_of_fault hb hread hlocate context plain)
      | value k =>
        rcases hspan : Declaration.resolve b.index k text with m | span
        · have hne : missingStatus m ≠ 0 := by cases m <;> exact Nat.succ_ne_zero _
          have hresolve := resolve_of_missing hb hread hspan json
          have hview := view_of_missing hb hread hspan context plain
          exact .failed hne (congrArg endingOf hresolve) (congrArg endingOf hview)
        · exact compared_of_found hb hall hread hspan
  · exact compared_of_not_indexed hindexed identifier context json plain

theorem run_output {h : Host} {args : List String} {i : Invocation} {c : Command} {status : Nat}
    (hread : read args = .ok i) (hc : i.command = some c)
    (hok : (c.run h i.globals).outcome = .ok status) :
    (run h args).output = written (c.run h i.globals).trace := by
  unfold run Invocation.run conclude
  simp only [hread, hc, hok]
  rfl

/-- **A resolve and a view of one identifier,** for two command lines that ask for the same
document, identifier and options, without verbose output, on a host whose standard output takes
everything.

Both never end if the markup parser does not. In all other cases both return a status. If the
resolve ends with another status than zero, so does the view, with the same one. If the resolve ends
with zero, the view ends with zero or one, and with one exactly if the settings of the view cannot
be used. If both end with zero, the resolve has written the place of the declaration and its text,
and what the view has written first is a line with the same place. -/
theorem view_agrees_with_resolve {h : Host} (hall : h.TakesAll) {args args' : List String}
    {g : Globals} {d : Document} {identifier : Given String} {json plain : Bool}
    {context : Option Int} (hresolve : read args = .ok ⟨g, some (.resolve d identifier json)⟩)
    (hview : read args' = .ok ⟨g, some (.view d identifier context plain)⟩)
    (hv : g.verbose = false) :
    (Endless h.world g d ∧ (run h args).ending = .never ∧ (run h args').ending = .never) ∨
    ∃ status status', (run h args).ending = .returned status ∧
      (run h args').ending = .returned status' ∧
      (status ≠ 0 → status' = status) ∧
      (status = 0 → (status' = 0 ∨ status' = 1) ∧
        (status' = 1 ↔ ∃ s, (openSession h.world g d).outcome = .ok s ∧
          Unusable h.highlighter s.settings context (!plain && h.terminal))) ∧
      (status = 0 → status' = 0 → json = false → ∃ span more,
        LooksUp h g d identifier (fun x text k => Declaration.resolve x k text = .ok span) ∧
        (run h args).output = placeIn d span ++ ": " ++ span.text ++ "\n" ∧
        (run h args').output = placeIn d span ++ "\n" ++ more) := by
  have hend : (run h args).ending = endingOf (resolve h g d identifier json).outcome :=
    run_ending hresolve rfl hv
  have hend' : (run h args').ending = endingOf (view h g d identifier context plain).outcome :=
    run_ending hview rfl hv
  have hcompared := compared hall g d identifier context json plain
  cases hcompared with
  | never hendless hr hn => exact .inl ⟨hendless, hend.trans hr, hend'.trans hn⟩
  | failed hne hr hsame =>
    refine .inr ⟨_, _, hend.trans hr, hend'.trans hsame, fun _ => rfl, ?_, ?_⟩
    · exact fun h0 => absurd h0 hne
    · exact fun h0 => absurd h0 hne
  | unusable hr hone hopened hunusable =>
    refine .inr ⟨0, 1, hend.trans (congrArg endingOf hr), hend'.trans hone,
      fun hne => absurd rfl hne, fun _ => ⟨.inr rfl, ?_⟩, fun _ => nofun⟩
    exact iff_of_true rfl ⟨_, hopened, hunusable⟩
  | found hr hzero hopened husable hspan hresolved hviewed =>
    refine .inr ⟨0, 0, hend.trans (congrArg endingOf hr), hend'.trans (congrArg endingOf hzero),
      fun _ => rfl, fun _ => ⟨.inl rfl, ?_⟩, fun _ _ hjson => ?_⟩
    · refine iff_of_false nofun ?_
      rintro ⟨s', hopened', hunusable⟩
      obtain rfl := Except.ok.inj (hopened.symm.trans hopened')
      exact husable hunusable
    · exact ⟨_, _, hspan, (run_output hresolve rfl hr).trans (hresolved hjson),
        (run_output hview rfl hzero).trans hviewed⟩

/-- A resolve of `x` and a view without further lines succeed at one place, in a document that holds
the declaration of `x`. -/
theorem view_agrees_on_declaration :
    let h := sampleHost (sampleWorld "<p id=x>")
    (run h ["resolve", "d", "x"]).ending = .returned 0 ∧
    (run h ["show", "d", "x", "-C", "0"]).ending = .returned 0 ∧
    ∃ span more,
      (run h ["resolve", "d", "x"]).output =
        placeIn sampleDocument span ++ ": " ++ span.text ++ "\n" ∧
      (run h ["show", "d", "x", "-C", "0"]).output =
        placeIn sampleDocument span ++ "\n" ++ more := by
  intro h
  have hall : h.TakesAll := fun _ => rfl
  have hresolve : read ["resolve", "d", "x"] =
      .ok ⟨⟨none, false, false⟩, some (.resolve sampleDocument (.value "x") false)⟩ := by
    decide +kernel
  have hview : read ["show", "d", "x", "-C", "0"] =
      .ok ⟨⟨none, false, false⟩, some (.view sampleDocument (.value "x") (some 0) false)⟩ := by
    decide +kernel
  have hzero : (run h ["resolve", "d", "x"]).ending = .returned 0 := by decide +kernel
  have hzero' : (run h ["show", "d", "x", "-C", "0"]).ending = .returned 0 := by decide +kernel
  obtain ⟨-, hnever, -⟩ | ⟨status, status', hend, hend', -, -, hplace⟩ :=
    view_agrees_with_resolve hall hresolve hview rfl
  · cases hnever.symm.trans hzero
  · obtain rfl : status = 0 := Ending.returned.inj (hend.symm.trans hzero)
    obtain rfl : status' = 0 := Ending.returned.inj (hend'.symm.trans hzero')
    obtain ⟨span, more, -, houtput, houtput'⟩ := hplace rfl rfl rfl
    exact ⟨hzero, hzero', span, more, houtput, houtput'⟩

end CrossRef.CommandLine

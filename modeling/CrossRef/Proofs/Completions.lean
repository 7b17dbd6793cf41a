import CrossRef.Proofs.ExitStatus
import CrossRef.Proofs.FoldedNames
import Mathlib.Data.List.Induction

/-! # Identifiers that go on what was typed

A completion offers the identifiers of a document that begin with the folded form of what was typed.
The identifiers are folded as a whole, and what was typed is folded on its own. That makes a
difference in one place: a capital sigma at the end of what was typed takes its final form, although
the identifier goes on with a letter behind it.

* `CutsAtSigma`: what was typed stops behind such a capital sigma.
* `lowerFrom_isPrefix_iff`: the lower-case form of the beginning of a text begins the lower-case
  form of the text exactly if it does not.
* `mem_continuations_iff`: what is offered.
* `completions_by_start`: which declared identifiers are offered for their own beginnings, and in
  which order. -/

namespace CrossRef

namespace Text

/-! ### Beginnings of a text -/

theorem startsCased_append_of_ignored {cs : List Char} (h : ∀ c ∈ cs, isIgnored c = true)
    (rest : List Char) : startsCased (cs ++ rest) = startsCased rest := by
  unfold startsCased
  rw [List.dropWhile_append_of_pos h]

theorem startsCased_append_of_not_ignored {cs : List Char} (h : ¬ ∀ c ∈ cs, isIgnored c = true)
    (rest : List Char) : startsCased (cs ++ rest) = startsCased cs := by
  induction cs with
  | nil => exact absurd (by simp) h
  | cons c cs ih =>
    unfold startsCased at ih ⊢
    by_cases hc : isIgnored c = true
    · have hcs : ¬ ∀ d ∈ cs, isIgnored d = true := fun hcs =>
        h (List.forall_mem_cons.mpr ⟨hc, hcs⟩)
      rw [List.cons_append, List.dropWhile_cons_of_pos hc, List.dropWhile_cons_of_pos hc, ih hcs]
    · rw [List.cons_append, List.dropWhile_cons_of_neg hc, List.dropWhile_cons_of_neg hc]

theorem startsCased_of_ignored {cs : List Char} (h : ∀ c ∈ cs, isIgnored c = true) :
    startsCased cs = false := by
  rw [← List.append_nil cs, startsCased_append_of_ignored h]
  rfl

/-- **The beginning stops behind a capital sigma inside a word:** a cased letter stands before the
sigma, only ignored characters stand between it and the end of the beginning, and the text goes on
with a cased letter. Ignored characters next to either letter are passed over. -/
def CutsAtSigma (start rest : List Char) : Prop :=
  ∃ front back, start = front ++ 'Σ' :: back ∧ startsCased front.reverse = true ∧
    (∀ c ∈ back, isIgnored c = true) ∧ startsCased rest = true

/-- The same behind a text of which `before` tells whether its last character that is not ignored is
a cased letter. -/
def CutFrom (before : Bool) (start rest : List Char) : Prop :=
  ∃ front back, start = front ++ 'Σ' :: back ∧ front.foldl endsCased before = true ∧
    (∀ c ∈ back, isIgnored c = true) ∧ startsCased rest = true

theorem foldl_endsCased (cs : List Char) : cs.foldl endsCased false = startsCased cs.reverse := by
  induction cs using List.reverseRecOn with
  | nil => rfl
  | append_singleton cs c ih =>
    rw [List.foldl_append, List.foldl_cons, List.foldl_nil, ih, List.reverse_concat]
    unfold endsCased startsCased
    by_cases hc : isIgnored c = true
    · rw [if_pos hc, List.dropWhile_cons_of_pos hc]
    · rw [if_neg hc, List.dropWhile_cons_of_neg hc]

theorem cutFrom_false_iff {start rest : List Char} :
    CutFrom false start rest ↔ CutsAtSigma start rest := by
  simp only [CutFrom, CutsAtSigma, foldl_endsCased]

theorem not_cutFrom_nil (before : Bool) (rest : List Char) : ¬ CutFrom before [] rest := by
  rintro ⟨front, back, h, -⟩
  simp at h

/-- The sigma is the first character, or it is one of the others. -/
theorem cutFrom_cons_iff {before : Bool} {c : Char} {cs rest : List Char} :
    CutFrom before (c :: cs) rest ↔
      (c = 'Σ' ∧ before = true ∧ (∀ d ∈ cs, isIgnored d = true) ∧ startsCased rest = true) ∨
        CutFrom (endsCased before c) cs rest := by
  constructor
  · rintro ⟨_ | ⟨d, front⟩, back, h, hfront, hback, hrest⟩
    · obtain ⟨rfl, rfl⟩ := List.cons.inj h
      exact Or.inl ⟨rfl, hfront, hback, hrest⟩
    · obtain ⟨rfl, rfl⟩ := List.cons.inj h
      exact Or.inr ⟨front, back, rfl, hfront, hback, hrest⟩
  · rintro (⟨rfl, hbefore, hback, hrest⟩ | ⟨front, back, rfl, hfront, hback, hrest⟩)
    · exact ⟨[], cs, rfl, hbefore, hback, hrest⟩
    · exact ⟨c :: front, back, rfl, hfront, hback, hrest⟩

/-- Where a text is cut has a part in the form of one character only, a sigma behind which the
beginning has no letter and the text has one. -/
theorem lowerAt_append {before : Bool} {c : Char} {cs rest : List Char}
    (h : ¬ (c = 'Σ' ∧ before = true ∧ (∀ d ∈ cs, isIgnored d = true) ∧ startsCased rest = true)) :
    lowerAt before c (cs ++ rest) = lowerAt before c cs := by
  unfold lowerAt
  by_cases hc : c = 'Σ'
  · rw [if_pos hc, if_pos hc]
    by_cases hcs : ∀ d ∈ cs, isIgnored d = true
    · rw [startsCased_append_of_ignored hcs, startsCased_of_ignored hcs]
      rcases before with _ | _
      · rfl
      · have hrest : startsCased rest = false :=
          Bool.eq_false_iff.mpr fun hrest => h ⟨hc, rfl, hcs, hrest⟩
        rw [hrest]
    · rw [startsCased_append_of_not_ignored hcs]
  · rw [if_neg hc, if_neg hc]

/-- **The beginning of a text in lower case** begins the text in lower case, unless it stops behind
a capital sigma inside a word. -/
theorem lowerFrom_isPrefix_iff : ∀ {start rest : List Char} {before : Bool},
    lowerFrom before start <+: lowerFrom before (start ++ rest) ↔ ¬ CutFrom before start rest
  | [], rest, before => iff_of_true (List.nil_prefix) (not_cutFrom_nil before rest)
  | c :: cs, rest, before => by
    rw [List.cons_append, lowerFrom, lowerFrom, cutFrom_cons_iff, not_or]
    by_cases hcut : c = 'Σ' ∧ before = true ∧ (∀ d ∈ cs, isIgnored d = true) ∧
        startsCased rest = true
    · -- the sigma is final in the beginning and is not in the text
      obtain ⟨rfl, rfl, hcs, hrest⟩ := hcut
      refine iff_of_false ?_ fun h => h.1 ⟨rfl, rfl, hcs, hrest⟩
      simp [lowerAt, startsCased_append_of_ignored hcs, startsCased_of_ignored hcs, hrest]
    · rw [lowerAt_append hcut, List.prefix_append_right_inj, lowerFrom_isPrefix_iff]
      exact (and_iff_right hcut).symm

end Text

namespace Index

open Text

/-- The folded beginning of a name begins the folded name. -/
theorem foldCase_isPrefix_iff {policy : Bool} {name start : String} {rest : List Char}
    (h : name.toList = start.toList ++ rest) :
    (foldCase policy start).toList <+: (foldCase policy name).toList ↔
      policy = true ∨ ¬ CutsAtSigma start.toList rest := by
  cases policy with
  | true =>
    refine iff_of_true ?_ (Or.inl rfl)
    rw [foldCase, if_pos rfl, foldCase, if_pos rfl, h]
    exact List.prefix_append ..
  | false =>
    rw [foldCase, if_neg Bool.false_ne_true, foldCase, if_neg Bool.false_ne_true, lower, lower,
      String.toList_ofList, String.toList_ofList, h, lowerFrom_isPrefix_iff, cutFrom_false_iff]
    exact (or_iff_right Bool.false_ne_true).symm

/-- The position of the first declaration of an identifier among all declarations. -/
def firstDeclaration (x : Index) (identifier : String) : Nat :=
  (x.entries.map (·.identifier)).idxOf identifier

end Index

namespace Ownership

/-- **The value is declared:** an identifier attribute has it, and an element owns the attribute. -/
def Declares (events : List Event) (value : String) : Prop :=
  ∃ i name element, events[i]?.bind declared? = some (name, value) ∧
    owner? events i = some element

/-- **The identifiers of the entries** are the declared values, folded. -/
theorem exists_entry_iff {policy : Bool} {events : List Event} {k : String} :
    (∃ e ∈ (Index.build policy events).index.entries, e.identifier = k) ↔
      ∃ value, Declares events value ∧ k = Index.foldCase policy value := by
  rw [build_eq, Index.ofEntries_entries]
  unfold entriesOf Declares
  simp only [List.mem_filterMap, List.mem_range]
  constructor
  · rintro ⟨e, ⟨i, -, hi⟩, rfl⟩
    unfold entryAt? at hi
    split at hi
    · next name value element hdeclared howner =>
      cases hi
      exact ⟨value, ⟨i, name, element, hdeclared, howner⟩, rfl⟩
    · cases hi
  · rintro ⟨value, ⟨i, name, element, hdeclared, howner⟩, rfl⟩
    have hlt : i < events.length := by
      by_contra hge
      rw [List.getElem?_eq_none (by omega)] at hdeclared
      cases hdeclared
    refine ⟨⟨Index.foldCase policy value, Index.foldCase policy name,
      Index.foldCase policy element⟩, ⟨i, hlt, ?_⟩, rfl⟩
    unfold entryAt?
    rw [hdeclared, howner]

end Ownership

namespace CommandLine

open Ownership

/-! ### What is offered -/

theorem mem_continuations_iff {x : Index} {typed k : String} :
    k ∈ continuations x typed ↔
      (∃ e ∈ x.entries, e.identifier = k) ∧ (x.fold typed).toList <+: k.toList := by
  unfold continuations startsWith Index.identifiers
  rw [List.mem_filter, List.isPrefixOf_iff_prefix, Index.mem_distinct, List.mem_map]

theorem pairwise_continuations (x : Index) (typed : String) :
    (continuations x typed).Pairwise fun k l => x.firstDeclaration k < x.firstDeclaration l :=
  (Index.pairwise_distinct _).filter _

theorem phase_of_openSession {w : World} {g : Globals} {d : Document} {s : Session}
    (h : (openSession w g d).outcome = .ok s) : s.phase = .empty := by
  simp only [openSession_outcome, bind_eq_ok_iff, Except.ok.injEq] at h
  obtain ⟨_, -, _, -, _, -, _, -, rfl⟩ := h
  rfl

/-- **A completion in an indexed document** offers what continues the word in the index. -/
theorem completions_indexed {w : World} {i : Invocation} {d : Document} {s : Session} {b : Build}
    (hd : i.command.bind Command.document? = some d) (h : Indexed w i.globals d s b)
    (typed : String) : completions w i typed = .ok (continuations b.index typed) := by
  have hphase : s.phase ≠ .ready := by
    rw [phase_of_openSession h.opened]
    decide
  have hready : ((s.ensureReady w).1).outcome = .ok b.index := by
    rw [Session.ensureReady_of_not_ready hphase, Traced.outcome_bind, Session.rebuild_outcome,
      Session.attempt_eq_ok_iff.mpr h.builds]
    rfl
  unfold completions
  simp only [hd, h.isFile, Traced.outcome_bind, h.opened, Except.bind, hready]

/-- **A completion offers an identifier for a beginning of it,** in the spelling of the events,
exactly if the index is case-sensitive or the beginning does not stop behind a capital sigma inside
a word. What is offered is declared and begins with what was typed, in the case of the index; it is
found when it is looked up; and it stands in the order of first declarations, each once. -/
theorem completions_by_start {w : World} {i : Invocation} {d : Document} {s : Session} {b : Build}
    (hd : i.command.bind Command.document? = some d) (h : Indexed w i.globals d s b)
    (typed : String) :
    ∃ offered events, completions w i typed = .ok offered ∧
      (s.parser.events w d.file.text).outcome = .ok events ∧
      b = Index.build b.index.caseSensitive events ∧
      (∀ value rest, Declares events value → value.toList = typed.toList ++ rest →
        (b.index.fold value ∈ offered ↔
          b.index.caseSensitive = true ∨ ¬ Text.CutsAtSigma typed.toList rest)) ∧
      (∀ k ∈ offered, (∃ value, Declares events value ∧ k = b.index.fold value) ∧
        (b.index.fold typed).toList <+: k.toList ∧ b.index.contains k = true) ∧
      offered.Nodup ∧
      offered.Pairwise fun k l => b.index.firstDeclaration k < b.index.firstDeclaration l := by
  obtain ⟨events, policy, -, hevents, -, -, -, rfl⟩ := h.builds
  have hpolicy := build_caseSensitive policy events
  refine ⟨_, events, completions_indexed hd h typed, ?_, ?_, ?_, ?_, ?_, pairwise_continuations ..⟩
  · rw [← path_of_openSession h.opened]
    exact hevents
  · rw [hpolicy]
  · intro value rest hvalue hstart
    have hentry : ∃ e ∈ (Index.build policy events).index.entries,
        e.identifier = Index.foldCase policy value := exists_entry_iff.mpr ⟨value, hvalue, rfl⟩
    rw [mem_continuations_iff, Index.fold, Index.fold, hpolicy, and_iff_right hentry,
      Index.foldCase_isPrefix_iff hstart]
  · intro k hk
    obtain ⟨⟨e, he, rfl⟩, hprefix⟩ := mem_continuations_iff.mp hk
    obtain ⟨value, hvalue, hfold⟩ := exists_entry_iff.mp ⟨e, he, rfl⟩
    obtain ⟨e', -, -, hlookup⟩ := lookup?_identifier he
    refine ⟨⟨value, hvalue, ?_⟩, hprefix, ?_⟩
    · rw [Index.fold, hpolicy, hfold]
    · rw [Index.contains, hlookup]
      rfl
  · refine (pairwise_continuations ..).imp fun {k l} hlt heq => ?_
    rw [heq] at hlt
    exact Nat.lt_irrefl _ hlt

/-- A world in which the markup parser reports the identifier `ΑΣΑ` in the document `d`. -/
def sigmaWorld : World :=
  Snapshot.toWorld
    { cwd := []
      nodes := [(["d"], .file "<p id=ΑΣΑ>".toUTF8.toList)]
      tools := [("nsgmls", { script := .prints "AID ID ΑΣΑ\n(P\n".toUTF8.toList })] }

/-- The document of the command line `resolve d x`. -/
def sigmaDocument : Document := ⟨Path.ofString "d", none, false⟩

/-- The command line `resolve d x`, in which `x` is to be completed. -/
def sigmaInvocation : Invocation :=
  ⟨⟨none, false, false⟩, some (.resolve sigmaDocument (.value "x") false)⟩

theorem indexed_sigmaDocument :
    ∃ s b, Indexed sigmaWorld sigmaInvocation.globals sigmaDocument s b := by
  have hsome : ∃ built,
      (indexing sigmaWorld sigmaInvocation.globals sigmaDocument).toOption = some (some built) := by
    have hjoin :
        (indexing sigmaWorld sigmaInvocation.globals sigmaDocument).toOption.join.isSome := by
      decide +kernel
    obtain ⟨built, hbuilt⟩ := Option.isSome_iff_exists.mp hjoin
    exact ⟨built, Option.join_eq_some_iff.mp hbuilt⟩
  obtain ⟨⟨s', b⟩, hb⟩ := hsome
  obtain ⟨s, hs, -⟩ := indexing_eq_some_iff.mp (toOption_eq_some_iff.mp hb)
  exact ⟨s, b, hs⟩

theorem declares_sigma {s : Session} {b : Build} {events : List Event}
    (h : Indexed sigmaWorld sigmaInvocation.globals sigmaDocument s b)
    (hevents : (s.parser.events sigmaWorld sigmaDocument.file.text).outcome = .ok events) :
    Declares events "ΑΣΑ" := by
  have hrun : ((openSession sigmaWorld sigmaInvocation.globals sigmaDocument).outcome.bind fun s =>
      (s.parser.events sigmaWorld sigmaDocument.file.text).outcome).toOption =
        some [.attr "ID" "ΑΣΑ" "ID", .element "P"] := by
    decide +kernel
  rw [h.opened] at hrun
  obtain rfl := Except.ok.inj (hevents.symm.trans (toOption_eq_some_iff.mp hrun))
  exact ⟨0, "ID", "P", rfl, rfl⟩

/-- For its first letter the identifier is offered. -/
theorem completions_of_first_letter :
    ∃ s b offered, Indexed sigmaWorld sigmaInvocation.globals sigmaDocument s b ∧
      completions sigmaWorld sigmaInvocation "Α" = .ok offered ∧ b.index.fold "ΑΣΑ" ∈ offered := by
  obtain ⟨s, b, h⟩ := indexed_sigmaDocument
  obtain ⟨offered, events, hoffered, hevents, -, hstart, -⟩ :=
    completions_by_start (i := sigmaInvocation) rfl h "Α"
  refine ⟨s, b, offered, h, hoffered, ?_⟩
  refine (hstart "ΑΣΑ" ['Σ', 'Α'] (declares_sigma h hevents) rfl).mpr (Or.inr ?_)
  rintro ⟨front, back, hcut, -⟩
  have hmem : 'Σ' ∈ "Α".toList := hcut ▸ by simp
  exact absurd hmem (by decide)

/-- **A declared identifier is not offered for its first two letters,** since the second is a
capital sigma and a third letter follows. -/
theorem sigma_beginning_not_offered :
    ∃ s b events, Indexed sigmaWorld sigmaInvocation.globals sigmaDocument s b ∧
      (s.parser.events sigmaWorld sigmaDocument.file.text).outcome = .ok events ∧
      Declares events "ΑΣΑ" ∧ "ΑΣΑ".toList = "ΑΣ".toList ++ ['Α'] ∧
      completions sigmaWorld sigmaInvocation "ΑΣ" = .ok [] := by
  obtain ⟨s, b, h⟩ := indexed_sigmaDocument
  obtain ⟨events, -, -, hevents, -⟩ := h.builds
  rw [path_of_openSession h.opened] at hevents
  refine ⟨s, b, events, h, hevents, declares_sigma h hevents, rfl, ?_⟩
  exact toOption_eq_some_iff.mp (by decide +kernel)

end CommandLine

end CrossRef

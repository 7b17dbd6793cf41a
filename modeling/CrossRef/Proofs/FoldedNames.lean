import CrossRef.Declaration
import CrossRef.Proofs.LetterCase
import CrossRef.Proofs.Ownership
import CrossRef.Proofs.Trimming

/-! # Names in the case of an index

An index that is not case-sensitive keeps names in lower case. The lower-case form of a text depends
on what stands around its capital sigmas, and it may be longer than the text, so a second pass does
not see what the first one saw. It changes nothing all the same: the first pass leaves only *small*
characters, and those are left alone wherever they stand.

* `lowerFrom_eq_self_iff`: the texts that are in lower case are those of small characters.
* `foldCase_foldCase`: folding a folded name changes nothing.
* `isTrim_foldCase`, `allSolid_foldCase`: folding makes no white space and removes none.
* `build_map_folded`, `folding_is_stable`: what this means for an index and for lookups in it. -/

namespace CrossRef

namespace Text

/-! ### Small characters -/

/-- The character is its own lower-case form, in every text. -/
def IsSmall (c : Char) : Prop := lowerChar c = c ∧ c ≠ dottedI

instance (c : Char) : Decidable (IsSmall c) := inferInstanceAs (Decidable (_ ∧ _))

theorem lowerChar_lowerChar (c : Char) : lowerChar (lowerChar c) = lowerChar c := by
  refine Char.toNat_inj.mp ?_
  rw [toNat_lowerChar, toNat_lowerChar, lowerCode_lowerCode]

/-- What a character can turn into, wherever it stands. -/
theorem cases_of_mem_lowerAt {before : Bool} {c d : Char} {after : List Char}
    (h : d ∈ lowerAt before c after) :
    c = 'Σ' ∧ (d = 'ς' ∨ d = 'σ') ∨ c = dottedI ∧ (d = 'i' ∨ d = '\u0307') ∨
      c ≠ dottedI ∧ d = lowerChar c := by
  unfold lowerAt at h
  split at h
  · next hsigma =>
    refine Or.inl ⟨hsigma, ?_⟩
    rw [List.mem_singleton] at h
    split at h
    · exact Or.inl h
    · exact Or.inr h
  · split at h
    · next hdotted =>
      refine Or.inr (Or.inl ⟨hdotted, ?_⟩)
      simpa using h
    · next hdotted => exact Or.inr (Or.inr ⟨hdotted, List.mem_singleton.mp h⟩)

theorem isSmall_of_mem_lowerAt {before : Bool} {c d : Char} {after : List Char}
    (h : d ∈ lowerAt before c after) : IsSmall d := by
  rcases cases_of_mem_lowerAt h with ⟨-, rfl | rfl⟩ | ⟨-, rfl | rfl⟩ | ⟨hdotted, rfl⟩
  · decide +kernel
  · decide +kernel
  · decide +kernel
  · decide +kernel
  · exact ⟨lowerChar_lowerChar c, lowerChar_ne_dottedI hdotted⟩

theorem lowerAt_of_isSmall {c : Char} (h : IsSmall c) (before : Bool) (after : List Char) :
    lowerAt before c after = [c] := by
  -- a capital sigma is not small: by itself it goes to the common sigma
  have hsigma : c ≠ 'Σ' := by
    rintro rfl
    exact absurd h.1 (by decide +kernel)
  have hdotted : c ≠ '\u0130' := h.2
  rw [lowerAt, if_neg hsigma, if_neg hdotted, h.1]

theorem isSmall_of_mem_lowerFrom {d : Char} : ∀ {cs : List Char} {before : Bool},
    d ∈ lowerFrom before cs → IsSmall d
  | c :: cs, before, h => by
    rw [lowerFrom] at h
    rcases List.mem_append.mp h with h | h
    · exact isSmall_of_mem_lowerAt h
    · exact isSmall_of_mem_lowerFrom h

/-- **A text is in lower case** exactly if its characters are small. -/
theorem lowerFrom_eq_self_iff {before : Bool} {cs : List Char} :
    lowerFrom before cs = cs ↔ ∀ c ∈ cs, IsSmall c := by
  constructor
  · intro h c hc
    rw [← h] at hc
    exact isSmall_of_mem_lowerFrom hc
  · intro h
    induction cs generalizing before with
    | nil => rfl
    | cons c cs ih =>
      have hc := h c List.mem_cons_self
      have hcs : ∀ d ∈ cs, IsSmall d := fun d hd => h d (List.mem_cons_of_mem c hd)
      rw [lowerFrom, lowerAt_of_isSmall hc, ih hcs, List.singleton_append]

theorem lower_lower (s : String) : lower (lower s) = lower s := by
  unfold lower
  rw [String.toList_ofList, lowerFrom_eq_self_iff.mpr fun _ => isSmall_of_mem_lowerFrom]

/-! ### White space -/

/-- A range of code points as a run in which each is sent to itself. -/
def CodeRange.run (r : CodeRange) : LowerRun := ⟨r.1, r.2, 1, r.1⟩

/-- **The code points of white space.** -/
def blanks : Nat := spreadAll LowerRun.first (blankRanges.map CodeRange.run)

theorem domain_and_blanks : domain &&& blanks = 0 := by decide +kernel

theorem image_and_blanks : image &&& blanks = 0 := by decide +kernel

theorem testBit_blanks {c : Char} (h : isBlank c = true) : blanks.testBit c.toNat = true := by
  obtain ⟨r, hr, hfirst, hlast⟩ := inTable_iff.mp h
  have himage : (CodeRange.run r).image? c.toNat = some (r.1 + (c.toNat - r.1)) :=
    if_pos ⟨hfirst, hlast, Nat.mod_one _⟩
  have hbit := LowerRun.testBit_spread himage r.1
  rw [show (CodeRange.run r).first = r.1 from rfl, Nat.add_sub_cancel' hfirst] at hbit
  exact testBit_spreadAll LowerRun.first hbit (List.mem_map_of_mem hr)

theorem not_isBlank_of_testBit {s : Nat} {c : Char} (hs : s &&& blanks = 0)
    (h : s.testBit c.toNat = true) : isBlank c = false := by
  by_contra hblank
  have hboth : (s &&& blanks).testBit c.toNat = true := by
    rw [Nat.testBit_and, h, testBit_blanks (Bool.not_eq_false _ ▸ hblank)]
    rfl
  rw [hs, Nat.zero_testBit] at hboth
  cases hboth

theorem isBlank_lowerChar (c : Char) : isBlank (lowerChar c) = isBlank c := by
  rcases lowerCode_cases c.toNat with h | ⟨r, hr, hm⟩
  · rw [Char.toNat_inj.mp ((toNat_lowerChar c).trans h)]
  · have hc := not_isBlank_of_testBit domain_and_blanks (testBit_domain hr hm)
    have hl : isBlank (lowerChar c) = false := by
      refine not_isBlank_of_testBit image_and_blanks ?_
      rw [toNat_lowerChar]
      exact testBit_image hr hm
    rw [hc, hl]

theorem isBlank_of_mem_lowerAt {before : Bool} {c d : Char} {after : List Char}
    (h : d ∈ lowerAt before c after) : isBlank d = isBlank c := by
  rcases cases_of_mem_lowerAt h with ⟨rfl, rfl | rfl⟩ | ⟨rfl, rfl | rfl⟩ | ⟨-, rfl⟩
  · rfl
  · rfl
  · rfl
  · rfl
  · exact isBlank_lowerChar c

theorem isSolid_of_mem_lowerAt {before : Bool} {c d : Char} {after : List Char}
    (h : d ∈ lowerAt before c after) (hc : isSolid c = true) : isSolid d = true := by
  rw [isSolid, isBlank_of_mem_lowerAt h]
  exact hc

theorem lowerAt_ne_nil (before : Bool) (c : Char) (after : List Char) :
    lowerAt before c after ≠ [] := by
  unfold lowerAt
  split
  · simp
  · split <;> simp

theorem lowerFrom_eq_nil_iff {before : Bool} {cs : List Char} :
    lowerFrom before cs = [] ↔ cs = [] := by
  rcases cs with _ | ⟨c, cs⟩
  · simp [lowerFrom]
  · simp [lowerFrom, lowerAt_ne_nil]

theorem allSolid_lowerFrom : ∀ {cs : List Char} (before : Bool), AllSolid cs →
    AllSolid (lowerFrom before cs)
  | [], _, h => h
  | c :: cs, before, h => by
    intro d hd
    rw [lowerFrom] at hd
    rcases List.mem_append.mp hd with hd | hd
    · exact isSolid_of_mem_lowerAt hd (h c List.mem_cons_self)
    · exact allSolid_lowerFrom _ (fun e he => h e (List.mem_cons_of_mem c he)) d hd

theorem solid_head?_lowerFrom {cs : List Char} (before : Bool)
    (h : ∀ c ∈ cs.head?, isSolid c = true) :
    ∀ d ∈ (lowerFrom before cs).head?, isSolid d = true := by
  rcases cs with _ | ⟨c, cs⟩
  · simp [lowerFrom]
  · intro d hd
    rw [lowerFrom, List.head?_append_of_ne_nil _ (lowerAt_ne_nil before c cs)] at hd
    exact isSolid_of_mem_lowerAt (List.mem_of_mem_head? hd) (h c rfl)

theorem solid_getLast?_lowerFrom : ∀ {cs : List Char} (before : Bool),
    (∀ c ∈ cs.getLast?, isSolid c = true) →
      ∀ d ∈ (lowerFrom before cs).getLast?, isSolid d = true
  | [], _, _ => by simp [lowerFrom]
  | [c], before, h => by
    intro d hd
    rw [lowerFrom, lowerFrom, List.append_nil] at hd
    exact isSolid_of_mem_lowerAt (List.mem_of_mem_getLast? hd) (h c rfl)
  | c :: e :: cs, before, h => by
    rw [List.getLast?_cons_cons] at h
    intro d hd
    have hne : lowerFrom (endsCased before c) (e :: cs) ≠ [] := by
      simp [lowerFrom_eq_nil_iff]
    rw [lowerFrom, List.getLast?_append_of_ne_nil _ hne] at hd
    exact solid_getLast?_lowerFrom _ h d hd

end Text

/-! ### Folding -/

namespace Index

open Text

theorem foldCase_foldCase (policy : Bool) (name : String) :
    foldCase policy (foldCase policy name) = foldCase policy name := by
  cases policy with
  | true => rfl
  | false => exact lower_lower name

theorem allSolid_foldCase (policy : Bool) {name : String} (h : AllSolid name.toList) :
    AllSolid (foldCase policy name).toList := by
  cases policy with
  | true => exact h
  | false =>
    rw [foldCase, if_neg Bool.false_ne_true, lower, String.toList_ofList]
    exact allSolid_lowerFrom false h

theorem isTrim_foldCase (policy : Bool) {name : String} (h : IsTrim name.toList) :
    IsTrim (foldCase policy name).toList := by
  cases policy with
  | true => exact h
  | false =>
    rw [foldCase, if_neg Bool.false_ne_true, lower, String.toList_ofList]
    exact ⟨solid_head?_lowerFrom false h.1, solid_getLast?_lowerFrom false h.2⟩

theorem fold_fold (x : Index) (name : String) : x.fold (x.fold name) = x.fold name :=
  foldCase_foldCase x.caseSensitive name

theorem lookup?_fold (x : Index) (identifier : String) :
    x.lookup? (x.fold identifier) = x.lookup? identifier := by
  rw [lookup?, fold_fold, lookup?]

end Index

namespace Declaration

/-- The same cause, said of another spelling of the identifier. -/
def Missing.under (identifier : String) : Missing → Missing
  | .unknown _ => .unknown identifier
  | .stale target => .stale target

/-- **A lookup under the folded identifier** ends as the lookup itself, and reports an unknown
identifier as it was given. -/
theorem resolve_fold (x : Index) (identifier : String) (text : List Char) :
    resolve x (x.fold identifier) text =
      (resolve x identifier text).mapError (Missing.under (x.fold identifier)) := by
  unfold resolve target?
  rw [Index.lookup?_fold, Index.fold_fold]
  rcases x.lookup? identifier with _ | ⟨attr, element⟩
  · rfl
  · simp only [Option.map_some]
    rcases Target.search ⟨attr, x.fold identifier⟩ x.caseSensitive text with _ | span <;> rfl

end Declaration

/-! ### Events with folded names -/

/-- The event with its names and its value in the case of a policy. -/
def Event.folded (policy : Bool) : Event → Event
  | .attr name value kind =>
    .attr (Index.foldCase policy name) (Index.foldCase policy value) kind
  | .element name => .element (Index.foldCase policy name)

namespace Ownership

open Index

theorem declared?_folded (policy : Bool) (e : Event) : declared? (e.folded policy) =
    (declared? e).map fun pair => (foldCase policy pair.1, foldCase policy pair.2) := by
  rcases e with ⟨name, value, kind⟩ | name
  · simp only [Event.folded, declared?]
    split <;> rfl
  · rfl

theorem started?_folded (policy : Bool) (e : Event) :
    started? (e.folded policy) = (started? e).map (foldCase policy) := by
  rcases e with ⟨name, value, kind⟩ | name <;> rfl

theorem firstStart?_folded (policy : Bool) : ∀ events : List Event,
    firstStart? (events.map (Event.folded policy)) = (firstStart? events).map (foldCase policy)
  | [] => rfl
  | e :: events => by
    have ih := firstStart?_folded policy events
    unfold firstStart? at ih ⊢
    rw [List.map_cons, List.findSome?_cons, List.findSome?_cons, started?_folded, ih]
    rcases started? e with _ | name <;> rfl

theorem owner?_folded (policy : Bool) (events : List Event) (i : Nat) :
    owner? (events.map (Event.folded policy)) i = (owner? events i).map (foldCase policy) := by
  rw [owner?, ← List.map_drop, firstStart?_folded, owner?]

theorem declaredAt_folded (policy : Bool) (events : List Event) (i : Nat) :
    (events.map (Event.folded policy))[i]?.bind declared? =
      (events[i]?.bind declared?).map fun pair =>
        (foldCase policy pair.1, foldCase policy pair.2) := by
  rw [List.getElem?_map]
  rcases events[i]? with _ | e
  · rfl
  · exact declared?_folded policy e

theorem entryAt?_folded (policy : Bool) (events : List Event) (i : Nat) :
    entryAt? policy (events.map (Event.folded policy)) i = entryAt? policy events i := by
  unfold entryAt?
  rw [declaredAt_folded, owner?_folded]
  rcases events[i]?.bind declared? with _ | ⟨name, value⟩ <;>
    rcases owner? events i with _ | element
  · rfl
  · rfl
  · rfl
  · simp only [Option.map_some, foldCase_foldCase]

theorem anomalyAt?_folded (policy : Bool) (events : List Event) (i : Nat) :
    anomalyAt? policy (events.map (Event.folded policy)) i = anomalyAt? policy events i := by
  unfold anomalyAt?
  rw [declaredAt_folded, owner?_folded]
  rcases events[i]?.bind declared? with _ | ⟨name, value⟩ <;>
    rcases owner? events i with _ | element
  · rfl
  · rfl
  · simp only [Option.map_some, Option.map_none, foldCase_foldCase]
  · rfl

/-- **Folded events give the same index** and the same anomalies. -/
theorem build_map_folded (policy : Bool) (events : List Event) :
    Index.build policy (events.map (Event.folded policy)) = Index.build policy events := by
  rw [build_eq, build_eq]
  unfold entriesOf anomaliesOf
  rw [List.length_map, funext (entryAt?_folded policy events),
    funext (anomalyAt?_folded policy events)]

/-! ### Entries -/

/-- **Where an entry comes from:** an identifier attribute and an element start of the events, with
their names and the value folded. -/
theorem exists_of_mem_entries {policy : Bool} {events : List Event} {e : Entry}
    (h : e ∈ (Index.build policy events).index.entries) : ∃ name value element,
      .attr name value Event.idKind ∈ events ∧ .element element ∈ events ∧
      e = ⟨foldCase policy value, foldCase policy name, foldCase policy element⟩ := by
  rw [build_eq, ofEntries_entries] at h
  obtain ⟨i, -, hi⟩ := List.mem_filterMap.mp h
  unfold entryAt? at hi
  split at hi
  · next name value element hdeclared howner =>
    obtain ⟨event, hevent, hdeclared⟩ := Option.bind_eq_some_iff.mp hdeclared
    obtain ⟨start, hstart, hstarted⟩ := List.exists_of_findSome?_eq_some howner
    have hattr : event = .attr name value Event.idKind := by
      rcases event with ⟨name', value', kind⟩ | name'
      · simp only [declared?, Option.ite_none_right_eq_some, Option.some.injEq,
          Prod.mk.injEq] at hdeclared
        obtain ⟨rfl, rfl, rfl⟩ := hdeclared
        rfl
      · cases hdeclared
    have helement : start = .element element := by
      rcases start with ⟨name', value', kind⟩ | name'
      · cases hstarted
      · cases hstarted
        rfl
    refine ⟨name, value, element, ?_, ?_, (Option.some.inj hi).symm⟩
    · exact hattr ▸ List.mem_of_getElem? hevent
    · exact helement ▸ List.mem_of_mem_drop hstart
  · cases hi

theorem build_caseSensitive (policy : Bool) (events : List Event) :
    (Index.build policy events).index.caseSensitive = policy := by
  rw [build_eq, ofEntries_caseSensitive]

theorem fold_identifier {policy : Bool} {events : List Event} {e : Entry}
    (h : e ∈ (Index.build policy events).index.entries) :
    (Index.build policy events).index.fold e.identifier = e.identifier := by
  obtain ⟨name, value, element, -, -, rfl⟩ := exists_of_mem_entries h
  rw [fold, build_caseSensitive, foldCase_foldCase]

/-- **A listed identifier leads to an entry of its own.** -/
theorem lookup?_identifier {policy : Bool} {events : List Event} {e : Entry}
    (h : e ∈ (Index.build policy events).index.entries) :
    ∃ e' ∈ (Index.build policy events).index.entries, e'.identifier = e.identifier ∧
      (Index.build policy events).index.lookup? e.identifier = some (e'.attr, e'.element) := by
  rw [lookup?, fold_identifier h]
  rw [build_eq, ofEntries_entries] at h ⊢
  have hsome : ((entriesOf policy events).reverse.find? fun e' =>
      e'.identifier = e.identifier).isSome = true := by
    rw [List.find?_isSome]
    exact ⟨e, List.mem_reverse.mpr h, by simp⟩
  obtain ⟨e', he'⟩ := Option.isSome_iff_exists.mp hsome
  refine ⟨e', List.mem_reverse.mp (List.mem_of_find?_eq_some he'), ?_, ?_⟩
  · simpa using List.find?_some he'
  · rw [get?_ofEntries, he']
    rfl

/-- **Folding once is enough,** under either case policy. A folded name is its own folded form; a
lookup, a test for membership and a search end for a folded identifier as for the identifier itself,
but that an unknown one is reported as given; every listed identifier is found under the name that
the listing shows; and events whose names are folded already give the same index. -/
theorem folding_is_stable (policy : Bool) :
    (∀ name, foldCase policy (foldCase policy name) = foldCase policy name) ∧
    ∀ events : List Event,
      let b := Index.build policy events
      (∀ identifier, b.index.fold identifier = foldCase policy identifier ∧
        b.index.lookup? (b.index.fold identifier) = b.index.lookup? identifier ∧
        b.index.contains (b.index.fold identifier) = b.index.contains identifier ∧
        ∀ text, Declaration.resolve b.index (b.index.fold identifier) text =
          (Declaration.resolve b.index identifier text).mapError
            (.under (b.index.fold identifier))) ∧
      (∀ e ∈ b.index.entries, b.index.contains e.identifier = true ∧
        ∃ e' ∈ b.index.entries, e'.identifier = e.identifier ∧
          b.index.lookup? e.identifier = some (e'.attr, e'.element)) ∧
      Index.build policy (events.map (Event.folded policy)) = b := by
  refine ⟨foldCase_foldCase policy, fun events => ⟨fun identifier => ⟨?_, ?_, ?_, ?_⟩, ?_, ?_⟩⟩
  · rw [fold, build_caseSensitive]
  · exact lookup?_fold _ identifier
  · rw [contains, lookup?_fold, contains]
  · exact Declaration.resolve_fold _ identifier
  · intro e he
    obtain ⟨e', he', hid, hlookup⟩ := lookup?_identifier he
    refine ⟨?_, e', he', hid, hlookup⟩
    rw [contains, hlookup]
    rfl
  · exact build_map_folded policy events

end Ownership

end CrossRef

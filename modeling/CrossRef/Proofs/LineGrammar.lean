import CrossRef.Event
import CrossRef.Proofs.Trimming

/-! # The grammar of event lines

A line is read by scans, each of which takes as much as it can. Here the lines that report an event
are given by a grammar instead, in which nothing says how much a part takes:

* `AttrLine`: an `A`, a name, white space, the kind of the identifiers, and a tail that is empty or
  begins with white space.
* `ElementLine`: a bracket, a name, and a tail that is empty or begins with white space.
* `Reports`: the event of such a line.

A line can be cut into these parts in one way only (`AttrLine.unique`, `ElementLine.unique`), so
scanning and cutting agree: `ofLine?_grammar`. -/

namespace CrossRef.Event

open Text

/-- Behind the white space at its beginning, the tail of a line holds no line feed. -/
def OneLine (tail : List Char) : Prop :=
  ∃ left rest, tail = left ++ rest ∧ AllBlank left ∧ (∀ c ∈ rest.head?, isSolid c = true) ∧
    '\n' ∉ rest

/-- **The parts of an attribute line.** -/
structure AttrLine (l name gap tail : List Char) : Prop where
  shape : l = 'A' :: (name ++ (gap ++ (idKind.toList ++ tail)))
  name_ne : name ≠ []
  name_solid : AllSolid name
  gap_ne : gap ≠ []
  gap_blank : AllBlank gap
  tail_head : ∀ c ∈ tail.head?, isBlank c = true
  tail_feed : OneLine tail

/-- **The parts of an element line.** -/
structure ElementLine (l name tail : List Char) : Prop where
  shape : l = '(' :: (name ++ tail)
  name_ne : name ≠ []
  name_solid : AllSolid name
  tail_head : ∀ c ∈ tail.head?, isBlank c = true

/-- **What a line without its line end reports:** an identifier attribute, whose value is the tail
without white space at either end, or an element. -/
inductive Reports (l : List Char) : Event → Prop where
  | attr {name gap tail value : List Char} (hl : AttrLine l name gap tail)
      (hvalue : TrimsTo tail value) :
      Reports l (.attr (String.ofList name) (String.ofList value) idKind)
  | element {name tail : List Char} (hl : ElementLine l name tail) :
      Reports l (.element (String.ofList name))

/-- The event has a name without white space, and a value without line feeds and without white space
at either end. -/
def IsClean : Event → Prop
  | .attr name value kind => name ≠ "" ∧ AllSolid name.toList ∧ IsTrim value.toList ∧
      '\n' ∉ value.toList ∧ kind = idKind
  | .element name => name ≠ "" ∧ AllSolid name.toList

/-! ### One way to cut a line -/

theorem head?_gap {gap : List Char} (hne : gap ≠ []) (hblank : AllBlank gap) (rest : List Char) :
    ∀ c ∈ (gap ++ rest).head?, isSolid c = false := by
  obtain ⟨b, gap, rfl⟩ := List.exists_cons_of_ne_nil hne
  rintro c ⟨⟩
  exact isSolid_eq_false_iff.mpr (hblank b List.mem_cons_self)

theorem solid_idKind : AllSolid idKind.toList := by decide

theorem head?_idKind (tail : List Char) :
    ∀ c ∈ (idKind.toList ++ tail).head?, isBlank c = false := by
  rintro c ⟨⟩
  decide

theorem AttrLine.unique {l name gap tail name' gap' tail' : List Char}
    (h : AttrLine l name gap tail) (h' : AttrLine l name' gap' tail') :
    name = name' ∧ gap = gap' ∧ tail = tail' := by
  have hcut := (List.cons.inj (h.shape.symm.trans h'.shape)).2
  obtain ⟨hname, hcut⟩ := cut_unique h.name_solid (head?_gap h.gap_ne h.gap_blank _)
    h'.name_solid (head?_gap h'.gap_ne h'.gap_blank _) hcut
  obtain ⟨hgap, hcut⟩ := cut_unique h.gap_blank (head?_idKind tail) h'.gap_blank
    (head?_idKind tail') hcut
  exact ⟨hname, hgap, List.append_cancel_left hcut⟩

theorem ElementLine.unique {l name tail name' tail' : List Char}
    (h : ElementLine l name tail) (h' : ElementLine l name' tail') :
    name = name' ∧ tail = tail' := by
  have hcut := (List.cons.inj (h.shape.symm.trans h'.shape)).2
  exact cut_unique h.name_solid (fun c hc => isSolid_eq_false_iff.mpr (h.tail_head c hc))
    h'.name_solid (fun c hc => isSolid_eq_false_iff.mpr (h'.tail_head c hc)) hcut

/-! ### Scanning a line -/

theorem word_of_cut {run rest : List Char} (hrun : AllSolid run)
    (hrest : ∀ c ∈ rest.head?, isSolid c = false) : word (run ++ rest) = (run, rest) := by
  rw [word, takeWhile_of_cut hrun hrest, dropWhile_of_cut hrun hrest]

theorem word_append (cs : List Char) : (word cs).1 ++ (word cs).2 = cs :=
  List.takeWhile_append_dropWhile

theorem solid_word (cs : List Char) : AllSolid (word cs).1 := fun _ hc =>
  List.mem_takeWhile_imp hc

theorem head?_word (cs : List Char) : ∀ c ∈ (word cs).2.head?, isBlank c = true := fun _ hc =>
  isSolid_eq_false_iff.mp (of_mem_head?_dropWhile hc)

theorem oneLine_iff {tail : List Char} : OneLine tail ↔ '\n' ∉ trimLeft tail := by
  constructor
  · rintro ⟨left, rest, rfl, hleft, hrest, hfeed⟩
    rwa [trimLeft_append hleft, trimLeft_of_head?_solid hrest]
  · intro hfeed
    exact ⟨tail.takeWhile isBlank, trimLeft tail, List.takeWhile_append_dropWhile.symm,
      fun c hc => List.mem_takeWhile_imp hc,
      fun c hc => isSolid_eq_true_iff.mpr (of_mem_head?_dropWhile hc), hfeed⟩

theorem value?_eq_some_iff {tail value : List Char} :
    value? tail = some value ↔ OneLine tail ∧ TrimsTo tail value := by
  rw [oneLine_iff, ← trim_eq_iff, value?]
  by_cases h : '\n' ∈ trimLeft tail <;> simp [h]

/-- The reader finds the parts of an attribute line. -/
theorem attr?_of_cut {name gap tail : List Char} (hne : name ≠ []) (hname : AllSolid name)
    (hgne : gap ≠ []) (hgap : AllBlank gap) (htail : ∀ c ∈ tail.head?, isBlank c = true) :
    attr? (name ++ (gap ++ (idKind.toList ++ tail))) = (value? tail).map fun value =>
      .attr (String.ofList name) (String.ofList value) idKind := by
  have hfirst := word_of_cut hname (head?_gap hgne hgap (idKind.toList ++ tail))
  have hgap' : trimLeft (gap ++ (idKind.toList ++ tail)) = idKind.toList ++ tail :=
    dropWhile_of_cut hgap (head?_idKind tail)
  have hkind := word_of_cut solid_idKind fun c hc => isSolid_eq_false_iff.mpr (htail c hc)
  simp only [attr?, hfirst, hgap', hkind]
  rw [if_neg]
  simpa using hne

/-- Where the reader finds an attribute the parts of an attribute line stand. -/
theorem exists_cut_of_attr? {cs : List Char} {event : Event} (h : attr? cs = some event) :
    ∃ name gap tail, cs = name ++ (gap ++ (idKind.toList ++ tail)) ∧ name ≠ [] ∧ AllSolid name ∧
      gap ≠ [] ∧ AllBlank gap ∧ ∀ c ∈ tail.head?, isBlank c = true := by
  have hcs := word_append cs
  have hgap : (word cs).2.takeWhile isBlank ++ trimLeft (word cs).2 = (word cs).2 :=
    List.takeWhile_append_dropWhile
  have hrest := word_append (trimLeft (word cs).2)
  simp only [attr?] at h
  split at h
  · cases h
  · next hkind =>
    simp only [Bool.or_eq_true, not_or, List.isEmpty_iff, bne_iff_ne, ne_eq,
      Decidable.not_not] at hkind
    obtain ⟨hname, hkind⟩ := hkind
    rw [hkind] at hrest
    refine ⟨(word cs).1, (word cs).2.takeWhile isBlank, (word (trimLeft (word cs).2)).2, ?_, hname,
      solid_word cs, ?_, fun c hc => List.mem_takeWhile_imp hc, head?_word _⟩
    · rw [hrest, hgap, hcs]
    · -- with no white space behind the name the line would end there, and have no kind
      intro hnil
      rcases hw : (word cs).2 with _ | ⟨c, rest⟩
      · rw [hw] at hkind
        cases hkind
      · have hc : isBlank c = true := head?_word cs c (by rw [hw]; rfl)
        rw [hw, List.takeWhile_cons_of_pos hc] at hnil
        cases hnil

theorem attr?_eq_some_iff {cs : List Char} {event : Event} : attr? cs = some event ↔
    ∃ name gap tail value, AttrLine ('A' :: cs) name gap tail ∧ TrimsTo tail value ∧
      event = .attr (String.ofList name) (String.ofList value) idKind := by
  constructor
  · intro h
    obtain ⟨name, gap, tail, rfl, hne, hname, hgne, hgap, htail⟩ := exists_cut_of_attr? h
    rw [attr?_of_cut hne hname hgne hgap htail, Option.map_eq_some_iff] at h
    obtain ⟨value, hvalue, rfl⟩ := h
    obtain ⟨hfeed, htrims⟩ := value?_eq_some_iff.mp hvalue
    exact ⟨name, gap, tail, value, ⟨rfl, hne, hname, hgne, hgap, htail, hfeed⟩, htrims, rfl⟩
  · rintro ⟨name, gap, tail, value, hl, htrims, rfl⟩
    obtain rfl := (List.cons.inj hl.shape).2
    rw [attr?_of_cut hl.name_ne hl.name_solid hl.gap_ne hl.gap_blank hl.tail_head,
      value?_eq_some_iff.mpr ⟨hl.tail_feed, htrims⟩]
    rfl

theorem element?_eq_some_iff {cs : List Char} {event : Event} : element? cs = some event ↔
    ∃ name tail, ElementLine ('(' :: cs) name tail ∧ event = .element (String.ofList name) := by
  constructor
  · intro h
    simp only [element?] at h
    split at h
    · cases h
    · next hne =>
      refine ⟨(word cs).1, (word cs).2, ⟨?_, ?_, solid_word cs, head?_word cs⟩,
        (Option.some.inj h).symm⟩
      · rw [word_append]
      · simpa using hne
  · rintro ⟨name, tail, hl, rfl⟩
    obtain rfl := (List.cons.inj hl.shape).2
    have hword := word_of_cut hl.name_solid fun c hc => isSolid_eq_false_iff.mpr (hl.tail_head c hc)
    simp only [element?, hword]
    rw [if_neg]
    simpa using hl.name_ne

/-- **Scanning a line and cutting it give the same event.** -/
theorem ofChars?_eq_some_iff {l : List Char} {event : Event} :
    ofChars? l = some event ↔ Reports l event := by
  constructor
  · intro h
    unfold ofChars? at h
    split at h
    · obtain ⟨name, gap, tail, value, hl, htrims, rfl⟩ := attr?_eq_some_iff.mp h
      exact .attr hl htrims
    · obtain ⟨name, tail, hl, rfl⟩ := element?_eq_some_iff.mp h
      exact .element hl
    · cases h
  · rintro (⟨hl, htrims⟩ | ⟨hl⟩)
    · have hshape := hl.shape
      subst hshape
      exact attr?_eq_some_iff.mpr ⟨_, _, _, _, hl, htrims, rfl⟩
    · have hshape := hl.shape
      subst hshape
      exact element?_eq_some_iff.mpr ⟨_, _, hl, rfl⟩

/-! ### What the grammar says of the events -/

theorem isClean_of_name {name : List Char} (hne : name ≠ []) (hname : AllSolid name) :
    String.ofList name ≠ "" ∧ AllSolid (String.ofList name).toList := by
  rw [String.toList_ofList]
  refine ⟨fun h => hne ?_, hname⟩
  simpa using congrArg String.toList h

theorem Reports.isClean {l : List Char} {event : Event} (h : Reports l event) : event.IsClean := by
  rcases h with @⟨name, gap, tail, value, hl, htrims⟩ | ⟨hl⟩
  · obtain ⟨hne, hname⟩ := isClean_of_name hl.name_ne hl.name_solid
    have hvalue := trim_eq_iff.mpr htrims
    have htrim : IsTrim value := hvalue ▸ isTrim_trim tail
    have hfeed : '\n' ∉ value := fun hmem => by
      rw [← hvalue] at hmem
      exact oneLine_iff.mp hl.tail_feed (mem_trim_right hmem)
    refine ⟨hne, hname, ?_, ?_, rfl⟩
    · rwa [String.toList_ofList]
    · rwa [String.toList_ofList]
  · exact isClean_of_name hl.name_ne hl.name_solid

/-- **The events of lines are clean.** -/
theorem isClean_of_mem_ofLines {lines : List String} {event : Event} (h : event ∈ ofLines lines) :
    event.IsClean := by
  obtain ⟨line, -, hline⟩ := List.mem_filterMap.mp h
  exact (ofChars?_eq_some_iff.mp hline).isClean

/-- **The lines that report an event, and which one.** With its line ends off, a line reports the
events that the grammar gives it and no other, and none if the grammar gives it none. It can be cut
in one way only, whatever it reports is clean, and line ends make no difference. -/
theorem ofLine?_grammar (line : String) : ∃ l ends, line.toList = l ++ ends ∧
    (∀ c ∈ ends, c = '\r' ∨ c = '\n') ∧ (∀ c ∈ l.getLast?, c ≠ '\r' ∧ c ≠ '\n') ∧
    (∀ event, ofLine? line = some event ↔ Reports l event) ∧
    (ofLine? line = none ↔ ¬ ∃ event, Reports l event) ∧
    (∀ name gap tail name' gap' tail', AttrLine l name gap tail → AttrLine l name' gap' tail' →
      name = name' ∧ gap = gap' ∧ tail = tail') ∧
    (∀ name tail name' tail', ElementLine l name tail → ElementLine l name' tail' →
      name = name' ∧ tail = tail') ∧
    (∀ event, ofLine? line = some event → event.IsClean) ∧
    ∀ more : List Char, (∀ c ∈ more, c = '\r' ∨ c = '\n') →
      ofLine? (line ++ String.ofList more) = ofLine? line := by
  have hend {c : Char} : isLineEnd c = true ↔ c = '\r' ∨ c = '\n' := by simp [isLineEnd]
  have hnot {c : Char} : isLineEnd c = false ↔ c ≠ '\r' ∧ c ≠ '\n' := by simp [isLineEnd]
  obtain ⟨ends, hline, hends, hlast⟩ :=
    dropEnd_eq_iff.mp (rfl : dropEnd isLineEnd line.toList = dropEnd isLineEnd line.toList)
  have hreports (event : Event) : ofLine? line = some event ↔
      Reports (dropEnd isLineEnd line.toList) event := ofChars?_eq_some_iff
  refine ⟨dropEnd isLineEnd line.toList, ends, hline, fun c hc => hend.mp (hends c hc),
    fun c hc => hnot.mp (hlast c hc), hreports, ?_, fun _ _ _ _ _ _ h h' => h.unique h',
    fun _ _ _ _ h h' => h.unique h', fun event h => ((hreports event).mp h).isClean, ?_⟩
  · rw [← Option.not_isSome_iff_eq_none, Option.isSome_iff_exists]
    simp only [hreports]
  · intro more hmore
    unfold ofLine?
    rw [String.toList_append, String.toList_ofList,
      dropEnd_append fun c hc => hend.mpr (hmore c hc)]

end CrossRef.Event

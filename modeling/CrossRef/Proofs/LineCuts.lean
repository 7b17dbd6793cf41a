import CrossRef.MarkupParser
import CrossRef.Proofs.Outcome
import CrossRef.Snapshot
import Mathlib.Data.List.Basic
import Mathlib.Data.List.TakeWhile

/-! # Lines of a tool's output

The markup parser ends its lines with line feeds, but its output is cut at the wide set of breaks. A
line that holds another break is therefore read as several: what stands behind the break may be
taken for a line of its own, and what stands before it may lose its end.

* `eventsOf_eq_flatMap`: the events of an output are those taken from its lines, one after the
  other.
* `Intact`: the first piece of a line reports what the line reports, and no later piece reports
  anything.
* `eventsOf_eq_report_iff`: exactly from the intact lines is taken what they report.
* `events_by_line`: what follows for a run of the tool. -/

namespace CrossRef

/-! ### Cutting a list -/

section cutting

variable {α : Type}

/-- One element more: it is a cut, or it goes to the front of the first piece. -/
theorem splitOnP_cons_cases (p : α → Bool) (a : α) (l : List α) :
    ∃ r rs, l.splitOnP p = r :: rs ∧
      (a :: l).splitOnP p = if p a = true then [] :: r :: rs else (a :: r) :: rs := by
  obtain ⟨r, rs, hr⟩ := List.exists_cons_of_ne_nil (List.splitOnP_ne_nil p l)
  refine ⟨r, rs, hr, ?_⟩
  rw [List.splitOnP_cons_eq_if_modifyHead, hr, List.modifyHead_cons]

/-- Cutting at fewer places first makes no difference. -/
theorem splitOnP_eq_flatMap {p q : α → Bool} (h : ∀ a, p a = true → q a = true) : ∀ l : List α,
    l.splitOnP q = (l.splitOnP p).flatMap fun piece => piece.splitOnP q
  | [] => rfl
  | a :: l => by
    obtain ⟨r, rs, hr, hp⟩ := splitOnP_cons_cases p a l
    obtain ⟨t, ts, ht, hq⟩ := splitOnP_cons_cases q a r
    have ih := splitOnP_eq_flatMap h l
    rw [hr, List.flatMap_cons, ht] at ih
    rw [List.splitOnP_cons_eq_if_modifyHead, ih, hp]
    by_cases ha : p a = true
    · rw [if_pos ha, if_pos (h a ha), List.flatMap_cons, List.flatMap_cons, ht]
      rfl
    · rw [if_neg ha, List.flatMap_cons, hq]
      split <;> rfl

/-- The first piece is what stands before the first cut. -/
theorem splitOnP_eq_takeWhile_cons (p : α → Bool) : ∀ l : List α,
    ∃ ps, l.splitOnP p = (l.takeWhile fun a => !p a) :: ps
  | [] => ⟨[], rfl⟩
  | a :: l => by
    obtain ⟨r, rs, hr, hp⟩ := splitOnP_cons_cases p a l
    obtain ⟨ps, hps⟩ := splitOnP_eq_takeWhile_cons p l
    have hr' : r = l.takeWhile fun a => !p a := (List.cons.inj (hr.symm.trans hps)).1
    by_cases ha : p a = true
    · exact ⟨r :: rs, by rw [hp, if_pos ha, List.takeWhile_cons_of_neg (by simp [ha])]⟩
    · exact ⟨rs, by rw [hp, if_neg ha, List.takeWhile_cons_of_pos (by simp [ha]), ← hr']⟩

/-- The pieces hold nothing new, and no cut. -/
theorem mem_of_mem_splitOnP {p : α → Bool} {a : α} : ∀ {l piece : List α},
    piece ∈ l.splitOnP p → a ∈ piece → a ∈ l ∧ p a = false
  | [], piece, h, ha => by
    rw [List.splitOnP_nil, List.mem_singleton] at h
    rw [h] at ha
    exact absurd ha (by simp)
  | b :: l, piece, h, ha => by
    obtain ⟨r, rs, hr, hp⟩ := splitOnP_cons_cases p b l
    have ih {q : List α} (hq : q ∈ r :: rs) (haq : a ∈ q) : a ∈ b :: l ∧ p a = false :=
      (mem_of_mem_splitOnP (hr ▸ hq) haq).imp (List.mem_cons_of_mem b) id
    rw [hp] at h
    split at h
    · rcases List.mem_cons.mp h with rfl | h
      · exact absurd ha (by simp)
      · exact ih h ha
    · next hb =>
      rcases List.mem_cons.mp h with rfl | h
      · rcases List.mem_cons.mp ha with rfl | ha
        · exact ⟨by simp, by simpa using hb⟩
        · exact ih (by simp) ha
      · exact ih (by simp [h]) ha

/-- What is counted in the pieces is what is counted in the list, if no cut is counted. -/
theorem countP_flatten_splitOnP {p q : α → Bool} (h : ∀ a, p a = true → q a = false) :
    ∀ l : List α, (l.splitOnP p).flatten.countP q = l.countP q
  | [] => rfl
  | a :: l => by
    obtain ⟨r, rs, hr, hp⟩ := splitOnP_cons_cases p a l
    have ih := countP_flatten_splitOnP h l
    rw [hr] at ih
    rw [hp, List.countP_cons]
    split
    · next ha => simpa [h a ha] using ih
    · rw [List.flatten_cons, List.cons_append, List.countP_cons, ← List.flatten_cons, ih]

/-- Two ways to take items from each element of a list agree on every beginning of it exactly if
they agree on every element. -/
theorem flatMap_take_eq_iff {β : Type} (f g : α → List β) : ∀ l : List α,
    (∀ k, (l.take k).flatMap f = (l.take k).flatMap g) ↔ ∀ a ∈ l, f a = g a
  | [] => by simp
  | a :: l => by
    rw [List.forall_mem_cons, ← flatMap_take_eq_iff f g l]
    constructor
    · intro h
      have ha : f a = g a := by simpa using h 1
      refine ⟨ha, fun k => ?_⟩
      have hk := h (k + 1)
      rw [List.take_succ_cons, List.flatMap_cons, List.flatMap_cons, ha] at hk
      exact List.append_cancel_left hk
    · rintro ⟨ha, h⟩ (_ | k)
      · rfl
      · rw [List.take_succ_cons, List.flatMap_cons, List.flatMap_cons, ha, h k]

end cutting

/-! ### Lines of a text -/

namespace Text

theorem not_mem_unixLines (cs : List Char) : '\r' ∉ unixLines cs := by
  fun_induction unixLines cs with
  | case1 => simp
  | case2 cs ih => simpa using ih
  | case3 c cs _ ih =>
    rw [List.mem_cons, not_or]
    refine ⟨?_, ih⟩
    split
    · simp
    · next hc => exact Ne.symm hc

theorem cutAt_eq_splitOnP (sep : Char) : ∀ cs : List Char,
    cutAt sep cs = cs.splitOnP fun c => c == sep
  | [] => rfl
  | c :: cs => by
    obtain ⟨r, rs, hr, hp⟩ := splitOnP_cons_cases (fun c => c == sep) c cs
    rw [cutAt, cutAt_eq_splitOnP sep cs, hr, hp]
    by_cases h : c = sep <;> simp [h, consPiece]

/-- Without carriage returns the lines in the wide sense are the pieces between breaks, but for an
empty piece at the end. -/
theorem splitOnP_isWideBreak {cs : List Char} (h : '\r' ∉ cs) :
    cs.splitOnP isWideBreak = wideLines cs ∨ cs.splitOnP isWideBreak = wideLines cs ++ [[]] := by
  fun_induction wideLines cs with
  | case1 => exact Or.inr rfl
  | case2 cs _ => exact absurd (List.mem_cons_self ..) h
  | case3 c cs _ hc ih =>
    obtain ⟨r, rs, hr, hp⟩ := splitOnP_cons_cases isWideBreak c cs
    rw [hp, if_pos hc, ← hr]
    exact (ih fun hm => h (List.mem_cons_of_mem c hm)).imp (congrArg _) (congrArg _)
  | case4 c cs _ hc ih =>
    obtain ⟨r, rs, hr, hp⟩ := splitOnP_cons_cases isWideBreak c cs
    rw [hp, if_neg hc]
    rw [hr] at ih
    rcases ih fun hm => h (List.mem_cons_of_mem c hm) with ih | ih
    · rw [← ih]; exact Or.inl rfl
    · rcases hw : wideLines cs with _ | ⟨t, ts⟩ <;> rw [hw] at ih
      · cases ih; exact Or.inl rfl
      · cases ih; exact Or.inr rfl

theorem isBlank_of_isWideBreak {c : Char} (h : isWideBreak c = true) : isBlank c = true := by
  simp only [isWideBreak, isBlank, blankRanges, inTable, CodeRange.holds, List.any_cons,
    List.any_nil, Bool.or_eq_true, Bool.and_eq_true, decide_eq_true_eq, Bool.or_false] at h ⊢
  omega

theorem countP_isSolid_trimLeft (cs : List Char) :
    (trimLeft cs).countP isSolid = cs.countP isSolid := by
  induction cs with
  | nil => rfl
  | cons c cs ih =>
    unfold trimLeft at ih ⊢
    rw [List.dropWhile_cons]
    split
    · next hc => rw [ih, List.countP_cons_of_neg (by simp [isSolid, hc])]
    · rfl

/-- Trimming leaves all characters other than white space. -/
theorem countP_isSolid_trim (cs : List Char) : (trim cs).countP isSolid = cs.countP isSolid := by
  unfold trim trimRight dropEnd
  rw [List.countP_reverse]
  exact (countP_isSolid_trimLeft _).trans
    ((List.countP_reverse ..).trans (countP_isSolid_trimLeft cs))

theorem dropEnd_eq_self {p : Char → Bool} {cs : List Char} (h : ∀ c ∈ cs, p c = false) :
    dropEnd p cs = cs := by
  unfold dropEnd
  rw [List.dropWhile_eq_self_iff.mpr, List.reverse_reverse]
  intro hl
  rw [h _ (List.mem_reverse.mp (List.getElem_mem hl))]
  simp

end Text

/-! ### What a line reports -/

namespace Event

theorem ofChars?_eq_attr {l : List Char} {name value kind : String}
    (h : ofChars? l = some (.attr name value kind)) :
    ∃ cs, l = 'A' :: cs ∧ attr? cs = some (.attr name value kind) := by
  unfold ofChars? at h
  split at h
  · next cs => exact ⟨cs, rfl, h⟩
  · next cs =>
    unfold element? at h
    simp only at h
    split at h <;> simp at h
  · simp at h

theorem ofChars?_eq_element {l : List Char} {name : String}
    (h : ofChars? l = some (.element name)) :
    ∃ cs, l = '(' :: cs ∧ element? cs = some (.element name) := by
  unfold ofChars? at h
  split at h
  · next cs =>
    unfold attr? at h
    simp only at h
    split at h <;> simp at h
  · next cs => exact ⟨cs, rfl, h⟩
  · simp at h

/-- An attribute line has the characters of its name, its kind and its value and one more, if white
space is not counted. -/
theorem countP_isSolid_of_attr? {cs : List Char} {name value kind : String}
    (h : attr? cs = some (.attr name value kind)) :
    cs.countP Text.isSolid = name.toList.countP Text.isSolid +
      (idKind.toList.countP Text.isSolid + value.toList.countP Text.isSolid) := by
  have cut (ds : List Char) : ds.countP Text.isSolid =
      (word ds).1.countP Text.isSolid + (word ds).2.countP Text.isSolid := by
    unfold word
    rw [← List.countP_append, List.takeWhile_append_dropWhile]
  unfold attr? at h
  simp only at h
  split at h
  · simp at h
  · next hk =>
    obtain ⟨v, hv, he⟩ := Option.map_eq_some_iff.mp h
    have hkind : (word (Text.trimLeft (word cs).2)).1 = idKind.toList := by
      simp only [Bool.or_eq_true, not_or] at hk
      simpa using hk.2
    have hvalue : v = Text.trim (word (Text.trimLeft (word cs).2)).2 := by
      unfold value? at hv
      split at hv
      · simp at hv
      · exact (Option.some.inj hv).symm
    cases he
    rw [cut cs, ← Text.countP_isSolid_trimLeft (word cs).2, cut (Text.trimLeft (word cs).2), hkind,
      hvalue, String.toList_ofList, String.toList_ofList, Text.countP_isSolid_trim]

/-- What stands before the first break of an element line reports the same element. -/
theorem ofChars?_takeWhile_of_element {l : List Char} {name : String}
    (h : ofChars? l = some (.element name)) :
    ofChars? (l.takeWhile fun c => !Text.isWideBreak c) = some (.element name) := by
  obtain ⟨cs, rfl, he⟩ := ofChars?_eq_element h
  have hw : (word (cs.takeWhile fun c => !Text.isWideBreak c)).1 = (word cs).1 := by
    have hs : (fun c => decide (Text.isSolid c = true ∧ (!Text.isWideBreak c) = true)) =
        Text.isSolid := by
      funext c
      have := @Text.isBlank_of_isWideBreak c
      rw [Bool.eq_iff_iff]
      simp only [Text.isSolid, Bool.not_eq_true', decide_eq_true_eq]
      grind
    simp only [word, List.takeWhile_takeWhile, hs]
  rw [List.takeWhile_cons_of_pos (by decide)]
  show element? _ = _
  rw [← he]
  unfold element?
  simp only [hw]

end Event

/-! ### What is taken from a line -/

namespace MarkupParser

/-- What a line reports. -/
def report (l : List Char) : Option Event := Event.ofLine? (String.ofList l)

theorem report_eq_ofChars? {l : List Char} (h : ∀ c ∈ l, Event.isLineEnd c = false) :
    report l = Event.ofChars? l := by
  unfold report Event.ofLine?
  rw [String.toList_ofList, Text.dropEnd_eq_self h]

/-- **A line is intact** if its first piece between breaks reports what the line reports, and no
later piece reports anything. -/
def Intact (l : List Char) : Prop :=
  ∃ p ps, l.splitOnP Text.isWideBreak = p :: ps ∧ report p = report l ∧ ∀ q ∈ ps, report q = none

theorem eventsOf_eq_filterMap {cs : List Char} (h : '\r' ∉ cs) :
    eventsOf cs = (cs.splitOnP Text.isWideBreak).filterMap report := by
  have hw : eventsOf cs = (Text.wideLines cs).filterMap report := by
    unfold eventsOf Event.ofLines
    rw [List.filterMap_map]
    rfl
  rcases Text.splitOnP_isWideBreak h with hs | hs
  · rw [hw, hs]
  · rw [hw, hs, List.filterMap_append]
    exact (List.append_nil _).symm

/-- **The events of an output** are those taken from its lines, one after the other. -/
theorem eventsOf_eq_flatMap {cs : List Char} (h : '\r' ∉ cs) :
    eventsOf cs = (Text.cutAtFeeds cs).flatMap eventsOf := by
  have hfeed : ∀ c : Char, (c == '\n') = true → Text.isWideBreak c = true := by
    intro c hc
    rw [beq_iff_eq.mp hc]
    decide
  rw [eventsOf_eq_filterMap h, splitOnP_eq_flatMap hfeed, Text.cutAtFeeds, Text.cutAt_eq_splitOnP,
    List.filterMap_flatMap]
  refine List.flatMap_congr fun l hl => ?_
  exact (eventsOf_eq_filterMap fun hr => h (mem_of_mem_splitOnP hl hr).1).symm

/-- A line gives up an attribute whole or not at all: a later piece cannot report what the line
does, since it lacks the `A` that the line begins with. -/
theorem ofChars?_later_ne_attr {l p : List Char} {ps : List (List Char)}
    {name value kind : String} (hsplit : l.splitOnP Text.isWideBreak = p :: ps)
    (hl : Event.ofChars? l = some (.attr name value kind)) {q : List Char} (hq : q ∈ ps) :
    Event.ofChars? q ≠ some (.attr name value kind) := by
  intro hqe
  obtain ⟨cs, rfl, hcs⟩ := Event.ofChars?_eq_attr hl
  obtain ⟨ds, rfl, hds⟩ := Event.ofChars?_eq_attr hqe
  have hblank : ∀ c, Text.isWideBreak c = true → Text.isSolid c = false := fun c hc => by
    simp [Text.isSolid, Text.isBlank_of_isWideBreak hc]
  have hsum := countP_flatten_splitOnP hblank ('A' :: cs)
  rw [hsplit, List.flatten_cons, List.countP_append] at hsum
  have hqle : ('A' :: ds).countP Text.isSolid ≤ ps.flatten.countP Text.isSolid := by
    obtain ⟨before, after, rfl⟩ := List.append_of_mem hq
    rw [List.flatten_append, List.flatten_cons, List.countP_append, List.countP_append]
    omega
  have hp : 0 < p.countP Text.isSolid := by
    obtain ⟨rs, hrs⟩ := splitOnP_eq_takeWhile_cons Text.isWideBreak ('A' :: cs)
    have : p = ('A' :: cs).takeWhile fun c => !Text.isWideBreak c :=
      (List.cons.inj (hsplit.symm.trans hrs)).1
    rw [this, List.takeWhile_cons_of_pos (by decide), List.countP_cons_of_pos (by decide)]
    omega
  have h1 := Event.countP_isSolid_of_attr? hcs
  have h2 := Event.countP_isSolid_of_attr? hds
  rw [List.countP_cons_of_pos (by decide)] at hsum hqle
  omega

/-- If the first piece of a line reports nothing, no later piece reports what the line reports. -/
theorem later_ne_report {l : List Char} {ps : List (List Char)}
    (h : ∀ c ∈ l, Event.isLineEnd c = false)
    (hsplit : l.splitOnP Text.isWideBreak = (l.takeWhile fun c => !Text.isWideBreak c) :: ps)
    (hp : report (l.takeWhile fun c => !Text.isWideBreak c) = none) {e : Event}
    (hl : report l = some e) : e ∉ ps.filterMap report := by
  intro he
  obtain ⟨q, hq, hqe⟩ := List.mem_filterMap.mp he
  have hpiece {r : List Char} (hr : r ∈ l.splitOnP Text.isWideBreak) :
      report r = Event.ofChars? r :=
    report_eq_ofChars? fun c hc => h c (mem_of_mem_splitOnP hr hc).1
  rw [hpiece (by rw [hsplit]; exact List.mem_cons_of_mem _ hq)] at hqe
  rw [hpiece (by rw [hsplit]; exact List.mem_cons_self)] at hp
  rw [report_eq_ofChars? h] at hl
  cases e with
  | element name =>
    rw [Event.ofChars?_takeWhile_of_element hl] at hp
    cases hp
  | attr name value kind => exact ofChars?_later_ne_attr hsplit hl hq hqe

/-- **What is taken from a line is what it reports exactly if the line is intact.** -/
theorem eventsOf_eq_report_iff {l : List Char} (h : ∀ c ∈ l, Event.isLineEnd c = false) :
    eventsOf l = (report l).toList ↔ Intact l := by
  have hr : '\r' ∉ l := fun hm => absurd (h _ hm) (by decide)
  obtain ⟨ps, hsplit⟩ := splitOnP_eq_takeWhile_cons Text.isWideBreak l
  rw [eventsOf_eq_filterMap hr]
  constructor
  · intro heq
    rw [hsplit] at heq
    rcases hp : report (l.takeWhile fun c => !Text.isWideBreak c) with _ | e
    · rw [List.filterMap_cons_none hp] at heq
      rcases hl : report l with _ | e <;> rw [hl] at heq
      · exact ⟨_, ps, hsplit, hp.trans hl.symm, List.filterMap_eq_nil_iff.mp heq⟩
      · exact absurd (by rw [heq]; exact List.mem_singleton_self e) (later_ne_report h hsplit hp hl)
    · rw [List.filterMap_cons_some hp] at heq
      rcases hl : report l with _ | e' <;> rw [hl] at heq
      · cases heq
      · obtain ⟨rfl, hps⟩ := List.cons.inj heq
        exact ⟨_, ps, hsplit, hp.trans hl.symm, List.filterMap_eq_nil_iff.mp hps⟩
  · rintro ⟨p, qs, hs, hp, hqs⟩
    rw [hs, List.filterMap_cons, hp, List.filterMap_eq_nil_iff.mpr hqs]
    rcases report l with _ | e <;> rfl

/-! ### Runs of the tool -/

theorem await_eq_ok {command : List String} {limit : Option Double} {ending : Option Output}
    {o : Output} (h : await command limit ending = .ok o) : ending = some o := by
  unfold await at h
  split at h
  · cases h
  · exact congrArg some (Except.ok.inj h)
  · split at h
    · cases h
    · cases h
    · cases h
    · exact congrArg some (Except.ok.inj h)

/-- The output of a run has no carriage returns. -/
theorem not_mem_text_of_run {w : World} {command : List String} {limit : Option Double}
    {o : Output} (h : run w command limit = .ok o) : '\r' ∉ o.text := by
  unfold run at h
  split at h
  · cases h
  · split at h
    · cases h
    · cases h
    · cases h
    · cases await_eq_ok h
    · next status output errors _ =>
      have ho := Option.some.inj (await_eq_ok h)
      rw [← ho]
      exact Text.not_mem_unixLines _

theorem events_of_run {w : World} {p : MarkupParser} {path : String} {command : List String}
    {o : Output} (hc : p.commandTexts path = .ok command) (hr : run w command p.limit = .ok o)
    (hs : o.status = 0 ∨ p.accepts o = true) :
    (p.events w path).outcome = .ok (eventsOf o.text) := by
  have hj : (p.judge command path o).outcome = .ok (eventsOf o.text) := by
    unfold judge
    by_cases h0 : o.status = 0
    · simp only [if_pos h0, Traced.outcome_pure]
    · simp only [if_neg h0, if_pos (hs.resolve_left h0)]
      rfl
  unfold events
  simp only [Traced.outcome_bind, Traced.outcome_ofFault, mapError_eq_ok_iff.mpr hc, Except.bind,
    Traced.note, Traced.outcome_tell, Traced.outcome_ofExcept, hr, hj]

theorem ofLines_eq_flatMap (ls : List (List Char)) :
    Event.ofLines (ls.map String.ofList) = ls.flatMap fun l => (report l).toList := by
  unfold Event.ofLines
  rw [List.filterMap_map, List.filterMap_eq_flatMap_toList]
  rfl

/-- **Which events a run of the tool gives.** They are those taken from the lines of the output, one
after the other. From a line is taken what it reports exactly if the line is intact. So the events
of the output, and of each of its beginnings, are those that the lines report exactly if every line
is intact. -/
theorem events_by_line {w : World} {p : MarkupParser} {path : String} {command : List String}
    {o : Output} (hc : p.commandTexts path = .ok command) (hr : run w command p.limit = .ok o)
    (hs : o.status = 0 ∨ p.accepts o = true) :
    let lines := Text.cutAtFeeds o.text
    (p.events w path).outcome = .ok (lines.flatMap eventsOf) ∧
    (∀ l ∈ lines, (eventsOf l = (report l).toList ↔ Intact l)) ∧
    ((∀ k, (lines.take k).flatMap eventsOf = Event.ofLines ((lines.take k).map String.ofList)) ↔
      ∀ l ∈ lines, Intact l) ∧
    ((∀ l ∈ lines, Intact l) →
      (p.events w path).outcome = .ok (Event.ofLines (lines.map String.ofList))) := by
  intro lines
  have htext := not_mem_text_of_run hr
  have hevents : (p.events w path).outcome = .ok (lines.flatMap eventsOf) := by
    rw [events_of_run hc hr hs, eventsOf_eq_flatMap htext]
  have hline : ∀ l ∈ lines, (eventsOf l = (report l).toList ↔ Intact l) := by
    intro l hl
    refine eventsOf_eq_report_iff fun c hcl => ?_
    simp only [lines, Text.cutAtFeeds, Text.cutAt_eq_splitOnP] at hl
    obtain ⟨hmem, hfeed⟩ := mem_of_mem_splitOnP hl hcl
    have hreturn : (c == '\r') = false := beq_eq_false_iff_ne.mpr fun h => htext (h ▸ hmem)
    simp [Event.isLineEnd, hreturn, hfeed]
  refine ⟨hevents, hline, ?_, fun hall => ?_⟩
  · simp only [ofLines_eq_flatMap]
    rw [flatMap_take_eq_iff]
    exact forall₂_congr hline
  · rw [hevents, ofLines_eq_flatMap]
    exact congrArg _ (List.flatMap_congr fun l hl => (hline l hl).mpr (hall l hl))

/-- A parser that is the command `sp`, without arguments and without a time limit. -/
def plainParser : MarkupParser := ⟨.str "sp", [], none, false⟩

/-- A world in which `sp` prints the given bytes. -/
def printing (bytes : List UInt8) : World :=
  Snapshot.toWorld { cwd := [], tools := [("sp", { script := .prints bytes })] }

/-- The bytes of the lines `AID ID x` and `(P`. -/
def ordinaryBytes : List UInt8 := [65, 73, 68, 32, 73, 68, 32, 120, 10, 40, 80, 10]

/-- From ordinary output is taken what its lines report. -/
theorem events_by_line_ordinary :
    plainParser.commandTexts "d" = .ok ["sp", "d"] ∧
      run (printing ordinaryBytes) ["sp", "d"] none = .ok ⟨0, World.decoded ordinaryBytes, []⟩ ∧
      (plainParser.events (printing ordinaryBytes) "d").outcome =
        .ok (Event.ofLines ((Text.cutAtFeeds (World.decoded ordinaryBytes)).map String.ofList)) := by
  have hc : plainParser.commandTexts "d" = .ok ["sp", "d"] := rfl
  have hr : run (printing ordinaryBytes) ["sp", "d"] none =
      .ok ⟨0, World.decoded ordinaryBytes, []⟩ := rfl
  obtain ⟨-, hline, -, hall⟩ := events_by_line hc hr (Or.inl rfl)
  have htaken : ∀ l ∈ Text.cutAtFeeds (World.decoded ordinaryBytes),
      eventsOf l = (report l).toList := by decide
  exact ⟨hc, hr, hall fun l hl => (hline l hl).mp (htaken l hl)⟩

/-- The bytes of one data line, a form feed and `(P` behind its dash. -/
def formFeedBytes : List UInt8 := [45, 12, 40, 80, 10]

/-- **A form feed in a data line forges an element start:** the one line reports nothing, but an
event is taken from it. -/
theorem formFeed_forges_element :
    (plainParser.events (printing formFeedBytes) "d").outcome = .ok [.element "P"] ∧
      Event.ofLines ((Text.cutAtFeeds (World.decoded formFeedBytes)).map String.ofList) = [] :=
  ⟨rfl, by decide⟩

end MarkupParser

end CrossRef

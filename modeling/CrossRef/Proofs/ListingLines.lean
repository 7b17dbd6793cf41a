import CrossRef.Listing
import CrossRef.Proofs.FoldedNames
import CrossRef.Proofs.LineGrammar

/-! # Reading a listing back

A line of a listing shows an identifier and, in brackets, an element. Neither is quoted: identifiers
may hold blanks and brackets, elements may hold brackets, and a declaration may spell the header.
The reader cuts the line at its first white space. So the identifier it reads is the one that was
written or none:

* `identifier?_of_solid`: an identifier without white space is cut where it ends.
* `identifier?_of_blank`: one with white space in it is cut too early, and the bracket that follows
  the whole identifier then stands inside the brackets of the element, where none may stand.
* `identifierOnLine?_line`: which lines can be read.
* `listing_read_back`: what a whole listing comes to. -/

namespace CrossRef.Listing

open Text

/-- **The identifier of the declaration can be read from its line:** it is not empty and holds no
white space, the element holds no bracket, and the line is not the header. -/
def Legible (e : Entry) : Prop :=
  e.identifier ≠ "" ∧ AllSolid e.identifier.toList ∧
    ('(' ∉ e.element.toList ∧ ')' ∉ e.element.toList) ∧
    (e.identifier, e.element) ≠ ("Identifier", "element")

instance (e : Entry) : Decidable (Legible e) := inferInstanceAs (Decidable (_ ∧ _ ∧ _ ∧ _))

/-- An element in brackets, with the blank in front of them. -/
def suffix (element : List Char) : List Char := ' ' :: '(' :: (element ++ [')'])

theorem toList_line (e : Entry) :
    (line e).toList = e.identifier.toList ++ suffix e.element.toList := by
  simp [line, suffix]

theorem head?_suffix (element : List Char) : ∀ c ∈ (suffix element).head?, isSolid c = false := by
  rintro c ⟨⟩
  decide

/-! ### Brackets -/

theorem bracketed?_element (element : List Char) : bracketed? ('(' :: (element ++ [')'])) =
    if '(' ∉ element ∧ ')' ∉ element then some element else none := by
  have hany : element.any (fun c => c == '(' || c == ')') = false ↔
      '(' ∉ element ∧ ')' ∉ element := by
    simp only [List.any_eq_false, Bool.or_eq_true, beq_iff_eq, not_or]
    constructor
    · exact fun h => ⟨fun hm => (h _ hm).1 rfl, fun hm => (h _ hm).2 rfl⟩
    · rintro ⟨hopen, hclose⟩ c hc
      exact ⟨fun h => hopen (h ▸ hc), fun h => hclose (h ▸ hc)⟩
  rw [bracketed?, List.getLast?_concat, List.dropLast_concat]
  by_cases h : '(' ∉ element ∧ ')' ∉ element
  · rw [if_pos h, if_pos]
    simp [hany.mpr h]
  · rw [if_neg h, if_neg]
    rw [← hany] at h
    simpa using h

/-- What stands in front of the element's own bracket spoils the brackets. -/
theorem bracketed?_spoilt {front : List Char} (hne : front ≠ []) (element : List Char) :
    bracketed? (front ++ suffix element) = none := by
  obtain ⟨c, front, rfl⟩ := List.exists_cons_of_ne_nil hne
  by_cases hc : c = '('
  · subst hc
    have hcut : front ++ suffix element = (front ++ ' ' :: '(' :: element) ++ [')'] := by
      simp [suffix]
    rw [List.cons_append, hcut, bracketed?_element, if_neg]
    simp
  · rw [List.cons_append]
    unfold bracketed?
    split
    · next heq => exact absurd (List.cons.inj heq).1 hc
    · rfl

/-! ### The first white space -/

theorem identifier?_of_solid {name : List Char} (hne : name ≠ []) (hname : AllSolid name)
    (element : List Char) : identifier? (name ++ suffix element) =
      if '(' ∉ element ∧ ')' ∉ element then some name else none := by
  have htake := takeWhile_of_cut hname (head?_suffix element)
  have hdrop := dropWhile_of_cut hname (head?_suffix element)
  have hempty : name.isEmpty = false := by simpa using hne
  simp only [identifier?, htake, hdrop]
  rw [suffix]
  simp only [bracketed?_element, hempty, Bool.false_or]
  by_cases h : '(' ∉ element ∧ ')' ∉ element
  · simp [h]
  · simp [h]

theorem identifier?_of_blank {name : List Char} (hname : IsTrim name) (hblank : ¬ AllSolid name)
    (element : List Char) : identifier? (name ++ suffix element) = none := by
  -- the first white space of the name, and what of the name stands behind it
  obtain ⟨run, c, rest, hcut, hrun, hc⟩ : ∃ run c rest, name = run ++ c :: rest ∧ AllSolid run ∧
      isSolid c = false := by
    have happend := List.takeWhile_append_dropWhile (p := isSolid) (l := name)
    rcases hd : name.dropWhile isSolid with _ | ⟨c, rest⟩
    · exact absurd (List.dropWhile_eq_nil_iff.mp hd) hblank
    · refine ⟨name.takeWhile isSolid, c, rest, ?_, fun d hm => List.mem_takeWhile_imp hm, ?_⟩
      · rw [← hd, happend]
      · exact of_mem_head?_dropWhile (by rw [hd]; rfl)
  have hrest : rest ≠ [] := by
    rintro rfl
    have hlast := hname.2 c (by rw [hcut]; simp)
    rw [hc] at hlast
    cases hlast
  have hdrop : (name ++ suffix element).dropWhile isSolid = c :: (rest ++ suffix element) := by
    have hhead : ∀ d ∈ (c :: (rest ++ suffix element)).head?, isSolid d = false := by
      rintro d ⟨⟩
      exact hc
    rw [← dropWhile_of_cut hrun hhead, hcut, List.append_assoc, List.cons_append]
  unfold identifier?
  split
  · next tail htail =>
    rw [hdrop] at htail
    obtain ⟨-, rfl⟩ := List.cons.inj htail
    rw [bracketed?_spoilt hrest]
    simp
  · rfl

theorem identifier?_of_allSolid {cs : List Char} (h : AllSolid cs) : identifier? cs = none := by
  unfold identifier?
  rw [List.dropWhile_eq_nil_iff.mpr h]

/-! ### Lines -/

theorem line_mem_header_iff {e : Entry} (h : AllSolid e.identifier.toList) :
    line e ∈ header ↔ (e.identifier, e.element) = ("Identifier", "element") := by
  constructor
  · intro hmem
    rcases List.mem_cons.mp hmem with hline | hmem
    · have hchars : e.identifier.toList ++ suffix e.element.toList =
          "Identifier".toList ++ suffix "element".toList := by
        rw [← toList_line, hline]
        rfl
      obtain ⟨hid, hsuffix⟩ := cut_unique h (head?_suffix _)
        (show AllSolid "Identifier".toList by decide) (head?_suffix _) hchars
      have helement : e.element.toList = "element".toList :=
        List.append_cancel_right (List.cons.inj (List.cons.inj hsuffix).2).2
      rw [String.toList_inj.mp hid, String.toList_inj.mp helement]
    · -- there is no bracket in the second header line
      have hbracket : '(' ∈ (line e).toList := by simp [toList_line, suffix]
      rw [List.mem_singleton.mp hmem] at hbracket
      exact absurd hbracket (by decide)
  · intro he
    obtain ⟨hid, helement⟩ := Prod.mk.inj he
    have hline : line e = "Identifier (element)" := by
      rw [line, hid, helement]
      rfl
    rw [hline]
    exact List.mem_cons_self

/-- Without an identifier a line begins with a blank, and only the brackets are left of it. -/
theorem trim_line_of_empty {e : Entry} (hempty : e.identifier = "")
    (helement : AllSolid e.element.toList) : AllSolid (trim (line e).toList) := by
  have hsolid : AllSolid ('(' :: (e.element.toList ++ [')'])) := by
    intro c hc
    simp only [List.mem_cons, List.mem_append, List.not_mem_nil, or_false] at hc
    rcases hc with rfl | hc | rfl
    · decide
    · exact helement c hc
    · decide
  have hline : (line e).toList = [' '] ++ '(' :: (e.element.toList ++ [')']) ++ [] := by
    simp [toList_line, hempty, suffix]
  rw [trim_eq_iff.mpr ⟨[' '], [], hline, by decide, by decide, hsolid.isTrim⟩]
  exact hsolid

theorem isTrim_line {e : Entry} (hempty : e.identifier ≠ "") (hid : IsTrim e.identifier.toList) :
    IsTrim (line e).toList := by
  have hne : e.identifier.toList ≠ [] := by simpa using hempty
  rw [toList_line]
  constructor
  · rw [List.head?_append_of_ne_nil _ hne]
    exact hid.1
  · have hclose : suffix e.element.toList = (' ' :: '(' :: e.element.toList) ++ [')'] := rfl
    rw [hclose, ← List.append_assoc, List.getLast?_concat]
    rintro c ⟨⟩
    decide

/-- What a trimmed line shows is what its characters show, unless it is a header line. -/
theorem identifierOnLine?_eq (s : String) : identifierOnLine? s =
    if String.ofList (trim s.toList) ∈ header then none
    else (identifier? (trim s.toList)).map String.ofList := by
  simp only [identifierOnLine?, stripped, String.toList_ofList]

theorem identifierOnLine?_line_of_solid {e : Entry} (hempty : e.identifier ≠ "")
    (hsolid : AllSolid e.identifier.toList) :
    identifierOnLine? (line e) = if Legible e then some e.identifier else none := by
  have hne : e.identifier.toList ≠ [] := by simpa using hempty
  rw [identifierOnLine?_eq, (isTrim_line hempty hsolid.isTrim).trim_eq, String.ofList_toList]
  by_cases hheader : (e.identifier, e.element) = ("Identifier", "element")
  · rw [if_pos ((line_mem_header_iff hsolid).mpr hheader),
      if_neg fun h : Legible e => h.2.2.2 hheader]
  · rw [if_neg fun h => hheader ((line_mem_header_iff hsolid).mp h), toList_line,
      identifier?_of_solid hne hsolid]
    by_cases hbracket : '(' ∉ e.element.toList ∧ ')' ∉ e.element.toList
    · rw [if_pos hbracket, if_pos ⟨hempty, hsolid, hbracket, hheader⟩, Option.map_some,
        String.ofList_toList]
    · rw [if_neg hbracket, if_neg fun h : Legible e => hbracket h.2.2.1, Option.map_none]

/-- **What the line of a declaration shows:** its identifier if it is legible, else nothing. -/
theorem identifierOnLine?_line {e : Entry} (hid : IsTrim e.identifier.toList)
    (helement : AllSolid e.element.toList) :
    identifierOnLine? (line e) = if Legible e then some e.identifier else none := by
  by_cases hempty : e.identifier = ""
  · rw [identifierOnLine?_eq, identifier?_of_allSolid (trim_line_of_empty hempty helement),
      if_neg fun h : Legible e => h.1 hempty]
    simp
  · by_cases hsolid : AllSolid e.identifier.toList
    · exact identifierOnLine?_line_of_solid hempty hsolid
    · rw [identifierOnLine?_eq, (isTrim_line hempty hid).trim_eq, toList_line,
        identifier?_of_blank hid hsolid, if_neg fun h : Legible e => hsolid h.2.1]
      simp

/-- White space around a line makes no difference. -/
theorem identifierOnLine?_padded {left right : List Char} (hleft : AllBlank left)
    (hright : AllBlank right) (s : String) :
    identifierOnLine? (String.ofList (left ++ s.toList ++ right)) = identifierOnLine? s := by
  rw [identifierOnLine?_eq, identifierOnLine?_eq, String.toList_ofList, trim_append hleft hright]

/-! ### The whole listing -/

/-- Identifiers without outer white space and elements without any are what lines report, and
folding leaves them so. -/
theorem identifierOnLine?_entry {policy : Bool} {lines : List String} {e : Entry}
    (h : e ∈ (Index.build policy (Event.ofLines lines)).index.entries) :
    identifierOnLine? (line e) = if Legible e then some e.identifier else none := by
  obtain ⟨name, value, element, hattr, hstart, he⟩ := Ownership.exists_of_mem_entries h
  obtain ⟨-, -, hvalue, -, -⟩ := Event.isClean_of_mem_ofLines hattr
  obtain ⟨-, helement⟩ := Event.isClean_of_mem_ofLines hstart
  have hid : IsTrim e.identifier.toList := by
    rw [he]
    exact Index.isTrim_foldCase policy hvalue
  have hsolid : AllSolid e.element.toList := by
    rw [he]
    exact Index.allSolid_foldCase policy helement
  exact identifierOnLine?_line hid hsolid

/-- **Reading a listing of a document back,** line by line, with any white space around a line. The
header lines show nothing, and the line of a declaration shows its identifier or nothing, the former
exactly if the declaration is legible. -/
theorem listing_read_back (policy : Bool) (lines : List String) {left right : List Char}
    (hleft : AllBlank left) (hright : AllBlank right) :
    let x := (Index.build policy (Event.ofLines lines)).index
    (render x).map (fun l => identifierOnLine? (String.ofList (left ++ l.toList ++ right))) =
      [none, none] ++ x.entries.map fun e => if Legible e then some e.identifier else none := by
  intro x
  have hheader : header.map identifierOnLine? = [none, none] := by decide
  have hentries : x.entries.map (identifierOnLine? ∘ line) =
      x.entries.map fun e => if Legible e then some e.identifier else none := by
    refine List.map_congr_left fun e he => ?_
    rw [Function.comp_apply]
    exact identifierOnLine?_entry he
  rw [funext (identifierOnLine?_padded hleft hright), render, List.map_append, hheader,
    List.map_map, hentries]

/-- Declarations of which only the last one can be read from a listing. -/
def sampleLines : List String :=
  ["AID ID Box 1", "(P", "AID ID a", "(FIG(2)", "AID ID Identifier", "(element", "AID ID",
    "AID ID (b)", "(SEC"]

theorem listing_read_back_sample :
    AllBlank [' ', '\t'] ∧ AllBlank ['\n'] ∧
    (render (Index.build true (Event.ofLines sampleLines)).index).map
        (fun l => identifierOnLine? (String.ofList ([' ', '\t'] ++ l.toList ++ ['\n']))) =
      [none, none, none, none, none, none, some "(b)"] :=
  ⟨by decide, by decide,
    (listing_read_back true sampleLines (by decide) (by decide)).trans (by decide)⟩

end CrossRef.Listing

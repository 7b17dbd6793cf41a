import CrossRef.Proofs.LiteralDeclarations

/-! # Where an assignment occurs

The search for a declaration takes an assignment character by character from the front. Here it is
said without a search which texts hold one: some piece of the text *reads* as the assignment, that
is, it is the name, an equals sign and the identifier, with or without a double quote on either side
of the identifier.

* `match?_isSome_iff`: a text begins with an assignment if a piece at its front reads as one.
* `search_isSome_iff`: the search finds something exactly if the assignment occurs.
* `resolves`: the three ways in which a lookup can end. -/

namespace CrossRef

namespace Text

theorem equals_not_image : image.testBit '='.toNat = false := by decide +kernel

/-- Only the equals sign is alike to it: it is the lower-case form of no other character and shares
no capital. -/
theorem eq_of_alike_equals {c : Char} (h : alike '=' c = true) : c = '=' := by
  have hcode : searchCode '=' = '='.toNat := by decide +kernel
  have hclass : sharedCapitals.all (fun cls => !cls.contains '='.toNat) = true := by decide
  have hc : searchCode c = '='.toNat := by
    simp only [alike, hcode, Bool.or_eq_true, beq_iff_eq, List.any_eq_true, Bool.and_eq_true] at h
    rcases h with h | ⟨cls, hcls, hmem, -⟩
    · exact h.symm
    · have := List.all_eq_true.mp hclass cls hcls
      rw [hmem] at this
      cases this
  have hne : c ≠ dottedI := by
    rintro rfl
    exact absurd hc (by decide)
  rw [searchCode_of_ne hne] at hc
  rcases lowerCode_cases c.toNat with hl | ⟨r, hr, hm⟩
  · exact Char.toNat_inj.mp (hl.symm.trans hc)
  · have := testBit_image hr hm
    rw [hc, equals_not_image] at this
    cases this

theorem sameChar_equals_iff {policy : Bool} {c : Char} :
    sameChar policy '=' c = true ↔ c = '=' := by
  constructor
  · intro h
    cases policy with
    | true => exact (beq_iff_eq.mp h).symm
    | false => exact eq_of_alike_equals h
  · rintro rfl
    exact Declaration.sameChar_self policy '='

end Text

namespace Target

variable {same : Char → Char → Bool}

/-- **The piece reads as the assignment.** -/
def Reads (t : Target) (same : Char → Char → Bool) (piece : List Char) : Prop :=
  ∃ name value, List.Forall₂ (fun p c => same p c = true) t.attr.toList name ∧
    List.Forall₂ (fun p c => same p c = true) t.identifier.toList value ∧
    ∃ left ∈ [[], ['"']], ∃ right ∈ [[], ['"']],
      piece = name ++ '=' :: (left ++ value ++ right)

/-- **The assignment occurs in the text.** -/
def Occurs (t : Target) (same : Char → Char → Bool) (text : List Char) : Prop :=
  ∃ piece, piece <:+: text ∧ t.Reads same piece

/-- A pattern takes what it reads for its own. -/
theorem exists_of_after? : ∀ {ps cs rest : List Char}, after? same ps cs = some rest →
    ∃ taken, cs = taken ++ rest ∧ List.Forall₂ (fun p c => same p c = true) ps taken
  | [], cs, rest, h => by
    cases h
    exact ⟨[], rfl, .nil⟩
  | p :: ps, c :: cs, rest, h => by
    unfold after? at h
    split at h
    · next hc =>
      obtain ⟨taken, rfl, htaken⟩ := exists_of_after? h
      exact ⟨c :: taken, rfl, .cons hc htaken⟩
    · cases h

/-- A pattern of two parts takes one after the other. -/
theorem after?_append_left (qs : List Char) : ∀ ps cs : List Char,
    after? same (ps ++ qs) cs = (after? same ps cs).bind (after? same qs)
  | [], cs => rfl
  | p :: ps, [] => rfl
  | p :: ps, c :: cs => by
    rw [List.cons_append, after?, after?, after?_append_left qs ps cs]
    split <;> rfl

theorem after?_eq_some_iff {ps cs rest : List Char} : after? same ps cs = some rest ↔
    ∃ taken, cs = taken ++ rest ∧ List.Forall₂ (fun p c => same p c = true) ps taken := by
  constructor
  · exact exists_of_after?
  · rintro ⟨taken, rfl, h⟩
    exact after?_append h rest

/-- A name and an equals sign take what reads as the name, and an equals sign. -/
theorem afterName?_eq_some_iff (hequals : ∀ c, same '=' c = true ↔ c = '=')
    {ps cs rest : List Char} : after? same (ps ++ ['=']) cs = some rest ↔
      ∃ name, List.Forall₂ (fun p c => same p c = true) ps name ∧ cs = name ++ '=' :: rest := by
  rw [after?_append_left, Option.bind_eq_some_iff]
  constructor
  · rintro ⟨mid, hname, hmid⟩
    obtain ⟨name, rfl, hspells⟩ := exists_of_after? hname
    obtain ⟨_, rfl, hequal⟩ := exists_of_after? hmid
    obtain ⟨c, _, hc, hnil, rfl⟩ := List.forall₂_cons_left_iff.mp hequal
    obtain rfl := List.forall₂_nil_left_iff.mp hnil
    obtain rfl := (hequals c).mp hc
    exact ⟨name, hspells, rfl⟩
  · rintro ⟨name, hname, rfl⟩
    refine ⟨'=' :: rest, after?_append hname _, ?_⟩
    rw [after?, if_pos ((hequals '=').mpr rfl), after?]

theorem afterValue?_isSome_iff {ps cs : List Char} : (afterValue? same ps cs).isSome = true ↔
    ∃ left ∈ [[], ['"']], ∃ value rest, cs = left ++ value ++ rest ∧
      List.Forall₂ (fun p c => same p c = true) ps value := by
  constructor
  · intro h
    obtain ⟨rest, hrest⟩ := Option.isSome_iff_exists.mp h
    have hplain : ∀ {cs}, after? same ps cs = some rest → ∃ left ∈ [[], ['"']], ∃ value rest,
        cs = left ++ value ++ rest ∧ List.Forall₂ (fun p c => same p c = true) ps value := by
      intro cs hcs
      obtain ⟨value, rfl, hvalue⟩ := exists_of_after? hcs
      exact ⟨[], List.mem_cons_self .., value, rest, rfl, hvalue⟩
    unfold afterValue? at hrest
    split at hrest
    · rcases Option.or_eq_some_iff.mp hrest with hq | ⟨-, hq⟩
      · obtain ⟨value, rfl, hvalue⟩ := exists_of_after? hq
        exact ⟨['"'], by simp, value, rest, rfl, hvalue⟩
      · exact hplain hq
    · exact hplain hrest
  · rintro ⟨left, hleft, value, rest, rfl, hvalue⟩
    have hafter : (after? same ps (value ++ rest)).isSome = true := by
      rw [after?_append hvalue]
      rfl
    rcases List.mem_cons.mp hleft with rfl | hleft
    · exact afterValue?_isSome hafter
    · rw [List.mem_singleton.mp hleft, List.append_assoc, List.singleton_append, afterValue?,
        Option.isSome_or, hafter]
      rfl

/-- **A text begins with an assignment** if a piece at its front reads as one. -/
theorem match?_isSome_iff (hequals : ∀ c, same '=' c = true ↔ c = '=') {t : Target}
    {cs : List Char} : (t.match? same cs).isSome = true ↔
      ∃ piece post, cs = piece ++ post ∧ t.Reads same piece := by
  have hsome : (t.match? same cs).isSome = true ↔ ∃ mid,
      after? same (t.attr.toList ++ ['=']) cs = some mid ∧
        (afterValue? same t.identifier.toList mid).isSome = true := by
    rw [match?, rest?, Option.isSome_map, Option.isSome_bind]
    rcases after? same (t.attr.toList ++ ['=']) cs with _ | mid <;> simp
  rw [hsome]
  constructor
  · rintro ⟨mid, hmid, hread⟩
    obtain ⟨name, hname, rfl⟩ := (afterName?_eq_some_iff hequals).mp hmid
    obtain ⟨left, hleft, value, rest, rfl, hvalue⟩ := afterValue?_isSome_iff.mp hread
    exact ⟨name ++ '=' :: (left ++ value ++ []), rest, by simp,
      name, value, hname, hvalue, left, hleft, [], List.mem_cons_self .., rfl⟩
  · rintro ⟨_, post, rfl, name, value, hname, hvalue, left, hleft, right, -, rfl⟩
    refine ⟨left ++ value ++ (right ++ post), ?_, ?_⟩
    · exact (afterName?_eq_some_iff hequals).mpr ⟨name, hname, by simp⟩
    · exact afterValue?_isSome_iff.mpr ⟨left, hleft, value, right ++ post, rfl, hvalue⟩

/-- A search finds something if the pattern matches somewhere. -/
theorem searchFrom_isSome_iff (t : Target) : ∀ {cs : List Char} (i : Nat),
    (t.searchFrom same i cs).isSome = true ↔
      ∃ pre post, cs = pre ++ post ∧ (t.match? same post).isSome = true := by
  intro cs i
  constructor
  · intro h
    induction cs generalizing i with
    | nil =>
      rw [searchFrom, Option.isSome_map] at h
      exact ⟨[], [], rfl, h⟩
    | cons c cs ih =>
      rw [searchFrom] at h
      split at h
      · next n hn => exact ⟨[], c :: cs, rfl, by rw [hn]; rfl⟩
      · obtain ⟨pre, post, rfl, hpost⟩ := ih (i + 1) h
        exact ⟨c :: pre, post, rfl, hpost⟩
  · rintro ⟨pre, post, rfl, hpost⟩
    obtain ⟨j, n, hj, -⟩ := searchFrom_le t hpost pre i
    rw [hj]
    rfl

/-- **The search finds something** exactly if the assignment occurs. -/
theorem search_isSome_iff (t : Target) (policy : Bool) (text : List Char) :
    (t.search policy text).isSome = true ↔ t.Occurs (Text.sameChar policy) text := by
  rw [search, Option.isSome_map, searchFrom_isSome_iff]
  simp only [match?_isSome_iff fun _ => Text.sameChar_equals_iff]
  constructor
  · rintro ⟨pre, _, rfl, piece, post, rfl, hreads⟩
    exact ⟨piece, ⟨pre, post, List.append_assoc ..⟩, hreads⟩
  · rintro ⟨piece, ⟨pre, post, rfl⟩, hreads⟩
    exact ⟨pre, piece ++ post, List.append_assoc .., piece, post, rfl, hreads⟩

end Target

namespace Declaration

/-- **How a lookup ends:** the identifier is no key, its declaration does not occur in the text, or
it does and is found. -/
inductive Resolves (x : Index) (identifier : String) (text : List Char) :
    Except Missing Span → Prop where
  | unknown (hkey : x.fold identifier ∉ Assoc.keys x.mapping) :
      Resolves x identifier text (.error (.unknown identifier))
  | stale {attr element : String}
      (hkey : Assoc.get? x.mapping (x.fold identifier) = some (attr, element))
      (hoccurs : ¬ Target.Occurs ⟨attr, x.fold identifier⟩ (Text.sameChar x.caseSensitive) text) :
      Resolves x identifier text (.error (.stale ⟨attr, x.fold identifier⟩))
  | found {attr element : String} {span : Span}
      (hkey : Assoc.get? x.mapping (x.fold identifier) = some (attr, element))
      (hoccurs : Target.Occurs ⟨attr, x.fold identifier⟩ (Text.sameChar x.caseSensitive) text) :
      Resolves x identifier text (.ok span)

theorem resolves (x : Index) (identifier : String) (text : List Char) :
    Resolves x identifier text (resolve x identifier text) := by
  unfold resolve target? Index.lookup?
  rcases hkey : Assoc.get? x.mapping (x.fold identifier) with _ | ⟨attr, element⟩
  · exact .unknown (Assoc.get?_eq_none_iff.mp hkey)
  · have hsearch := Target.search_isSome_iff ⟨attr, x.fold identifier⟩ x.caseSensitive text
    simp only [Option.map_some]
    rcases hs : Target.search ⟨attr, x.fold identifier⟩ x.caseSensitive text with _ | span
    · rw [hs] at hsearch
      exact .stale hkey fun hoccurs => by cases hsearch.mpr hoccurs
    · rw [hs] at hsearch
      exact .found hkey (hsearch.mp rfl)

end Declaration

end CrossRef

import CrossRef.Declaration
import CrossRef.Proofs.LetterCase
import CrossRef.Proofs.Ownership

/-! # Declarations that stand in the text as they were reported

The index keeps names and identifiers in lower case, unless it is case-sensitive, and a declaration
is searched for in that form. Here the text of a document holds the declaration with the very
characters of the events, `name=value` or `name="value"`, and the question is whether the search
finds it.

* `lookup?_of_lastDeclared`: what the index holds on an identifier is its last declaration.
* `after?_append`, `length_of_after?`: a pattern takes as many characters as it has.
* `searchFrom_le`: a search ends at the latest where the pattern matches.
* `resolve_literal`: the declaration is found, there or before, in every such text exactly if the
  index is case-sensitive or there is no dotted capital `I` in the name and the value. Otherwise the
  declaration alone is a text in which it is not found. -/

namespace CrossRef

/-! ### The last declaration of an identifier -/

namespace Ownership

/-- **The last declaration** of the identifier `value` is an attribute `name` of just this value: an
element owns it, and no later position has an entry with the identifier. -/
def LastDeclared (policy : Bool) (events : List Event) (name value : String) : Prop :=
  ∃ i element, events[i]?.bind declared? = some (name, value) ∧ owner? events i = some element ∧
    ∀ j, i < j → ∀ e, entryAt? policy events j = some e →
      e.identifier ≠ Index.foldCase policy value

theorem find?_reverse_filterMap_range {α : Type} {f : Nat → Option α} {p : α → Bool} {i : Nat}
    {a : α} (ha : f i = some a) (hp : p a = true)
    (hlast : ∀ j, i < j → ∀ b, f j = some b → ¬ p b = true) : ∀ {n : Nat}, i < n →
      ((List.range n).filterMap f).reverse.find? p = some a
  | n + 1, hi => by
    rw [List.range_succ, List.filterMap_append, List.reverse_append, List.find?_append]
    rcases Nat.lt_succ_iff_lt_or_eq.mp hi with hlt | rfl
    · have ih := find?_reverse_filterMap_range ha hp hlast hlt
      rcases hn : f n with _ | b
      · simp [hn, ih]
      · simp [hn, hlast n hlt b hn, ih]
    · simp [ha, hp]

theorem lookup?_of_lastDeclared {policy : Bool} {events : List Event} {name value : String}
    (h : LastDeclared policy events name value) : ∃ element,
      (Index.build policy events).index.lookup? value =
        some (Index.foldCase policy name, element) := by
  obtain ⟨i, element, hi, howner, hlast⟩ := h
  have hentry : entryAt? policy events i = some ⟨Index.foldCase policy value,
      Index.foldCase policy name, Index.foldCase policy element⟩ := by
    unfold entryAt?
    rw [hi, howner]
  have hlt : i < events.length := by
    rcases Nat.lt_or_ge i events.length with hlt | hge
    · exact hlt
    · rw [List.getElem?_eq_none hge] at hi
      cases hi
  refine ⟨Index.foldCase policy element, ?_⟩
  rw [build_eq]
  unfold Index.lookup? Index.fold
  rw [Index.get?_ofEntries, Index.ofEntries_caseSensitive, entriesOf,
    find?_reverse_filterMap_range hentry (by simp) (by simpa using hlast) hlt]
  rfl

end Ownership

/-! ### Patterns and what they take -/

namespace Target

variable {same : Char → Char → Bool}

theorem after?_append {ps w : List Char} (h : List.Forall₂ (fun p c => same p c = true) ps w)
    (rest : List Char) : after? same ps (w ++ rest) = some rest := by
  induction h with
  | nil => rfl
  | cons hc _ ih => rw [List.cons_append, after?, if_pos hc, ih]

theorem length_of_after? : ∀ {ps cs rest : List Char}, after? same ps cs = some rest →
    cs.length = ps.length + rest.length
  | [], cs, rest, h => by
    cases h
    simp
  | p :: ps, c :: cs, rest, h => by
    unfold after? at h
    split at h
    · have ih := length_of_after? h
      rw [List.length_cons, List.length_cons, ih]
      omega
    · cases h

/-- A value that stands without quotes is read, also if it begins with a quote of its own. -/
theorem afterValue?_isSome {ps cs : List Char} (h : (after? same ps cs).isSome = true) :
    (afterValue? same ps cs).isSome = true := by
  unfold afterValue?
  split
  · rw [Option.isSome_or, h, Bool.or_true]
  · exact h

/-- The characters of an assignment, with `quote` before and after its value. -/
def assigned (quote : List Char) (name value : String) : List Char :=
  name.toList ++ '=' :: (quote ++ value.toList ++ quote)

/-- **A pattern matches an assignment** whose name and value it reads for its own. -/
theorem match?_assigned {t : Target} {name value : String} {quote : List Char}
    (hquote : quote ∈ [[], ['"']]) (hequals : same '=' '=' = true)
    (hname : List.Forall₂ (fun p c => same p c = true) t.attr.toList name.toList)
    (hvalue : List.Forall₂ (fun p c => same p c = true) t.identifier.toList value.toList)
    (post : List Char) : (t.match? same (assigned quote name value ++ post)).isSome = true := by
  have hleft : after? same (t.attr.toList ++ ['=']) (assigned quote name value ++ post) =
      some (quote ++ (value.toList ++ (quote ++ post))) := by
    have h := List.rel_append hname (List.Forall₂.cons hequals .nil)
    rw [assigned, ← after?_append h (quote ++ (value.toList ++ (quote ++ post)))]
    simp
  have hright : (afterValue? same t.identifier.toList
      (quote ++ (value.toList ++ (quote ++ post)))).isSome = true := by
    rcases List.mem_cons.mp hquote with rfl | hquote
    · refine afterValue?_isSome ?_
      rw [List.nil_append, after?_append hvalue]
      rfl
    · rw [List.mem_singleton.mp hquote, List.singleton_append, afterValue?, Option.isSome_or,
        after?_append hvalue]
      rfl
  rw [match?, rest?, hleft, Option.isSome_map, Option.bind_some, Option.isSome_map]
  exact hright

/-- A match is at least as long as the name, the equals sign and the identifier together. -/
theorem length_of_match? {t : Target} {cs : List Char} {k : Nat}
    (h : t.match? same cs = some k) :
    t.attr.toList.length + 1 + t.identifier.toList.length ≤ cs.length := by
  obtain ⟨_, hrest, -⟩ := Option.map_eq_some_iff.mp h
  obtain ⟨cs', hleft, hright⟩ := Option.bind_eq_some_iff.mp hrest
  obtain ⟨rest, hvalue, -⟩ := Option.map_eq_some_iff.mp hright
  have hl := length_of_after? hleft
  have hv : t.identifier.toList.length ≤ cs'.length := by
    unfold afterValue? at hvalue
    split at hvalue
    · rcases Option.or_eq_some_iff.mp hvalue with hq | ⟨-, hq⟩
      · have := length_of_after? hq
        rw [List.length_cons]
        omega
      · have := length_of_after? hq
        omega
    · have := length_of_after? hvalue
      omega
  rw [List.length_append, List.length_singleton] at hl
  omega

/-- **Nothing is found in a text shorter than the pattern.** -/
theorem searchFrom_eq_none (t : Target) : ∀ {cs : List Char} (i : Nat),
    cs.length < t.attr.toList.length + 1 + t.identifier.toList.length →
      t.searchFrom same i cs = none
  | [], i, h => by
    rcases hm : t.match? same [] with _ | k
    · rw [searchFrom, hm]
      rfl
    · exact absurd (length_of_match? hm) (Nat.not_le.mpr h)
  | c :: cs, i, h => by
    rcases hm : t.match? same (c :: cs) with _ | k
    · rw [searchFrom, hm]
      rw [List.length_cons] at h
      exact searchFrom_eq_none t (i + 1) (by omega)
    · exact absurd (length_of_match? hm) (Nat.not_le.mpr h)

/-- **A search ends at the latest where the pattern matches.** -/
theorem searchFrom_le (t : Target) {cs : List Char} (h : (t.match? same cs).isSome = true) :
    ∀ (pre : List Char) (i : Nat),
      ∃ j n, t.searchFrom same i (pre ++ cs) = some (j, n) ∧ j ≤ i + pre.length
  | [], i => by
    obtain ⟨n, hn⟩ := Option.isSome_iff_exists.mp h
    refine ⟨i, n, ?_, Nat.le_refl i⟩
    rcases cs with _ | ⟨c, cs⟩
    · simp [searchFrom, hn]
    · simp [searchFrom, hn]
  | c :: pre, i => by
    rw [List.cons_append, searchFrom]
    split
    · next n _ => exact ⟨i, n, rfl, Nat.le_add_right i _⟩
    · obtain ⟨j, n, hj, hle⟩ := searchFrom_le t h pre (i + 1)
      refine ⟨j, n, hj, ?_⟩
      rw [List.length_cons]
      omega

end Target

/-! ### Lower case and the search -/

namespace Declaration

open Text Target Ownership

/-- **The search reads a kept name for the name itself.** -/
theorem forall₂_foldCase {policy : Bool} {name : String}
    (h : policy = true ∨ dottedI ∉ name.toList) :
    List.Forall₂ (fun p c => sameChar policy p c = true) (Index.foldCase policy name).toList
      name.toList := by
  cases policy with
  | true => exact List.forall₂_same.mpr fun c _ => BEq.rfl
  | false =>
    rw [Index.foldCase, if_neg Bool.false_ne_true, lower, String.toList_ofList]
    exact alike_lowerFrom false (h.resolve_left Bool.false_ne_true)

theorem length_foldCase_false (name : String) :
    (Index.foldCase false name).toList.length = name.toList.length + name.toList.count dottedI := by
  rw [Index.foldCase, if_neg Bool.false_ne_true, lower, String.toList_ofList, length_lowerFrom]

theorem sameChar_self (policy : Bool) (c : Char) : sameChar policy c c = true := by
  cases policy with
  | true => exact BEq.rfl
  | false => exact alike_self c

/-- **The search cannot lose the assignment of `value` to `name`:** it minds case, or there is no
dotted capital `I` in them. -/
def Searchable (policy : Bool) (name value : String) : Prop :=
  policy = true ∨ dottedI ∉ name.toList ∧ dottedI ∉ value.toList

instance (policy : Bool) (name value : String) : Decidable (Searchable policy name value) :=
  inferInstanceAs (Decidable (_ ∨ _))

/-- What a search for the last declaration of an identifier comes to. -/
theorem resolve_of_lastDeclared {policy : Bool} {events : List Event} {name value : String}
    (h : LastDeclared policy events name value) (text : List Char) :
    resolve (Index.build policy events).index value text =
      match (Target.mk (Index.foldCase policy name) (Index.foldCase policy value)).searchFrom
        (sameChar policy) 0 text with
      | some (i, n) => .ok (Span.between text i (i + n))
      | none => .error (.stale ⟨Index.foldCase policy name, Index.foldCase policy value⟩) := by
  obtain ⟨element, hlookup⟩ := lookup?_of_lastDeclared h
  have hpolicy : (Index.build policy events).index.caseSensitive = policy := by
    rw [build_eq, Index.ofEntries_caseSensitive]
  have htarget : target? (Index.build policy events).index value =
      some ⟨Index.foldCase policy name, Index.foldCase policy value⟩ := by
    rw [target?, hlookup, Index.fold, hpolicy]
    rfl
  rw [resolve, htarget, hpolicy]
  simp only [search]
  rcases searchFrom _ (sameChar policy) 0 text with _ | ⟨i, n⟩ <;> rfl

theorem resolve_assigned {policy : Bool} {events : List Event} {name value : String}
    (h : LastDeclared policy events name value) (hs : Searchable policy name value)
    {quote : List Char} (hquote : quote ∈ [[], ['"']]) (pre post : List Char) :
    ∃ span, resolve (Index.build policy events).index value
        (pre ++ (assigned quote name value ++ post)) = .ok span ∧ span.start ≤ pre.length := by
  have hmatch := match?_assigned
    (t := ⟨Index.foldCase policy name, Index.foldCase policy value⟩) hquote
    (sameChar_self policy '=') (forall₂_foldCase (hs.imp_right And.left))
    (forall₂_foldCase (hs.imp_right And.right)) post
  obtain ⟨j, n, hj, hle⟩ := searchFrom_le _ hmatch pre 0
  refine ⟨Span.between (pre ++ (assigned quote name value ++ post)) j (j + n), ?_, ?_⟩
  · rw [resolve_of_lastDeclared h, hj]
  · show (j : Int) ≤ pre.length
    omega

theorem resolve_eq_stale {policy : Bool} {events : List Event} {name value : String}
    (h : LastDeclared policy events name value) (hs : ¬ Searchable policy name value) :
    resolve (Index.build policy events).index value (assigned [] name value) =
      .error (.stale ⟨Index.foldCase policy name, Index.foldCase policy value⟩) := by
  rw [Searchable, not_or, not_and_or, Classical.not_not, Classical.not_not] at hs
  obtain ⟨hpolicy, hdotted⟩ := hs
  rw [Bool.not_eq_true] at hpolicy
  subst hpolicy
  -- in lower case the pattern has more characters than the whole text
  have hcount : 0 < name.toList.count dottedI + value.toList.count dottedI := by
    rcases hdotted with hd | hd
    · exact Nat.add_pos_left (List.count_pos_iff.mpr hd) _
    · exact Nat.add_pos_right _ (List.count_pos_iff.mpr hd)
  rw [resolve_of_lastDeclared h, searchFrom_eq_none]
  rw [length_foldCase_false, length_foldCase_false]
  simp only [assigned, List.nil_append, List.append_nil, List.length_append, List.length_cons]
  omega

/-- **A declaration that stands in the text as it was reported** is found there or before, whatever
stands around it, exactly if the search minds case or the declaration holds no dotted capital `I`.
Otherwise a text that is the declaration and nothing else is held for stale. -/
theorem resolve_literal {policy : Bool} {events : List Event} {name value : String}
    (h : LastDeclared policy events name value) :
    ((∀ quote ∈ [[], ['"']], ∀ pre post, ∃ span,
        resolve (Index.build policy events).index value
          (pre ++ (assigned quote name value ++ post)) = .ok span ∧ span.start ≤ pre.length) ↔
      Searchable policy name value) ∧
    (¬ Searchable policy name value →
      resolve (Index.build policy events).index value (assigned [] name value) =
        .error (.stale ⟨Index.foldCase policy name, Index.foldCase policy value⟩)) := by
  refine ⟨⟨?_, fun hs _ hquote => resolve_assigned h hs hquote⟩, resolve_eq_stale h⟩
  intro hfound
  rcases Decidable.em (Searchable policy name value) with hs | hs
  · exact hs
  · obtain ⟨span, hspan, -⟩ := hfound [] (List.mem_cons_self ..) [] []
    rw [List.nil_append, List.append_nil, resolve_eq_stale h hs] at hspan
    cases hspan

/-- An identifier that is declared twice, first in small letters under an attribute of another
name. -/
def twiceDeclared : List Event :=
  [.attr "name" "οδος" Event.idKind, .element "P", .attr "ID" "ΟΔΟΣ" Event.idKind, .element "SEC"]

theorem lastDeclared_twiceDeclared : LastDeclared false twiceDeclared "ID" "ΟΔΟΣ" := by
  refine ⟨2, "SEC", rfl, rfl, ?_⟩
  rintro (_ | _ | _ | _ | j) hj e he
  · cases hj
  · omega
  · omega
  · cases he
  · cases he

theorem resolve_literal_sigma :
    LastDeclared false twiceDeclared "ID" "ΟΔΟΣ" ∧
    ∃ span, resolve (Index.build false twiceDeclared).index "ΟΔΟΣ"
        "<P><SEC ID=\"ΟΔΟΣ\">".toList = .ok span ∧ span.start ≤ 8 :=
  ⟨lastDeclared_twiceDeclared, (resolve_literal lastDeclared_twiceDeclared).1.mpr (by decide)
    ['"'] (by decide) "<P><SEC ".toList ">".toList⟩

/-- An identifier with a dotted capital `I`. -/
def dottedDeclared : List Event := [.attr "ID" "\u0130" Event.idKind, .element "P"]

/-- The whole text is the declaration, and it is held for stale. -/
theorem dottedI_declaration_lost :
    LastDeclared false dottedDeclared "ID" "\u0130" ∧
    "ID=\u0130".toList = assigned [] "ID" "\u0130" ∧
    resolve (Index.build false dottedDeclared).index "\u0130" "ID=\u0130".toList =
      .error (.stale ⟨"id", "i\u0307"⟩) := by
  refine ⟨⟨0, "P", rfl, rfl, ?_⟩, by decide, by rfl⟩
  rintro (_ | _ | j) hj e he
  · cases hj
  · cases he
  · cases he

end Declaration

end CrossRef

import CrossRef.Proofs.Occurrences

/-! # Which stretch of a text is the declaration

`Occurrences` says when a search finds something. Here it is said what it finds: the first place at
which the text *reads* as the assignment, and there the stretch that takes a quote before the
identifier whenever the text reads so, and a quote after it whenever one follows.

* `Target.ReadsTo`: the front of a text reads as the assignment up to a given rest.
* `rest?_eq_some_iff`: which of two possible readings, with and without a quote, is taken.
* `searchFrom_eq_some_iff`: the search ends at the first match.
* `resolve_exactly`: the three ways in which a lookup ends, with the span of the third. -/

namespace CrossRef

namespace Span

theorem place_natCast (n i : Nat) : place n i = min i n := by
  rw [place, if_neg (by omega), Int.toNat_natCast]

theorem text_between {cs : List Char} {s e : Nat} (hse : s ≤ e) (he : e ≤ cs.length) :
    (between cs s e).text = String.ofList ((cs.drop s).take (e - s)) := by
  simp only [between, slice, place_natCast]
  rw [Nat.min_eq_left he, Nat.min_eq_left (Nat.le_trans hse he)]

end Span

namespace Target

variable {same : Char → Char → Bool} {t : Target} {cs rest : List Char}

/-- The characters `cs` are those of the pattern `ps`, one by one. -/
abbrev Spells (same : Char → Char → Bool) (ps cs : List Char) : Prop :=
  List.Forall₂ (fun p c => same p c = true) ps cs

/-- **The text reads as the assignment up to `rest`,** with `quote` before the identifier: the name
of the attribute, an equals sign, `quote` and the identifier stand in front of `rest`. -/
def ReadsTo (t : Target) (same : Char → Char → Bool) (quote cs rest : List Char) : Prop :=
  ∃ name value, Spells same t.attr.toList name ∧ Spells same t.identifier.toList value ∧
    cs = name ++ '=' :: (quote ++ (value ++ rest))

/-- The text reads as the assignment from the offset `s` on. -/
def ReadsAt (t : Target) (same : Char → Char → Bool) (quote text : List Char) (s : Nat) : Prop :=
  ∃ rest, t.ReadsTo same quote (text.drop s) rest

/-- **A match:** the text reads as the assignment from `s` on, with a quote before the identifier or
without. -/
def MatchesAt (t : Target) (same : Char → Char → Bool) (text : List Char) (s : Nat) : Prop :=
  t.ReadsAt same [] text s ∨ t.ReadsAt same ['"'] text s

/-- The number of characters of the assignment without quotes. -/
def width (t : Target) : Nat := t.attr.length + 1 + t.identifier.length

/-- **Where the match at `s` ends:** a quote before the identifier is taken if the text reads so,
and a quote behind it if there is one. -/
def EndsAt (t : Target) (same : Char → Char → Bool) (text : List Char) (s e : Nat) : Prop :=
  ∃ opening closing,
    (opening = 1 ∧ t.ReadsAt same ['"'] text s ∨ opening = 0 ∧ ¬ t.ReadsAt same ['"'] text s) ∧
    (closing = 1 ∧ text[s + t.width + opening]? = some '"' ∨
      closing = 0 ∧ text[s + t.width + opening]? ≠ some '"') ∧
    e = s + t.width + opening + closing

/-! ### Readings -/

/-- The name and the equals sign take their part of the text whatever follows them. -/
theorem readsTo_iff (hequals : ∀ c, same '=' c = true ↔ c = '=') {quote : List Char} :
    t.ReadsTo same quote cs rest ↔ ∃ mid, after? same (t.attr.toList ++ ['=']) cs = some mid ∧
      ∃ value, mid = quote ++ (value ++ rest) ∧ Spells same t.identifier.toList value := by
  simp only [afterName?_eq_some_iff hequals]
  constructor
  · rintro ⟨name, value, hname, hvalue, rfl⟩
    exact ⟨_, ⟨name, hname, rfl⟩, value, rfl, hvalue⟩
  · rintro ⟨mid, ⟨name, hname, rfl⟩, value, rfl, hvalue⟩
    exact ⟨name, value, hname, hvalue, rfl⟩

/-- **The reading with a quote is taken if there is one,** else the reading without. -/
theorem afterValue?_eq_some_iff {ps : List Char} : afterValue? same ps cs = some rest ↔
    (∃ value, cs = '"' :: (value ++ rest) ∧ Spells same ps value) ∨
    (¬ ∃ rest' value, cs = '"' :: (value ++ rest') ∧ Spells same ps value) ∧
    ∃ value, cs = value ++ rest ∧ Spells same ps value := by
  unfold afterValue?
  split
  · next cs =>
    have hquoted (r : List Char) : (∃ value, '"' :: cs = '"' :: (value ++ r) ∧
        Spells same ps value) ↔ after? same ps cs = some r := by
      simp only [after?_eq_some_iff, List.cons.injEq, true_and]
    simp only [hquoted, ← after?_eq_some_iff]
    rcases after? same ps cs with _ | r
    · simp
    · simp
  · next hne =>
    have hplain : ¬ ∃ rest' value, cs = '"' :: (value ++ rest') ∧ Spells same ps value := by
      rintro ⟨rest', value, rfl, -⟩
      exact hne _ rfl
    have hleft : ¬ ∃ value, cs = '"' :: (value ++ rest) ∧ Spells same ps value :=
      fun h => hplain ⟨rest, h⟩
    rw [after?_eq_some_iff]
    simp [hplain, hleft]

theorem rest?_eq_some_iff (hequals : ∀ c, same '=' c = true ↔ c = '=') {r : List Char} :
    t.rest? same cs = some r ↔ ∃ rest, dropQuote rest = r ∧
      (t.ReadsTo same ['"'] cs rest ∨
        (¬ ∃ rest', t.ReadsTo same ['"'] cs rest') ∧ t.ReadsTo same [] cs rest) := by
  simp only [readsTo_iff hequals]
  rw [rest?, Option.bind_eq_some_iff]
  rcases after? same (t.attr.toList ++ ['=']) cs with _ | mid
  · simp
  · simp only [Option.some.injEq, exists_eq_left', Option.map_eq_some_iff,
      afterValue?_eq_some_iff, List.singleton_append, List.nil_append]
    constructor
    · rintro ⟨rest, h, rfl⟩
      exact ⟨rest, rfl, h⟩
    · rintro ⟨rest, rfl, h⟩
      exact ⟨rest, h, rfl⟩

-- the identifier begins with a quote of its own: read without another one, and with one
example : (Target.mk "id" "\"a").match? (· == ·) "id=\"a\">".toList = some 6 := by decide
example : (Target.mk "id" "\"a").match? (· == ·) "id=\"\"a>".toList = some 6 := by decide

/-- A reading takes as many characters as the assignment and its quote have. -/
theorem ReadsTo.rest_eq {quote : List Char} (h : t.ReadsTo same quote cs rest) :
    rest = cs.drop (t.width + quote.length) ∧ t.width + quote.length ≤ cs.length := by
  obtain ⟨name, value, hname, hvalue, rfl⟩ := h
  have hn : name.length = t.attr.length := by rw [← hname.length_eq, String.length_toList]
  have hv : value.length = t.identifier.length := by rw [← hvalue.length_eq, String.length_toList]
  have hlen : t.width + quote.length = (name ++ '=' :: (quote ++ value)).length := by
    simp only [width, List.length_append, List.length_cons]
    omega
  have hcut : name ++ '=' :: (quote ++ (value ++ rest)) =
      (name ++ '=' :: (quote ++ value)) ++ rest := by simp
  rw [hcut, hlen, List.drop_left]
  refine ⟨rfl, ?_⟩
  simp only [List.length_append]
  omega

theorem length_dropQuote (cs : List Char) :
    (dropQuote cs).length + (if cs.head? = some '"' then 1 else 0) = cs.length := by
  unfold dropQuote
  split
  · simp
  · next hne =>
    have hhead : cs.head? ≠ some '"' := by
      intro h
      obtain ⟨tail, htail⟩ := List.head?_eq_some_iff.mp h
      exact hne tail htail
    rw [if_neg hhead, Nat.add_zero]

/-! ### Matches -/

section occurrence

variable {text : List Char} {s e : Nat} (hequals : ∀ c, same '=' c = true ↔ c = '=')

include hequals

theorem match?_eq_none_iff_not_matchesAt :
    t.match? same (text.drop s) = none ↔ ¬ t.MatchesAt same text s := by
  rw [match?, Option.map_eq_none_iff, ← Option.not_isSome_iff_eq_none, not_iff_not,
    Option.isSome_iff_exists]
  simp only [rest?_eq_some_iff hequals, MatchesAt, ReadsAt]
  constructor
  · rintro ⟨r, rest, -, h | ⟨-, h⟩⟩
    · exact Or.inr ⟨rest, h⟩
    · exact Or.inl ⟨rest, h⟩
  · intro h
    by_cases hquoted : ∃ rest', t.ReadsTo same ['"'] (text.drop s) rest'
    · obtain ⟨rest, hrest⟩ := hquoted
      exact ⟨dropQuote rest, rest, rfl, Or.inl hrest⟩
    · obtain ⟨rest, hrest⟩ := h.resolve_right hquoted
      exact ⟨dropQuote rest, rest, rfl, Or.inr ⟨hquoted, hrest⟩⟩

/-- **How far a match goes.** -/
theorem endsAt_of_match? {n : Nat} (h : t.match? same (text.drop s) = some n) :
    t.EndsAt same text s (s + n) := by
  rw [match?, Option.map_eq_some_iff] at h
  obtain ⟨r, hr, hn⟩ := h
  obtain ⟨rest, rfl, hreads⟩ := (rest?_eq_some_iff hequals).mp hr
  have hclose := length_dropQuote rest
  -- the reading that is taken, and the number of its quotes before the identifier
  obtain ⟨quote, hquote, hto⟩ : ∃ quote : List Char,
      (quote.length = 1 ∧ t.ReadsAt same ['"'] text s ∨
        quote.length = 0 ∧ ¬ t.ReadsAt same ['"'] text s) ∧
      t.ReadsTo same quote (text.drop s) rest := by
    rcases hreads with h | ⟨hno, h⟩
    · exact ⟨['"'], Or.inl ⟨rfl, rest, h⟩, h⟩
    · exact ⟨[], Or.inr ⟨rfl, hno⟩, h⟩
  obtain ⟨hrest, hle⟩ := hto.rest_eq
  have hhead : rest.head? = text[s + t.width + quote.length]? := by
    rw [hrest, List.head?_drop, List.getElem?_drop, Nat.add_assoc]
  have hlen : rest.length + (t.width + quote.length) = (text.drop s).length := by
    rw [hrest, List.length_drop]
    omega
  refine ⟨quote.length, if rest.head? = some '"' then 1 else 0, hquote, ?_, by omega⟩
  rw [← hhead]
  split
  · next h => exact Or.inl ⟨rfl, h⟩
  · next h => exact Or.inr ⟨rfl, h⟩

omit hequals in
theorem EndsAt.unique {e' : Nat} (h : t.EndsAt same text s e) (h' : t.EndsAt same text s e') :
    e = e' := by
  obtain ⟨opening, closing, hopening, hclosing, rfl⟩ := h
  obtain ⟨opening', closing', hopening', hclosing', rfl⟩ := h'
  have hsame : opening = opening' := by
    rcases hopening with ⟨rfl, h⟩ | ⟨rfl, h⟩ <;> rcases hopening' with ⟨rfl, h'⟩ | ⟨rfl, h'⟩
    · rfl
    · exact absurd h h'
    · exact absurd h' h
    · rfl
  subst hsame
  rcases hclosing with ⟨rfl, h⟩ | ⟨rfl, h⟩ <;> rcases hclosing' with ⟨rfl, h'⟩ | ⟨rfl, h'⟩
  · rfl
  · exact absurd h h'
  · exact absurd h' h
  · rfl

omit hequals in
/-- A match lies within the text and is not empty. -/
theorem EndsAt.bounds (h : t.EndsAt same text s e) (hmatch : t.MatchesAt same text s) :
    s < e ∧ e ≤ text.length ∧ ∃ quotes ≤ 2, e - s = t.width + quotes := by
  obtain ⟨opening, closing, hopening, hclosing, rfl⟩ := h
  have hpos : 0 < t.width := by
    rw [width]
    omega
  have hread : s + t.width + opening ≤ text.length := by
    rcases hopening with ⟨rfl, rest, h⟩ | ⟨rfl, h⟩
    · have hle := h.rest_eq.2
      rw [List.length_drop, List.length_singleton] at hle
      omega
    · obtain ⟨rest, hplain⟩ := hmatch.resolve_right h
      have hle := hplain.rest_eq.2
      rw [List.length_drop, List.length_nil] at hle
      omega
  have hquote : closing = 1 → s + t.width + opening < text.length := by
    rintro rfl
    rcases hclosing with ⟨-, h⟩ | ⟨h, -⟩
    · exact (List.getElem?_eq_some_iff.mp h).1
    · cases h
  have hopening : opening ≤ 1 := by
    rcases hopening with ⟨rfl, -⟩ | ⟨rfl, -⟩ <;> omega
  have hclosing : closing = 1 ∨ closing = 0 := hclosing.imp And.left And.left
  exact ⟨by omega, by omega, opening + closing, by omega, by omega⟩

end occurrence

/-! ### The first match -/

theorem match?_eq_none_of_searchFrom : ∀ {cs : List Char} {i : Nat}, t.searchFrom same i cs = none →
    ∀ k, t.match? same (cs.drop k) = none
  | [], i, h, k => by
    rw [List.drop_nil]
    exact Option.map_eq_none_iff.mp h
  | c :: cs, i, h, k => by
    rw [searchFrom] at h
    split at h
    · cases h
    · next hc =>
      rcases k with _ | k
      · exact hc
      · exact match?_eq_none_of_searchFrom h k

/-- **The search ends at the first match.** -/
theorem searchFrom_eq_some {n : Nat} : ∀ {cs : List Char} {i j : Nat},
    t.searchFrom same i cs = some (j, n) → ∃ k, j = i + k ∧ t.match? same (cs.drop k) = some n ∧
      ∀ k' < k, t.match? same (cs.drop k') = none
  | [], i, j, h => by
    obtain ⟨m, hm, hpair⟩ := Option.map_eq_some_iff.mp h
    cases hpair
    exact ⟨0, rfl, hm, by simp⟩
  | c :: cs, i, j, h => by
    rw [searchFrom] at h
    split at h
    · next hc =>
      cases h
      exact ⟨0, rfl, hc, by simp⟩
    · next hc =>
      obtain ⟨k, rfl, hk, hbefore⟩ := searchFrom_eq_some h
      refine ⟨k + 1, by omega, hk, ?_⟩
      rintro (_ | k') hlt
      · exact hc
      · exact hbefore k' (by omega)

end Target

namespace Declaration

/-- **How a lookup answers.** An identifier that is no key is unknown, whatever the text. For a key,
the text is searched for the assignment that the index holds: it is stale if there is no match, and
otherwise the declaration is the stretch of the first one. -/
inductive Answers (x : Index) (identifier : String) (text : List Char) :
    Except Missing Span → Prop where
  | unknown (hkey : x.fold identifier ∉ Assoc.keys x.mapping) :
      Answers x identifier text (.error (.unknown identifier))
  | stale {attr element : String}
      (hkey : Assoc.get? x.mapping (x.fold identifier) = some (attr, element))
      (hnone : ∀ s,
        ¬ Target.MatchesAt ⟨attr, x.fold identifier⟩ (Text.sameChar x.caseSensitive) text s) :
      Answers x identifier text (.error (.stale ⟨attr, x.fold identifier⟩))
  | found {attr element : String} {s e : Nat}
      (hkey : Assoc.get? x.mapping (x.fold identifier) = some (attr, element))
      (hmatch : Target.MatchesAt ⟨attr, x.fold identifier⟩ (Text.sameChar x.caseSensitive) text s)
      (hfirst : ∀ s' < s,
        ¬ Target.MatchesAt ⟨attr, x.fold identifier⟩ (Text.sameChar x.caseSensitive) text s')
      (hends : Target.EndsAt ⟨attr, x.fold identifier⟩ (Text.sameChar x.caseSensitive) text s e) :
      Answers x identifier text (.ok (Span.between text s e))

variable {x : Index} {identifier : String} {text : List Char}

theorem Answers.unique {a a' : Except Missing Span} (h : Answers x identifier text a)
    (h' : Answers x identifier text a') : a = a' := by
  have hclash {pair : String × String} (hnot : x.fold identifier ∉ Assoc.keys x.mapping)
      (hkey : Assoc.get? x.mapping (x.fold identifier) = some pair) : False := by
    rw [Assoc.get?_eq_none_iff.mpr hnot] at hkey
    cases hkey
  rcases h with hkey | ⟨hkey, hnone⟩ | ⟨hkey, hmatch, hfirst, hends⟩ <;>
    rcases h' with hkey' | ⟨hkey', hnone'⟩ | ⟨hkey', hmatch', hfirst', hends'⟩
  · rfl
  · exact (hclash hkey hkey').elim
  · exact (hclash hkey hkey').elim
  · exact (hclash hkey' hkey).elim
  · cases hkey.symm.trans hkey'
    rfl
  · cases hkey.symm.trans hkey'
    exact absurd hmatch' (hnone _)
  · exact (hclash hkey' hkey).elim
  · cases hkey.symm.trans hkey'
    exact absurd hmatch (hnone' _)
  · cases hkey.symm.trans hkey'
    next s e s' e' =>
    have hs : s = s' := by
      rcases Nat.lt_trichotomy s s' with hlt | heq | hlt
      · exact absurd hmatch (hfirst' s hlt)
      · exact heq
      · exact absurd hmatch' (hfirst s' hlt)
    subst hs
    rw [hends.unique hends']

theorem answers (x : Index) (identifier : String) (text : List Char) :
    Answers x identifier text (resolve x identifier text) := by
  have hequals (c : Char) : Text.sameChar x.caseSensitive '=' c = true ↔ c = '=' :=
    Text.sameChar_equals_iff
  unfold resolve target? Index.lookup?
  rcases hkey : Assoc.get? x.mapping (x.fold identifier) with _ | ⟨attr, element⟩
  · exact .unknown (Assoc.get?_eq_none_iff.mp hkey)
  · simp only [Option.map_some, Target.search]
    rcases hs : Target.searchFrom ⟨attr, x.fold identifier⟩ (Text.sameChar x.caseSensitive) 0 text
      with _ | ⟨j, n⟩
    · have hnone := Target.match?_eq_none_of_searchFrom hs
      exact .stale hkey fun s => (Target.match?_eq_none_iff_not_matchesAt hequals).mp (hnone s)
    · obtain ⟨s, rfl, hmatch, hbefore⟩ := Target.searchFrom_eq_some hs
      have hsome : Target.MatchesAt ⟨attr, x.fold identifier⟩ (Text.sameChar x.caseSensitive)
          text s := by
        by_contra hnot
        rw [(Target.match?_eq_none_iff_not_matchesAt hequals).mpr hnot] at hmatch
        cases hmatch
      have hspan := Answers.found hkey hsome
        (fun s' hlt => (Target.match?_eq_none_iff_not_matchesAt hequals).mp (hbefore s' hlt))
        (Target.endsAt_of_match? hequals hmatch)
      simpa using hspan

/-- **A lookup answers in just this way.** The answer is the one that the keys of the index and the
matches in the text determine; and if it is a span, that lies within the text, holds the characters
between its offsets, and is as long as the assignment with none, one or two quotes. -/
theorem resolve_exactly (x : Index) (identifier : String) (text : List Char) :
    (∀ a, resolve x identifier text = a ↔ Answers x identifier text a) ∧
    ∀ span, resolve x identifier text = .ok span → ∃ attr element, ∃ s e : Nat,
      Assoc.get? x.mapping (x.fold identifier) = some (attr, element) ∧
      span.start = s ∧ span.stop = e ∧ s < e ∧ e ≤ text.length ∧
      span.text = String.ofList ((text.drop s).take (e - s)) ∧
      ∃ quotes ≤ 2, e - s = attr.length + 1 + (x.fold identifier).length + quotes := by
  refine ⟨fun a => ⟨?_, (answers x identifier text).unique⟩, ?_⟩
  · rintro rfl
    exact answers x identifier text
  · intro span hspan
    have hanswers := answers x identifier text
    rw [hspan] at hanswers
    rcases hanswers with - | - | @⟨attr, element, s, e, hkey, hmatch, -, hends⟩
    obtain ⟨hlt, hle, hwidth⟩ := hends.bounds hmatch
    exact ⟨attr, element, s, e, hkey, rfl, rfl, hlt, hle,
      Span.text_between (Nat.le_of_lt hlt) hle, hwidth⟩

end Declaration

end CrossRef

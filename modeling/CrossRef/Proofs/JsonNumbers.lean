import CrossRef.Json.Reader
import CrossRef.Proofs.NumberTexts
import CrossRef.Proofs.Outcome

/-! # The grammar of JSON: numbers and words

A number is a sequence of parts, each of which is as long as it can be: an optional minus, a whole
part, and places and an exponent if there are any. Without the last two it is a whole number, and
these may not have too many digits. The relations are between a text, what its beginning spells, and
the rest.

* `Digits`, `Whole`, `Places`, `Power`: the parts of a number.
* `Numeral`: a number after its sign.
* `LongWhole`: a whole number with too many digits.
* `SpellsScalar`: a word or a number; it is what is read as one (`scalar_eq_ok_iff`).
* `scalar_eq_error`: what is refused, and why. -/

namespace CrossRef.Json

/-! ### The parts of a number -/

/-- **Decimal digits,** at least one and as many as there are, and what follows them. -/
def Digits (cs : List Char) (ds : List Nat) (rest : List Char) : Prop :=
  ∃ run, cs = run ++ rest ∧ run ≠ [] ∧ (∀ c ∈ run, c.isDigit = true) ∧
    (∀ c ∈ rest.head?, c.isDigit = false) ∧ ds = run.map fun c => c.toNat - '0'.toNat

/-- **The whole part of a number:** a zero alone, or digits without a zero in front. -/
inductive Whole : List Char → List Nat → List Char → Prop where
  | zero {rest : List Char} : Whole ('0' :: rest) [0] rest
  | digits {cs rest : List Char} {ds : List Nat} (hzero : cs.head? ≠ some '0')
      (h : Digits cs ds rest) : Whole cs ds rest

/-- **The places of a number** behind its point. -/
inductive Places : List Char → List Nat → List Char → Prop where
  | point {cs rest : List Char} {ds : List Nat} (h : Digits cs ds rest) :
      Places ('.' :: cs) ds rest

/-- **The exponent of a number** behind its mark, with or without a sign. -/
inductive Power : List Char → Int → List Char → Prop where
  | marked {c : Char} {mark cs rest : List Char} {negative : Bool} {ds : List Nat}
      (hc : c = 'e' ∨ c = 'E') (hmark : Number.Sign mark negative) (h : Digits cs ds rest) :
      Power (c :: (mark ++ cs)) (Number.signed negative ds) rest

theorem digits?_eq_some_iff {cs rest : List Char} {ds : List Nat} :
    digits? cs = some (ds, rest) ↔ Digits cs ds rest := by
  unfold digits?
  simp only [List.isEmpty_iff]
  constructor
  · intro h
    split at h
    · cases h
    · next hrun =>
      cases h
      exact ⟨_, List.takeWhile_append_dropWhile.symm, hrun, fun c hc => List.mem_takeWhile_imp hc,
        fun c hc => Text.of_mem_head?_dropWhile hc, rfl⟩
  · rintro ⟨run, rfl, hne, hrun, hrest, rfl⟩
    rw [Text.takeWhile_of_cut hrun hrest, Text.dropWhile_of_cut hrun hrest, if_neg hne]

theorem whole_eq_some_iff {cs rest : List Char} {ds : List Nat} :
    whole cs = some (ds, rest) ↔ Whole cs ds rest := by
  unfold whole
  split
  · next r =>
    constructor
    · intro h
      cases h
      exact .zero
    · intro h
      cases h with
      | zero => rfl
      | digits hzero => exact absurd rfl hzero
  · next hzero =>
    rw [digits?_eq_some_iff]
    constructor
    · refine .digits fun hhead => ?_
      obtain ⟨r, hr⟩ := List.head?_eq_some_iff.mp hhead
      exact hzero r hr
    · intro h
      cases h with
      | zero => exact absurd rfl (hzero _)
      | digits _ h => exact h

theorem places_eq_some_iff {cs rest : List Char} {ds : List Nat} :
    places cs = some (ds, rest) ↔ Places cs ds rest := by
  unfold places
  split
  · rw [digits?_eq_some_iff]
    exact ⟨.point, fun | .point h => h⟩
  · next hpoint =>
    refine iff_of_false nofun fun h => ?_
    cases h
    exact hpoint _ rfl

theorem Digits.exists_cons {cs rest : List Char} {ds : List Nat} (h : Digits cs ds rest) :
    ∃ c cs', cs = c :: cs' ∧ c.isDigit = true := by
  obtain ⟨run, rfl, hne, hrun, -, -⟩ := h
  obtain ⟨c, run, rfl⟩ := List.exists_cons_of_ne_nil hne
  exact ⟨c, run ++ rest, rfl, hrun c List.mem_cons_self⟩

theorem ne_of_isDigit {c d : Char} (hc : c.isDigit = true) (hd : d.isDigit = false) : c ≠ d := by
  rintro rfl
  cases hc.symm.trans hd

theorem Digits.sign_eq {mark cs rest : List Char} {negative : Bool} {ds : List Nat}
    (h : Digits cs ds rest) (hmark : Number.Sign mark negative) :
    Number.sign (mark ++ cs) = (negative, cs) := by
  obtain ⟨c, cs, rfl, hc⟩ := h.exists_cons
  refine Number.sign_of_sign hmark ?_
  rintro _ ⟨⟩
  exact ⟨ne_of_isDigit hc rfl, ne_of_isDigit hc rfl⟩

theorem exponent?_eq_some_iff {cs rest : List Char} {e : Int} :
    exponent? cs = some (e, rest) ↔ Power cs e rest := by
  constructor
  · intro h
    unfold exponent? at h
    split at h
    · next c cs =>
      split at h
      · next hc =>
        obtain ⟨mark, hmark, hcs⟩ := Number.sign_cases cs
        rcases hsign : Number.sign cs with ⟨negative, body⟩
        rw [hsign] at hmark hcs
        simp only [hsign, Option.map_eq_some_iff, Prod.exists, Prod.mk.injEq] at h
        obtain ⟨ds, r, hds, rfl, rfl⟩ := h
        rw [hcs]
        exact .marked hc hmark (digits?_eq_some_iff.mp hds)
      · cases h
    · cases h
  · rintro ⟨hc, hmark, h⟩
    simp only [exponent?, if_pos hc, h.sign_eq hmark, digits?_eq_some_iff.mpr h]
    rfl

/-! ### Numbers -/

/-- A part of a number, or `default` if there is none, and what follows. -/
inductive Optional {α : Type} (Part : List Char → α → List Char → Prop) (default : α) :
    List Char → α → List Char → Prop where
  | present {cs rest : List Char} {a : α} (h : Part cs a rest) : Optional Part default cs a rest
  | absent {cs : List Char} (h : ∀ a rest, ¬ Part cs a rest) :
      Optional Part default cs default cs

/-- A number ends here: neither places nor an exponent follow. -/
def Stops (cs : List Char) : Prop :=
  (∀ fs rest, ¬ Places cs fs rest) ∧ ∀ e rest, ¬ Power cs e rest

/-- **A number after its sign.** It is a whole number if it stops behind its whole part, which may
not have too many digits; otherwise it is the nearest number with a fraction. -/
inductive Numeral (negative : Bool) : List Char → Data → List Char → Prop where
  | whole {cs rest : List Char} {ds : List Nat} (hw : Whole cs ds rest) (hs : Stops rest)
      (hlimit : ds.length ≤ Number.digitLimit) :
      Numeral negative cs (.int (Number.signed negative ds)) rest
  | decimal {cs r r' rest : List Char} {ds fs : List Nat} {e : Int} (hw : Whole cs ds r)
      (hs : ¬ Stops r) (hf : Optional Places [] r fs r') (he : Optional Power 0 r' e rest) :
      Numeral negative cs
        (.float (Double.ofDecimal negative (Number.ofDigits (ds ++ fs)) (e - fs.length))) rest

/-- **A whole number with too many digits,** and their number. -/
def LongWhole (cs : List Char) (n : Nat) : Prop :=
  ∃ ds rest, Whole cs ds rest ∧ Stops rest ∧ Number.digitLimit < ds.length ∧ ds.length = n

theorem Power.exists_cons {cs rest : List Char} {e : Int} (h : Power cs e rest) :
    ∃ c cs', cs = c :: cs' ∧ (c = 'e' ∨ c = 'E') := by
  obtain ⟨hc, -, -⟩ := h
  exact ⟨_, _, rfl, hc⟩

theorem stops_cons {c : Char} (hpoint : c ≠ '.') (hmark : ¬ (c = 'e' ∨ c = 'E'))
    (cs : List Char) : Stops (c :: cs) := by
  constructor
  · intro fs rest h
    cases h with
    | point => exact hpoint rfl
  · intro e rest h
    obtain ⟨_, _, ⟨⟩, hc⟩ := h.exists_cons
    exact hmark hc

theorem longWhole_of_run {run rest : List Char} (hrun : ∀ c ∈ run, c.isDigit = true)
    (hzero : run.head? ≠ some '0') (hrest : ∀ c ∈ rest.head?, c.isDigit = false)
    (hstops : Stops rest) (hlimit : Number.digitLimit < run.length) :
    LongWhole (run ++ rest) run.length := by
  have hne : run ≠ [] := List.ne_nil_of_length_pos (Nat.zero_lt_of_lt hlimit)
  have hhead : (run ++ rest).head? ≠ some '0' := by
    rwa [List.head?_append_of_ne_nil _ hne]
  exact ⟨_, rest, .digits hhead ⟨run, rfl, hne, hrun, hrest, rfl⟩, hstops,
    by rwa [List.length_map], List.length_map _⟩

/-- The function reads the part of a number that the relation describes. -/
def Reads {α : Type} (part? : List Char → Option (α × List Char))
    (Part : List Char → α → List Char → Prop) : Prop :=
  ∀ cs rest a, part? cs = some (a, rest) ↔ Part cs a rest

theorem reads_places : Reads places Places := fun _ _ _ => places_eq_some_iff

theorem reads_exponent? : Reads exponent? Power := fun _ _ _ => exponent?_eq_some_iff

section optional

variable {α : Type} {part? : List Char → Option (α × List Char)}
  {Part : List Char → α → List Char → Prop} (hpart : Reads part? Part)
include hpart

theorem Reads.eq_none_iff {cs : List Char} : part? cs = none ↔ ∀ a rest, ¬ Part cs a rest := by
  simp only [← hpart _ _ _, Option.eq_none_iff_forall_ne_some, Prod.forall, ne_eq]

theorem Reads.optional_iff {default a : α} {cs rest : List Char} :
    Optional Part default cs a rest ↔ (part? cs).getD (default, cs) = (a, rest) := by
  rcases hp : part? cs with _ | ⟨b, r⟩
  · have hnone := hpart.eq_none_iff.mp hp
    constructor
    · rintro (h | h)
      · exact absurd h (hnone _ _)
      · rfl
    · rintro ⟨⟩
      exact .absent hnone
  · have hsome := (hpart _ _ _).mp hp
    constructor
    · rintro (h | h)
      · exact Option.some.inj (hp.symm.trans ((hpart _ _ _).mpr h))
      · exact absurd hsome (h _ _)
    · rintro ⟨⟩
      exact .present hsome

/-- What the function leaves, with the default where it reads nothing. -/
theorem Reads.optional (default : α) (cs : List Char) : Optional Part default cs
    ((part? cs).getD (default, cs)).1 ((part? cs).getD (default, cs)).2 :=
  hpart.optional_iff.mpr rfl

end optional

theorem stops_iff {cs : List Char} : Stops cs ↔ places cs = none ∧ exponent? cs = none := by
  rw [Stops, reads_places.eq_none_iff, reads_exponent?.eq_none_iff]

section number

variable {negative : Bool} {cs r r' rest : List Char} {ds fs : List Nat} {e : Int}

theorem number_of_stops (hw : Whole cs ds r) (hs : Stops r) : number negative cs =
    if ds.length > Number.digitLimit then .error (.longInteger ds.length)
    else .ok (.int (Number.signed negative ds), r) := by
  obtain ⟨hplaces, hexponent⟩ := stops_iff.mp hs
  simp only [number, whole_eq_some_iff.mpr hw, hplaces, Option.map_none, Option.getD_none,
    hexponent, Number.limited]
  by_cases hlimit : ds.length > Number.digitLimit
  · simp only [if_pos hlimit]
  · simp only [if_neg hlimit, Number.signed]

theorem number_of_not_stops (hw : Whole cs ds r) (hs : ¬ Stops r) (hf : Optional Places [] r fs r')
    (he : Optional Power 0 r' e rest) : number negative cs =
      .ok (.float (Double.ofDecimal negative (Number.ofDigits (ds ++ fs)) (e - fs.length)),
        rest) := by
  rw [reads_places.optional_iff] at hf
  rw [reads_exponent?.optional_iff] at he
  rw [stops_iff] at hs
  have hwhole := whole_eq_some_iff.mpr hw
  rcases hp : places r with _ | ⟨fs', r''⟩
  · rw [hp] at hf hs
    cases hf
    rcases hpower : exponent? r with _ | ⟨e', r''⟩
    · exact absurd ⟨rfl, hpower⟩ hs
    · rw [hpower] at he
      cases he
      simp [number, hwhole, hp, hpower]
  · rw [hp] at hf
    cases hf
    rcases hpower : exponent? r' with _ | ⟨e', r''⟩
    all_goals
      rw [hpower] at he
      cases he
      simp [number, hwhole, hp, hpower]

/-- **What is read as a number,** after its sign. -/
theorem number_eq_ok_iff {v : Data} :
    number negative cs = .ok (v, rest) ↔ Numeral negative cs v rest := by
  constructor
  · intro h
    rcases hwhole : whole cs with _ | ⟨ds, r⟩
    · simp [number, hwhole] at h
    · have hw := whole_eq_some_iff.mp hwhole
      by_cases hs : Stops r
      · rw [number_of_stops hw hs] at h
        split at h
        · cases h
        · next hlimit =>
          cases h
          exact .whole hw hs (Nat.not_lt.mp hlimit)
      · have hf := reads_places.optional [] r
        have he := reads_exponent?.optional 0 ((places r).getD ([], r)).2
        rw [number_of_not_stops hw hs hf he] at h
        cases h
        exact .decimal hw hs hf he
  · intro h
    cases h with
    | whole hw hs hlimit => rw [number_of_stops hw hs, if_neg (Nat.not_lt.mpr hlimit)]
    | decimal hw hs hf he => exact number_of_not_stops hw hs hf he

theorem number_of_longWhole {n : Nat} (h : LongWhole cs n) :
    number negative cs = .error (.longInteger n) := by
  obtain ⟨ds, r, hw, hs, hlimit, rfl⟩ := h
  rw [number_of_stops hw hs, if_pos hlimit]

/-- **Why a number is refused:** there is none, or it is a whole number with too many digits. -/
theorem number_eq_error {f : Refusal} (h : number negative cs = .error f) :
    f = .malformed ∨ ∃ n, f = .longInteger n ∧ LongWhole cs n := by
  rcases hwhole : whole cs with _ | ⟨ds, r⟩
  · simp only [number, hwhole] at h
    cases h
    exact .inl rfl
  · have hw := whole_eq_some_iff.mp hwhole
    by_cases hs : Stops r
    · rw [number_of_stops hw hs] at h
      split at h
      · next hlimit =>
        cases h
        exact .inr ⟨_, rfl, ds, r, hw, hs, hlimit, rfl⟩
      · cases h
    · have hf := reads_places.optional [] r
      have he := reads_exponent?.optional 0 ((places r).getD ([], r)).2
      rw [number_of_not_stops hw hs hf he] at h
      cases h

end number

/-! ### Words and numbers -/

/-- **A word or a number,** and what follows it. -/
inductive SpellsScalar : List Char → Data → List Char → Prop where
  | word {w : String} {v : Data} {rest : List Char} (h : (w, v) ∈ words) :
      SpellsScalar (w.toList ++ rest) v rest
  | positive {cs rest : List Char} {v : Data} (h : Numeral false cs v rest) :
      SpellsScalar cs v rest
  | negative {cs rest : List Char} {v : Data} (h : Numeral true cs v rest) :
      SpellsScalar ('-' :: cs) v rest

/-- **A whole number with too many digits,** with or without a minus. -/
inductive LongScalar : List Char → Nat → Prop where
  | positive {cs : List Char} {n : Nat} (h : LongWhole cs n) : LongScalar cs n
  | negative {cs : List Char} {n : Nat} (h : LongWhole cs n) : LongScalar ('-' :: cs) n

theorem Whole.exists_cons {cs rest : List Char} {ds : List Nat} (h : Whole cs ds rest) :
    ∃ c cs', cs = c :: cs' ∧ c.isDigit = true := by
  cases h with
  | zero => exact ⟨'0', rest, rfl, rfl⟩
  | digits _ h => exact h.exists_cons

/-- No word begins like a number. -/
theorem find?_words_of_whole {cs rest : List Char} {ds : List Nat} (h : Whole cs ds rest) :
    (words.find? fun w => w.1.toList.isPrefixOf cs) = none ∧
      (words.find? fun w => w.1.toList.isPrefixOf ('-' :: cs)) = none := by
  obtain ⟨c, cs, rfl, hc⟩ := h.exists_cons
  have hne (d : Char) (hd : d.isDigit = false) : d ≠ c := by
    rintro rfl
    rw [hc] at hd
    cases hd
  simp [words, hne]

theorem scalar_of_word {w : String} {v : Data} (h : (w, v) ∈ words) (rest : List Char) :
    scalar (w.toList ++ rest) = .ok (v, rest) := by
  have hfind : (words.find? fun u => u.1.toList.isPrefixOf (w.toList ++ rest)) = some (w, v) := by
    simp only [words, List.mem_cons, Prod.mk.injEq, List.not_mem_nil, or_false] at h
    rcases h with ⟨rfl, rfl⟩ | ⟨rfl, rfl⟩ | ⟨rfl, rfl⟩ | ⟨rfl, rfl⟩ | ⟨rfl, rfl⟩ | ⟨rfl, rfl⟩ <;>
      rfl
  have hdrop : (w.toList ++ rest).drop w.length = rest := by
    rw [← String.length_toList, List.drop_left]
  simp only [scalar, hfind, hdrop]

/-- Without a word in front there is a number, after its sign. -/
theorem scalar_of_no_word {cs : List Char}
    (h : (words.find? fun w => w.1.toList.isPrefixOf cs) = none) :
    (∃ r, cs = '-' :: r ∧ scalar cs = number true r) ∨ scalar cs = number false cs := by
  unfold scalar
  simp only [h]
  split
  · exact .inl ⟨_, rfl, rfl⟩
  · exact .inr rfl

theorem scalar_of_whole {cs rest : List Char} {ds : List Nat} (h : Whole cs ds rest) :
    scalar cs = number false cs ∧ scalar ('-' :: cs) = number true cs := by
  obtain ⟨hpositive, hnegative⟩ := find?_words_of_whole h
  obtain ⟨c, cs, rfl, hc⟩ := h.exists_cons
  constructor
  · obtain ⟨r, ⟨⟩, -⟩ | heq := scalar_of_no_word hpositive
    · cases hc
    · exact heq
  · simp only [scalar, hnegative]

theorem Numeral.exists_whole {negative : Bool} {cs rest : List Char} {v : Data}
    (h : Numeral negative cs v rest) : ∃ ds r, Whole cs ds r := by
  cases h with
  | whole hw => exact ⟨_, _, hw⟩
  | decimal hw => exact ⟨_, _, hw⟩

/-- **What is read as a word or a number.** -/
theorem scalar_eq_ok_iff {cs rest : List Char} {v : Data} :
    scalar cs = .ok (v, rest) ↔ SpellsScalar cs v rest := by
  constructor
  · intro h
    rcases hword : words.find? fun w => w.1.toList.isPrefixOf cs with _ | ⟨w, u⟩
    · obtain ⟨r, rfl, heq⟩ | heq := scalar_of_no_word hword
      · exact .negative (number_eq_ok_iff.mp (heq.symm.trans h))
      · exact .positive (number_eq_ok_iff.mp (heq.symm.trans h))
    · have hprefix := List.find?_some hword
      obtain ⟨r, rfl⟩ := List.isPrefixOf_iff_prefix.mp hprefix
      have hmem := List.mem_of_find?_eq_some hword
      rw [scalar_of_word hmem] at h
      cases h
      exact .word hmem
  · intro h
    cases h with
    | word hmem => exact scalar_of_word hmem rest
    | positive h =>
      obtain ⟨ds, r, hw⟩ := h.exists_whole
      rw [(scalar_of_whole hw).1]
      exact number_eq_ok_iff.mpr h
    | negative h =>
      obtain ⟨ds, r, hw⟩ := h.exists_whole
      rw [(scalar_of_whole hw).2]
      exact number_eq_ok_iff.mpr h

theorem scalar_of_longScalar {cs : List Char} {n : Nat} (h : LongScalar cs n) :
    scalar cs = .error (.longInteger n) := by
  cases h with
  | positive h =>
    have ⟨ds, r, hw, _⟩ := h
    rw [(scalar_of_whole hw).1]
    exact number_of_longWhole h
  | negative h =>
    have ⟨ds, r, hw, _⟩ := h
    rw [(scalar_of_whole hw).2]
    exact number_of_longWhole h

/-- **Why a word or a number is refused:** there is none, or it is a whole number with too many
digits. -/
theorem scalar_eq_error {cs : List Char} {f : Refusal} (h : scalar cs = .error f) :
    f = .malformed ∨ ∃ n, f = .longInteger n ∧ LongScalar cs n := by
  rcases hword : words.find? fun w => w.1.toList.isPrefixOf cs with _ | ⟨w, u⟩
  · obtain ⟨r, rfl, heq⟩ | heq := scalar_of_no_word hword
    · rcases number_eq_error (heq.symm.trans h) with hf | ⟨n, hf, hn⟩
      · exact .inl hf
      · exact .inr ⟨n, hf, .negative hn⟩
    · rcases number_eq_error (heq.symm.trans h) with hf | ⟨n, hf, hn⟩
      · exact .inl hf
      · exact .inr ⟨n, hf, .positive hn⟩
  · simp only [scalar, hword] at h
    cases h

/-! ### Beginnings and lengths -/

/-- The character is neither white space nor a quote, nor a bracket or a brace. -/
def beginsScalar (c : Char) : Bool :=
  !isSpace c && c != '"' && c != '[' && c != '\x7b' && c != ']' && c != '\x7d'

theorem beginsScalar_of_isDigit {c : Char} (hc : c.isDigit = true) : beginsScalar c = true := by
  simp [beginsScalar, isSpace, ne_of_isDigit hc]

theorem SpellsScalar.exists_cons {cs rest : List Char} {v : Data} (h : SpellsScalar cs v rest) :
    ∃ c cs', cs = c :: cs' ∧ beginsScalar c = true := by
  cases h with
  | @word w _ _ hmem =>
    have hwords : ∀ w ∈ words, w.1.toList.head?.any beginsScalar = true := by decide
    obtain ⟨c, hc, hbegins⟩ := (Option.any_eq_true _ _).mp (hwords _ hmem)
    obtain ⟨cs, hcs⟩ := List.head?_eq_some_iff.mp hc
    exact ⟨c, cs ++ rest, by rw [hcs, List.cons_append], hbegins⟩
  | positive h =>
    obtain ⟨ds, r, hw⟩ := h.exists_whole
    obtain ⟨c, cs, rfl, hc⟩ := hw.exists_cons
    exact ⟨c, cs, rfl, beginsScalar_of_isDigit hc⟩
  | negative h => exact ⟨_, _, rfl, rfl⟩

theorem LongScalar.exists_cons {cs : List Char} {n : Nat} (h : LongScalar cs n) :
    ∃ c cs', cs = c :: cs' ∧ beginsScalar c = true := by
  cases h with
  | positive h =>
    obtain ⟨ds, r, hw, -⟩ := h
    obtain ⟨c, cs, rfl, hc⟩ := hw.exists_cons
    exact ⟨c, cs, rfl, beginsScalar_of_isDigit hc⟩
  | negative h => exact ⟨_, _, rfl, rfl⟩

theorem Digits.length_lt {cs rest : List Char} {ds : List Nat} (h : Digits cs ds rest) :
    rest.length < cs.length := by
  obtain ⟨run, rfl, hne, -⟩ := h
  have hpos := List.length_pos_iff.mpr hne
  rw [List.length_append]
  omega

theorem Whole.length_lt {cs rest : List Char} {ds : List Nat} (h : Whole cs ds rest) :
    rest.length < cs.length := by
  cases h with
  | zero => simp
  | digits _ h => exact h.length_lt

theorem Places.length_le {cs rest : List Char} {ds : List Nat} (h : Places cs ds rest) :
    rest.length ≤ cs.length := by
  obtain ⟨h⟩ := h
  have hlt := h.length_lt
  rw [List.length_cons]
  omega

theorem Power.length_le {cs rest : List Char} {e : Int} (h : Power cs e rest) :
    rest.length ≤ cs.length := by
  obtain ⟨-, -, h⟩ := h
  have hlt := h.length_lt
  rw [List.length_cons, List.length_append]
  omega

theorem Optional.length_le {α : Type} {Part : List Char → α → List Char → Prop} {default a : α}
    {cs rest : List Char} (h : Optional Part default cs a rest)
    (hpart : Part cs a rest → rest.length ≤ cs.length) : rest.length ≤ cs.length := by
  cases h with
  | present h => exact hpart h
  | absent => exact Nat.le_refl _

theorem Numeral.length_lt {negative : Bool} {cs rest : List Char} {v : Data}
    (h : Numeral negative cs v rest) : rest.length < cs.length := by
  cases h with
  | whole hw => exact hw.length_lt
  | decimal hw _ hf he =>
    have hwhole := hw.length_lt
    have hfraction := hf.length_le Places.length_le
    have hexponent := he.length_le Power.length_le
    omega

theorem SpellsScalar.length_lt {cs rest : List Char} {v : Data} (h : SpellsScalar cs v rest) :
    rest.length < cs.length := by
  cases h with
  | @word w _ _ hmem =>
    have hwords : ∀ w ∈ words, 0 < w.1.toList.length := by decide
    have hpos : 0 < w.toList.length := hwords _ hmem
    rw [List.length_append]
    omega
  | positive h => exact h.length_lt
  | negative h =>
    have hlt := h.length_lt
    rw [List.length_cons]
    omega

end CrossRef.Json

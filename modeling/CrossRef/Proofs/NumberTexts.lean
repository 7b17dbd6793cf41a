import CrossRef.Number.Reader
import CrossRef.Proofs.LetterCase
import CrossRef.Proofs.LineCuts
import CrossRef.Proofs.Trimming

/-! # How numbers are written

A number as a user types it: a sign or none, runs of decimal digits of any script with single
underscores between the digits, a point and an exponent if the number has them; or one of a few
words. The forms are relations between a text and the number it is written for, and the readers
accept exactly these forms.

* `Run`: a run of digits.
* `Whole`: a whole number, with no more digits than the limit.
* `Fractional`: a number that may have a point and an exponent, or is a word.
* `readInt_eq_ok_iff`, `readDouble_eq_some_iff`: what is read, with padding around it left off.
* `unpadded_of_isTrim`: a text without white space around it has no padding. -/

namespace CrossRef.Number

/-! ### Runs of digits -/

/-- **A run of digits,** at least one, with single underscores between them. -/
inductive Run : List Char → List Nat → Prop where
  | last {c : Char} {d : Nat} (hc : digit? c = some d) : Run [c] [d]
  | next {c : Char} {d : Nat} {cs : List Char} {ds : List Nat} (hc : digit? c = some d)
      (h : Run cs ds) : Run (c :: cs) (d :: ds)
  | underscore {c : Char} {d : Nat} {cs : List Char} {ds : List Nat} (hc : digit? c = some d)
      (h : Run cs ds) : Run (c :: '_' :: cs) (d :: ds)

/-- The text does not go on a run of digits. -/
def Stops (cs : List Char) : Prop := ∀ c ∈ cs.head?, digit? c = none ∧ c ≠ '_'

theorem digit?_underscore : digit? '_' = none := by decide

theorem stops_nil : Stops [] := nofun

theorem stops_cons {c : Char} (hc : digit? c = none) (hunderscore : c ≠ '_') (cs : List Char) :
    Stops (c :: cs) := by
  rintro _ ⟨⟩
  exact ⟨hc, hunderscore⟩

theorem Run.exists_cons {cs : List Char} {ds : List Nat} (h : Run cs ds) :
    ∃ c d cs', cs = c :: cs' ∧ digit? c = some d := by
  cases h with
  | last hc | next hc | underscore hc => exact ⟨_, _, _, rfl, hc⟩

theorem Run.ne_nil {cs : List Char} {ds : List Nat} (h : Run cs ds) : ds ≠ [] := by
  cases h <;> nofun

theorem exists_digit_of_isSome {cs : List Char} (h : (cs.head?.bind digit?).isSome = true) :
    ∃ c d cs', cs = c :: cs' ∧ digit? c = some d := by
  obtain ⟨d, hd⟩ := Option.isSome_iff_exists.mp h
  obtain ⟨c, hc, hd⟩ := Option.bind_eq_some_iff.mp hd
  obtain ⟨cs', rfl⟩ := List.head?_eq_some_iff.mp hc
  exact ⟨c, d, cs', rfl, hd⟩

theorem moreDigits_of_stops {cs : List Char} (h : Stops cs) : moreDigits cs = ([], cs) := by
  rcases cs with _ | ⟨c, cs⟩
  · rfl
  · obtain ⟨hc, hunderscore⟩ := h c rfl
    simp [moreDigits, hc, hunderscore]

theorem moreDigits_cons {c : Char} {d : Nat} (hc : digit? c = some d) (cs : List Char) :
    moreDigits (c :: cs) = (d :: (moreDigits cs).1, (moreDigits cs).2) := by
  simp only [moreDigits, hc]

theorem moreDigits_underscore {c : Char} {d : Nat} (hc : digit? c = some d) (cs : List Char) :
    moreDigits ('_' :: c :: cs) = moreDigits (c :: cs) := by
  rw [moreDigits, digit?_underscore]
  simp [hc]

theorem moreDigits_of_run {run rest : List Char} {ds : List Nat} (h : Run run ds)
    (hrest : Stops rest) : moreDigits (run ++ rest) = (ds, rest) := by
  induction h with
  | last hc => rw [List.singleton_append, moreDigits_cons hc, moreDigits_of_stops hrest]
  | next hc _ ih => rw [List.cons_append, moreDigits_cons hc, ih]
  | underscore hc h ih =>
    obtain ⟨c', d', cs', rfl, hc'⟩ := h.exists_cons
    rw [List.cons_append] at ih
    rw [List.cons_append, List.cons_append, List.cons_append, moreDigits_cons hc,
      moreDigits_underscore hc', ih]

/-- What goes on a run is nothing, or a run with an underscore in front of it or none. -/
theorem run_of_moreDigits (cs : List Char) : moreDigits cs = ([], cs) ∨
    ∃ run, Run run (moreDigits cs).1 ∧
      (cs = run ++ (moreDigits cs).2 ∨ cs = '_' :: (run ++ (moreDigits cs).2)) := by
  fun_induction moreDigits cs with
  | case1 => exact .inl rfl
  | case2 c cs d hc ds rest heq ih =>
    rw [heq] at ih
    rcases ih with hnone | ⟨run, hrun, rfl | rfl⟩
    · cases hnone
      exact .inr ⟨[c], .last hc, .inl rfl⟩
    · exact .inr ⟨c :: run, .next hc hrun, .inl rfl⟩
    · exact .inr ⟨c :: '_' :: run, .underscore hc hrun, .inl rfl⟩
  | case3 c cs hc hgoes ih =>
    -- an underscore with a digit behind it, where no second underscore can be in front of the run
    simp only [Bool.and_eq_true, decide_eq_true_eq] at hgoes
    obtain ⟨rfl, hnext⟩ := hgoes
    obtain ⟨c, d, cs, rfl, hd⟩ := exists_digit_of_isSome hnext
    rw [moreDigits_cons hd] at ih ⊢
    rcases ih with hnone | ⟨run, hrun, hcs | hcs⟩
    · cases hnone
    · exact .inr ⟨run, hrun, .inr (congrArg _ hcs)⟩
    · obtain ⟨rfl, -⟩ := List.cons.inj hcs
      cases digit?_underscore.symm.trans hd
  | case4 c cs hc hstops => exact .inl rfl

theorem digitRun_of_run {run rest : List Char} {ds : List Nat} (h : Run run ds)
    (hrest : Stops rest) : digitRun (run ++ rest) = (ds, rest) := by
  have hmore := moreDigits_of_run h hrest
  obtain ⟨c, d, run, rfl, hc⟩ := h.exists_cons
  rw [digitRun, hmore]
  simp [hc]

theorem Run.digitRun_eq {run : List Char} {ds : List Nat} (h : Run run ds) :
    digitRun run = (ds, []) := by
  have hrun := digitRun_of_run h stops_nil
  rwa [List.append_nil] at hrun

theorem digitRun_of_stops {cs : List Char} (h : Stops cs) : digitRun cs = ([], cs) := by
  rw [digitRun, moreDigits_of_stops h, ite_self]

/-- **A run of digits is what the reader takes for one.** -/
theorem digitRun_cases (cs : List Char) : digitRun cs = ([], cs) ∨
    ∃ run, Run run (digitRun cs).1 ∧ cs = run ++ (digitRun cs).2 := by
  unfold digitRun
  split
  · next hhead =>
    obtain ⟨c, d, cs, rfl, hd⟩ := exists_digit_of_isSome hhead
    rcases run_of_moreDigits (c :: cs) with hnone | ⟨run, hrun, hcs | hcs⟩
    · exact .inl hnone
    · exact .inr ⟨run, hrun, hcs⟩
    · obtain ⟨rfl, -⟩ := List.cons.inj hcs
      cases digit?_underscore.symm.trans hd
  · exact .inl rfl

theorem run_of_digitRun {cs rest : List Char} {ds : List Nat} (h : digitRun cs = (ds, rest))
    (hne : ds ≠ []) : ∃ run, Run run ds ∧ cs = run ++ rest := by
  rcases digitRun_cases cs with hnone | ⟨run, hrun, hcs⟩
  · cases h.symm.trans hnone
    exact absurd rfl hne
  · rw [h] at hrun hcs
    exact ⟨run, hrun, hcs⟩

/-! ### Signs -/

/-- **A sign,** or none; it says whether the number is below zero. -/
inductive Sign : List Char → Bool → Prop where
  | none : Sign [] false
  | plus : Sign ['+'] false
  | minus : Sign ['-'] true

theorem sign_cases (cs : List Char) : ∃ mark, Sign mark (sign cs).1 ∧ cs = mark ++ (sign cs).2 := by
  unfold sign
  split
  · exact ⟨_, .minus, rfl⟩
  · exact ⟨_, .plus, rfl⟩
  · exact ⟨_, .none, rfl⟩

theorem sign_of_sign {mark body : List Char} {negative : Bool} (h : Sign mark negative)
    (hbody : ∀ c ∈ body.head?, c ≠ '+' ∧ c ≠ '-') : sign (mark ++ body) = (negative, body) := by
  cases h with
  | none =>
    rw [List.nil_append, sign]
    · rintro cs rfl
      exact (hbody _ rfl).2 rfl
    · rintro cs rfl
      exact (hbody _ rfl).1 rfl
  | plus => rfl
  | minus => rfl

/-- The number that digits behind a sign spell. -/
def signed (negative : Bool) (ds : List Nat) : Int :=
  if negative then -(ofDigits ds : Int) else ofDigits ds

/-! ### Whole numbers -/

/-- **A whole number,** with no more digits than the limit. -/
inductive Whole : List Char → Int → Prop where
  | digits {mark run : List Char} {negative : Bool} {ds : List Nat} (hmark : Sign mark negative)
      (hrun : Run run ds) (hlimit : ds.length ≤ digitLimit) :
      Whole (mark ++ run) (signed negative ds)

theorem limited_eq_ok_iff {negative : Bool} {ds : List Nat} {n : Int} :
    limited negative ds = .ok n ↔ ds.length ≤ digitLimit ∧ n = signed negative ds := by
  unfold limited signed
  split
  · next hmany => exact iff_of_false nofun fun h => absurd h.1 (Nat.not_le.mpr hmany)
  · next hfew => simp [Nat.not_lt.mp hfew, eq_comm]

theorem digit_ne {c : Char} {d : Nat} (hc : digit? c = some d) {e : Char}
    (he : digit? e = none) : c ≠ e := by
  rintro rfl
  cases hc.symm.trans he

theorem Run.sign_eq {run : List Char} {ds : List Nat} (h : Run run ds) {mark : List Char}
    {negative : Bool} (hmark : Sign mark negative) : sign (mark ++ run) = (negative, run) := by
  obtain ⟨c, d, run, rfl, hc⟩ := h.exists_cons
  refine sign_of_sign hmark ?_
  rintro _ ⟨⟩
  exact ⟨digit_ne hc (by decide), digit_ne hc (by decide)⟩

/-- **What is read as a whole number,** but for the padding around it. -/
theorem readInt_eq_ok_iff {cs : List Char} {n : Int} :
    readInt cs = .ok n ↔ Whole (unpadded cs) n := by
  unfold readInt
  constructor
  · intro h
    obtain ⟨mark, hmark, hcs⟩ := sign_cases (unpadded cs)
    rcases hsign : sign (unpadded cs) with ⟨negative, body⟩
    rw [hsign] at hmark hcs
    simp only [hsign] at h
    split at h
    · cases h
    · next ds hne hdigits =>
      obtain ⟨run, hrun, hbody⟩ := run_of_digitRun hdigits hne
      obtain ⟨hlimit, rfl⟩ := limited_eq_ok_iff.mp h
      rw [hcs, hbody, List.append_nil]
      exact .digits hmark hrun hlimit
    · cases h
  · generalize unpadded cs = body
    rintro ⟨hmark, hrun, hlimit⟩
    simp only [hrun.sign_eq hmark, hrun.digitRun_eq]
    split
    · next hnil => exact absurd (congrArg Prod.fst hnil) hrun.ne_nil
    · next heq =>
      cases heq
      exact limited_eq_ok_iff.mpr ⟨hlimit, rfl⟩
    · next hrest => exact absurd rfl (hrest _)

/-! ### Numbers with a fraction -/

/-- A run of digits, or none. -/
inductive OptionalRun : List Char → List Nat → Prop where
  | absent : OptionalRun [] []
  | present {run : List Char} {ds : List Nat} (h : Run run ds) : OptionalRun run ds

/-- **A point and the digits behind it,** or neither. -/
inductive Places : List Char → List Nat → Prop where
  | absent : Places [] []
  | point {run : List Char} {ds : List Nat} (h : OptionalRun run ds) : Places ('.' :: run) ds

/-- **An exponent with its mark,** or none. -/
inductive Power : List Char → Int → Prop where
  | absent : Power [] 0
  | present {c : Char} {mark run : List Char} {negative : Bool} {ds : List Nat}
      (hc : c = 'e' ∨ c = 'E') (hmark : Sign mark negative) (hrun : Run run ds) :
      Power (c :: (mark ++ run)) (signed negative ds)

/-- **A decimal behind its sign,** with at least one digit in front of its exponent. -/
inductive Decimal (negative : Bool) : List Char → Double → Prop where
  | digits {whole places power : List Char} {ds fs : List Nat} {e : Int}
      (hwhole : OptionalRun whole ds) (hplaces : Places places fs) (hpower : Power power e)
      (hdigits : ds ≠ [] ∨ fs ≠ []) : Decimal negative (whole ++ (places ++ power))
        (Double.ofDecimal negative (ofDigits (ds ++ fs)) (e - fs.length))

/-- **A word behind its sign,** in any case. -/
inductive Word (negative : Bool) : List Char → Double → Prop where
  | infinite {word : List Char} (h : word.map Char.toLower = "inf".toList ∨
      word.map Char.toLower = "infinity".toList) : Word negative word (.infinite negative)
  | nan {word : List Char} (h : word.map Char.toLower = "nan".toList) : Word negative word .nan

/-- **A number that may have a fraction.** -/
inductive Fractional : List Char → Double → Prop where
  | decimal {mark body : List Char} {negative : Bool} {x : Double} (hmark : Sign mark negative)
      (h : Decimal negative body x) : Fractional (mark ++ body) x
  | word {mark body : List Char} {negative : Bool} {x : Double} (hmark : Sign mark negative)
      (h : Word negative body x) : Fractional (mark ++ body) x

theorem digitRun_of_optionalRun {run rest : List Char} {ds : List Nat} (h : OptionalRun run ds)
    (hrest : Stops rest) : digitRun (run ++ rest) = (ds, rest) := by
  cases h with
  | absent => exact digitRun_of_stops hrest
  | present h => exact digitRun_of_run h hrest

theorem optionalRun_digitRun (cs : List Char) :
    ∃ run, OptionalRun run (digitRun cs).1 ∧ cs = run ++ (digitRun cs).2 := by
  rcases digitRun_cases cs with hnone | ⟨run, hrun, hcs⟩
  · rw [hnone]
    exact ⟨[], .absent, rfl⟩
  · exact ⟨run, .present hrun, hcs⟩

theorem Power.head_cases {power : List Char} {e : Int} (h : Power power e) {c : Char}
    (hc : c ∈ power.head?) : c = 'e' ∨ c = 'E' := by
  cases h with
  | absent => cases hc
  | present hmark =>
    cases hc
    exact hmark

theorem Power.stops {power : List Char} {e : Int} (h : Power power e) : Stops power := by
  intro c hc
  rcases h.head_cases hc with rfl | rfl
  · exact ⟨by decide, by decide⟩
  · exact ⟨by decide, by decide⟩

theorem Places.stops {places power : List Char} {fs : List Nat} {e : Int} (h : Places places fs)
    (hpower : Power power e) : Stops (places ++ power) := by
  cases h with
  | absent => exact hpower.stops
  | point => exact stops_cons (by decide) (by decide) _

theorem fraction_of_places {places rest : List Char} {fs : List Nat} (h : Places places fs)
    (hrest : Stops rest) (hpoint : ∀ cs, rest ≠ '.' :: cs) :
    fraction (places ++ rest) = (fs, rest) := by
  cases h with
  | absent =>
    rw [List.nil_append, fraction]
    exact hpoint
  | point h => exact digitRun_of_optionalRun h hrest

theorem places_fraction (cs : List Char) :
    ∃ places, Places places (fraction cs).1 ∧ cs = places ++ (fraction cs).2 := by
  unfold fraction
  split
  · next cs =>
    obtain ⟨run, hrun, hcs⟩ := optionalRun_digitRun cs
    exact ⟨'.' :: run, .point hrun, congrArg _ hcs⟩
  · exact ⟨[], .absent, rfl⟩

theorem exponent_of_power {cs : List Char} {e : Int} (h : Power cs e) : exponent cs = (e, []) := by
  cases h with
  | absent => rfl
  | @present c mark run negative ds hc hmark hrun =>
    simp only [exponent, if_pos hc, hrun.sign_eq hmark, hrun.digitRun_eq]
    split
    · next hnil => exact absurd (congrArg Prod.fst hnil) hrun.ne_nil
    · next heq =>
      cases heq
      rfl

theorem power_of_exponent {cs : List Char} {e : Int} (h : exponent cs = (e, [])) : Power cs e := by
  unfold exponent at h
  split at h
  · next c rest =>
    split at h
    · next hc =>
      obtain ⟨mark, hmark, hrest⟩ := sign_cases rest
      rcases hsign : sign rest with ⟨negative, body⟩
      rw [hsign] at hmark hrest
      simp only [hsign] at h
      split at h
      · cases h
      · next ds after hne hdigits =>
        cases h
        obtain ⟨run, hrun, hbody⟩ := run_of_digitRun hdigits hne
        rw [hrest, hbody, List.append_nil]
        exact .present hc hmark hrun
    · cases h
  · cases h
    exact .absent

theorem readDecimal_eq_some_iff {negative : Bool} {cs : List Char} {x : Double} :
    readDecimal negative cs = some x ↔ Decimal negative cs x := by
  unfold readDecimal
  constructor
  · intro h
    obtain ⟨whole, hwhole, hcs⟩ := optionalRun_digitRun cs
    rcases hrun : digitRun cs with ⟨ds, afterWhole⟩
    rw [hrun] at hwhole hcs
    obtain ⟨places, hplaces, hafterWhole⟩ := places_fraction afterWhole
    rcases hfraction : fraction afterWhole with ⟨fs, afterPlaces⟩
    rw [hfraction] at hplaces hafterWhole
    simp only [hrun, hfraction, Bool.and_eq_true, List.isEmpty_iff] at h
    split at h
    · cases h
    · next hdigits =>
      split at h
      · next e hexponent =>
        cases h
        rw [hcs, hafterWhole]
        exact .digits hwhole hplaces (power_of_exponent hexponent) (not_and_or.mp hdigits)
      · cases h
  · rintro ⟨hwhole, hplaces, hpower, hdigits⟩
    rename_i whole places power ds fs e
    have hpoint : ∀ cs, power ≠ '.' :: cs := by
      rintro cs rfl
      rcases hpower.head_cases rfl with h | h <;> cases h
    have hfraction := fraction_of_places hplaces hpower.stops hpoint
    have hrun := digitRun_of_optionalRun hwhole (hplaces.stops hpower)
    have hsome : ¬ (ds = [] ∧ fs = []) := not_and_or.mpr hdigits
    simp only [hrun, hfraction, exponent_of_power hpower, Bool.and_eq_true, List.isEmpty_iff,
      if_neg hsome]

theorem readWord_eq_some_iff {negative : Bool} {cs : List Char} {x : Double} :
    readWord negative cs = some x ↔ Word negative cs x := by
  unfold readWord
  constructor
  · intro h
    simp only at h
    split at h
    · next hinf =>
      cases h
      exact .infinite hinf
    · split at h
      · next hnan =>
        cases h
        exact .nan hnan
      · cases h
  · intro h
    cases h with
    | infinite hinf => rw [if_pos hinf]
    | nan hnan =>
      have hinf : ¬ (cs.map Char.toLower = "inf".toList ∨
          cs.map Char.toLower = "infinity".toList) := by
        rw [hnan]
        decide
      rw [if_neg hinf, if_pos hnan]

theorem Decimal.exists_cons {negative : Bool} {cs : List Char} {x : Double}
    (h : Decimal negative cs x) : ∃ c cs', cs = c :: cs' ∧ ((digit? c).isSome ∨ c = '.') := by
  obtain ⟨hwhole, hplaces, hpower, hdigits⟩ := h
  cases hwhole with
  | present h =>
    obtain ⟨c, d, cs, rfl, hc⟩ := h.exists_cons
    exact ⟨c, _, rfl, .inl (by rw [hc]; rfl)⟩
  | absent =>
    cases hplaces with
    | absent => simp at hdigits
    | point => exact ⟨'.', _, rfl, .inr rfl⟩

theorem Word.exists_cons {negative : Bool} {cs : List Char} {x : Double}
    (h : Word negative cs x) : ∃ c cs', cs = c :: cs' ∧ (c.toLower = 'i' ∨ c.toLower = 'n') := by
  have hcons {w : List Char} {d : Char} (hw : cs.map Char.toLower = d :: w) :
      ∃ c cs', cs = c :: cs' ∧ c.toLower = d := by
    obtain ⟨c, cs', rfl, hc, -⟩ := List.map_eq_cons_iff.mp hw
    exact ⟨c, cs', rfl, hc⟩
  cases h with
  | infinite h =>
    rcases h with h | h
    all_goals
      obtain ⟨c, cs', hcs, hc⟩ := hcons h
      exact ⟨c, cs', hcs, .inl hc⟩
  | nan h =>
    obtain ⟨c, cs', hcs, hc⟩ := hcons h
    exact ⟨c, cs', hcs, .inr hc⟩

/-- A digit has no lower-case form of its own in common with a letter. -/
theorem toLower_ne_of_digit? {c d : Char} (hc : (digit? c).isSome) (hd : digit? d = none)
    (hcapital : digit? (Char.ofNat (d.toNat - 0x20)) = none) : c.toLower ≠ d := by
  intro h
  rcases Text.eq_of_toLower_eq h with rfl | rfl
  · rw [hd] at hc
    cases hc
  · rw [hcapital] at hc
    cases hc

/-- No word is a decimal. -/
theorem Decimal.readWord_eq {negative : Bool} {cs : List Char} {x : Double}
    (h : Decimal negative cs x) : readWord negative cs = none := by
  rcases hword : readWord negative cs with _ | y
  · rfl
  · obtain ⟨c, cs, rfl, hc⟩ := h.exists_cons
    obtain ⟨_, _, ⟨⟩, hletter⟩ := (readWord_eq_some_iff.mp hword).exists_cons
    rcases hc with hdigit | rfl
    · rcases hletter with hi | hn
      · exact absurd hi (toLower_ne_of_digit? hdigit (by decide) (by decide))
      · exact absurd hn (toLower_ne_of_digit? hdigit (by decide) (by decide))
    · rcases hletter with hi | hn
      · cases hi
      · cases hn

/-- The character is a digit or a point, or begins one of the words. -/
def BeginsBody (c : Char) : Prop :=
  (digit? c).isSome ∨ c = '.' ∨ c.toLower = 'i' ∨ c.toLower = 'n'

instance (c : Char) : Decidable (BeginsBody c) := inferInstanceAs (Decidable (_ ∨ _ ∨ _ ∨ _))

theorem beginsBody_of_body {negative : Bool} {body : List Char} {x : Double}
    (h : Decimal negative body x ∨ Word negative body x) : ∀ c ∈ body.head?, BeginsBody c := by
  intro c hc
  rcases h with h | h
  · obtain ⟨c, body, rfl, hbegins⟩ := h.exists_cons
    cases hc
    exact hbegins.imp_right .inl
  · obtain ⟨c, body, rfl, hbegins⟩ := h.exists_cons
    cases hc
    exact .inr (.inr hbegins)

theorem sign_eq_of_body {mark body : List Char} {negative : Bool} {x : Double}
    (hmark : Sign mark negative) (h : Decimal negative body x ∨ Word negative body x) :
    sign (mark ++ body) = (negative, body) := by
  refine sign_of_sign hmark fun c hc => ?_
  have hbegins := beginsBody_of_body h c hc
  constructor
  all_goals
    rintro rfl
    revert hbegins
    decide

/-- **What is read as a number that may have a fraction,** but for the padding around it. -/
theorem readDouble_eq_some_iff {cs : List Char} {x : Double} :
    readDouble cs = some x ↔ Fractional (unpadded cs) x := by
  unfold readDouble
  constructor
  · intro h
    obtain ⟨mark, hmark, hcs⟩ := sign_cases (unpadded cs)
    rw [hcs]
    rcases Option.or_eq_some_iff.mp h with hword | ⟨-, hdecimal⟩
    · exact .word hmark (readWord_eq_some_iff.mp hword)
    · exact .decimal hmark (readDecimal_eq_some_iff.mp hdecimal)
  · generalize unpadded cs = text
    intro h
    cases h with
    | decimal hmark h =>
      simp only [sign_eq_of_body hmark (.inl h)]
      rw [h.readWord_eq, Option.none_or]
      exact readDecimal_eq_some_iff.mpr h
    | word hmark h =>
      simp only [sign_eq_of_body hmark (.inr h)]
      rw [readWord_eq_some_iff.mpr h, Option.some_or]

/-! ### Trimmed texts -/

theorem isBlank_of_isPadding {c : Char} (h : isPadding c = true) : Text.isBlank c = true :=
  (Bool.and_eq_true_iff.mp h).1

/-- **A text without white space around it has no padding.** -/
theorem unpadded_of_isTrim {cs : List Char} (h : Text.IsTrim cs) : unpadded cs = cs := by
  have hsolid {c : Char} (hc : Text.isSolid c = true) : isPadding c = false := by
    rw [Bool.eq_false_iff]
    intro hpadding
    rw [Text.isSolid_eq_true_iff, isBlank_of_isPadding hpadding] at hc
    cases hc
  have hfront : cs.dropWhile isPadding = cs :=
    @Text.dropWhile_of_cut isPadding [] cs nofun fun c hc => hsolid (h.1 c hc)
  rw [unpadded, hfront, Text.dropEnd_eq_iff]
  exact ⟨[], by simp, nofun, fun c hc => hsolid (h.2 c hc)⟩

/-! ### What a number begins with -/

/-- The character is a sign, or begins the rest of a number. -/
def Begins (c : Char) : Prop := c = '+' ∨ c = '-' ∨ BeginsBody c

instance (c : Char) : Decidable (Begins c) := inferInstanceAs (Decidable (_ ∨ _ ∨ _))

theorem Sign.begins {mark body : List Char} {negative : Bool} (h : Sign mark negative)
    (hbody : ∀ c ∈ body.head?, BeginsBody c) : ∀ c ∈ (mark ++ body).head?, Begins c := by
  cases h with
  | none => exact fun c hc => .inr (.inr (hbody c hc))
  | plus =>
    rintro _ ⟨⟩
    exact .inl rfl
  | minus =>
    rintro _ ⟨⟩
    exact .inr (.inl rfl)

theorem Whole.begins {cs : List Char} {n : Int} (h : Whole cs n) : ∀ c ∈ cs.head?, Begins c := by
  obtain ⟨hmark, hrun, -⟩ := h
  refine hmark.begins fun c hc => ?_
  obtain ⟨c, d, run, rfl, hd⟩ := hrun.exists_cons
  cases hc
  exact .inl (by rw [hd]; rfl)

theorem Fractional.begins {cs : List Char} {x : Double} (h : Fractional cs x) :
    ∀ c ∈ cs.head?, Begins c := by
  cases h with
  | decimal hmark h => exact hmark.begins (beginsBody_of_body (.inl h))
  | word hmark h => exact hmark.begins (beginsBody_of_body (.inr h))

/-- **No number begins with any other letter** than those of the words. -/
theorem not_begins_of_toLower_eq {c d : Char} (h : c.toLower = d) (hd : ¬ Begins d)
    (hcapital : ¬ Begins (Char.ofNat (d.toNat - 0x20))) : ¬ Begins c := by
  rcases Text.eq_of_toLower_eq h with rfl | rfl
  · exact hd
  · exact hcapital

end CrossRef.Number

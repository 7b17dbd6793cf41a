import CrossRef.Text.CaseClass
import Mathlib.Data.List.Basic
import Mathlib.Data.List.Forall2

/-! # Lower case over all characters

The lower-case mapping is given by a table of runs. What holds of all characters is checked on two
sets of code points, those that the table sends away and those that it sends them to, each held as
the binary digits of one number (`domain`, `image`). No code point is in both, and the dotted
capital `I` is not in the second.

* `lowerCode_lowerCode`: a lower-case code point is its own lower-case form.
* `alike_lowerChar`: a search takes the lower-case form of a character for the character.
* `alike_lowerFrom`, `length_lowerFrom`: a search takes the lower-case form of a text for the text,
  character by character, unless the text holds a dotted capital `I`; each of those makes the
  lower-case form one character longer than the text.
* `lower_eq_iff`: a text whose lower-case form is a word of ASCII letters other than `i` and `k`
  spells this word in small letters and capitals of ASCII. -/

namespace CrossRef.Text

/-- The dotted capital `I`, the only character whose lower-case form has two characters. -/
def dottedI : Char := '\u0130'

/-! ### Sets of code points -/

/-- The multiples of `step` up to the `k`-th. -/
def comb (step : Nat) : Nat → Nat
  | 0 => 1
  | k + 1 => 1 ||| comb step k <<< step

theorem testBit_comb (step : Nat) : ∀ {k i : Nat}, i ≤ k → (comb step k).testBit (step * i) = true
  | 0, i, h => by
    rw [Nat.le_zero.mp h, Nat.mul_zero, comb]
    rfl
  | k + 1, 0, _ => by
    rw [comb, Nat.testBit_or, Nat.mul_zero]
    rfl
  | k + 1, i + 1, h => by
    have ih := testBit_comb step (Nat.le_of_succ_le_succ h)
    have hle : step ≤ step * (i + 1) := Nat.le_mul_of_pos_right step i.succ_pos
    have hsub : step * (i + 1) - step = step * i := by rw [Nat.mul_succ, Nat.add_sub_cancel]
    rw [comb, Nat.testBit_or, Nat.testBit_shiftLeft, hsub, ih, decide_eq_true hle]
    exact Bool.or_true _

namespace LowerRun

/-- The code points that lie as those of the run do, counted from `start`. -/
def spread (r : LowerRun) (start : Nat) : Nat := comb r.step ((r.last - r.first) / r.step) <<< start

theorem image?_eq_some {r : LowerRun} {n m : Nat} (h : r.image? n = some m) :
    r.first ≤ n ∧ n ≤ r.last ∧ (n - r.first) % r.step = 0 ∧ m = r.target + (n - r.first) := by
  unfold image? at h
  split at h
  · next hn => exact ⟨hn.1, hn.2.1, hn.2.2, (Option.some.inj h).symm⟩
  · cases h

theorem testBit_spread {r : LowerRun} {n m : Nat} (h : r.image? n = some m) (start : Nat) :
    (r.spread start).testBit (start + (n - r.first)) = true := by
  obtain ⟨-, hlast, hmod, -⟩ := image?_eq_some h
  have hi : (n - r.first) / r.step ≤ (r.last - r.first) / r.step :=
    Nat.div_le_div_right (Nat.sub_le_sub_right hlast _)
  have hn : r.step * ((n - r.first) / r.step) = n - r.first := by
    have hd := Nat.div_add_mod (n - r.first) r.step
    rwa [hmod, Nat.add_zero] at hd
  have hbit := testBit_comb r.step hi
  rw [hn] at hbit
  rw [spread, Nat.testBit_shiftLeft, Nat.add_sub_cancel_left, hbit,
    decide_eq_true (Nat.le_add_right start _)]
  rfl

/-- Every image of the run is a character. -/
def isValid (r : LowerRun) : Bool :=
  r.target + (r.last - r.first) < 0xD800 ||
    0xDFFF < r.target && r.target + (r.last - r.first) < 0x110000

end LowerRun

/-- The code points of all runs, those of a run counted from `start`. -/
def spreadAll (start : LowerRun → Nat) : List LowerRun → Nat
  | [] => 0
  | r :: rs => r.spread (start r) ||| spreadAll start rs

theorem testBit_spreadAll (start : LowerRun → Nat) {r : LowerRun} {i : Nat}
    (h : (r.spread (start r)).testBit i = true) : ∀ {rs : List LowerRun}, r ∈ rs →
      (spreadAll start rs).testBit i = true
  | r' :: rs, hr => by
    rw [spreadAll, Nat.testBit_or]
    rcases List.mem_cons.mp hr with rfl | hr
    · rw [h, Bool.true_or]
    · rw [testBit_spreadAll start h hr, Bool.or_true]

/-- **The code points that have a lower-case form** other than themselves. -/
def domain : Nat := spreadAll LowerRun.first lowerRuns

/-- **The code points that are the lower-case form** of another. -/
def image : Nat := spreadAll LowerRun.target lowerRuns

theorem domain_and_image : domain &&& image = 0 := by decide +kernel

theorem dottedI_not_image : image.testBit dottedI.toNat = false := by decide +kernel

theorem valid_lowerRuns : ∀ r ∈ lowerRuns, r.isValid = true := by decide +kernel

theorem testBit_domain {r : LowerRun} (hr : r ∈ lowerRuns) {n m : Nat} (h : r.image? n = some m) :
    domain.testBit n = true := by
  have hb := LowerRun.testBit_spread h r.first
  rw [Nat.add_sub_cancel' (LowerRun.image?_eq_some h).1] at hb
  exact testBit_spreadAll LowerRun.first hb hr

theorem testBit_image {r : LowerRun} (hr : r ∈ lowerRuns) {n m : Nat} (h : r.image? n = some m) :
    image.testBit m = true := by
  have hb := LowerRun.testBit_spread h r.target
  rw [← (LowerRun.image?_eq_some h).2.2.2] at hb
  exact testBit_spreadAll LowerRun.target hb hr

/-! ### Code points -/

/-- The lower-case form of a code point is itself, or the image in a run that holds it. -/
theorem lowerCode_cases (n : Nat) :
    lowerCode n = n ∨ ∃ r ∈ lowerRuns, r.image? n = some (lowerCode n) := by
  unfold lowerCode
  rcases h : lowerRuns.findSome? (·.image? n) with _ | m
  · exact Or.inl (by rw [h]; rfl)
  · obtain ⟨r, hr, hm⟩ := List.exists_of_findSome?_eq_some h
    exact Or.inr ⟨r, hr, by rw [h]; exact hm⟩

/-- **A lower-case code point is its own lower-case form.** -/
theorem lowerCode_lowerCode (n : Nat) : lowerCode (lowerCode n) = lowerCode n := by
  rcases lowerCode_cases n with h | ⟨r, hr, hm⟩
  · rw [h, h]
  · rcases lowerCode_cases (lowerCode n) with h | ⟨r', hr', hm'⟩
    · exact h
    · -- a code point sent to `lowerCode n` and sent away from it would be in both sets
      have hboth : (domain &&& image).testBit (lowerCode n) = true := by
        rw [Nat.testBit_and, testBit_domain hr' hm', testBit_image hr hm]
        rfl
      rw [domain_and_image, Nat.zero_testBit] at hboth
      cases hboth

theorem isValidChar_lowerCode (c : Char) : (lowerCode c.toNat).isValidChar := by
  rcases lowerCode_cases c.toNat with h | ⟨r, hr, hm⟩
  · rw [h]
    exact c.valid
  · obtain ⟨-, hlast, -, htarget⟩ := LowerRun.image?_eq_some hm
    have hv := valid_lowerRuns r hr
    simp only [LowerRun.isValid, Bool.or_eq_true, Bool.and_eq_true, decide_eq_true_eq] at hv
    unfold Nat.isValidChar
    omega

theorem toNat_lowerChar (c : Char) : (lowerChar c).toNat = lowerCode c.toNat := by
  unfold lowerChar Char.ofNat
  rw [dif_pos (isValidChar_lowerCode c)]
  rfl

/-- No other character has the dotted capital `I` for its lower-case form. -/
theorem lowerChar_ne_dottedI {c : Char} (h : c ≠ dottedI) : lowerChar c ≠ dottedI := by
  intro he
  have hn : lowerCode c.toNat = dottedI.toNat := by rw [← toNat_lowerChar, he]
  rcases lowerCode_cases c.toNat with hc | ⟨r, hr, hm⟩
  · exact h (Char.toNat_inj.mp (hc.symm.trans hn))
  · have hi := testBit_image hr hm
    rw [hn, dottedI_not_image] at hi
    cases hi

/-! ### Texts -/

theorem alike_of_searchCode_eq {c d : Char} (h : searchCode c = searchCode d) :
    alike c d = true := by
  simp only [alike, h, BEq.rfl, Bool.true_or]

theorem alike_self (c : Char) : alike c c = true := alike_of_searchCode_eq rfl

theorem searchCode_of_ne {c : Char} (h : c ≠ dottedI) : searchCode c = lowerCode c.toNat :=
  if_neg h

/-- **A search takes the lower-case form of a character for the character.** -/
theorem alike_lowerChar {c : Char} (h : c ≠ dottedI) : alike (lowerChar c) c = true := by
  refine alike_of_searchCode_eq ?_
  rw [searchCode_of_ne (lowerChar_ne_dottedI h), searchCode_of_ne h, toNat_lowerChar,
    lowerCode_lowerCode]

/-- The form of a character other than the dotted capital `I`, whatever stands around it. -/
theorem lowerAt_of_ne {c : Char} (h : c ≠ dottedI) (before : Bool) (after : List Char) :
    ∃ d, lowerAt before c after = [d] ∧ alike d c = true := by
  unfold lowerAt
  split
  · next hs =>
    subst hs
    -- either small sigma: the two share the capital
    split
    · exact ⟨_, rfl, by decide +kernel⟩
    · exact ⟨_, rfl, by decide +kernel⟩
  · exact ⟨_, if_neg h, alike_lowerChar h⟩

theorem alike_lowerFrom : ∀ {cs : List Char} (before : Bool), dottedI ∉ cs →
    List.Forall₂ (fun c d => alike c d = true) (lowerFrom before cs) cs
  | [], _, _ => .nil
  | c :: cs, before, h => by
    rw [List.mem_cons, not_or] at h
    obtain ⟨d, hd, halike⟩ := lowerAt_of_ne (Ne.symm h.1) before cs
    rw [lowerFrom, hd]
    exact .cons halike (alike_lowerFrom _ h.2)

theorem length_lowerFrom : ∀ (before : Bool) (cs : List Char),
    (lowerFrom before cs).length = cs.length + cs.count dottedI
  | _, [] => rfl
  | before, c :: cs => by
    rw [lowerFrom, List.length_append, length_lowerFrom _ cs, List.length_cons]
    by_cases hc : c = dottedI
    · subst hc
      rw [List.count_cons_self, show (lowerAt before dottedI cs).length = 2 from rfl]
      omega
    · obtain ⟨d, hd, -⟩ := lowerAt_of_ne hc before cs
      rw [List.count_cons_of_ne hc, hd, List.length_singleton]
      omega

/-! ### Words of ASCII letters -/

theorem toNat_toLower (c : Char) : c.toLower.toNat =
    if 0x41 ≤ c.toNat ∧ c.toNat ≤ 0x5A then c.toNat + 0x20 else c.toNat := by
  unfold Char.toLower
  split
  · next h =>
    have hcapital : 0x41 ≤ c.toNat ∧ c.toNat ≤ 0x5A := h
    have hval : c.val.toNat = c.toNat := rfl
    have hshift : ('a'.val - 'A'.val).toNat = 0x20 := rfl
    rw [if_pos hcapital]
    show (c.val + ('a'.val - 'A'.val)).toNat = c.toNat + 0x20
    rw [UInt32.toNat_add, hval, hshift]
    omega
  · next h => rw [if_neg (show ¬ (0x41 ≤ c.toNat ∧ c.toNat ≤ 0x5A) from h)]

theorem eq_of_toLower_eq {c d : Char} (h : c.toLower = d) :
    c = d ∨ c = Char.ofNat (d.toNat - 0x20) := by
  have hcode := toNat_toLower c
  rw [h] at hcode
  split at hcode
  · rw [hcode, Nat.add_sub_cancel, Char.ofNat_toNat]
    exact .inr rfl
  · exact .inl (Char.toNat_inj.mp hcode.symm)

/-- Apart from the capitals of ASCII, a run lies outside of ASCII, and so do its lower-case forms;
but the sign for kelvin has the form `k`. -/
theorem ascii_lowerRuns : ∀ r ∈ lowerRuns, r.first = 0x41 ∧ r.last = 0x5A ∧ r.target = 0x61 ∨
    0x7F < r.first ∧ (0x7F < r.target ∨ r.first = r.last ∧ r.target = 'k'.toNat) := by
  decide +kernel

theorem lowerCode_of_capital {n : Nat} (h : 0x41 ≤ n ∧ n ≤ 0x5A) : lowerCode n = n + 0x20 := by
  obtain ⟨hfirst, hlast⟩ := h
  have himage : LowerRun.image? ⟨0x41, 0x5A, 1, 0x61⟩ n = some (n + 0x20) := by
    unfold LowerRun.image?
    rw [if_pos ⟨hfirst, hlast, Nat.mod_one _⟩]
    show some (0x61 + (n - 0x41)) = some (n + 0x20)
    rw [Option.some_inj]
    omega
  rw [lowerCode, lowerRuns, List.findSome?_cons, himage]
  rfl

/-- The character is one of ASCII, and has no lower-case form in common with a character outside of
ASCII. -/
def IsPlain (c : Char) : Prop := c.toNat < 0x80 ∧ c ≠ 'i' ∧ c ≠ 'k'

instance (c : Char) : Decidable (IsPlain c) := inferInstanceAs (Decidable (_ ∧ _))

theorem lowerChar_eq_iff {c d : Char} (hd : IsPlain d) : lowerChar c = d ↔ c.toLower = d := by
  obtain ⟨hascii, -, hk⟩ := hd
  have hk' : d.toNat ≠ 'k'.toNat := fun h => hk (Char.toNat_inj.mp h)
  rw [← Char.toNat_inj, ← Char.toNat_inj, toNat_lowerChar, toNat_toLower]
  split
  · next hcapital => rw [lowerCode_of_capital hcapital]
  · next hcapital =>
    rcases lowerCode_cases c.toNat with hself | ⟨r, hr, hm⟩
    · rw [hself]
    · obtain ⟨hfirst, hlast, -, htarget⟩ := LowerRun.image?_eq_some hm
      rcases ascii_lowerRuns r hr with hrun | hrun
      · omega
      · constructor
        · intro heq
          omega
        · intro heq
          omega

theorem lowerFrom_eq_iff : ∀ {cs w : List Char} (before : Bool), (∀ d ∈ w, IsPlain d) →
    (lowerFrom before cs = w ↔ cs.map Char.toLower = w)
  | [], _, _, _ => Iff.rfl
  | c :: cs, [], before, _ => by
    have hlong : lowerFrom before (c :: cs) ≠ [] := by
      rw [lowerFrom, lowerAt]
      split
      · simp
      · split <;> simp
    simp [hlong]
  | c :: cs, d :: w, before, hw => by
    obtain ⟨hd, hw⟩ := List.forall_mem_cons.mp hw
    have ih : lowerFrom (endsCased before c) cs = w ↔ cs.map Char.toLower = w :=
      lowerFrom_eq_iff _ hw
    rw [lowerFrom, lowerAt, List.map_cons, List.cons.injEq]
    split
    · next hsigma =>
      subst hsigma
      refine iff_of_false (fun heq => ?_) (fun heq => ?_)
      · have hhead := (List.cons.inj heq).1
        split at hhead <;> (subst hhead; revert hd; decide)
      · rw [← heq.1] at hd
        revert hd
        decide
    · split
      · next hdotted =>
        subst hdotted
        refine iff_of_false (fun heq => ?_) (fun heq => ?_)
        · exact hd.2.1 (List.cons.inj heq).1.symm
        · rw [← heq.1] at hd
          revert hd
          decide
      · rw [List.singleton_append, List.cons.injEq, lowerChar_eq_iff hd, ih]

/-- **A text has a word of plain characters for its lower-case form** exactly if it spells the word
in some mixture of capitals and small letters. -/
theorem lower_eq_iff {s w : String} (hw : ∀ d ∈ w.toList, IsPlain d) :
    lower s = w ↔ s.toList.map Char.toLower = w.toList := by
  rw [← lowerFrom_eq_iff false hw, lower, ← String.toList_inj, String.toList_ofList]

end CrossRef.Text

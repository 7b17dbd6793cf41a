import CrossRef.Json.Reader
import CrossRef.Proofs.Outcome
import Mathlib.Data.List.TakeWhile

/-! # The grammar of JSON: white space and strings

The reader goes through a text from the left and hands on what it has not used. Its results are said
here by relations between a text, what its beginning spells, and the rest.

* `Gap`: white space, and what follows it.
* `Chars`: the code points of a string, up to and with the closing quote.
* `string_eq_ok_iff`: what is read as a string; whatever is none is refused as such
  (`string_eq_error`). -/

namespace CrossRef.Json

/-! ### White space -/

/-- White space, and what follows it. -/
def Gap (cs rest : List Char) : Prop := ∃ gap, cs = gap ++ rest ∧ ∀ c ∈ gap, isSpace c = true

theorem Gap.rfl {cs : List Char} : Gap cs cs := ⟨[], Eq.refl cs, nofun⟩

theorem gap_skipSpace (cs : List Char) : Gap cs (skipSpace cs) :=
  ⟨cs.takeWhile isSpace, List.takeWhile_append_dropWhile.symm,
    fun _ hc => List.mem_takeWhile_imp hc⟩

theorem Gap.skipSpace_eq {cs rest : List Char} (h : Gap cs rest) :
    skipSpace cs = skipSpace rest := by
  obtain ⟨gap, rfl, hgap⟩ := h
  exact List.dropWhile_append_of_pos hgap

theorem Gap.length_le {cs rest : List Char} (h : Gap cs rest) : rest.length ≤ cs.length := by
  obtain ⟨gap, rfl, -⟩ := h
  simp

theorem skipSpace_cons {c : Char} (hc : isSpace c = false) (cs : List Char) :
    skipSpace (c :: cs) = c :: cs := by
  rw [skipSpace, List.dropWhile_cons_of_neg (by simp [hc])]

/-! ### Strings -/

/-- **The first unit of a pair,** given by its hexadecimal digits: what follows it is an escape of
the second one. -/
def BeginsPair (digits cs : List Char) : Prop :=
  ∃ e f g i cs' x, cs = '\\' :: 'u' :: e :: f :: g :: i :: cs' ∧ pair? digits [e, f, g, i] = some x

/-- **The code points of a string** after its opening quote, and what follows its closing quote. A
quote, a backslash and control characters are escaped; a character beyond the sixteen-bit units may
be escaped as a pair of them, and a unit that does not begin a pair stands alone. -/
inductive Chars : List Char → List CodePoint → List Char → Prop where
  | close {rest : List Char} : Chars ('"' :: rest) [] rest
  | plain {c : Char} {s : List CodePoint} {cs rest : List Char} (hcontrol : 0x20 ≤ c.toNat)
      (hquote : c ≠ '"') (hslash : c ≠ '\\') (h : Chars cs s rest) :
      Chars (c :: cs) (.char c :: s) rest
  | short {c x : Char} {s : List CodePoint} {cs rest : List Char} (hx : shortEscape? c = some x)
      (h : Chars cs s rest) : Chars ('\\' :: c :: cs) (.char x :: s) rest
  | unit {x : CodePoint} {a b c d : Char} {s : List CodePoint} {cs rest : List Char}
      (hx : unit? [a, b, c, d] = some x) (hpair : ¬ BeginsPair [a, b, c, d] cs)
      (h : Chars cs s rest) : Chars ('\\' :: 'u' :: a :: b :: c :: d :: cs) (x :: s) rest
  | pair {x a b c d e f g i : Char} {s : List CodePoint} {cs rest : List Char}
      (hx : pair? [a, b, c, d] [e, f, g, i] = some x) (h : Chars cs s rest) :
      Chars ('\\' :: 'u' :: a :: b :: c :: d :: '\\' :: 'u' :: e :: f :: g :: i :: cs) (.char x :: s)
        rest

theorem Chars.length_lt {s : List CodePoint} {cs rest : List Char} (h : Chars cs s rest) :
    rest.length < cs.length := by
  induction h with
  | close => simp
  | _ => simp only [List.length_cons] at *; omega

theorem map_cons_eq_ok_iff {x : CodePoint} {r : Reading (List CodePoint)} {s : List CodePoint}
    {rest : List Char} :
    (r.map fun (s, r) => (x :: s, r)) = .ok (s, rest) ↔ ∃ t, r = .ok (t, rest) ∧ s = x :: t := by
  rw [map_eq_ok_iff]
  constructor
  · rintro ⟨⟨t, _⟩, ht, ⟨⟩⟩
    exact ⟨t, ht, rfl⟩
  · rintro ⟨t, ht, rfl⟩
    exact ⟨(t, rest), ht, rfl⟩

/-- **What is read as a string has its code points.** -/
theorem chars_of_string (cs : List Char) : ∀ {s : List CodePoint} {rest : List Char},
    string cs = .ok (s, rest) → Chars cs s rest := by
  fun_induction string cs <;> intro s rest h
  case case2 =>
    cases h
    exact .close
  case case3 hx ih =>
    obtain ⟨t, ht, rfl⟩ := map_cons_eq_ok_iff.mp h
    exact .pair hx (ih ht)
  case case4 hnone _ hx ih =>
    obtain ⟨t, ht, rfl⟩ := map_cons_eq_ok_iff.mp h
    refine .unit hx ?_ (ih ht)
    rintro ⟨e, f, g, i, cs', y, ⟨⟩, hy⟩
    cases hnone.symm.trans hy
  case case6 hnext _ hx ih =>
    obtain ⟨t, ht, rfl⟩ := map_cons_eq_ok_iff.mp h
    refine .unit hx ?_ (ih ht)
    rintro ⟨e, f, g, i, cs', y, rfl, -⟩
    exact hnext e f g i cs' rfl
  case case8 hx ih =>
    obtain ⟨t, ht, rfl⟩ := map_cons_eq_ok_iff.mp h
    exact .short hx (ih ht)
  case case11 hquote _ _ _ hplain ih =>
    obtain ⟨t, ht, rfl⟩ := map_cons_eq_ok_iff.mp h
    exact .plain (by omega) hquote (fun hslash => hplain (.inr hslash)) (ih ht)
  -- in all other cases the text is refused
  all_goals cases h

/-- **The code points of a string are read.** -/
theorem string_of_chars {s : List CodePoint} {cs rest : List Char} (h : Chars cs s rest) :
    string cs = .ok (s, rest) := by
  induction h with
  | close => rw [string]
  | @plain c s cs rest hcontrol hquote hslash h ih =>
    have hplain : ¬ (c.toNat < 0x20 ∨ c = '\\') := by simp [hcontrol, hslash]
    rw [string, if_neg hplain, ih]
    · rfl
    all_goals simp_all
  | @short c _ _ _ _ hx h ih =>
    have hu : c ≠ 'u' := by
      rintro rfl
      cases hx
    rw [string, hx]
    · simp only [ih]
      rfl
    all_goals simp [hu]
  | @unit x a b c d s cs rest hx hpair h ih =>
    by_cases hnext : ∃ e f g i cs', cs = '\\' :: 'u' :: e :: f :: g :: i :: cs'
    · obtain ⟨e, f, g, i, cs', rfl⟩ := hnext
      have hnone : pair? [a, b, c, d] [e, f, g, i] = none := by
        rcases hp : pair? [a, b, c, d] [e, f, g, i] with _ | y
        · rfl
        · exact absurd ⟨e, f, g, i, cs', y, rfl, hp⟩ hpair
      simp only [string, hnone, hx, ih]
      rfl
    · simp only [not_exists] at hnext
      rw [string, hx]
      · simp only [ih]
        rfl
      · exact hnext
  | pair hx h ih =>
    simp only [string, hx, ih]
    rfl

theorem string_eq_ok_iff {s : List CodePoint} {cs rest : List Char} :
    string cs = .ok (s, rest) ↔ Chars cs s rest := ⟨chars_of_string cs, string_of_chars⟩

example : string ['\\', 'u', 'd', '8', '0', '0', '"'] = .ok ([.lone 0xD800], []) := by rfl

/-- Whatever is no string is refused as such. -/
theorem string_eq_error (cs : List Char) : ∀ {e : Refusal}, string cs = .error e →
    e = .malformed := by
  have hmap {x : CodePoint} {r : Reading (List CodePoint)} {e : Refusal}
      (h : (r.map fun (s, r) => (x :: s, r)) = .error e) : r = .error e := by
    rcases r with f | a
    · cases h
      rfl
    · cases h
  fun_induction string cs <;> intro e h
  case case2 => cases h
  case case3 ih | case4 ih | case6 ih | case8 ih | case11 ih => exact ih (hmap h)
  all_goals
    cases h
    rfl

end CrossRef.Json

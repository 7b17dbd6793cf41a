import CrossRef.Text.Blank
import Mathlib.Data.List.TakeWhile

/-! # Runs of characters and trimming

A text that is cut by a scan, into a run of characters of one class and what follows, or from its
white space at either end, is cut at a place that the text itself decides. Here the places are said
without the scans: the run holds nothing but the class, and what follows does not begin (or what
stands before does not end) with the class.

* `takeWhile_of_cut`, `dropWhile_of_cut`: any such cut at the front is that of the scan.
* `dropEnd_eq_iff`: the same for a run at the end.
* `trim_eq_iff`: the same for white space at both ends. -/

namespace CrossRef.Text

/-- The characters are all white space. -/
def AllBlank (cs : List Char) : Prop := ∀ c ∈ cs, isBlank c = true

/-- There is no white space among the characters. -/
def AllSolid (cs : List Char) : Prop := ∀ c ∈ cs, isSolid c = true

/-- The characters neither begin nor end with white space. -/
def IsTrim (cs : List Char) : Prop :=
  (∀ c ∈ cs.head?, isSolid c = true) ∧ ∀ c ∈ cs.getLast?, isSolid c = true

/-- **`kept` is `cs` without white space at either end:** what is left off on both sides is white
space, and `kept` neither begins nor ends with any. -/
def TrimsTo (cs kept : List Char) : Prop :=
  ∃ left right, cs = left ++ kept ++ right ∧ AllBlank left ∧ AllBlank right ∧ IsTrim kept

instance (cs : List Char) : Decidable (AllBlank cs) := List.decidableBAll ..

instance (cs : List Char) : Decidable (AllSolid cs) := List.decidableBAll ..

theorem isSolid_eq_true_iff {c : Char} : isSolid c = true ↔ isBlank c = false := by
  simp [isSolid]

theorem isSolid_eq_false_iff {c : Char} : isSolid c = false ↔ isBlank c = true := by
  simp [isSolid]

theorem AllSolid.isTrim {cs : List Char} (h : AllSolid cs) : IsTrim cs :=
  ⟨fun c hc => h c (List.mem_of_mem_head? hc), fun c hc => h c (List.mem_of_mem_getLast? hc)⟩

/-! ### A run at the front -/

section front

variable {p : Char → Bool} {run rest : List Char}

theorem takeWhile_of_cut (hrun : ∀ c ∈ run, p c = true) (hrest : ∀ c ∈ rest.head?, p c = false) :
    (run ++ rest).takeWhile p = run := by
  rw [List.takeWhile_append_of_pos hrun]
  rcases rest with _ | ⟨c, rest⟩
  · simp
  · simp [hrest c rfl]

theorem dropWhile_of_cut (hrun : ∀ c ∈ run, p c = true) (hrest : ∀ c ∈ rest.head?, p c = false) :
    (run ++ rest).dropWhile p = rest := by
  rw [List.dropWhile_append_of_pos hrun]
  rcases rest with _ | ⟨c, rest⟩
  · rfl
  · simp [hrest c rfl]

theorem of_mem_head?_dropWhile {cs : List Char} {c : Char} (h : c ∈ (cs.dropWhile p).head?) :
    p c = false := by
  have hnot := List.head?_dropWhile_not p cs
  rw [Option.mem_def.mp h] at hnot
  simpa using hnot

/-- **Two cuts at the front of a text are the same cut.** -/
theorem cut_unique {run' rest' : List Char} (hrun : ∀ c ∈ run, p c = true)
    (hrest : ∀ c ∈ rest.head?, p c = false) (hrun' : ∀ c ∈ run', p c = true)
    (hrest' : ∀ c ∈ rest'.head?, p c = false) (h : run ++ rest = run' ++ rest') :
    run = run' ∧ rest = rest' := by
  constructor
  · rw [← takeWhile_of_cut hrun hrest, h, takeWhile_of_cut hrun' hrest']
  · rw [← dropWhile_of_cut hrun hrest, h, dropWhile_of_cut hrun' hrest']

end front

/-! ### A run at the end -/

/-- **A text without a run at its end:** what follows it is of the class, and it does not end with
the class. -/
theorem dropEnd_eq_iff {p : Char → Bool} {cs kept : List Char} : dropEnd p cs = kept ↔
    ∃ run, cs = kept ++ run ∧ (∀ c ∈ run, p c = true) ∧ ∀ c ∈ kept.getLast?, p c = false := by
  constructor
  · rintro rfl
    refine ⟨(cs.reverse.takeWhile p).reverse, ?_, ?_, ?_⟩
    · rw [dropEnd, ← List.reverse_append, List.takeWhile_append_dropWhile, List.reverse_reverse]
    · intro c hc
      exact List.mem_takeWhile_imp (List.mem_reverse.mp hc)
    · intro c hc
      rw [dropEnd, List.getLast?_reverse] at hc
      exact of_mem_head?_dropWhile hc
  · rintro ⟨run, rfl, hrun, hkept⟩
    have hrest : ∀ c ∈ kept.reverse.head?, p c = false := by
      rwa [List.head?_reverse]
    have hrun' : ∀ c ∈ run.reverse, p c = true := fun c hc => hrun c (List.mem_reverse.mp hc)
    rw [dropEnd, List.reverse_append, dropWhile_of_cut hrun' hrest, List.reverse_reverse]

theorem dropEnd_append {p : Char → Bool} {run : List Char} (hrun : ∀ c ∈ run, p c = true)
    (cs : List Char) : dropEnd p (cs ++ run) = dropEnd p cs := by
  obtain ⟨run', hcs, hrun', hkept⟩ := dropEnd_eq_iff.mp (rfl : dropEnd p cs = dropEnd p cs)
  refine dropEnd_eq_iff.mpr ⟨run' ++ run, ?_, ?_, hkept⟩
  · rw [← List.append_assoc, ← hcs]
  · intro c hc
    rcases List.mem_append.mp hc with hc | hc
    · exact hrun' c hc
    · exact hrun c hc

/-! ### Both ends -/

theorem trimLeft_append {left : List Char} (hleft : AllBlank left) (cs : List Char) :
    trimLeft (left ++ cs) = trimLeft cs := List.dropWhile_append_of_pos hleft

theorem trimLeft_of_head?_solid {cs : List Char} (h : ∀ c ∈ cs.head?, isSolid c = true) :
    trimLeft cs = cs := by
  have hnil : AllBlank [] := by simp [AllBlank]
  exact dropWhile_of_cut hnil fun c hc => isSolid_eq_true_iff.mp (h c hc)

theorem trimLeft_eq_trim_append (cs : List Char) : ∃ right, trimLeft cs = trim cs ++ right ∧
    AllBlank right ∧ ∀ c ∈ (trim cs).getLast?, isBlank c = false :=
  dropEnd_eq_iff.mp rfl

theorem isTrim_trim (cs : List Char) : IsTrim (trim cs) := by
  obtain ⟨right, hright, -, hlast⟩ := trimLeft_eq_trim_append cs
  refine ⟨fun c hc => ?_, fun c hc => isSolid_eq_true_iff.mpr (hlast c hc)⟩
  -- what begins the trimmed text begins it also with the white space still at its end
  have hhead : c ∈ (trimLeft cs).head? := by
    rw [hright, List.head?_append, Option.mem_def.mp hc]
    rfl
  exact isSolid_eq_true_iff.mpr (of_mem_head?_dropWhile hhead)

theorem trim_eq_iff {cs kept : List Char} : trim cs = kept ↔ TrimsTo cs kept := by
  constructor
  · rintro rfl
    obtain ⟨right, hright, hblank, -⟩ := trimLeft_eq_trim_append cs
    refine ⟨cs.takeWhile isBlank, right, ?_, fun c hc => List.mem_takeWhile_imp hc, hblank,
      isTrim_trim cs⟩
    rw [List.append_assoc, ← hright, trimLeft, List.takeWhile_append_dropWhile]
  · rintro ⟨left, right, rfl, hleft, hright, hkept⟩
    rw [trim, List.append_assoc, trimLeft_append hleft, trimRight]
    rcases kept with _ | ⟨c, kept⟩
    · -- nothing is left between the two runs: all is white space
      have hnil : trimLeft right = [] := List.dropWhile_eq_nil_iff.mpr hright
      rw [List.nil_append, hnil]
      rfl
    · have hhead : trimLeft (c :: kept ++ right) = c :: kept ++ right :=
        trimLeft_of_head?_solid hkept.1
      rw [hhead, dropEnd_eq_iff]
      exact ⟨right, rfl, hright, fun d hd => isSolid_eq_true_iff.mp (hkept.2 d hd)⟩

/-- Trimming undoes any white space around a text. -/
theorem trim_append {left right : List Char} (hleft : AllBlank left) (hright : AllBlank right)
    (cs : List Char) : trim (left ++ cs ++ right) = trim cs := by
  obtain ⟨left', right', hcs, hleft', hright', hkept⟩ := trim_eq_iff.mp (rfl : trim cs = trim cs)
  refine trim_eq_iff.mpr ⟨left ++ left', right' ++ right, ?_, ?_, ?_, hkept⟩
  · calc left ++ cs ++ right
        = left ++ (left' ++ trim cs ++ right') ++ right := by rw [← hcs]
      _ = left ++ left' ++ trim cs ++ (right' ++ right) := by simp only [List.append_assoc]
  · intro c hc
    exact (List.mem_append.mp hc).elim (hleft c) (hleft' c)
  · intro c hc
    exact (List.mem_append.mp hc).elim (hright' c) (hright c)

theorem IsTrim.trimsTo {cs : List Char} (h : IsTrim cs) : TrimsTo cs cs := by
  have hnil : AllBlank [] := by simp [AllBlank]
  exact ⟨[], [], by simp, hnil, hnil, h⟩

theorem IsTrim.trim_eq {cs : List Char} (h : IsTrim cs) : trim cs = cs := trim_eq_iff.mpr h.trimsTo

end CrossRef.Text

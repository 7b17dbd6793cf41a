import CrossRef.Proofs.DeclarationSpan
import CrossRef.Proofs.LineCuts

/-! # Lines and columns of offsets

A span counts the line feeds in front of it, and the characters behind the last of them. A view cuts
the text at its line feeds and numbers the pieces. Both are put together here: cut the text in two
at an offset, then the piece with the number of the line begins with what stands in front of the
offset behind the last line feed, and goes on with what stands behind the offset up to the next one.

* `getElem?_cutAtFeeds`: the piece in which an offset lies.
* `getElem?_feedLines`: a piece in which a character lies, or which a line feed ends, is a line.
* `Span.between_line`, `Span.between_column`: line and column as counts.
* `Span.line_of_between`: the character at an offset, found again by its line and its column. -/

namespace CrossRef

/-! ### Where the last line begins -/

namespace Span

theorem lastFeed?_eq_none_iff : ∀ {cs : List Char}, lastFeed? cs = none ↔ '\n' ∉ cs
  | [] => by simp [lastFeed?]
  | c :: cs => by
    have ih : lastFeed? cs = none ↔ '\n' ∉ cs := lastFeed?_eq_none_iff
    rw [lastFeed?, List.mem_cons, not_or]
    rcases hl : lastFeed? cs with _ | i <;> rw [hl] at ih
    · have hnot := ih.mp rfl
      simp [hnot, eq_comm]
    · have hmem : '\n' ∈ cs := by
        by_contra hnot
        cases ih.mpr hnot
      simp [hmem]

theorem lineStart_of_not_mem {cs : List Char} (h : '\n' ∉ cs) : lineStart cs = 0 := by
  unfold lineStart
  rw [lastFeed?_eq_none_iff.mpr h]

/-- A character in front shifts the beginning of the last line, if there is a line feed. -/
theorem lineStart_cons {c : Char} {cs : List Char} (h : '\n' ∈ c :: cs) :
    lineStart (c :: cs) = lineStart cs + 1 := by
  unfold lineStart
  rw [lastFeed?]
  rcases hl : lastFeed? cs with _ | i
  · have hc : c = '\n' := by
      rcases List.mem_cons.mp h with hc | hmem
      · exact hc.symm
      · exact absurd hmem (lastFeed?_eq_none_iff.mp hl)
    simp [hc]
  · rfl

theorem lineStart_le : ∀ cs : List Char, lineStart cs ≤ cs.length
  | [] => Nat.le_refl 0
  | c :: cs => by
    by_cases h : '\n' ∈ c :: cs
    · rw [lineStart_cons h, List.length_cons]
      exact Nat.succ_le_succ (lineStart_le cs)
    · rw [lineStart_of_not_mem h]
      exact Nat.zero_le _

theorem lineStart_take_le (cs : List Char) (start : Nat) : lineStart (cs.take start) ≤ start := by
  have hle := lineStart_le (cs.take start)
  have hlength := List.length_take_le start cs
  omega

end Span

/-! ### Pieces -/

namespace Text

/-- One character more: it is a cut, or it goes to the front of the first piece. -/
theorem cutAtFeeds_cons (c : Char) (cs : List Char) : ∃ p ps, cutAtFeeds cs = p :: ps ∧
    cutAtFeeds (c :: cs) = if c = '\n' then [] :: p :: ps else (c :: p) :: ps := by
  obtain ⟨p, ps, hps, hcons⟩ := splitOnP_cons_cases (fun a => a == '\n') c cs
  simp only [beq_iff_eq] at hcons
  exact ⟨p, ps, (cutAt_eq_splitOnP ..).trans hps, (cutAt_eq_splitOnP ..).trans hcons⟩

theorem length_cutAtFeeds : ∀ cs : List Char, (cutAtFeeds cs).length = cs.count '\n' + 1
  | [] => rfl
  | c :: cs => by
    obtain ⟨p, ps, hps, hcons⟩ := cutAtFeeds_cons c cs
    have ih := length_cutAtFeeds cs
    rw [hps] at ih
    rw [hcons]
    by_cases hc : c = '\n'
    · rw [if_pos hc, hc, List.count_cons_self, List.length_cons, ih]
    · rw [if_neg hc, List.count_cons_of_ne hc, ← ih]
      rfl

/-- **The piece in which an offset lies,** for a text that is cut in two there. -/
theorem getElem?_cutAtFeeds (rest : List Char) : ∀ before : List Char,
    (cutAtFeeds (before ++ rest))[before.count '\n']? =
      some (before.drop (Span.lineStart before) ++ rest.takeWhile (· != '\n'))
  | [] => by
    obtain ⟨ps, hps⟩ := splitOnP_eq_takeWhile_cons (fun a => a == '\n') rest
    rw [List.nil_append, cutAtFeeds, cutAt_eq_splitOnP, hps]
    rfl
  | c :: before => by
    have ih := getElem?_cutAtFeeds rest before
    obtain ⟨p, ps, hps, hcons⟩ := cutAtFeeds_cons c (before ++ rest)
    rw [hps] at ih
    rw [List.cons_append, hcons]
    by_cases hc : c = '\n'
    · have hstart : Span.lineStart (c :: before) = Span.lineStart before + 1 :=
        Span.lineStart_cons (by simp [hc])
      rw [if_pos hc, hstart, List.drop_succ_cons, hc, List.count_cons_self, List.getElem?_cons_succ,
        ih]
    · rw [if_neg hc, List.count_cons_of_ne hc]
      by_cases hfeed : '\n' ∈ before
      · -- the offset lies in a later piece
        obtain ⟨n, hn⟩ := Nat.exists_eq_succ_of_ne_zero
          (Nat.pos_iff_ne_zero.mp (List.count_pos_iff.mpr hfeed))
        rw [hn, List.getElem?_cons_succ] at ih
        rw [hn, List.getElem?_cons_succ, ih, Span.lineStart_cons (List.mem_cons_of_mem c hfeed),
          List.drop_succ_cons]
      · -- the offset lies in the first piece, which `c` goes to the front of
        have hnot : '\n' ∉ c :: before := by simp [hfeed, Ne.symm hc]
        rw [List.count_eq_zero_of_not_mem hfeed, List.getElem?_cons_zero, Option.some.injEq,
          Span.lineStart_of_not_mem hfeed] at ih
        rw [List.count_eq_zero_of_not_mem hfeed, List.getElem?_cons_zero, ih,
          Span.lineStart_of_not_mem hnot]
        rfl

/-- **A piece with a character in it, or with a line feed behind it,** is a line: the one that is
not counted has neither. -/
theorem getElem?_feedLines {cs : List Char} {start : Nat} (h : start < cs.length) :
    (feedLines cs)[(cs.take start).count '\n']? =
      (cutAtFeeds cs)[(cs.take start).count '\n']? := by
  unfold feedLines
  simp only
  split
  · next hlast =>
    have hpiece := getElem?_cutAtFeeds (cs.drop start) (cs.take start)
    rw [List.take_append_drop, List.drop_eq_getElem_cons h] at hpiece
    have hlt : (cs.take start).count '\n' < (cutAtFeeds cs).length - 1 := by
      by_cases hc : cs[start] = '\n'
      · have hcount : cs.count '\n' = (cs.take start).count '\n' + (cs.drop start).count '\n' := by
          rw [← List.count_append, List.take_append_drop]
        rw [List.drop_eq_getElem_cons h, hc, List.count_cons_self] at hcount
        rw [length_cutAtFeeds]
        omega
      · obtain ⟨hle, hget⟩ := List.getElem?_eq_some_iff.mp hpiece
        rcases Nat.lt_or_ge ((cs.take start).count '\n') ((cutAtFeeds cs).length - 1) with hlt | hge
        · exact hlt
        · -- it would be the last piece, which is empty
          have hend : (cs.take start).count '\n' = (cutAtFeeds cs).length - 1 := by omega
          rw [List.getLast?_eq_getElem?, ← hend, hpiece, Option.some.injEq,
            List.takeWhile_cons_of_pos (by simpa using hc)] at hlast
          simp at hlast
    rw [List.getElem?_dropLast, if_pos hlt]
  · rfl

end Text

/-! ### Line and column -/

namespace Span

theorem between_line (cs : List Char) {start : Nat} (h : start ≤ cs.length) (stop : Int) :
    (between cs start stop).line = ((cs.take start).count '\n' + 1 : Nat) := by
  simp only [between, place_natCast, Nat.min_eq_left h]
  rfl

theorem between_column (cs : List Char) {start : Nat} (h : start ≤ cs.length) (stop : Int) :
    (between cs start stop).column = (start - lineStart (cs.take start) + 1 : Nat) := by
  have hle := lineStart_take_le cs start
  simp only [between, place_natCast, Nat.min_eq_left h]
  omega

/-- **The character at an offset** is found again by its line and its column, or is the line feed at
the end of that line. -/
theorem line_of_between {cs : List Char} {start : Nat} (h : start < cs.length) :
    ∃ here, (Text.feedLines cs)[(cs.take start).count '\n']? = some here ∧
      (here[start - lineStart (cs.take start)]? = cs[start]? ∨
        cs[start]? = some '\n' ∧ start - lineStart (cs.take start) = here.length) := by
  have hpiece := Text.getElem?_cutAtFeeds (cs.drop start) (cs.take start)
  rw [List.take_append_drop, ← Text.getElem?_feedLines h] at hpiece
  refine ⟨_, hpiece, ?_⟩
  have hlength : ((cs.take start).drop (lineStart (cs.take start))).length =
      start - lineStart (cs.take start) := by
    rw [List.length_drop, List.length_take, Nat.min_eq_left (Nat.le_of_lt h)]
  rw [List.drop_eq_getElem_cons h, List.getElem?_eq_getElem h, ← hlength]
  by_cases hc : cs[start] = '\n'
  · right
    rw [hc, List.takeWhile_cons_of_neg (by simp), List.append_nil]
    exact ⟨rfl, rfl⟩
  · left
    rw [List.takeWhile_cons_of_pos (by simpa using hc), List.getElem?_append_right (Nat.le_refl _),
      Nat.sub_self, List.getElem?_cons_zero]

end Span

end CrossRef

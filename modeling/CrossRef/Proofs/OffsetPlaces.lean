import CrossRef.Proofs.LinePositions
import Mathlib.Data.Prod.Lex

/-! # The offset behind a line and a column

A span gives the place of an offset as a line and a column. Both come from the text in front of the
offset, by two scans of their own. Here they are turned back into the offset, from the pieces that
the text is cut into at its line feeds: every piece in front of the line counts with the line feed
behind it, and the column counts the characters that are left.

* `offsetAt`: the offset that a line and a column stand for.
* `feedLength_take`: the pieces in front of a line end where the line begins.
* `line_lt_or_column_lt`: a later offset has a later place.
* `between_identifies`: line and column of an offset lie in the text, stand for the offset and for no
  other, and follow the order of the offsets. -/

namespace CrossRef

/-! ### Pieces in front of a line -/

namespace Text

/-- The length of a number of pieces with a line feed behind each. -/
def feedLength : List (List Char) → ℕ
  | [] => 0
  | p :: ps => p.length + 1 + feedLength ps

/-- **The pieces in front of a line,** each with the line feed behind it, are as long as the text up
to where the line begins. -/
theorem feedLength_take (rest : List Char) : ∀ before : List Char,
    feedLength ((cutAtFeeds (before ++ rest)).take (before.count '\n')) = Span.lineStart before
  | [] => rfl
  | c :: before => by
    have ih := feedLength_take rest before
    obtain ⟨p, ps, hps, hcons⟩ := cutAtFeeds_cons c (before ++ rest)
    rw [hps] at ih
    rw [List.cons_append, hcons]
    by_cases hc : c = '\n'
    · have hstart : Span.lineStart (c :: before) = Span.lineStart before + 1 :=
        Span.lineStart_cons (by simp [hc])
      rw [if_pos hc, hstart, hc, List.count_cons_self, List.take_succ_cons, feedLength, ih,
        List.length_nil]
      omega
    · rw [if_neg hc, List.count_cons_of_ne hc]
      by_cases hfeed : '\n' ∈ before
      · -- the first piece stands in front of the line, and `c` makes it longer
        have hpos : 0 < before.count '\n' := List.count_pos_iff.mpr hfeed
        obtain ⟨n, hn⟩ : ∃ n, before.count '\n' = n + 1 := ⟨before.count '\n' - 1, by omega⟩
        have hstart : Span.lineStart (c :: before) = Span.lineStart before + 1 :=
          Span.lineStart_cons (List.mem_cons_of_mem c hfeed)
        rw [hn, List.take_succ_cons, feedLength] at ih
        rw [hn, hstart, List.take_succ_cons, feedLength, List.length_cons]
        omega
      · have hnot : '\n' ∉ c :: before := by simp [hfeed, Ne.symm hc]
        rw [List.count_eq_zero_of_not_mem hfeed, Span.lineStart_of_not_mem hnot]
        rfl

end Text

namespace Span

/-- The offset at which the line of an offset begins, from the pieces in front of the line. -/
theorem lineStart_take_eq (cs : List Char) (start : ℕ) : lineStart (cs.take start) =
    Text.feedLength ((Text.cutAtFeeds cs).take ((cs.take start).count '\n')) := by
  have hsum := Text.feedLength_take (cs.drop start) (cs.take start)
  rw [List.take_append_drop] at hsum
  exact hsum.symm

/-! ### Places -/

/-- **The offset that a line and a column stand for,** both counted from one: as many characters as
the pieces in front of the line have, one more for the line feed behind each of them, and those in
front of the column. -/
def offsetAt (cs : List Char) (line column : Int) : Int :=
  Text.feedLength ((Text.cutAtFeeds cs).take (line - 1).toNat) + (column - 1)

/-- **A line and a column lie in a text:** there is a piece with the number of the line, and the
column is that of one of its characters or of the end of the piece. -/
def IsPlace (cs : List Char) (line column : Int) : Prop :=
  1 ≤ line ∧ line ≤ (Text.cutAtFeeds cs).length ∧ 1 ≤ column ∧
    ∃ piece, (Text.cutAtFeeds cs)[(line - 1).toNat]? = some piece ∧ column ≤ piece.length + 1

variable {cs : List Char} {start start' : ℕ}

/-- The number of pieces in front of the line of an offset. -/
theorem toNat_line_sub_one (h : start ≤ cs.length) (stop : Int) :
    ((between cs start stop).line - 1).toNat = (cs.take start).count '\n' := by
  rw [between_line cs h]
  omega

theorem isPlace_between (h : start ≤ cs.length) (stop : Int) :
    IsPlace cs (between cs start stop).line (between cs start stop).column := by
  have hpiece := Text.getElem?_cutAtFeeds (cs.drop start) (cs.take start)
  rw [List.take_append_drop] at hpiece
  obtain ⟨hlt, -⟩ := List.getElem?_eq_some_iff.mp hpiece
  have hle := lineStart_take_le cs start
  rw [← toNat_line_sub_one h stop] at hpiece
  have hline := between_line cs h stop
  have hcolumn := between_column cs h stop
  refine ⟨by omega, by omega, by omega, _, hpiece, ?_⟩
  have hlength : (cs.take start).length = start := List.length_take_of_le h
  simp only [List.length_append, List.length_drop, hlength]
  omega

/-- **The line and the column of an offset stand for the offset.** -/
theorem offsetAt_between (h : start ≤ cs.length) (stop : Int) :
    offsetAt cs (between cs start stop).line (between cs start stop).column = start := by
  have hle := lineStart_take_le cs start
  have hcolumn := between_column cs h stop
  rw [offsetAt, toNat_line_sub_one h, ← lineStart_take_eq]
  omega

/-- **A later offset has a later place:** it lies on a later line, or on the same line in a later
column. -/
theorem line_lt_or_column_lt (hlt : start < start') (h' : start' ≤ cs.length) (stop stop' : Int) :
    (between cs start stop).line < (between cs start' stop').line ∨
      (between cs start stop).line = (between cs start' stop').line ∧
        (between cs start stop).column < (between cs start' stop').column := by
  have h : start ≤ cs.length := by omega
  have hprefix : cs.take start <+: cs.take start' := List.take_prefix_take_left (by omega)
  have hcount : (cs.take start).count '\n' ≤ (cs.take start').count '\n' :=
    hprefix.sublist.count_le '\n'
  rw [between_line cs h, between_line cs h', between_column cs h, between_column cs h']
  rcases Nat.lt_or_eq_of_le hcount with hcount | hcount
  · left
    omega
  · -- lines of the same number begin at the same offset
    have hsame : lineStart (cs.take start) = lineStart (cs.take start') := by
      rw [lineStart_take_eq, lineStart_take_eq, hcount]
    have hle := lineStart_take_le cs start
    right
    omega

/-- **Line and column identify an offset.** They lie in the text, and the pieces in front of the
line, with a line feed each, and the characters in front of the column add up to the offset. A later
offset has a later place in the order of lines and, on one line, of columns; and no two offsets have
the same place. -/
theorem between_identifies (h : start ≤ cs.length) (stop : Int) :
    IsPlace cs (between cs start stop).line (between cs start stop).column ∧
    offsetAt cs (between cs start stop).line (between cs start stop).column = start ∧
    ∀ start' ≤ cs.length, ∀ stop' : Int,
      (start < start' ↔
        toLex ((between cs start stop).line, (between cs start stop).column) <
          toLex ((between cs start' stop').line, (between cs start' stop').column)) ∧
      ((between cs start stop).line = (between cs start' stop').line →
        (between cs start stop).column = (between cs start' stop').column → start = start') := by
  refine ⟨isPlace_between h stop, offsetAt_between h stop, fun start' h' stop' => ?_⟩
  have hinjective (hline : (between cs start stop).line = (between cs start' stop').line)
      (hcolumn : (between cs start stop).column = (between cs start' stop').column) :
      start = start' := by
    have hoffset := offsetAt_between h stop
    rw [hline, hcolumn, offsetAt_between h' stop'] at hoffset
    omega
  refine ⟨⟨fun hlt => ?_, fun hlex => ?_⟩, hinjective⟩
  · exact Prod.Lex.toLex_lt_toLex.mpr (line_lt_or_column_lt hlt h' stop stop')
  · by_contra hnot
    rcases Nat.lt_or_eq_of_le (Nat.not_lt.mp hnot) with hlt | rfl
    · exact lt_asymm hlex (Prod.Lex.toLex_lt_toLex.mpr (line_lt_or_column_lt hlt h stop' stop))
    · have hplace := Prod.Lex.toLex_lt_toLex.mp hlex
      simp only [between_line cs h, between_column cs h] at hplace
      omega

/-- The end of `"ab\n\nc\n"` is the first column of the fourth piece, and comes after the line feed
of the blank line. -/
theorem between_identifies_end_of_text :
    offsetAt "ab\n\nc\n".toList 4 1 = 6 ∧
      toLex ((between "ab\n\nc\n".toList 3 4).line, (between "ab\n\nc\n".toList 3 4).column) <
        toLex ((between "ab\n\nc\n".toList 6 6).line, (between "ab\n\nc\n".toList 6 6).column) := by
  obtain ⟨-, hoffset, -⟩ := @between_identifies "ab\n\nc\n".toList 6 (by decide) 6
  obtain ⟨-, -, hlater⟩ := @between_identifies "ab\n\nc\n".toList 3 (by decide) 4
  exact ⟨hoffset, (hlater 6 (by decide) 6).1.mp (by decide)⟩

end Span

end CrossRef

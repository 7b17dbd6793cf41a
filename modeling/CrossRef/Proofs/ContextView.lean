import CrossRef.Proofs.LinePositions
import CrossRef.View.Context
import Mathlib.Data.List.Range

/-! # What a view shows

A view is a header and some rows. A row is a line of the document behind a margin, which has the
number of the line and a mark if it is the line of the span. The numbers are those of the lines
around the span, as far as the document has them, so no row is looked up outside the document; the
margins are equally wide, since no number is wider than the last one.

* `mem_lineNumbers_iff`: which lines are shown.
* `length_margin`: how wide a margin is.
* `render_eq_rows`: a view as a header and rows.
* `view_of_offset`: the view of a character of a document, and the lines that any view looks up. -/

namespace CrossRef.View

/-! ### The numbers of the lines -/

/-- **Which lines are shown.** -/
theorem mem_lineNumbers_iff {line context : Int} {count n : Nat} :
    n ∈ lineNumbers line context count ↔
      firstLine line context ≤ n ∧ (n : Int) ≤ lastLine line context count := by
  have hfirst : 1 ≤ firstLine line context := by
    unfold firstLine
    omega
  unfold lineNumbers
  simp only [List.mem_map, List.mem_range]
  constructor
  · rintro ⟨i, hi, rfl⟩
    omega
  · rintro ⟨hle, hge⟩
    exact ⟨n - (firstLine line context).toNat, by omega, by omega⟩

/-- No line is looked up outside the document, whatever the line of the span and the context are. -/
theorem bounds_of_mem_lineNumbers {line context : Int} {count n : Nat}
    (h : n ∈ lineNumbers line context count) : 1 ≤ n ∧ n ≤ count := by
  rw [mem_lineNumbers_iff] at h
  unfold firstLine lastLine at h
  omega

/-- The lines around one that is there, one after the other. -/
theorem lineNumbers_natCast {line : Nat} (context count : Nat) :
    lineNumbers line context count = List.range' (max (line - context) 1)
      (min (line + context) count + 1 - max (line - context) 1) := by
  have hfirst : (firstLine line context).toNat = max (line - context) 1 := by
    unfold firstLine
    omega
  have hlast : (lastLine line context count).toNat = min (line + context) count := by
    unfold lastLine
    omega
  unfold lineNumbers
  simp only [hfirst, hlast]
  exact List.range'_eq_map_range.symm

/-! ### Rows -/

/-- **What stands in front of the text of a line:** the mark or a blank, and the number. -/
def margin (width : Nat) (marked : Bool) (number : Nat) : List Char :=
  (if marked then mark else ' ') :: ' ' :: rightAligned width number ++ [' ', '|', ' ']

/-- **The rows of a view:** the lines with the given numbers, each behind its margin. -/
def rows (lines : List (List Char)) (line : Int) (width : Nat) (numbers : List Nat) :
    List (List Char) :=
  numbers.map fun (n : Nat) => margin width (n = line) n ++ lines.getD (n - 1) []

theorem head?_margin_iff {width n : Nat} {marked : Bool} :
    (margin width marked n).head? = some mark ↔ marked = true := by
  have hblank : ' ' ≠ mark := by decide
  cases marked <;> simp [margin, hblank]

theorem length_toDigits_mono {m n : Nat} (h : m ≤ n) :
    (Nat.toDigits 10 m).length ≤ (Nat.toDigits 10 n).length := by
  have hpos : 0 < (Nat.toDigits 10 n).length := Nat.length_toDigits_pos
  have hn : n < 10 ^ (Nat.toDigits 10 n).length :=
    (Nat.length_toDigits_le_iff (by omega) hpos).mp (Nat.le_refl _)
  exact (Nat.length_toDigits_le_iff (by omega) hpos).mpr (by omega)

/-- **The margin of a number** that is not above the one that the width is taken from. -/
theorem length_margin {n last : Nat} (h : n ≤ last) (marked : Bool) :
    (margin (Nat.toDigits 10 last).length marked n).length = (Nat.toDigits 10 last).length + 5 := by
  have hle := length_toDigits_mono h
  unfold margin rightAligned
  simp only [List.length_append, List.length_cons, List.length_replicate, List.length_nil]
  omega

/-- **A view as a header and rows.** -/
theorem render_eq_rows (h : Highlighter) (path : String) (cs : List Char) (s : Span)
    (context : Int) (style : Option Style) :
    render h path cs s context style = headerLine path s :: rows (shownLines h path cs style) s.line
      (Nat.toDigits 10 (lastLine s.line context (shownLines h path cs style).length).toNat).length
      (lineNumbers s.line context (shownLines h path cs style).length) := by
  unfold render contextLines rows
  refine congrArg (headerLine path s :: ·) (List.map_congr_left fun n _ => ?_)
  unfold numberedLine margin
  simp only [List.append_assoc, List.cons_append]

/-- Colours do not change how many lines there are. -/
theorem length_shownLines (h : Highlighter) (path : String) (cs : List Char)
    (style : Option Style) : (shownLines h path cs style).length = (Text.feedLines cs).length := by
  unfold shownLines
  rcases style with _ | style
  · rfl
  · simp only
    split
    · assumption
    · rfl

/-! ### Views -/

theorem headerLine_natCast {path : String} {s : Span} {line column : Nat} (hline : s.line = line)
    (hcolumn : s.column = column) : headerLine path s =
      (path ++ ":" ++ toString line ++ ":" ++ toString column).toList := by
  unfold headerLine
  rw [hline, hcolumn]
  rfl

/-- A view without colours, of a span that is in the document. -/
theorem render_natCast (h : Highlighter) (path : String) (cs : List Char) {s : Span}
    {line : Nat} (hline : s.line = line) (context : Nat) :
    render h path cs s context none = headerLine path s :: rows (Text.feedLines cs) line
      (Nat.toDigits 10 (min (line + context) (Text.feedLines cs).length)).length
      (lineNumbers line context (Text.feedLines cs).length) := by
  have hlast (count : Nat) : (lastLine line context count).toNat = min (line + context) count := by
    unfold lastLine
    omega
  rw [render_eq_rows, hline, hlast]
  rfl

/-- **The view of a character of a document.** Its header has the path, the line and the column; the
line is one of the document, and the character stands in it at the column, or is the line feed at
its end. Then come the lines around it, as far as the document has them, each once and in order. One
of them has the mark, namely that line, and the texts of all begin at the same place. In a view of
any span with any context, in colours or not, no line is looked up outside the document. -/
theorem view_of_offset (h : Highlighter) (path : String) (cs : List Char) :
    (∀ (start : Nat) (stop : Int) (context : Nat), start < cs.length →
      let span := Span.between cs start stop
      let lines := Text.feedLines cs
      ∃ (line column : Nat) (here : List Char),
        span.line = line ∧ span.column = column ∧ 1 ≤ line ∧ 1 ≤ column ∧
        lines[line - 1]? = some here ∧
        (here[column - 1]? = cs[start]? ∨ cs[start]? = some '\n' ∧ column - 1 = here.length) ∧
        let first := max (line - context) 1
        let last := min (line + context) lines.length
        let numbers := List.range' first (last + 1 - first)
        let width := (Nat.toDigits 10 last).length
        render h path cs span context none =
          (path ++ ":" ++ toString line ++ ":" ++ toString column).toList ::
            rows lines line width numbers ∧
        (∀ n ∈ numbers, 1 ≤ n ∧ n ≤ lines.length) ∧ line ∈ numbers ∧
        ∀ n ∈ numbers, ((margin width ((n : Int) = line) n).head? = some mark ↔ n = line) ∧
          (margin width ((n : Int) = line) n).length = width + 5) ∧
    ∀ (span : Span) (context : Int) (style : Option Style),
      (shownLines h path cs style).length = (Text.feedLines cs).length ∧
      ∃ width numbers, render h path cs span context style =
          headerLine path span :: rows (shownLines h path cs style) span.line width numbers ∧
        ∀ n ∈ numbers, 1 ≤ n ∧ n ≤ (shownLines h path cs style).length := by
  constructor
  · intro start stop context hstart span lines
    obtain ⟨here, hhere, hcolumn⟩ := Span.line_of_between hstart
    have hline := Span.between_line cs (Nat.le_of_lt hstart) stop
    have hcol := Span.between_column cs (Nat.le_of_lt hstart) stop
    have hle : (cs.take start).count '\n' + 1 ≤ lines.length :=
      (List.getElem?_eq_some_iff.mp hhere).1
    have hpos : 1 ≤ (cs.take start).count '\n' + 1 := Nat.succ_pos _
    refine ⟨_, _, here, hline, hcol, hpos, Nat.succ_pos _, hhere, hcolumn, ?_⟩
    generalize (cs.take start).count '\n' + 1 = line at hline hle hpos ⊢
    intro first last numbers width
    have hnumbers : lineNumbers line context lines.length = numbers := lineNumbers_natCast ..
    have hmem (n : Nat) : n ∈ numbers ↔ first ≤ n ∧ n ≤ last := by
      rw [← hnumbers, mem_lineNumbers_iff]
      unfold firstLine lastLine
      omega
    refine ⟨?_, fun n hn => bounds_of_mem_lineNumbers (hnumbers ▸ hn), ?_, fun n hn => ⟨?_, ?_⟩⟩
    · rw [render_natCast h path cs hline, headerLine_natCast hline hcol, hnumbers]
    · rw [hmem]
      omega
    · rw [head?_margin_iff, decide_eq_true_iff, Int.ofNat_inj]
    · exact length_margin ((hmem n).mp hn).2 _
  · intro span context style
    exact ⟨length_shownLines h path cs style, _, _, render_eq_rows h path cs span context style,
      fun n hn => bounds_of_mem_lineNumbers hn⟩

/-- A document of ten lines, of which all but the last are empty. -/
def tenLines : List Char := List.replicate 9 '\n' ++ ['x']

/-- The view of the line feed that ends the ninth line, where the numbers become wider. -/
theorem view_of_offset_in_tenLines :
    render .small "d" tenLines (Span.between tenLines 8 9) 1 none =
      ["d:9:1".toList, "   8 | ".toList, ">  9 | ".toList, "  10 | x".toList] := by
  obtain ⟨line, column, here, hline, hcolumn, -, -, -, -, hrender, -⟩ :=
    (view_of_offset .small "d" tenLines).1 8 9 1 (by decide)
  have hnine : (Span.between tenLines (8 : Nat) 9).line = 9 := by decide
  have hone : (Span.between tenLines (8 : Nat) 9).column = 1 := by decide
  obtain rfl : line = 9 := Int.ofNat_inj.mp (hline.symm.trans hnine)
  obtain rfl : column = 1 := Int.ofNat_inj.mp (hcolumn.symm.trans hone)
  exact hrender.trans (by decide)

end CrossRef.View

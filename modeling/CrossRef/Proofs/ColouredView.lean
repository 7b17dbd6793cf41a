import CrossRef.Proofs.ContextView
import CrossRef.Proofs.DocumentHead
import CrossRef.Proofs.Trimming

/-! # The view in colours

A document in colours is the document with escape sequences in it. Taking the sequences out again
gives the document back, line by line, so that the view in colours shows next to each number what
the plain view shows there.

The lines of the two are counted apart: one text is cut at its line feeds and the other is cut into
tokens, coloured and then cut. They agree since a colour is put around a stretch of text within one
line and never around nothing, and so no line feed and no empty line is coloured (`Painted`).

* `uncoloured`: a text without its escape sequences.
* `painted_tokens`, `painted_coloured`: what is coloured are the texts of the tokens, and so the
  text without its byte order mark, its last line ended.
* `Painted.forall₂_feedLines`: a painted text has as many lines as the text, each painted.
* `coloured_view_agrees`: what follows for the two views of a document. -/

namespace CrossRef

/-! ### Lines that are ended -/

namespace Text

theorem unixLines_of_not_mem {cs : List Char} (h : '\r' ∉ cs) : unixLines cs = cs := by
  fun_induction unixLines cs with
  | case1 => rfl
  | case2 cs _ => exact absurd (List.mem_cons_self ..) h
  | case3 c cs _ ih =>
    rw [List.mem_cons, not_or] at h
    rw [if_neg (Ne.symm h.1), ih h.2]

/-- What has no line feed in it goes to the front of the first piece. -/
theorem cutAtFeeds_append_of_not_mem {front : List Char} (h : '\n' ∉ front) (cs : List Char) :
    ∃ p ps, cutAtFeeds cs = p :: ps ∧ cutAtFeeds (front ++ cs) = (front ++ p) :: ps := by
  induction front with
  | nil =>
    obtain ⟨p, ps, hps, -⟩ := cutAtFeeds_cons '\n' cs
    exact ⟨p, ps, hps, hps⟩
  | cons c front ih =>
    rw [List.mem_cons, not_or] at h
    obtain ⟨p, ps, hps, hfront⟩ := ih h.2
    obtain ⟨q, qs, hqs, hcons⟩ := cutAtFeeds_cons c (front ++ cs)
    obtain ⟨rfl, rfl⟩ := List.cons.inj (hqs.symm.trans hfront)
    exact ⟨p, _, hps, by rw [List.cons_append, hcons, if_neg (Ne.symm h.1), List.cons_append]⟩

theorem cutAtFeeds_concat_feed : ∀ cs : List Char,
    cutAtFeeds (cs ++ ['\n']) = cutAtFeeds cs ++ [[]]
  | [] => rfl
  | c :: cs => by
    obtain ⟨p, ps, hps, hcons⟩ := cutAtFeeds_cons c cs
    obtain ⟨q, qs, hqs, hcons'⟩ := cutAtFeeds_cons c (cs ++ ['\n'])
    rw [cutAtFeeds_concat_feed cs, hps] at hqs
    obtain ⟨rfl, rfl⟩ := List.cons.inj hqs
    rw [List.cons_append, hcons', hcons]
    split <;> rfl

theorem getLast?_cutAtFeeds_concat {c : Char} (hc : c ≠ '\n') : ∀ cs : List Char,
    (cutAtFeeds (cs ++ [c])).getLast? ≠ some []
  | [] => by simp [cutAtFeeds, cutAt, consPiece, hc]
  | d :: cs => by
    have ih := getLast?_cutAtFeeds_concat hc cs
    obtain ⟨p, ps, hps, hcons⟩ := cutAtFeeds_cons d (cs ++ [c])
    rw [hps] at ih
    rw [List.cons_append, hcons]
    split
    · rwa [List.getLast?_cons_cons]
    · rcases ps with _ | ⟨q, qs⟩
      · simp
      · rwa [List.getLast?_cons_cons] at ih ⊢

/-- **The lines of a text that ends with a line feed** are the pieces before it. -/
theorem feedLines_concat_feed (cs : List Char) : feedLines (cs ++ ['\n']) = cutAtFeeds cs := by
  unfold feedLines
  simp only [cutAtFeeds_concat_feed, List.getLast?_concat, if_true, List.dropLast_concat]

/-- A text whose last line is ended. -/
def ended (cs : List Char) : List Char := if cs.getLast? = some '\n' then cs else cs ++ ['\n']

theorem ended_eq_concat (cs : List Char) : ∃ body, ended cs = body ++ ['\n'] := by
  unfold ended
  split
  · next hlast => exact List.getLast?_eq_some_iff.mp hlast
  · exact ⟨cs, rfl⟩

theorem ended_cons {c : Char} (hc : c ≠ '\n') (cs : List Char) :
    ended (c :: cs) = c :: ended cs := by
  have hlast : (c :: cs).getLast? = some '\n' ↔ cs.getLast? = some '\n' := by
    rcases cs with _ | ⟨d, cs⟩
    · simp [hc]
    · rw [List.getLast?_cons_cons]
  unfold ended
  rw [if_congr hlast rfl rfl]
  split <;> rfl

theorem mem_of_mem_ended {c : Char} {cs : List Char} (h : c ∈ ended cs) : c ∈ cs ∨ c = '\n' := by
  unfold ended at h
  split at h
  · exact Or.inl h
  · rwa [List.mem_append, List.mem_singleton] at h

/-- Ending the last line adds no line, unless there is none at all. -/
theorem feedLines_ended {cs : List Char} (h : cs ≠ []) : feedLines (ended cs) = feedLines cs := by
  unfold ended
  split
  · rfl
  · next hlast =>
    obtain ⟨body, c, rfl⟩ := (List.eq_nil_or_concat' cs).resolve_left h
    have hc : c ≠ '\n' := by
      rintro rfl
      exact hlast List.getLast?_concat
    rw [feedLines_concat_feed]
    unfold feedLines
    simp only [if_neg (getLast?_cutAtFeeds_concat hc body)]

/-- A character in front goes to the front of the first line. -/
theorem feedLines_ended_cons {c : Char} (hc : c ≠ '\n') (cs : List Char) :
    ∃ l ls, feedLines (ended cs) = l :: ls ∧ feedLines (ended (c :: cs)) = (c :: l) :: ls := by
  obtain ⟨body, hbody⟩ := ended_eq_concat cs
  obtain ⟨l, ls, hl, hcons⟩ := cutAtFeeds_cons c body
  refine ⟨l, ls, ?_, ?_⟩
  · rw [hbody, feedLines_concat_feed, hl]
  · rw [ended_cons hc, hbody, ← List.cons_append, feedLines_concat_feed, hcons, if_neg hc]

theorem feedLines_ended_feed (cs : List Char) :
    ∃ ls, feedLines (ended ('\n' :: cs)) = [] :: ls := by
  rcases cs with _ | ⟨d, cs⟩
  · exact ⟨[], rfl⟩
  · obtain ⟨body, hbody⟩ := ended_eq_concat (d :: cs)
    obtain ⟨l, ls, -, hcons⟩ := cutAtFeeds_cons '\n' body
    have hended : ended ('\n' :: d :: cs) = '\n' :: body ++ ['\n'] := by
      rw [List.cons_append, ← hbody]
      unfold ended
      rw [List.getLast?_cons_cons]
      split <;> rfl
    rw [hended, feedLines_concat_feed, hcons, if_pos rfl]
    exact ⟨l :: ls, rfl⟩

end Text

namespace View

/-! ### Escape sequences -/

/-- The character can stand in the parameters of an escape sequence. -/
def isParameter (c : Char) : Bool := c.isDigit || c == ';'

/-- The text is one escape sequence that sets colours. -/
def IsSequence (cs : List Char) : Prop :=
  ∃ parameters : String, (∀ c ∈ parameters.toList, isParameter c = true) ∧
    cs = escapeSequence parameters

/-- **A style that only colours:** what it puts around a text are escape sequences. -/
def Style.IsColouring (style : Style) : Prop :=
  ∀ kind c, style kind = some c → IsSequence c.on ∧ IsSequence c.off

/-- The length of the escape sequence that a text begins with; zero if it begins with none. -/
def sequenceLength : List Char → Nat
  | '\x1b' :: '[' :: cs =>
    if (cs.dropWhile isParameter).head? = some 'm' then (cs.takeWhile isParameter).length + 3 else 0
  | _ => 0

/-- A text without its escape sequences, where the first `skip` characters belong to one that began
before. -/
def uncolouredFrom : Nat → List Char → List Char
  | _, [] => []
  | skip + 1, _ :: cs => uncolouredFrom skip cs
  | 0, c :: cs =>
    match sequenceLength (c :: cs) with
    | 0 => c :: uncolouredFrom 0 cs
    | n + 1 => uncolouredFrom n cs

/-- **A text without its escape sequences.** -/
def uncoloured (cs : List Char) : List Char := uncolouredFrom 0 cs

theorem uncolouredFrom_eq_drop : ∀ (skip : Nat) (cs : List Char),
    uncolouredFrom skip cs = uncoloured (cs.drop skip)
  | 0, _ => rfl
  | _ + 1, [] => rfl
  | skip + 1, _ :: cs => by
    rw [uncolouredFrom, List.drop_succ_cons]
    exact uncolouredFrom_eq_drop skip cs

theorem uncoloured_cons_of_ne {c : Char} (hc : c ≠ '\x1b') (cs : List Char) :
    uncoloured (c :: cs) = c :: uncoloured cs := by
  have hzero : sequenceLength (c :: cs) = 0 := by
    unfold sequenceLength
    split
    · next heq => exact absurd (List.cons.inj heq).1 hc
    · rfl
  simp only [uncoloured, uncolouredFrom, hzero]

theorem uncoloured_append_of_not_mem {front : List Char} (h : '\x1b' ∉ front) (cs : List Char) :
    uncoloured (front ++ cs) = front ++ uncoloured cs := by
  induction front with
  | nil => rfl
  | cons c front ih =>
    rw [List.mem_cons, not_or] at h
    rw [List.cons_append, uncoloured_cons_of_ne (Ne.symm h.1), ih h.2, List.cons_append]

theorem uncoloured_of_not_mem {cs : List Char} (h : '\x1b' ∉ cs) : uncoloured cs = cs := by
  simpa [uncoloured, uncolouredFrom] using uncoloured_append_of_not_mem h []

theorem uncoloured_of_sequenceLength {cs : List Char} {n : Nat} (h : sequenceLength cs = n + 1) :
    uncoloured cs = uncoloured (cs.drop (n + 1)) := by
  rcases cs with _ | ⟨c, cs⟩
  · cases h
  · simp only [uncoloured, uncolouredFrom, h, List.drop_succ_cons]
    exact uncolouredFrom_eq_drop n cs

theorem IsSequence.uncoloured_append {sequence : List Char} (h : IsSequence sequence)
    (cs : List Char) : uncoloured (sequence ++ cs) = uncoloured cs := by
  obtain ⟨parameters, hparameters, rfl⟩ := h
  have hend : ∀ c ∈ ('m' :: cs).head?, isParameter c = false := by
    rintro c ⟨⟩
    decide
  have hlength : sequenceLength (escapeSequence parameters ++ cs) =
      parameters.toList.length + 2 + 1 := by
    simp only [escapeSequence, List.cons_append, List.append_assoc, List.nil_append, sequenceLength,
      Text.takeWhile_of_cut hparameters hend, Text.dropWhile_of_cut hparameters hend]
    rfl
  have hdrop : (escapeSequence parameters ++ cs).drop (parameters.toList.length + 2 + 1) = cs :=
    List.drop_left' (by simp [escapeSequence])
  rw [uncoloured_of_sequenceLength hlength, hdrop]

theorem IsSequence.not_mem_feed {sequence : List Char} (h : IsSequence sequence) :
    '\n' ∉ sequence := by
  obtain ⟨parameters, hparameters, rfl⟩ := h
  have hfeed : '\n' ∉ parameters.toList := fun hmem => absurd (hparameters _ hmem) (by decide)
  simp [escapeSequence, hfeed]

/-! ### Painted texts -/

/-- **A painted text,** and the text that was painted. A stretch that is painted is not empty and
lies within one line; escape sequences stand around it. All else is left bare. -/
inductive Painted : List Char → List Char → Prop where
  | nil : Painted [] []
  | bare {c : Char} {cs ps : List Char} (hc : c ≠ '\x1b') (h : Painted cs ps) :
      Painted (c :: cs) (c :: ps)
  | around {on stretch off cs ps : List Char} (hon : IsSequence on) (hoff : IsSequence off)
      (hne : stretch ≠ []) (hplain : '\x1b' ∉ stretch) (hline : '\n' ∉ stretch)
      (h : Painted cs ps) : Painted (on ++ stretch ++ off ++ cs) (stretch ++ ps)

theorem painted_self {cs : List Char} (h : '\x1b' ∉ cs) : Painted cs cs := by
  induction cs with
  | nil => exact .nil
  | cons c cs ih =>
    rw [List.mem_cons, not_or] at h
    exact .bare (Ne.symm h.1) (ih h.2)

namespace Painted

theorem append {cs ps cs' ps' : List Char} (h : Painted cs ps) (h' : Painted cs' ps') :
    Painted (cs ++ cs') (ps ++ ps') := by
  induction h with
  | nil => exact h'
  | bare hc _ ih => exact .bare hc ih
  | around hon hoff hne hplain hline _ ih =>
    rw [List.append_assoc _ _ cs', List.append_assoc _ _ ps']
    exact .around hon hoff hne hplain hline ih

/-- **Taking the escape sequences out of a painted text gives the text back.** -/
theorem uncoloured_eq {cs ps : List Char} (h : Painted cs ps) : uncoloured cs = ps := by
  induction h with
  | nil => rfl
  | bare hc _ ih => rw [uncoloured_cons_of_ne hc, ih]
  | around hon hoff _ hplain _ _ ih =>
    rw [List.append_assoc, List.append_assoc, hon.uncoloured_append,
      uncoloured_append_of_not_mem hplain, hoff.uncoloured_append, ih]

theorem eq_nil_iff {cs ps : List Char} (h : Painted cs ps) : cs = [] ↔ ps = [] := by
  cases h with
  | nil => exact Iff.rfl
  | bare => simp
  | around _ _ hne => simp [hne]

/-- **The pieces of a painted text between line feeds** are the painted pieces of the text. -/
theorem forall₂_cutAtFeeds {cs ps : List Char} (h : Painted cs ps) :
    List.Forall₂ Painted (Text.cutAtFeeds cs) (Text.cutAtFeeds ps) := by
  induction h with
  | nil => exact .cons .nil .nil
  | @bare c cs ps hc _ ih =>
    obtain ⟨l, ls, hl, hcs⟩ := Text.cutAtFeeds_cons c cs
    obtain ⟨q, qs, hq, hps⟩ := Text.cutAtFeeds_cons c ps
    rw [hl, hq] at ih
    rw [hcs, hps]
    by_cases hfeed : c = '\n'
    · rw [if_pos hfeed, if_pos hfeed]
      exact .cons .nil ih
    · rw [if_neg hfeed, if_neg hfeed]
      cases ih with
      | cons hhead htail => exact .cons (.bare hc hhead) htail
  | @around on stretch off cs ps hon hoff hne hplain hline _ ih =>
    have hwhole : '\n' ∉ on ++ stretch ++ off := by
      simp [hon.not_mem_feed, hoff.not_mem_feed, hline]
    obtain ⟨l, ls, hl, hcs⟩ := Text.cutAtFeeds_append_of_not_mem hwhole cs
    obtain ⟨q, qs, hq, hps⟩ := Text.cutAtFeeds_append_of_not_mem hline ps
    rw [hl, hq] at ih
    rw [hcs, hps]
    cases ih with
    | cons hhead htail => exact .cons (.around hon hoff hne hplain hline hhead) htail

theorem getLast?_eq_nil_iff {ls qs : List (List Char)} (h : List.Forall₂ Painted ls qs) :
    ls.getLast? = some [] ↔ qs.getLast? = some [] := by
  induction h with
  | nil => exact Iff.rfl
  | cons hhead htail ih =>
    cases htail with
    | nil => simpa using hhead.eq_nil_iff
    | cons _ _ => simpa only [List.getLast?_cons_cons] using ih

/-- **A painted text has as many lines as the text,** each of them painted. -/
theorem forall₂_feedLines {cs ps : List Char} (h : Painted cs ps) :
    List.Forall₂ Painted (Text.feedLines cs) (Text.feedLines ps) := by
  have hpieces := h.forall₂_cutAtFeeds
  unfold Text.feedLines
  simp only [getLast?_eq_nil_iff hpieces]
  split
  · rw [List.dropLast_eq_take, List.dropLast_eq_take, hpieces.length_eq]
    exact List.forall₂_take _ hpieces
  · exact hpieces

end Painted

/-! ### Coloured texts -/

theorem painted_colouredLine {c : Option Colour} {line : List Char}
    (hc : ∀ colour, c = some colour → IsSequence colour.on ∧ IsSequence colour.off)
    (hplain : '\x1b' ∉ line) (hline : '\n' ∉ line) : Painted (colouredLine c line) line := by
  unfold colouredLine
  split
  · exact painted_self hplain
  · next colour =>
    obtain ⟨hon, hoff⟩ := hc colour rfl
    split
    · next hnil =>
      rw [List.isEmpty_iff.mp hnil]
      exact .nil
    · next hne =>
      have h := Painted.around hon hoff (mt List.isEmpty_iff.mpr hne) hplain hline .nil
      rwa [List.append_nil, List.append_nil] at h

theorem painted_joinLines {ls qs : List (List Char)} (h : List.Forall₂ Painted ls qs) :
    Painted (joinLines ls) (joinLines qs) := by
  induction h with
  | nil => exact .nil
  | cons hhead htail ih =>
    cases htail with
    | nil => exact hhead
    | cons _ _ => exact hhead.append (.bare (by decide) ih)

theorem joinLines_cons_cons (l q : List Char) (qs : List (List Char)) :
    joinLines (l :: q :: qs) = l ++ '\n' :: joinLines (q :: qs) := rfl

theorem joinLines_cutAtFeeds : ∀ cs : List Char, joinLines (Text.cutAtFeeds cs) = cs
  | [] => rfl
  | c :: cs => by
    have ih := joinLines_cutAtFeeds cs
    obtain ⟨p, ps, hps, hcons⟩ := Text.cutAtFeeds_cons c cs
    rw [hps] at ih
    rw [hcons]
    split
    · next hc => rw [joinLines_cons_cons, ih, hc, List.nil_append]
    · rcases ps with _ | ⟨q, qs⟩
      · exact congrArg (c :: ·) ih
      · rw [joinLines_cons_cons] at ih ⊢
        rw [List.cons_append, ih]

theorem painted_colouredToken {style : Style} (hstyle : style.IsColouring) {t : Token}
    (hplain : '\x1b' ∉ t.text) : Painted (colouredToken style t) t.text := by
  have hlines : List.Forall₂ Painted
      ((Text.cutAtFeeds t.text).map (colouredLine (style t.kind))) (Text.cutAtFeeds t.text) := by
    rw [List.forall₂_map_left_iff, List.forall₂_same]
    intro line hline
    rw [Text.cutAtFeeds, Text.cutAt_eq_splitOnP] at hline
    refine painted_colouredLine (hstyle t.kind) (fun hmem => ?_) fun hmem => ?_
    · exact hplain (mem_of_mem_splitOnP hline hmem).1
    · exact absurd (mem_of_mem_splitOnP hline hmem).2 (by simp)
  have hjoined := painted_joinLines hlines
  rwa [joinLines_cutAtFeeds] at hjoined

/-- **Coloured tokens are painted:** it is their texts, one after the other, that were painted. -/
theorem painted_tokens {style : Style} (hstyle : style.IsColouring) : ∀ {ts : List Token},
    '\x1b' ∉ ts.flatMap (·.text) →
      Painted (ts.flatMap (colouredToken style)) (ts.flatMap (·.text))
  | [], _ => .nil
  | t :: ts, h => by
    rw [List.flatMap_cons, List.mem_append, not_or] at h
    exact (painted_colouredToken hstyle h.1).append (painted_tokens hstyle h.2)

/-- **A text in colours is painted:** it is the text without its byte order mark, with its last line
ended, that was painted, if the lexer loses nothing of it. -/
theorem painted_coloured {style : Style} (hstyle : style.IsColouring) {l : Lexer} {cs : List Char}
    (hkeeps : l.Keeps cs) (hplain : '\x1b' ∉ prepared cs) :
    Painted (coloured style l cs) (prepared cs) := by
  unfold Lexer.Keeps at hkeeps
  rw [← hkeeps] at hplain ⊢
  exact painted_tokens hstyle hplain

theorem mem_of_mem_dropMark {c : Char} {cs : List Char} (h : c ∈ dropMark cs) : c ∈ cs := by
  unfold dropMark at h
  split at h
  · exact List.mem_cons_of_mem _ h
  · exact h

theorem prepared_eq {cs : List Char} (h : '\r' ∉ cs) : prepared cs = Text.ended (dropMark cs) := by
  have hmark : '\r' ∉ dropMark cs := mt mem_of_mem_dropMark h
  unfold prepared
  rw [Text.unixLines_of_not_mem hmark]
  rfl

/-- The lines that are painted are those of the text, the first one without a byte order mark. -/
theorem feedLines_prepared {cs : List Char} (hne : cs ≠ []) (hreturn : '\r' ∉ cs) :
    Text.feedLines (prepared cs) = (Text.feedLines cs).modifyHead dropMark := by
  rw [prepared_eq hreturn, ← Text.feedLines_ended hne]
  obtain ⟨c, rest, rfl⟩ := List.exists_cons_of_ne_nil hne
  by_cases hfeed : c = '\n'
  · subst hfeed
    obtain ⟨ls, hls⟩ := Text.feedLines_ended_feed rest
    rw [dropMark_cons_of_ne (by decide), hls]
    rfl
  · obtain ⟨l, ls, hrest, hcons⟩ := Text.feedLines_ended_cons hfeed rest
    rw [hcons, List.modifyHead_cons]
    by_cases hmark : c = '\uFEFF'
    · subst hmark
      exact hrest
    · rw [dropMark_cons_of_ne hmark, dropMark_cons_of_ne hmark, hcons]

/-- **The lines of a document in colours** are, without the escape sequences, those of the document,
the first one without a byte order mark. -/
theorem map_uncoloured_colouredLines {h : Highlighter} {style : Style}
    (hstyle : style.IsColouring) {path : String} {cs : List Char}
    (hkeeps : (h.lexerFor path cs).Keeps cs) (hne : cs ≠ []) (hreturn : '\r' ∉ cs)
    (hplain : '\x1b' ∉ cs) : (colouredLines h style path cs).map uncoloured =
      (Text.feedLines cs).modifyHead dropMark := by
  have hprepared : '\x1b' ∉ prepared cs := by
    rw [prepared_eq hreturn]
    intro hmem
    rcases Text.mem_of_mem_ended hmem with hmem | hmem
    · exact hplain (mem_of_mem_dropMark hmem)
    · exact absurd hmem (by decide)
  have hlines := (painted_coloured hstyle hkeeps hprepared).forall₂_feedLines
  rw [feedLines_prepared hne hreturn] at hlines
  refine List.forall₂_eq_eq_eq ▸ List.forall₂_map_left_iff.mpr (hlines.imp fun l q h => ?_)
  exact h.uncoloured_eq

/-! ### Styles -/

theorem isSequence_of_all {parameters : String} (h : parameters.toList.all isParameter = true) :
    IsSequence (escapeSequence parameters) := ⟨parameters, List.all_eq_true.mp h, rfl⟩

theorem isColouring_defaultStyle : defaultStyle.IsColouring := by
  intro kind c h
  cases kind <;> cases h <;> exact ⟨isSequence_of_all (by decide), isSequence_of_all (by decide)⟩

theorem isColouring_of_smallStyle {v : Value} {style : Style} (h : smallStyle v = .ok style) :
    style.IsColouring := by
  have hnone : colourless.IsColouring := fun _ _ => nofun
  unfold smallStyle at h
  split at h
  · split at h
    · cases h
      exact isColouring_defaultStyle
    · split at h
      · cases h
        exact hnone
      · cases h
  · cases h
    exact hnone
  · cases h
    exact hnone
  all_goals cases h

/-! ### Highlighters -/

/-- **A lawful highlighter:** its lexers lose nothing of a text, and its styles only colour. -/
structure Highlighter.Lawful (h : Highlighter) : Prop where
  keeps : ∀ path cs, (h.lexerFor path cs).Keeps cs
  colours : ∀ v style, h.style v = .ok style → style.IsColouring

/-- The lexer of a document is one of those that a highlighter has. -/
theorem lexerFor_cases (h : Highlighter) (path : String) (cs : List Char) :
    h.lexerFor path cs ∈ [h.xml, h.sgml, h.text] ∨
      h.named? path = some (h.lexerFor path cs) := by
  unfold Highlighter.lexerFor languageOf
  split
  · simp
  · split
    · next hnamed => exact .inr hnamed
    · split <;> simp

theorem lawful_small : Highlighter.small.Lawful where
  keeps path cs := by
    rcases lexerFor_cases .small path cs with hmem | hnamed
    · simp only [List.mem_cons, List.not_mem_nil, or_false] at hmem
      rcases hmem with hlexer | hlexer | hlexer <;> rw [hlexer] <;> exact Grammar.keeps _ cs
    · obtain ⟨g, -, hg⟩ := Option.map_eq_some_iff.mp hnamed
      rw [← hg]
      exact g.keeps cs
  colours _ _ := isColouring_of_smallStyle

/-! ### Views -/

theorem not_mem_toDigits (n : Nat) : '\x1b' ∉ Nat.toDigits 10 n := fun hmem =>
  absurd (Nat.isDigit_of_mem_toDigits (by omega) (by omega) hmem) (by decide)

theorem not_mem_margin (width n : Nat) (marked : Bool) : '\x1b' ∉ margin width marked n := by
  cases marked <;> simp [margin, rightAligned, mark, not_mem_toDigits]

theorem not_mem_headerLine {path : String} (h : '\x1b' ∉ path.toList) (s : Span) :
    '\x1b' ∉ headerLine path s := by
  have hnumber (i : Int) : '\x1b' ∉ i.repr.toList := by
    rcases i with n | n <;> simp [Int.repr, not_mem_toDigits]
  simp [headerLine, h, hnumber]

/-- If the document in colours has as many lines, they are shown. -/
theorem shownLines_of_length {h : Highlighter} {style : Style} {path : String} {cs : List Char}
    (hlength : (colouredLines h style path cs).length = (Text.feedLines cs).length) :
    shownLines h path cs (some style) = colouredLines h style path cs := if_pos hlength

theorem map_uncoloured_rows (lines : List (List Char)) (line : Int) (width : Nat)
    (numbers : List Nat) : (rows lines line width numbers).map uncoloured =
      rows (lines.map uncoloured) line width numbers := by
  unfold rows
  rw [List.map_map]
  refine List.map_congr_left fun n _ => ?_
  rw [Function.comp_apply, uncoloured_append_of_not_mem (not_mem_margin width n _),
    List.getD_eq_getElem?_getD, List.getD_eq_getElem?_getD, List.getElem?_map]
  rcases lines[n - 1]? with _ | l <;> rfl

/-- **The view in colours and the plain one.** Both have the same header, the same number of rows
and the same margins. Where a style only colours, the lexer of the document loses nothing of it, and
the document is not empty and has neither carriage returns nor escapes in it, the document in colours
has as many lines as the document, so its lines are shown; and without the escape sequences each row
is the plain one, but for a byte order mark at the beginning of the document. The lexers and the
styles of the small highlighter are of that kind. -/
theorem coloured_view_agrees (h : Highlighter) (path : String) (cs : List Char) (s : Span)
    (context : Int) (style : Style) :
    let lines := Text.feedLines cs
    let width := (Nat.toDigits 10 (lastLine s.line context lines.length).toNat).length
    let numbers := lineNumbers s.line context lines.length
    let inColours := render h path cs s context (some style)
    let plain := render h path cs s context none
    (∃ shown, shown.length = lines.length ∧
      inColours = headerLine path s :: rows shown s.line width numbers) ∧
    plain = headerLine path s :: rows lines s.line width numbers ∧
    inColours.length = plain.length ∧
    (style.IsColouring → (h.lexerFor path cs).Keeps cs → cs ≠ [] → '\r' ∉ cs → '\x1b' ∉ cs →
      (colouredLines h style path cs).length = lines.length ∧
      inColours = headerLine path s :: rows (colouredLines h style path cs) s.line width numbers ∧
      inColours.tail.map uncoloured = rows (lines.modifyHead dropMark) s.line width numbers ∧
      (cs.head? ≠ some '\uFEFF' → inColours.tail.map uncoloured = plain.tail) ∧
      (cs.head? ≠ some '\uFEFF' → '\x1b' ∉ path.toList → inColours.map uncoloured = plain)) ∧
    Highlighter.small.Lawful := by
  intro lines width numbers inColours plain
  have hview (style : Option Style) : render h path cs s context style =
      headerLine path s :: rows (shownLines h path cs style) s.line width numbers := by
    rw [render_eq_rows, length_shownLines]
  have hplain : plain = headerLine path s :: rows lines s.line width numbers := hview none
  refine ⟨⟨_, length_shownLines .., hview _⟩, hplain, ?_, ?_, lawful_small⟩
  · rw [hplain, show inColours = _ from hview _, List.length_cons, List.length_cons]
    unfold rows
    rw [List.length_map, List.length_map]
  · intro hstyle hkeeps hne hreturn hescape
    have hlines := map_uncoloured_colouredLines hstyle hkeeps hne hreturn hescape
    have hlength : (colouredLines h style path cs).length = lines.length := by
      rw [← List.length_map uncoloured, hlines, List.length_modifyHead]
    have hshown : inColours =
        headerLine path s :: rows (colouredLines h style path cs) s.line width numbers := by
      rw [show inColours = _ from hview _, shownLines_of_length hlength]
    have hrows : inColours.tail.map uncoloured =
        rows (lines.modifyHead dropMark) s.line width numbers := by
      rw [hshown, List.tail_cons, map_uncoloured_rows, hlines]
    have hunmarked (hhead : cs.head? ≠ some '\uFEFF') : lines.modifyHead dropMark = lines := by
      obtain ⟨c, rest, rfl⟩ := List.exists_cons_of_ne_nil hne
      rw [← feedLines_prepared hne hreturn, prepared_eq hreturn,
        dropMark_cons_of_ne fun hc => hhead (congrArg some hc), Text.feedLines_ended hne]
    refine ⟨hlength, hshown, hrows, fun hhead => ?_, fun hhead hpath => ?_⟩
    · rw [hrows, hunmarked hhead, hplain, List.tail_cons]
    · rw [hshown, List.map_cons, uncoloured_of_not_mem (not_mem_headerLine hpath s),
        map_uncoloured_rows, hlines, hunmarked hhead, hplain]

/-- A document with a byte order mark, in which one comment runs over three lines, the second of
them empty. The last line is not ended. -/
def commentText : List Char := "\uFEFF<!--a\n\nb-->".toList

/-- The comment keeps its lines in colours: the empty line is the one with the mark. -/
theorem coloured_view_of_comment :
    defaultStyle.IsColouring ∧ (Highlighter.small.lexerFor "d.xml" commentText).Keeps commentText ∧
      commentText ≠ [] ∧ '\r' ∉ commentText ∧ '\x1b' ∉ commentText ∧
      (render .small "d.xml" commentText (Span.between commentText 7 8) 1
        (some defaultStyle)).tail.map uncoloured =
          ["  1 | <!--a".toList, "> 2 | ".toList, "  3 | b-->".toList] := by
  obtain ⟨-, -, -, hagrees, hlawful⟩ :=
    coloured_view_agrees .small "d.xml" commentText (Span.between commentText 7 8) 1 defaultStyle
  have hstyle : defaultStyle.IsColouring := hlawful.colours (.str "default") _ rfl
  have hkeeps := hlawful.keeps "d.xml" commentText
  have hne : commentText ≠ [] := by decide
  have hreturn : '\r' ∉ commentText := by decide
  have hescape : '\x1b' ∉ commentText := by decide
  obtain ⟨-, -, hrows, -⟩ := hagrees hstyle hkeeps hne hreturn hescape
  exact ⟨hstyle, hkeeps, hne, hreturn, hescape, hrows.trans (by decide)⟩

end View

end CrossRef

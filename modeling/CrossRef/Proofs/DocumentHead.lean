import CrossRef.Proofs.SessionRuns

/-! # The head of a document

Under the case policy `auto` a document decides itself whether its names are case-sensitive: they
are if it begins with an XML declaration. What comes before the declaration may be of any length,
and a build looks at the first `Session.headSize` characters only. Both ways of looking are compared
here through the *opening* of a text, which is all that has to be read of it: a byte order mark or
none, white space, the name of the declaration, and the character that ends the name.

* `XmlOpening`: the openings.
* `declaresXml_iff`: a text declares XML if an opening stands at its beginning.
* `XmlOpening.length_eq`: how long that opening is can be told from the text.
* `declaresXml_take_iff`: the head of a text declares XML if the opening fits into it.
* `declaresXml_take_eq_iff`: the head and the text agree unless an opening does not fit.
* `autoCase_looks_at_head`: what this means for a build. -/

namespace CrossRef

/-! ### Openings -/

/-- **The opening of an XML document:** a byte order mark or none, white space, `<?xml`, and white
space or a question mark. -/
def XmlOpening (o : List Char) : Prop :=
  ∃ mark blanks c, (mark = [] ∨ mark = ['\uFEFF']) ∧ (∀ b ∈ blanks, Text.isBlank b = true) ∧
    (Text.isBlank c = true ∨ c = '?') ∧ o = mark ++ blanks ++ "<?xml".toList ++ [c]

theorem afterLiteral?_eq_some_iff {pattern : String} {cs rest : List Char} :
    afterLiteral? pattern cs = some rest ↔ cs = pattern.toList ++ rest := by
  unfold afterLiteral?
  rw [Option.ite_none_right_eq_some, List.isPrefixOf_iff_prefix, ← String.length_toList]
  constructor
  · rintro ⟨⟨tail, rfl⟩, h⟩
    rw [List.drop_left, Option.some.injEq] at h
    rw [h]
  · rintro rfl
    exact ⟨List.prefix_append _ _, by rw [List.drop_left]⟩

theorem dropMark_cons_of_ne {c : Char} (h : c ≠ '\uFEFF') (cs : List Char) :
    dropMark (c :: cs) = c :: cs := by
  unfold dropMark
  split
  · next heq => exact absurd (List.cons.inj heq).1 h
  · rfl

/-- What comes before the name of the declaration is passed over. -/
theorem trimLeft_dropMark_opening {mark blanks : List Char}
    (hmark : mark = [] ∨ mark = ['\uFEFF']) (hblanks : ∀ b ∈ blanks, Text.isBlank b = true)
    (c : Char) (rest : List Char) :
    Text.trimLeft (dropMark (mark ++ blanks ++ "<?xml".toList ++ [c] ++ rest)) =
      "<?xml".toList ++ c :: rest := by
  have hdrop : dropMark (mark ++ blanks ++ "<?xml".toList ++ [c] ++ rest) =
      blanks ++ ("<?xml".toList ++ c :: rest) := by
    rcases hmark with rfl | rfl
    · -- without a mark the text begins with white space or with `<`
      rcases blanks with _ | ⟨b, blanks⟩
      · exact dropMark_cons_of_ne (by decide) _
      · have hb : b ≠ '\uFEFF' := by
          rintro rfl
          exact absurd (hblanks _ List.mem_cons_self) (by decide)
        simp [dropMark_cons_of_ne hb]
    · simp [dropMark]
  rw [hdrop, Text.trimLeft, List.dropWhile_append_of_pos hblanks]
  rfl

/-- A text is what its trimming leaves behind a byte order mark or none and white space. -/
theorem exists_eq_append_trimLeft (text : List Char) : ∃ mark blanks,
    (mark = [] ∨ mark = ['\uFEFF']) ∧ (∀ b ∈ blanks, Text.isBlank b = true) ∧
      text = mark ++ blanks ++ Text.trimLeft (dropMark text) := by
  obtain ⟨mark, hmark, htext⟩ : ∃ mark, (mark = [] ∨ mark = ['\uFEFF']) ∧
      text = mark ++ dropMark text := by
    unfold dropMark
    split
    · exact ⟨['\uFEFF'], Or.inr rfl, rfl⟩
    · exact ⟨[], Or.inl rfl, rfl⟩
  refine ⟨mark, (dropMark text).takeWhile Text.isBlank, hmark, fun b hb => ?_, ?_⟩
  · exact List.all_eq_true.mp List.all_takeWhile b hb
  · rw [Text.trimLeft, List.append_assoc, List.takeWhile_append_dropWhile, ← htext]

/-- **A text declares XML** if an opening stands at its beginning. -/
theorem declaresXml_iff {text : List Char} :
    declaresXml text = true ↔ ∃ o, XmlOpening o ∧ o <+: text := by
  constructor
  · intro h
    obtain ⟨mark, blanks, hmark, hblanks, htext⟩ := exists_eq_append_trimLeft text
    unfold declaresXml at h
    split at h
    · next c rest hafter =>
      refine ⟨mark ++ blanks ++ "<?xml".toList ++ [c], ⟨mark, blanks, c, hmark, hblanks, ?_, rfl⟩,
        rest, ?_⟩
      · simpa using h
      · rw [htext, afterLiteral?_eq_some_iff.mp hafter]
        simp
    · cases h
  · rintro ⟨_, ⟨mark, blanks, c, hmark, hblanks, hc, rfl⟩, rest, rfl⟩
    unfold declaresXml
    rw [trimLeft_dropMark_opening hmark hblanks, afterLiteral?_eq_some_iff.mpr rfl]
    simpa using hc

/-- The length of an opening is that of what is passed over in the text, and of six characters. -/
theorem XmlOpening.length_eq {o text : List Char} (ho : XmlOpening o) (h : o <+: text) :
    o.length + (Text.trimLeft (dropMark text)).length = text.length + 6 := by
  obtain ⟨mark, blanks, c, hmark, hblanks, -, rfl⟩ := ho
  obtain ⟨rest, rfl⟩ := h
  rw [trimLeft_dropMark_opening hmark hblanks]
  simp only [List.length_append, List.length_cons, List.length_nil]
  have hname : "<?xml".toList.length = 5 := rfl
  omega

/-- **The head of a text declares XML** if an opening at the beginning of the text fits into it. -/
theorem declaresXml_take_iff {n : Nat} {text : List Char} :
    declaresXml (text.take n) = true ↔ ∃ o, XmlOpening o ∧ o <+: text ∧ o.length ≤ n := by
  rw [declaresXml_iff]
  exact exists_congr fun o => and_congr_right fun _ => List.prefix_take_iff

/-- **The head of a text and the text agree** exactly if no opening is longer than the head. -/
theorem declaresXml_take_eq_iff {n : Nat} {text : List Char} :
    declaresXml (text.take n) = declaresXml text ↔
      ∀ o, XmlOpening o → o <+: text → o.length ≤ n := by
  rw [Bool.eq_iff_iff, declaresXml_take_iff, declaresXml_iff]
  constructor
  · intro h o ho hprefix
    obtain ⟨o', ho', hprefix', hle⟩ := h.mpr ⟨o, ho, hprefix⟩
    have := ho.length_eq hprefix
    have := ho'.length_eq hprefix'
    omega
  · intro h
    constructor
    · rintro ⟨o, ho, hprefix, -⟩
      exact ⟨o, ho, hprefix⟩
    · rintro ⟨o, ho, hprefix⟩
      exact ⟨o, ho, hprefix, h o ho hprefix⟩

/-! ### The case policy of a build -/

namespace Session

/-- **The document decides on the case policy:** the setting is the word `auto`, or is missing. -/
def AutoCase (s : Session) : Prop :=
  ∃ t word, MarkupParser.sectionOf s.settings "index" = .ok t ∧
    MarkupParser.getD t "case_sensitive" (.str "auto") = .str word ∧ Text.lower word = "auto"

theorem caseSensitive_of_auto {w : World} {s : Session} {text : List Char} (h : s.AutoCase)
    (htext : w.readText s.path = .ok text) :
    s.caseSensitive w = .ok (declaresXml (text.take headSize)) := by
  obtain ⟨t, word, ht, hword, hauto⟩ := h
  unfold caseSensitive looksLikeXml
  rw [ht, htext]
  simp only [bind, Except.bind, hword, hauto, if_true]

theorem caseSensitive_of_rebuild {w : World} {s : Session} {b : Build} {policy : Bool}
    (hpolicy : s.caseSensitive w = .ok policy) (hb : (s.rebuild w).1.outcome = .ok b) :
    b.index.caseSensitive = policy := by
  rw [rebuild_outcome, attempt_eq_ok_iff] at hb
  obtain ⟨events, policy', refuses, -, hpolicy', -, -, rfl⟩ := hb
  obtain rfl := Except.ok.inj (hpolicy'.symm.trans hpolicy)
  rw [Ownership.build_eq, Index.ofEntries_caseSensitive]

/-- **What a build under the case policy `auto` makes of a document.**

The policy is what the first 256 characters of the text say, and every build that succeeds gives an
index with it. So the index is case-sensitive exactly if the text begins with an opening that ends
among these characters. It is what the whole text says exactly if no opening of the text is longer;
the policy is never case-sensitive for a text that does not begin with an XML declaration. -/
theorem autoCase_looks_at_head {w : World} {s : Session} {text : List Char} (hauto : s.AutoCase)
    (htext : w.readText s.path = .ok text) :
    ∃ policy, s.caseSensitive w = .ok policy ∧
      (∀ b, (s.rebuild w).1.outcome = .ok b → b.index.caseSensitive = policy) ∧
      policy = declaresXml (text.take 256) ∧
      (policy = true ↔ ∃ o, XmlOpening o ∧ o <+: text ∧ o.length ≤ 256) ∧
      (policy = declaresXml text ↔ ∀ o, XmlOpening o → o <+: text → o.length ≤ 256) ∧
      (declaresXml text = true ↔ ∃ o, XmlOpening o ∧ o <+: text) ∧
      (policy = true → declaresXml text = true) := by
  have hpolicy : s.caseSensitive w = .ok (declaresXml (text.take 256)) :=
    caseSensitive_of_auto hauto htext
  refine ⟨_, hpolicy, fun b => caseSensitive_of_rebuild hpolicy, rfl, declaresXml_take_iff,
    declaresXml_take_eq_iff, declaresXml_iff, fun h => ?_⟩
  obtain ⟨o, ho, hprefix, -⟩ := declaresXml_take_iff.mp h
  exact declaresXml_iff.mpr ⟨o, ho, hprefix⟩

/-- A world in which the document `d` has `n` blanks and then an XML declaration, and in which `sp`
prints what the sample session reads. -/
def indentedWorld (n : Nat) : World :=
  Snapshot.toWorld
    { cwd := []
      nodes := [(["d"], .file (List.replicate n 32 ++ "<?xml?>".toUTF8.toList))]
      tools := [("sp", { script := .prints "AID ID X\n(P\n".toUTF8.toList })] }

theorem autoCase_sampleSession : sampleSession.AutoCase := ⟨_, _, rfl, rfl, by decide +kernel⟩

/-- With 250 blanks the opening just fits into the head, and the index is case-sensitive. -/
theorem indented_declaration_seen :
    ∃ b, (sampleSession.rebuild (indentedWorld 250)).1.outcome = .ok b ∧
      b.index.caseSensitive = true := by
  have htext : (indentedWorld 250).readText sampleSession.path =
      .ok (World.decoded (List.replicate 250 32 ++ "<?xml?>".toUTF8.toList)) := rfl
  obtain ⟨policy, -, hindex, -, hseen, -⟩ := autoCase_looks_at_head autoCase_sampleSession htext
  have hpolicy : policy = true := by
    refine hseen.mpr ⟨List.replicate 250 ' ' ++ "<?xml?".toList, ?_, ?_, by decide +kernel⟩
    · refine ⟨[], List.replicate 250 ' ', '?', Or.inl rfl, fun b hb => ?_, Or.inr rfl, ?_⟩
      · rw [List.eq_of_mem_replicate hb]
        rfl
      · decide +kernel
    · exact ⟨['>'], by decide +kernel⟩
  rw [← hpolicy]
  exact ⟨_, rfl, hindex _ rfl⟩

/-- **A declaration behind one blank more is missed:** the text declares XML and its policy is
`auto`, yet the index of the build is not case-sensitive. -/
theorem indented_declaration_missed :
    sampleSession.AutoCase ∧
    (∃ text, (indentedWorld 251).readText sampleSession.path = .ok text ∧
      declaresXml text = true) ∧
    sampleSession.caseSensitive (indentedWorld 251) = .ok false ∧
    ∃ b, (sampleSession.rebuild (indentedWorld 251)).1.outcome = .ok b ∧
      b.index.caseSensitive = false := by
  have htext : (indentedWorld 251).readText sampleSession.path =
      .ok (World.decoded (List.replicate 251 32 ++ "<?xml?>".toUTF8.toList)) := rfl
  have hpolicy : sampleSession.caseSensitive (indentedWorld 251) = .ok false :=
    (caseSensitive_of_auto autoCase_sampleSession htext).trans
      (congrArg Except.ok (by decide +kernel))
  exact ⟨autoCase_sampleSession, ⟨_, htext, by decide +kernel⟩, hpolicy, _, rfl,
    caseSensitive_of_rebuild hpolicy rfl⟩

end Session

end CrossRef

import CrossRef.Config.Environment
import CrossRef.Proofs.JsonTexts

/-! # Values of variables

The text of a variable, without the white space around it, is said to be a JSON array or object, a
truth value or a number if it has the form of one, and to stand for itself otherwise, exactly as it
is. What it should stand for is `StandsFor`, which asks for the form alone.

The rule fails for a text that begins with a bracket or a brace and breaks the reading of JSON off:
such a text has no value at all. A number in it may be too long, or there is no room left for an
array or an object; what holds, holds for any room that the callers may have left.

* `StandsFor`: the value that a text should have.
* `Intact`: the text does not break off the reading of JSON.
* `interpret_of_opens`, `interpret_of_not_opens`: which of the two readers a text goes to.
* `interpret_returns_iff_intact`: an intact text has the value that it should have, and no other
  text has a value. -/

namespace CrossRef.Config

open Json (IsText BreaksOff Opens)
open Number (Whole Fractional)

/-! ### What a text should stand for -/

/-- **The text is a truth value,** in small letters or capitals. -/
def SpellsTruth (cs : List Char) (b : Bool) : Prop :=
  cs.map Char.toLower = (if b then "true" else "false").toList

/-- **What a text should stand for,** if `cs` is what trimming leaves of `raw`. -/
inductive StandsFor (raw : String) (cs : List Char) : Value → Prop where
  | json {d : Json.Data} (hopens : Opens cs) (h : IsText cs d) : StandsFor raw cs d.toValue
  | truth {b : Bool} (h : SpellsTruth cs b) : StandsFor raw cs (.bool b)
  | whole {n : Int} (h : Whole cs n) : StandsFor raw cs (.int n)
  | fractional {x : Double} (hwhole : ∀ n, ¬ Whole cs n) (h : Fractional cs x) :
      StandsFor raw cs (.float x)
  | itself (hjson : Opens cs → ∀ d, ¬ IsText cs d) (htruth : ∀ b, ¬ SpellsTruth cs b)
      (hwhole : ∀ n, ¬ Whole cs n) (hfractional : ∀ x, ¬ Fractional cs x) :
      StandsFor raw cs (.str raw)

/-- **The text does not break off the reading of JSON,** if it is read as JSON at all, with room for
`room` arrays and objects inside one another. -/
def Intact (room : Nat) (cs : List Char) : Prop := Opens cs → ∀ e, ¬ BreaksOff room cs e

/-! ### Beginnings -/

theorem head_of_spellsTruth {cs : List Char} {b : Bool} (h : SpellsTruth cs b) :
    ∃ c cs', cs = c :: cs' ∧ (c.toLower = 't' ∨ c.toLower = 'f') := by
  cases b with
  | true =>
    obtain ⟨c, cs', rfl, hc, -⟩ := List.map_eq_cons_iff.mp h
    exact ⟨c, cs', rfl, .inl hc⟩
  | false =>
    obtain ⟨c, cs', rfl, hc, -⟩ := List.map_eq_cons_iff.mp h
    exact ⟨c, cs', rfl, .inr hc⟩

/-- A truth value does not begin like a number, nor with a bracket or a brace. -/
theorem SpellsTruth.not_begins {cs : List Char} {b : Bool} (h : SpellsTruth cs b) :
    (∃ c ∈ cs.head?, ¬ Number.Begins c) ∧ ¬ Opens cs := by
  obtain ⟨c, cs, rfl, hc⟩ := head_of_spellsTruth h
  constructor
  · refine ⟨c, rfl, ?_⟩
    rcases hc with hc | hc
    · exact Number.not_begins_of_toLower_eq hc (by decide) (by decide)
    · exact Number.not_begins_of_toLower_eq hc (by decide) (by decide)
  · rintro ⟨rest, heq | heq⟩
    all_goals
      rw [(List.cons.inj heq).1] at hc
      revert hc
      decide

theorem not_begins_of_opens {cs : List Char} (h : Opens cs) :
    ∃ c ∈ cs.head?, ¬ Number.Begins c := by
  obtain ⟨rest, rfl | rfl⟩ := h
  · exact ⟨'[', rfl, by decide⟩
  · exact ⟨'\x7b', rfl, by decide⟩

theorem not_whole_of_not_begins {cs : List Char} (h : ∃ c ∈ cs.head?, ¬ Number.Begins c)
    (n : Int) : ¬ Whole cs n := by
  intro hwhole
  obtain ⟨c, hc, hbegins⟩ := h
  exact hbegins (hwhole.begins c hc)

theorem not_fractional_of_not_begins {cs : List Char} (h : ∃ c ∈ cs.head?, ¬ Number.Begins c)
    (x : Double) : ¬ Fractional cs x := by
  intro hfractional
  obtain ⟨c, hc, hbegins⟩ := h
  exact hbegins (hfractional.begins c hc)

/-! ### Texts that do not begin like JSON -/

theorem lower_eq_truth_iff {cs : List Char} {b : Bool} :
    Text.lower (String.ofList cs) = (if b then "true" else "false") ↔ SpellsTruth cs b := by
  have hall : (if b then "true" else "false").toList.all (decide <| Text.IsPlain ·) = true := by
    cases b <;> rfl
  have hplain : ∀ d ∈ (if b then "true" else "false").toList, Text.IsPlain d := fun d hd =>
    of_decide_eq_true (List.all_eq_true.mp hall d hd)
  rw [Text.lower_eq_iff hplain, String.toList_ofList, SpellsTruth]

theorem plain_of_truth {cs : List Char} {b : Bool} (h : SpellsTruth cs b) (raw : String) :
    plain raw cs = .bool b := by
  have hword := lower_eq_truth_iff.mpr h
  unfold plain
  cases b with
  | true => rw [hword]; rfl
  | false => rw [hword]; rfl

theorem plain_of_not_truth {cs : List Char} (h : ∀ b, ¬ SpellsTruth cs b) (raw : String) :
    plain raw cs = (number? cs).getD (.str raw) := by
  have htrue : Text.lower (String.ofList cs) ≠ "true" := fun hword =>
    h true (lower_eq_truth_iff.mp hword)
  have hfalse : Text.lower (String.ofList cs) ≠ "false" := fun hword =>
    h false (lower_eq_truth_iff.mp hword)
  simp only [plain, if_neg htrue, if_neg hfalse]

section numbers

variable {cs : List Char} (htrim : Text.IsTrim cs)
include htrim

theorem number?_of_whole {n : Int} (h : Whole cs n) : number? cs = some (.int n) := by
  rw [← Number.unpadded_of_isTrim htrim] at h
  simp only [number?, Number.readInt_eq_ok_iff.mpr h]

theorem number?_of_not_whole (h : ∀ n, ¬ Whole cs n) :
    number? cs = (Number.readDouble cs).map .float := by
  rcases hread : Number.readInt cs with e | n
  · simp only [number?, hread]
  · have hwhole := Number.readInt_eq_ok_iff.mp hread
    rw [Number.unpadded_of_isTrim htrim] at hwhole
    exact absurd hwhole (h n)

theorem number?_of_fractional (hwhole : ∀ n, ¬ Whole cs n) {x : Double} (h : Fractional cs x) :
    number? cs = some (.float x) := by
  rw [← Number.unpadded_of_isTrim htrim] at h
  rw [number?_of_not_whole htrim hwhole, Number.readDouble_eq_some_iff.mpr h]
  rfl

theorem number?_eq_none (hwhole : ∀ n, ¬ Whole cs n) (h : ∀ x, ¬ Fractional cs x) :
    number? cs = none := by
  rw [number?_of_not_whole htrim hwhole]
  rcases hread : Number.readDouble cs with _ | x
  · rfl
  · have hfractional := Number.readDouble_eq_some_iff.mp hread
    rw [Number.unpadded_of_isTrim htrim] at hfractional
    exact absurd hfractional (h x)

/-- **A text that does not begin like JSON** has the value that it should have. -/
theorem standsFor_plain (hopens : ¬ Opens cs) (raw : String) :
    StandsFor raw cs (plain raw cs) := by
  by_cases htruth : ∃ b, SpellsTruth cs b
  · obtain ⟨b, htruth⟩ := htruth
    rw [plain_of_truth htruth]
    exact .truth htruth
  · simp only [not_exists] at htruth
    rw [plain_of_not_truth htruth]
    by_cases hwhole : ∃ n, Whole cs n
    · obtain ⟨n, hwhole⟩ := hwhole
      rw [number?_of_whole htrim hwhole]
      exact .whole hwhole
    · simp only [not_exists] at hwhole
      by_cases hfractional : ∃ x, Fractional cs x
      · obtain ⟨x, hfractional⟩ := hfractional
        rw [number?_of_fractional htrim hwhole hfractional]
        exact .fractional hwhole hfractional
      · simp only [not_exists] at hfractional
        rw [number?_eq_none htrim hwhole hfractional]
        exact .itself (fun h => absurd h hopens) htruth hwhole hfractional

/-- It should have no other value. -/
theorem eq_plain_of_standsFor (hopens : ¬ Opens cs) {raw : String} {v : Value}
    (h : StandsFor raw cs v) : v = plain raw cs := by
  cases h with
  | json h => exact absurd h hopens
  | truth h => rw [plain_of_truth h]
  | whole h =>
    have htruth (b : Bool) : ¬ SpellsTruth cs b := fun hb =>
      not_whole_of_not_begins hb.not_begins.1 _ h
    rw [plain_of_not_truth htruth, number?_of_whole htrim h]
    rfl
  | fractional hwhole h =>
    have htruth (b : Bool) : ¬ SpellsTruth cs b := fun hb =>
      not_fractional_of_not_begins hb.not_begins.1 _ h
    rw [plain_of_not_truth htruth, number?_of_fractional htrim hwhole h]
    rfl
  | itself _ htruth hwhole hfractional =>
    rw [plain_of_not_truth htruth, number?_eq_none htrim hwhole hfractional]
    rfl

end numbers

/-! ### Texts that begin like JSON -/

/-- **What a text that begins like JSON should stand for:** what it says, or itself. -/
theorem standsFor_of_opens {raw : String} {cs : List Char} {v : Value} (hopens : Opens cs) :
    StandsFor raw cs v ↔
      (∃ d, IsText cs d ∧ v = d.toValue) ∨ (∀ d, ¬ IsText cs d) ∧ v = .str raw := by
  have hbegins := not_begins_of_opens hopens
  constructor
  · intro h
    cases h with
    | json _ h => exact .inl ⟨_, h, rfl⟩
    | truth h => exact absurd hopens h.not_begins.2
    | whole h => exact absurd h (not_whole_of_not_begins hbegins _)
    | fractional _ h => exact absurd h (not_fractional_of_not_begins hbegins _)
    | itself hjson => exact .inr ⟨hjson hopens, rfl⟩
  · rintro (⟨d, h, rfl⟩ | ⟨h, rfl⟩)
    · exact .json hopens h
    · exact .itself (fun _ => h) (fun b hb => hb.not_begins.2 hopens)
        (not_whole_of_not_begins hbegins) (not_fractional_of_not_begins hbegins)

section structured

variable {room : Nat} {raw : String} {cs : List Char}

theorem structured_of_ok {d : Json.Data} (h : Json.parse room cs = .ok d) :
    structured room raw cs = .ok d.toValue := by
  simp only [structured, h]

theorem structured_of_malformed (h : Json.parse room cs = .error .malformed) :
    structured room raw cs = .ok (.str raw) := by
  simp only [structured, h]

/-- **The fault that a text ends in** if it breaks the reading of JSON off. -/
inductive EndsIn (room : Nat) (cs : List Char) : Fault → Prop where
  | longInteger {n : Nat} (h : BreaksOff room cs (.longInteger n)) :
      EndsIn room cs (.longInteger n)
  | deepNesting {kind : String} (h : BreaksOff room cs (.tooDeep kind)) :
      EndsIn room cs (.deepNesting kind)

theorem structured_of_endsIn {f : Fault} (h : EndsIn room cs f) :
    structured room raw cs = .error f := by
  cases h with
  | longInteger h => simp only [structured, Json.parse_of_breaksOff h]
  | deepNesting h => simp only [structured, Json.parse_of_breaksOff h]

/-- A text that is not intact ends in a fault. -/
theorem exists_endsIn_of_not_intact (h : ¬ Intact room cs) : Opens cs ∧ ∃ f, EndsIn room cs f := by
  simp only [Intact, Classical.not_forall, not_not] at h
  obtain ⟨hopens, e, he⟩ := h
  refine ⟨hopens, ?_⟩
  cases e with
  | malformed => exact absurd rfl he.ne_malformed
  | longInteger n => exact ⟨.longInteger n, .longInteger he⟩
  | tooDeep kind => exact ⟨.deepNesting kind, .deepNesting he⟩

/-- **A text that does not break the reading off** has the value that it should have. -/
theorem structured_of_intact (raw : String) (h : ∀ e, ¬ BreaksOff room cs e) :
    ∃ v, structured room raw cs = .ok v ∧ ∀ v', v' = v ↔
      (∃ d, IsText cs d ∧ v' = d.toValue) ∨ (∀ d, ¬ IsText cs d) ∧ v' = .str raw := by
  -- the value is what is read, or the text itself if nothing is
  obtain ⟨d, hd, htext⟩ | hrefused | ⟨e, -, he⟩ := Json.parse_cases room cs
  · refine ⟨d.toValue, structured_of_ok hd, fun v' => ⟨?_, ?_⟩⟩
    · exact fun heq => .inl ⟨d, htext, heq⟩
    · rintro (⟨d', h', rfl⟩ | ⟨hnone, -⟩)
      · cases hd.symm.trans (Json.parse_eq_ok_iff.mpr ⟨h', h⟩)
        rfl
      · exact absurd htext (hnone d)
  · have hnone := (Json.parse_eq_malformed_iff.mp hrefused).1
    refine ⟨.str raw, structured_of_malformed hrefused, fun v' => ⟨?_, ?_⟩⟩
    · exact fun heq => .inr ⟨hnone, heq⟩
    · rintro (⟨d, h', -⟩ | ⟨-, heq⟩)
      · exact absurd h' (hnone d)
      · exact heq
  · exact absurd he (h e)

/-- **With more room,** a text that has a value has the same one. -/
theorem structured_of_le {limit : Nat} {v : Value} (hle : limit ≤ room)
    (h : structured limit raw cs = .ok v) : structured room raw cs = .ok v := by
  have ⟨hok, hmalformed⟩ := Json.parse_of_le hle cs
  rcases hparse : Json.parse limit cs with (_ | _ | _) | d
  · rw [structured_of_malformed hparse] at h
    rw [structured_of_malformed (hmalformed hparse), h]
  · simp only [structured, hparse] at h
    cases h
  · simp only [structured, hparse] at h
    cases h
  · rw [structured_of_ok hparse] at h
    rw [structured_of_ok (hok d hparse), h]

end structured

theorem interpret_of_le {limit room : Nat} {raw : String} {v : Value} (hle : limit ≤ room)
    (h : interpret limit raw = .ok v) : interpret room raw = .ok v := by
  simp only [interpret] at h ⊢
  split at h
  · exact structured_of_le hle h
  · exact structured_of_le hle h
  · exact h

/-! ### The two readings -/

section readings

variable {room : Nat} {raw : String} {cs : List Char} (h : Text.TrimsTo raw.toList cs)
include h

theorem interpret_of_opens (hopens : Opens cs) :
    interpret room raw = structured room raw cs := by
  obtain ⟨rest, rfl | rfl⟩ := hopens
  · simp only [interpret, Text.trim_eq_iff.mpr h, List.head?_cons]
  · simp only [interpret, Text.trim_eq_iff.mpr h, List.head?_cons]

theorem interpret_of_not_opens (hopens : ¬ Opens cs) :
    interpret room raw = .ok (plain raw cs) := by
  simp only [interpret, Text.trim_eq_iff.mpr h]
  split
  · next hhead =>
    obtain ⟨rest, rfl⟩ := List.head?_eq_some_iff.mp hhead
    exact absurd ⟨rest, .inl rfl⟩ hopens
  · next hhead =>
    obtain ⟨rest, rfl⟩ := List.head?_eq_some_iff.mp hhead
    exact absurd ⟨rest, .inr rfl⟩ hopens
  · rfl

/-- **An intact text has exactly the value that it should have.** -/
theorem interpret_of_intact (hintact : Intact room cs) :
    ∃ v, interpret room raw = .ok v ∧ ∀ v', v' = v ↔ StandsFor raw cs v' := by
  by_cases hopens : Opens cs
  · obtain ⟨v, hv, hiff⟩ := structured_of_intact raw (hintact hopens)
    refine ⟨v, (interpret_of_opens h hopens).trans hv, fun v' => ?_⟩
    rw [hiff, standsFor_of_opens hopens]
  · have ⟨_, _, _, _, _, htrim⟩ := h
    refine ⟨plain raw cs, interpret_of_not_opens h hopens, fun v' => ⟨?_, ?_⟩⟩
    · rintro rfl
      exact standsFor_plain htrim hopens raw
    · exact eq_plain_of_standsFor htrim hopens

theorem interpret_of_endsIn {f : Fault} (hopens : Opens cs) (hends : EndsIn room cs f) :
    interpret room raw = .error f := by
  rw [interpret_of_opens h hopens]
  exact structured_of_endsIn hends

theorem interpret_eq_ok_iff {v : Value} :
    interpret room raw = .ok v ↔ Intact room cs ∧ StandsFor raw cs v := by
  constructor
  · intro hv
    have hintact : Intact room cs := by
      by_contra hnot
      obtain ⟨hopens, f, hends⟩ := exists_endsIn_of_not_intact hnot
      cases hv.symm.trans (interpret_of_endsIn h hopens hends)
    obtain ⟨v', hv', hiff⟩ := interpret_of_intact h hintact
    cases hv.symm.trans hv'
    exact ⟨hintact, (hiff v).mp rfl⟩
  · rintro ⟨hintact, hstands⟩
    obtain ⟨v', hv', hiff⟩ := interpret_of_intact h hintact
    rw [(hiff v).mpr hstands]
    exact hv'

theorem interpret_eq_error_iff {f : Fault} :
    interpret room raw = .error f ↔ Opens cs ∧ EndsIn room cs f := by
  constructor
  · intro hf
    have hnot : ¬ Intact room cs := by
      intro hintact
      obtain ⟨v, hv, -⟩ := interpret_of_intact h hintact
      cases hv.symm.trans hf
    obtain ⟨hopens, f', hends⟩ := exists_endsIn_of_not_intact hnot
    cases hf.symm.trans (interpret_of_endsIn h hopens hends)
    exact ⟨hopens, hends⟩
  · rintro ⟨hopens, hends⟩
    exact interpret_of_endsIn h hopens hends

end readings

/-! ### When a text has a value -/

/-- The value of an array or an object of JSON is no text. -/
theorem toValue_ne_str {d : Json.Data}
    (h : (∃ items, d = .array items) ∨ ∃ fields, d = .object fields) (s : String) :
    d.toValue ≠ .str s := by
  obtain ⟨items, rfl⟩ | ⟨fields, rfl⟩ := h
  · rcases hitems : Json.plainItems? items with _ | vs <;>
      simp [Json.Data.toValue, Json.Data.plain?, hitems]
  · rcases hfields : Json.plainFields? fields with _ | t <;>
      simp [Json.Data.toValue, Json.Data.plain?, hfields]

/-- **A text that should be a text should be itself.** -/
theorem StandsFor.str_eq {raw s : String} {cs : List Char} (h : StandsFor raw cs (.str s)) :
    s = raw := by
  generalize hv : Value.str s = v at h
  cases h with
  | json hopens h => exact absurd hv.symm (toValue_ne_str (h.of_opens hopens) s)
  | itself => exact Value.str.inj hv
  | truth | whole | fractional => cases hv

/-- **A text has a value exactly if it is intact,** and then the one that it should have, whatever
room there is. A text that begins with a bracket or a brace has the value of an array or an object
of JSON, or itself, and a text for a value is always the text itself, the white space around it
included. All other texts end in the fault that they break the reading of JSON off with. -/
theorem interpret_returns_iff_intact (room : Nat) {raw : String} {cs : List Char}
    (h : Text.TrimsTo raw.toList cs) :
    ((∃ v, interpret room raw = .ok v) ↔ Intact room cs) ∧
    (∀ v, interpret room raw = .ok v ↔ Intact room cs ∧ StandsFor raw cs v) ∧
    (∀ v, interpret room raw = .ok v → Opens cs → v = .str raw ∨
      ∃ d, IsText cs d ∧ v = d.toValue ∧
        ((∃ items, d = .array items) ∨ ∃ fields, d = .object fields)) ∧
    (∀ s, interpret room raw = .ok (.str s) → s = raw) ∧
    ∀ f, interpret room raw = .error f ↔ Opens cs ∧ EndsIn room cs f := by
  refine ⟨⟨?_, ?_⟩, fun v => interpret_eq_ok_iff h, ?_, ?_, fun f => interpret_eq_error_iff h⟩
  · rintro ⟨v, hv⟩
    exact ((interpret_eq_ok_iff h).mp hv).1
  · intro hintact
    obtain ⟨v, hv, -⟩ := interpret_of_intact h hintact
    exact ⟨v, hv⟩
  · intro v hv hopens
    have hstands := ((interpret_eq_ok_iff h).mp hv).2
    rcases (standsFor_of_opens hopens).mp hstands with ⟨d, hd, rfl⟩ | ⟨-, hraw⟩
    · exact .inr ⟨d, hd, rfl, hd.of_opens hopens⟩
    · exact .inl hraw
  · intro s hs
    exact ((interpret_eq_ok_iff h).mp hs).2.str_eq

/-- A bracket alone is no JSON, so it stands for itself, with the white space around it. -/
theorem interpret_lone_bracket :
    Text.TrimsTo " [\t".toList ['['] ∧ interpret 1 " [\t" = .ok (.str " [\t") := by
  have hsolid : Text.AllSolid ['['] := by decide
  have htrims : Text.TrimsTo " [\t".toList ['['] :=
    ⟨[' '], ['\t'], rfl, by decide, by decide, hsolid.isTrim⟩
  have hparse : Json.parse 1 ['['] = .error .malformed := rfl
  obtain ⟨hnone, hbreaks⟩ := Json.parse_eq_malformed_iff.mp hparse
  have hopens : Opens ['['] := ⟨[], .inl rfl⟩
  refine ⟨htrims, ((interpret_returns_iff_intact 1 htrims).2.1 _).mpr ⟨fun _ => hbreaks, ?_⟩⟩
  exact (standsFor_of_opens hopens).mpr (.inr ⟨hnone, rfl⟩)

/-! ### Texts without a value -/

section novalue

variable {room n : Nat}

/-- A text without white space that breaks off the reading of JSON has no value. -/
theorem interpret_of_allSolid {cs : List Char} {f : Fault} (hsolid : Text.AllSolid cs)
    (hopens : Opens cs) (hends : EndsIn room cs f) :
    interpret room (String.ofList cs) = .error f := by
  have htrims : Text.TrimsTo (String.ofList cs).toList cs := by
    rw [String.toList_ofList]
    exact hsolid.isTrim.trimsTo
  exact interpret_of_endsIn htrims hopens hends

/-- The text of an array of one whole number with `n` digits. -/
def longNumber (n : Nat) : List Char := '[' :: (List.replicate n '1' ++ [']'])

theorem breaksOff_longNumber (h : Number.digitLimit < n) :
    BreaksOff (room + 1) (longNumber n) (.longInteger n) := by
  have hrun : ∀ c ∈ List.replicate n '1', c.isDigit = true := by
    intro c hc
    rw [List.eq_of_mem_replicate hc]
    rfl
  have hzero : (List.replicate n '1').head? ≠ some '0' := by
    rw [List.head?_replicate]
    split <;> decide
  have hrest : ∀ c ∈ [']'].head?, c.isDigit = false := by
    rintro _ ⟨⟩
    rfl
  have hstops : Json.Stops [']'] := Json.stops_cons (by decide) (by decide) []
  have hlong := Json.longWhole_of_run hrun hzero hrest hstops (by rwa [List.length_replicate])
  rw [List.length_replicate] at hlong
  exact ⟨_, Json.Gap.rfl, .array Json.Gap.rfl (.here (.integer (.positive hlong)))⟩

/-- **A number that is too long** leaves the text of a variable without a value. -/
theorem interpret_longNumber (h : Number.digitLimit < n) :
    interpret (room + 1) (String.ofList (longNumber n)) = .error (.longInteger n) := by
  have hsolid : Text.AllSolid (longNumber n) := by
    intro c hc
    simp only [longNumber, List.mem_cons, List.mem_append, List.mem_replicate, List.not_mem_nil,
      or_false] at hc
    obtain rfl | ⟨-, rfl⟩ | rfl := hc <;> decide
  exact interpret_of_allSolid hsolid ⟨_, .inl rfl⟩ (.longInteger (breaksOff_longNumber h))

/-- **Arrays inside too many others** leave it without a value, too, however much room there is. -/
theorem interpret_brackets (h : room < n) :
    interpret room (String.ofList (List.replicate n '[')) = .error (.deepNesting "array") := by
  obtain ⟨k, rfl⟩ := Nat.exists_eq_add_of_lt h
  have hbreaks := Json.breaks_of_brackets room (List.replicate k '[')
  rw [List.replicate_append_replicate, Nat.add_right_comm] at hbreaks
  have hsolid : Text.AllSolid (List.replicate (room + k + 1) '[') := by
    intro c hc
    rw [List.eq_of_mem_replicate hc]
    decide
  exact interpret_of_allSolid hsolid ⟨_, .inl List.replicate_succ⟩
    (.deepNesting ⟨_, Json.Gap.rfl, hbreaks⟩)

end novalue

/-- **Some texts have no value, whatever room there is:** one digit more than the limit is enough,
or one bracket more than there is room for. -/
theorem long_number_has_no_value :
    (∀ room, interpret (room + 1) (String.ofList (longNumber 4301)) = .error (.longInteger 4301)) ∧
      (∀ room, interpret room (String.ofList (List.replicate (room + 1) '[')) =
        .error (.deepNesting "array")) ∧
      ∀ room, ¬ ∀ raw, ∃ v, interpret room raw = .ok v := by
  refine ⟨fun room => interpret_longNumber (by decide),
    fun room => interpret_brackets (Nat.lt_succ_self room), fun room hall => ?_⟩
  have hdeep := interpret_brackets (Nat.lt_succ_self room)
  obtain ⟨v, hv⟩ := hall (String.ofList (List.replicate (room + 1) '['))
  cases hdeep.symm.trans hv

end CrossRef.Config

import CrossRef.Proofs.JsonNumbers
import CrossRef.Proofs.JsonStrings

/-! # The grammar of JSON: values and whole texts

A text is JSON if it spells one value, with white space in front of it and behind it. A value with
arrays and objects inside one another takes as much room as they are deep.

A text may also break the reading off: in front of a whole number with too many digits, or of an
array or an object for which there is no room left. What stands behind such a place is not looked
at, so the text need not be JSON as a whole, but it has to be up to that place.

* `Spells`, `SpellsItems`, `SpellsFields`: a value, the items of an array, the fields of an object.
* `Breaks`, `BreaksItems`, `BreaksFields`: the same up to a place that breaks the reading off.
* `Spells.or_breaks`, `Breaks.of_le`: with less room, a value is still one or breaks the reading
  off, and what breaks it off still does.
* `value_of_spells`, `value_of_breaks`: what the reader makes of them.
* `value_licensed`: the reader has no other outcomes.
* `parse_eq_ok_iff`, `parse_eq_malformed_iff`, `parse_of_breaksOff`: the same for whole texts, which
  are JSON (`IsText`), or break the reading off (`BreaksOff`), or neither. -/

namespace CrossRef.Json

/-! ### Values -/

/-- The name of a field in quotes, and what follows the colon behind it. -/
inductive Key : List Char → List CodePoint → List Char → Prop where
  | named {cs r r' rest : List Char} {k : List CodePoint} (h : Chars cs k r)
      (hgap : Gap r (':' :: r')) (hgap' : Gap r' rest) : Key ('"' :: cs) k rest

mutual

/-- **A value,** with room for `room` arrays and objects inside one another, and what follows it. -/
inductive Spells : Nat → List Char → Data → List Char → Prop where
  | string {room : Nat} {cs rest : List Char} {s : List CodePoint} (h : Chars cs s rest) :
      Spells room ('"' :: cs) (.text s) rest
  | scalar {room : Nat} {cs rest : List Char} {v : Data} (h : SpellsScalar cs v rest) :
      Spells room cs v rest
  | emptyArray {room : Nat} {cs rest : List Char} (hgap : Gap cs (']' :: rest)) :
      Spells (room + 1) ('[' :: cs) (.array []) rest
  | array {room : Nat} {cs r rest : List Char} {vs : List Data} (hgap : Gap cs r)
      (h : SpellsItems room r vs rest) : Spells (room + 1) ('[' :: cs) (.array vs) rest
  | emptyObject {room : Nat} {cs rest : List Char} (hgap : Gap cs ('\x7d' :: rest)) :
      Spells (room + 1) ('\x7b' :: cs) (.object []) rest
  | object {room : Nat} {cs r rest : List Char} {t : Fields} (hgap : Gap cs r)
      (h : SpellsFields room [] r t rest) : Spells (room + 1) ('\x7b' :: cs) (.object t) rest

/-- **The items of an array,** with commas between them, up to and with the closing bracket. -/
inductive SpellsItems : Nat → List Char → List Data → List Char → Prop where
  | last {room : Nat} {cs r rest : List Char} {v : Data} (hv : Spells room cs v r)
      (hgap : Gap r (']' :: rest)) : SpellsItems room cs [v] rest
  | more {room : Nat} {cs r r' r'' rest : List Char} {v : Data} {vs : List Data}
      (hv : Spells room cs v r) (hgap : Gap r (',' :: r')) (hgap' : Gap r' r'')
      (h : SpellsItems room r'' vs rest) : SpellsItems room cs (v :: vs) rest

/-- **The fields of an object,** with commas between them, up to and with the closing brace. Of
several fields with one name the last stands. -/
inductive SpellsFields : Nat → Fields → List Char → Fields → List Char → Prop where
  | last {room : Nat} {t : Fields} {cs r r' rest : List Char} {k : List CodePoint} {v : Data}
      (hk : Key cs k r) (hv : Spells room r v r') (hgap : Gap r' ('\x7d' :: rest)) :
      SpellsFields room t cs (Assoc.put t k v) rest
  | more {room : Nat} {t t' : Fields} {cs r r' r'' r₃ rest : List Char} {k : List CodePoint}
      {v : Data} (hk : Key cs k r) (hv : Spells room r v r') (hgap : Gap r' (',' :: r''))
      (hgap' : Gap r'' r₃)
      (h : SpellsFields room (Assoc.put t k v) r₃ t' rest) :
      SpellsFields room t cs t' rest

end

mutual

/-- **A value up to a place that breaks the reading off,** and how it is refused there. -/
inductive Breaks : Nat → List Char → Refusal → Prop where
  | integer {room n : Nat} {cs : List Char} (h : LongScalar cs n) :
      Breaks room cs (.longInteger n)
  | deepArray {cs : List Char} : Breaks 0 ('[' :: cs) (.tooDeep "array")
  | deepObject {cs : List Char} : Breaks 0 ('\x7b' :: cs) (.tooDeep "object")
  | array {room : Nat} {cs r : List Char} {e : Refusal} (hgap : Gap cs r)
      (h : BreaksItems room r e) : Breaks (room + 1) ('[' :: cs) e
  | object {room : Nat} {cs r : List Char} {e : Refusal} (hgap : Gap cs r)
      (h : BreaksFields room r e) : Breaks (room + 1) ('\x7b' :: cs) e

/-- **The items of an array up to a place that breaks the reading off.** -/
inductive BreaksItems : Nat → List Char → Refusal → Prop where
  | here {room : Nat} {cs : List Char} {e : Refusal} (h : Breaks room cs e) :
      BreaksItems room cs e
  | later {room : Nat} {cs r r' r'' : List Char} {v : Data} {e : Refusal}
      (hv : Spells room cs v r) (hgap : Gap r (',' :: r')) (hgap' : Gap r' r'')
      (h : BreaksItems room r'' e) : BreaksItems room cs e

/-- **The fields of an object up to a place that breaks the reading off.** -/
inductive BreaksFields : Nat → List Char → Refusal → Prop where
  | here {room : Nat} {cs r : List Char} {k : List CodePoint} {e : Refusal} (hk : Key cs k r)
      (h : Breaks room r e) : BreaksFields room cs e
  | later {room : Nat} {cs r r' r'' r₃ : List Char} {k : List CodePoint} {v : Data} {e : Refusal}
      (hk : Key cs k r) (hv : Spells room r v r') (hgap : Gap r' (',' :: r''))
      (hgap' : Gap r'' r₃) (h : BreaksFields room r₃ e) : BreaksFields room cs e

end

/-! ### Less room -/

mutual

/-- **With other room, a value is still one or breaks the reading off.** -/
theorem Spells.or_breaks {room : Nat} {cs rest : List Char} {v : Data} :
    Spells room cs v rest → ∀ limit : Nat, Spells limit cs v rest ∨ ∃ e, Breaks limit cs e
  | .string h, _ => .inl (.string h)
  | .scalar h, _ => .inl (.scalar h)
  | .emptyArray _, 0 => .inr ⟨_, .deepArray⟩
  | .emptyArray hgap, _ + 1 => .inl (.emptyArray hgap)
  | .array _ _, 0 => .inr ⟨_, .deepArray⟩
  | .array hgap h, limit + 1 =>
    (h.or_breaks limit).imp (.array hgap) fun ⟨e, he⟩ => ⟨e, .array hgap he⟩
  | .emptyObject _, 0 => .inr ⟨_, .deepObject⟩
  | .emptyObject hgap, _ + 1 => .inl (.emptyObject hgap)
  | .object _ _, 0 => .inr ⟨_, .deepObject⟩
  | .object hgap h, limit + 1 =>
    (h.or_breaks limit).imp (.object hgap) fun ⟨e, he⟩ => ⟨e, .object hgap he⟩

theorem SpellsItems.or_breaks {room : Nat} {cs rest : List Char} {vs : List Data} :
    SpellsItems room cs vs rest →
      ∀ limit : Nat, SpellsItems limit cs vs rest ∨ ∃ e, BreaksItems limit cs e
  | .last hv hgap, limit =>
    (hv.or_breaks limit).imp (.last · hgap) fun ⟨e, he⟩ => ⟨e, .here he⟩
  | .more hv hgap hgap' h, limit => by
    rcases hv.or_breaks limit with hv | ⟨e, he⟩
    · rcases h.or_breaks limit with h | ⟨e, he⟩
      · exact .inl (.more hv hgap hgap' h)
      · exact .inr ⟨e, .later hv hgap hgap' he⟩
    · exact .inr ⟨e, .here he⟩

theorem SpellsFields.or_breaks {room : Nat} {t t' : Fields} {cs rest : List Char} :
    SpellsFields room t cs t' rest →
      ∀ limit : Nat, SpellsFields limit t cs t' rest ∨ ∃ e, BreaksFields limit cs e
  | .last hk hv hgap, limit =>
    (hv.or_breaks limit).imp (.last hk · hgap) fun ⟨e, he⟩ => ⟨e, .here hk he⟩
  | .more hk hv hgap hgap' h, limit => by
    rcases hv.or_breaks limit with hv | ⟨e, he⟩
    · rcases h.or_breaks limit with h | ⟨e, he⟩
      · exact .inl (.more hk hv hgap hgap' h)
      · exact .inr ⟨e, .later hk hv hgap hgap' he⟩
    · exact .inr ⟨e, .here hk he⟩

end

mutual

/-- **What breaks the reading off with much room** does so with less. -/
theorem Breaks.of_le {room : Nat} {cs : List Char} {e : Refusal} :
    Breaks room cs e → ∀ limit ≤ room, ∃ e, Breaks limit cs e
  | .integer h, _, _ => ⟨_, .integer h⟩
  | .deepArray, 0, _ => ⟨_, .deepArray⟩
  | .deepObject, 0, _ => ⟨_, .deepObject⟩
  | .array _ _, 0, _ => ⟨_, .deepArray⟩
  | .array hgap h, limit + 1, hle =>
    have ⟨e, he⟩ := h.of_le limit (Nat.le_of_succ_le_succ hle)
    ⟨e, .array hgap he⟩
  | .object _ _, 0, _ => ⟨_, .deepObject⟩
  | .object hgap h, limit + 1, hle =>
    have ⟨e, he⟩ := h.of_le limit (Nat.le_of_succ_le_succ hle)
    ⟨e, .object hgap he⟩

theorem BreaksItems.of_le {room : Nat} {cs : List Char} {e : Refusal} :
    BreaksItems room cs e → ∀ limit ≤ room, ∃ e, BreaksItems limit cs e
  | .here h, limit, hle =>
    have ⟨e, he⟩ := h.of_le limit hle
    ⟨e, .here he⟩
  | .later hv hgap hgap' h, limit, hle => by
    rcases hv.or_breaks limit with hv | ⟨e, he⟩
    · obtain ⟨e, he⟩ := h.of_le limit hle
      exact ⟨e, .later hv hgap hgap' he⟩
    · exact ⟨e, .here he⟩

theorem BreaksFields.of_le {room : Nat} {cs : List Char} {e : Refusal} :
    BreaksFields room cs e → ∀ limit ≤ room, ∃ e, BreaksFields limit cs e
  | .here hk h, limit, hle =>
    have ⟨e, he⟩ := h.of_le limit hle
    ⟨e, .here hk he⟩
  | .later hk hv hgap hgap' h, limit, hle => by
    rcases hv.or_breaks limit with hv | ⟨e, he⟩
    · obtain ⟨e, he⟩ := h.of_le limit hle
      exact ⟨e, .later hk hv hgap hgap' he⟩
    · exact ⟨e, .here hk he⟩

end

mutual

/-- No text breaks the reading off as malformed. -/
theorem Breaks.ne_malformed {room : Nat} {cs : List Char} {e : Refusal} :
    Breaks room cs e → e ≠ .malformed
  | .integer _ => nofun
  | .deepArray => nofun
  | .deepObject => nofun
  | .array _ h => h.ne_malformed
  | .object _ h => h.ne_malformed

theorem BreaksItems.ne_malformed {room : Nat} {cs : List Char} {e : Refusal} :
    BreaksItems room cs e → e ≠ .malformed
  | .here h => h.ne_malformed
  | .later _ _ _ h => h.ne_malformed

theorem BreaksFields.ne_malformed {room : Nat} {cs : List Char} {e : Refusal} :
    BreaksFields room cs e → e ≠ .malformed
  | .here _ h => h.ne_malformed
  | .later _ _ _ _ h => h.ne_malformed

end

/-! ### Beginnings and lengths -/

/-- The text begins with neither white space nor what closes an array or an object. -/
def Begins (cs : List Char) : Prop :=
  ∃ c cs', cs = c :: cs' ∧ isSpace c = false ∧ c ≠ ']' ∧ c ≠ '\x7d'

theorem begins_of_beginsScalar {cs : List Char}
    (h : ∃ c cs', cs = c :: cs' ∧ beginsScalar c = true) : Begins cs := by
  obtain ⟨c, cs, rfl, hc⟩ := h
  simp only [beginsScalar, Bool.and_eq_true, Bool.not_eq_true', bne_iff_ne] at hc
  obtain ⟨⟨⟨⟨⟨hspace, -⟩, -⟩, -⟩, hbracket⟩, hbrace⟩ := hc
  exact ⟨c, cs, rfl, hspace, hbracket, hbrace⟩

theorem Begins.skipSpace_eq {cs : List Char} (h : Begins cs) : skipSpace cs = cs := by
  obtain ⟨c, cs, rfl, hc, -⟩ := h
  exact skipSpace_cons hc cs

theorem Spells.begins {room : Nat} {cs rest : List Char} {v : Data}
    (h : Spells room cs v rest) : Begins cs := by
  cases h with
  | scalar h => exact begins_of_beginsScalar h.exists_cons
  | _ => exact ⟨_, _, rfl, by decide, by decide, by decide⟩

theorem SpellsItems.begins {room : Nat} {cs rest : List Char} {vs : List Data}
    (h : SpellsItems room cs vs rest) : Begins cs := by
  cases h with
  | last hv => exact hv.begins
  | more hv => exact hv.begins

theorem Key.begins {cs rest : List Char} {k : List CodePoint} (h : Key cs k rest) : Begins cs := by
  cases h with
  | named => exact ⟨_, _, rfl, by decide, by decide, by decide⟩

theorem SpellsFields.begins {room : Nat} {t t' : Fields} {cs rest : List Char}
    (h : SpellsFields room t cs t' rest) : Begins cs := by
  cases h with
  | last hk => exact hk.begins
  | more hk => exact hk.begins

theorem Breaks.begins {room : Nat} {cs : List Char} {e : Refusal} (h : Breaks room cs e) :
    Begins cs := by
  cases h with
  | integer h => exact begins_of_beginsScalar h.exists_cons
  | _ => exact ⟨_, _, rfl, by decide, by decide, by decide⟩

theorem BreaksItems.begins {room : Nat} {cs : List Char} {e : Refusal}
    (h : BreaksItems room cs e) : Begins cs := by
  cases h with
  | here h => exact h.begins
  | later hv => exact hv.begins

theorem BreaksFields.begins {room : Nat} {cs : List Char} {e : Refusal}
    (h : BreaksFields room cs e) : Begins cs := by
  cases h with
  | here hk => exact hk.begins
  | later hk => exact hk.begins

theorem Key.length_lt {cs rest : List Char} {k : List CodePoint} (h : Key cs k rest) :
    rest.length < cs.length := by
  obtain ⟨h, hgap, hgap'⟩ := h
  have hchars := h.length_lt
  have hcolon := hgap.length_le
  have hrest := hgap'.length_le
  simp only [List.length_cons] at *
  omega

mutual

/-- A value takes a part of the text. -/
theorem Spells.length_lt {room : Nat} {cs rest : List Char} {v : Data} :
    Spells room cs v rest → rest.length < cs.length
  | .string h => by
    have hchars := h.length_lt
    simp only [List.length_cons]
    omega
  | .scalar h => h.length_lt
  | .emptyArray hgap => by
    have hle := hgap.length_le
    simp only [List.length_cons] at *
    omega
  | .array hgap h => by
    have hle := hgap.length_le
    have hlt := h.length_lt
    simp only [List.length_cons]
    omega
  | .emptyObject hgap => by
    have hle := hgap.length_le
    simp only [List.length_cons] at *
    omega
  | .object hgap h => by
    have hle := hgap.length_le
    have hlt := h.length_lt
    simp only [List.length_cons]
    omega

theorem SpellsItems.length_lt {room : Nat} {cs rest : List Char} {vs : List Data} :
    SpellsItems room cs vs rest → rest.length < cs.length
  | .last hv hgap => by
    have hvalue := hv.length_lt
    have hle := hgap.length_le
    simp only [List.length_cons] at *
    omega
  | .more hv hgap hgap' h => by
    have hvalue := hv.length_lt
    have hcomma := hgap.length_le
    have hle := hgap'.length_le
    have hlt := h.length_lt
    simp only [List.length_cons] at *
    omega

theorem SpellsFields.length_lt {room : Nat} {t t' : Fields} {cs rest : List Char} :
    SpellsFields room t cs t' rest → rest.length < cs.length
  | .last hk hv hgap => by
    have hkey := hk.length_lt
    have hvalue := hv.length_lt
    have hle := hgap.length_le
    simp only [List.length_cons] at *
    omega
  | .more hk hv hgap hgap' h => by
    have hkey := hk.length_lt
    have hvalue := hv.length_lt
    have hcomma := hgap.length_le
    have hle := hgap'.length_le
    have hlt := h.length_lt
    simp only [List.length_cons] at *
    omega

end

/-! ### Steps of the reader -/

section steps

variable {fuel room : Nat} {cs r : List Char}

theorem value_string {s : List CodePoint} {rest : List Char} (h : Chars cs s rest) :
    value (fuel + 1) room ('"' :: cs) = .ok (.text s, rest) := by
  simp only [value, string_of_chars h]
  rfl

theorem value_scalar (h : ∃ c cs', cs = c :: cs' ∧ beginsScalar c = true) :
    value (fuel + 1) room cs = scalar cs := by
  obtain ⟨c, cs, rfl, hc⟩ := h
  simp only [beginsScalar, Bool.and_eq_true, bne_iff_ne] at hc
  obtain ⟨⟨⟨⟨⟨-, hquote⟩, hbracket⟩, hbrace⟩, -⟩, -⟩ := hc
  rw [value] <;> simp_all

theorem value_array (hgap : Gap cs r) (hr : Begins r) : value (fuel + 1) (room + 1) ('[' :: cs) =
    (items fuel room r).map fun (vs, rest) => (.array vs, rest) := by
  have hskip : skipSpace cs = r := hgap.skipSpace_eq.trans hr.skipSpace_eq
  obtain ⟨c, r, rfl, -, hc, -⟩ := hr
  simp only [value, hskip]
  split
  · next heq =>
    cases heq
    exact absurd rfl hc
  · rfl

theorem value_object (hgap : Gap cs r) (hr : Begins r) :
    value (fuel + 1) (room + 1) ('\x7b' :: cs) =
      (fields fuel room [] r).map fun (t, rest) => (.object t, rest) := by
  have hskip : skipSpace cs = r := hgap.skipSpace_eq.trans hr.skipSpace_eq
  obtain ⟨c, r, rfl, -, -, hc⟩ := hr
  simp only [value, hskip]
  split
  · next heq =>
    cases heq
    exact absurd rfl hc
  · rfl

theorem skipSpace_of_gap_cons {c : Char} (hc : isSpace c = false) {after : List Char}
    (hgap : Gap r (c :: after)) : skipSpace r = c :: after :=
  hgap.skipSpace_eq.trans (skipSpace_cons hc after)

theorem items_of_error {e : Refusal} (hv : value fuel room cs = .error e) :
    items (fuel + 1) room cs = .error e := by
  simp only [items, hv, Except.bind]

theorem items_of_last {v : Data} {rest : List Char} (hv : value fuel room cs = .ok (v, r))
    (hgap : Gap r (']' :: rest)) : items (fuel + 1) room cs = .ok ([v], rest) := by
  simp only [items, hv, Except.bind, skipSpace_of_gap_cons (show isSpace ']' = false from rfl) hgap]

theorem items_of_comma {v : Data} {r' r'' : List Char} (hv : value fuel room cs = .ok (v, r))
    (hgap : Gap r (',' :: r')) (hgap' : Gap r' r'') (hr : Begins r'') :
    items (fuel + 1) room cs = (items fuel room r'').map fun p => (v :: p.1, p.2) := by
  have hskip := hgap'.skipSpace_eq.trans hr.skipSpace_eq
  rcases h : items fuel room r'' with e | ⟨vs, rest⟩
  all_goals simp only [items, hv, Except.bind, Except.map, hskip, h,
    skipSpace_of_gap_cons (show isSpace ',' = false from rfl) hgap]

variable {t : Fields} {k : List CodePoint}

/-- What the reader of fields finds in front of a value: a name and a colon. -/
theorem Key.read (hk : Key cs k r) (hr : Begins r) : ∃ cs' r' after, cs = '"' :: cs' ∧
    string cs' = .ok (k, r') ∧ skipSpace r' = ':' :: after ∧ skipSpace after = r := by
  obtain ⟨h, hgap, hgap'⟩ := hk
  exact ⟨_, _, _, rfl, string_of_chars h, skipSpace_of_gap_cons rfl hgap,
    hgap'.skipSpace_eq.trans hr.skipSpace_eq⟩

theorem fields_of_error {e : Refusal} (hk : Key cs k r) (hr : Begins r)
    (hv : value fuel room r = .error e) : fields (fuel + 1) room t cs = .error e := by
  obtain ⟨cs', r', after, rfl, hname, hcolon, hskip⟩ := hk.read hr
  simp only [fields, hname, Except.bind, hcolon, hskip, hv]

theorem fields_of_last {v : Data} {r' rest : List Char} (hk : Key cs k r) (hr : Begins r)
    (hv : value fuel room r = .ok (v, r')) (hgap : Gap r' ('\x7d' :: rest)) :
    fields (fuel + 1) room t cs = .ok (Assoc.put t k v, rest) := by
  obtain ⟨cs', r', after, rfl, hname, hcolon, hskip⟩ := hk.read hr
  simp only [fields, hname, Except.bind, hcolon, hskip, hv,
    skipSpace_of_gap_cons (show isSpace '\x7d' = false from rfl) hgap]

theorem fields_of_comma {v : Data} {r' r'' r₃ : List Char} (hk : Key cs k r) (hr : Begins r)
    (hv : value fuel room r = .ok (v, r')) (hgap : Gap r' (',' :: r'')) (hgap' : Gap r'' r₃)
    (hr' : Begins r₃) : fields (fuel + 1) room t cs =
      fields fuel room (Assoc.put t k v) r₃ := by
  obtain ⟨cs', r', after, rfl, hname, hcolon, hskip⟩ := hk.read hr
  have hskip' := hgap'.skipSpace_eq.trans hr'.skipSpace_eq
  simp only [fields, hname, Except.bind, hcolon, hskip, hskip', hv,
    skipSpace_of_gap_cons (show isSpace ',' = false from rfl) hgap]

end steps

/-! ### What the reader makes of a value -/

mutual

/-- **A value is read,** given two units of fuel for each character of its text. One unit would not
do: the reader of items hands its text on to that of values as it is, and needs one unit more. -/
theorem value_of_spells {room : Nat} {cs rest : List Char} {v : Data} :
    Spells room cs v rest → ∀ {fuel : Nat}, 2 * cs.length < fuel →
      value fuel room cs = .ok (v, rest)
  | .string h, fuel + 1, _ => value_string h
  | .scalar h, fuel + 1, _ => by
    rw [value_scalar h.exists_cons]
    exact scalar_eq_ok_iff.mpr h
  | .emptyArray hgap, fuel + 1, _ => by
    simp only [value, hgap.skipSpace_eq, skipSpace_cons (show isSpace ']' = false from rfl)]
  | .array hgap h, fuel + 1, hfuel => by
    have hle := hgap.length_le
    rw [List.length_cons] at hfuel
    rw [value_array hgap h.begins, items_of_spells h (by omega)]
    rfl
  | .emptyObject hgap, fuel + 1, _ => by
    simp only [value, hgap.skipSpace_eq, skipSpace_cons (show isSpace '\x7d' = false from rfl)]
  | .object hgap h, fuel + 1, hfuel => by
    have hle := hgap.length_le
    rw [List.length_cons] at hfuel
    rw [value_object hgap h.begins, fields_of_spells h (by omega)]
    rfl

theorem items_of_spells {room : Nat} {cs rest : List Char} {vs : List Data} :
    SpellsItems room cs vs rest → ∀ {fuel : Nat}, 2 * cs.length + 1 < fuel →
      items fuel room cs = .ok (vs, rest)
  | .last hv hgap, fuel + 1, hfuel =>
    items_of_last (value_of_spells hv (by omega)) hgap
  | .more hv hgap hgap' h, fuel + 1, hfuel => by
    have hvalue := hv.length_lt
    have hcomma := hgap.length_le
    have hle := hgap'.length_le
    rw [List.length_cons] at hcomma
    rw [items_of_comma (value_of_spells hv (by omega)) hgap hgap' h.begins,
      items_of_spells h (by omega)]
    rfl

theorem fields_of_spells {room : Nat} {t t' : Fields} {cs rest : List Char} :
    SpellsFields room t cs t' rest → ∀ {fuel : Nat}, 2 * cs.length < fuel →
      fields fuel room t cs = .ok (t', rest)
  | .last hk hv hgap, fuel + 1, hfuel => by
    have hkey := hk.length_lt
    exact fields_of_last hk hv.begins (value_of_spells hv (by omega)) hgap
  | .more hk hv hgap hgap' h, fuel + 1, hfuel => by
    have hkey := hk.length_lt
    have hvalue := hv.length_lt
    have hcomma := hgap.length_le
    have hle := hgap'.length_le
    rw [List.length_cons] at hcomma
    rw [fields_of_comma hk hv.begins (value_of_spells hv (by omega)) hgap hgap' h.begins]
    exact fields_of_spells h (by omega)

end

mutual

/-- **The reading of a value breaks off** where its text breaks it off. -/
theorem value_of_breaks {room : Nat} {cs : List Char} {e : Refusal} :
    Breaks room cs e → ∀ {fuel : Nat}, 2 * cs.length < fuel → value fuel room cs = .error e
  | .integer h, fuel + 1, _ => by
    rw [value_scalar h.exists_cons]
    exact scalar_of_longScalar h
  | .deepArray, fuel + 1, _ => rfl
  | .deepObject, fuel + 1, _ => rfl
  | .array hgap h, fuel + 1, hfuel => by
    have hle := hgap.length_le
    rw [List.length_cons] at hfuel
    rw [value_array hgap h.begins, items_of_breaks h (by omega)]
    rfl
  | .object hgap h, fuel + 1, hfuel => by
    have hle := hgap.length_le
    rw [List.length_cons] at hfuel
    rw [value_object hgap h.begins, fields_of_breaks h (by omega)]
    rfl

theorem items_of_breaks {room : Nat} {cs : List Char} {e : Refusal} :
    BreaksItems room cs e → ∀ {fuel : Nat}, 2 * cs.length + 1 < fuel →
      items fuel room cs = .error e
  | .here h, fuel + 1, hfuel => items_of_error (value_of_breaks h (by omega))
  | .later hv hgap hgap' h, fuel + 1, hfuel => by
    have hvalue := hv.length_lt
    have hcomma := hgap.length_le
    have hle := hgap'.length_le
    rw [List.length_cons] at hcomma
    rw [items_of_comma (value_of_spells hv (by omega)) hgap hgap' h.begins,
      items_of_breaks h (by omega)]
    rfl

theorem fields_of_breaks {room : Nat} {cs : List Char} {e : Refusal} :
    BreaksFields room cs e → ∀ {fuel : Nat} {t : Fields}, 2 * cs.length < fuel →
      fields fuel room t cs = .error e
  | .here hk h, fuel + 1, t, hfuel => by
    have hkey := hk.length_lt
    exact fields_of_error hk h.begins (value_of_breaks h (by omega))
  | .later hk hv hgap hgap' h, fuel + 1, t, hfuel => by
    have hkey := hk.length_lt
    have hvalue := hv.length_lt
    have hcomma := hgap.length_le
    have hle := hgap'.length_le
    rw [List.length_cons] at hcomma
    rw [fields_of_comma hk hv.begins (value_of_spells hv (by omega)) hgap hgap' h.begins]
    exact fields_of_breaks h (by omega)

end

/-! ### What the reader can come to -/

/-- **An outcome that a grammar has:** something that the text spells, with what follows it, or a
refusal, as malformed or because the text breaks the reading off. -/
inductive Licensed {α : Type} (spells : α → List Char → Prop) (breaks : Refusal → Prop) :
    Reading α → Prop where
  | ok {a : α} {rest : List Char} (h : spells a rest) : Licensed spells breaks (.ok (a, rest))
  | malformed : Licensed spells breaks (.error .malformed)
  | broken {e : Refusal} (h : breaks e) : Licensed spells breaks (.error e)

namespace Licensed

variable {α β : Type} {spells : α → List Char → Prop} {spells' : β → List Char → Prop}
  {breaks breaks' : Refusal → Prop} {x : Reading α}

theorem imp {spells' : α → List Char → Prop} (h : Licensed spells breaks x)
    (hok : ∀ {a rest}, spells a rest → spells' a rest) (hbroken : ∀ {e}, breaks e → breaks' e) :
    Licensed spells' breaks' x := by
  cases h with
  | ok h => exact .ok (hok h)
  | malformed => exact .malformed
  | broken h => exact .broken (hbroken h)

theorem bind {f : α × List Char → Reading β} (h : Licensed spells breaks x)
    (hok : ∀ {a rest}, spells a rest → Licensed spells' breaks' (f (a, rest)))
    (hbroken : ∀ {e}, breaks e → breaks' e) : Licensed spells' breaks' (x.bind f) := by
  cases h with
  | ok h => exact hok h
  | malformed => exact .malformed
  | broken h => exact .broken (hbroken h)

theorem map {f : α → β} (h : Licensed spells breaks x)
    (hok : ∀ {a rest}, spells a rest → spells' (f a) rest)
    (hbroken : ∀ {e}, breaks e → breaks' e) :
    Licensed spells' breaks' (x.map fun (a, rest) => (f a, rest)) := by
  cases h with
  | ok h => exact .ok (hok h)
  | malformed => exact .malformed
  | broken h => exact .broken (hbroken h)

end Licensed

theorem string_licensed (cs : List Char) : Licensed (Chars cs) (fun _ => False) (string cs) := by
  rcases h : string cs with e | ⟨s, rest⟩
  · rw [string_eq_error cs h]
    exact .malformed
  · exact .ok (string_eq_ok_iff.mp h)

theorem scalar_licensed (room : Nat) (cs : List Char) :
    Licensed (Spells room cs) (Breaks room cs) (scalar cs) := by
  rcases h : scalar cs with e | ⟨v, rest⟩
  · obtain rfl | ⟨n, rfl, hn⟩ := scalar_eq_error h
    · exact .malformed
    · exact .broken (.integer hn)
  · exact .ok (.scalar (scalar_eq_ok_iff.mp h))

theorem gap_of_skipSpace_eq {cs rest : List Char} (h : skipSpace cs = rest) : Gap cs rest :=
  h ▸ gap_skipSpace cs

mutual

/-- **The reader of values has no other outcomes** than those of the grammar. -/
theorem value_licensed : ∀ (fuel room : Nat) (cs : List Char),
    Licensed (Spells room cs) (Breaks room cs) (value fuel room cs)
  | 0, _, _ => .malformed
  | fuel + 1, room, cs => by
    simp only [value]
    split
    · exact (string_licensed _).map (f := Data.text) Spells.string
        False.elim
    · split
      · exact .broken .deepArray
      · split
        · next hskip => exact .ok (.emptyArray (gap_of_skipSpace_eq hskip))
        · exact (items_licensed fuel _ _).map (.array (gap_skipSpace _)) (.array (gap_skipSpace _))
    · split
      · exact .broken .deepObject
      · split
        · next hskip => exact .ok (.emptyObject (gap_of_skipSpace_eq hskip))
        · exact (fields_licensed fuel _ _ _).map (.object (gap_skipSpace _))
            (.object (gap_skipSpace _))
    · exact scalar_licensed room cs

theorem items_licensed : ∀ (fuel room : Nat) (cs : List Char),
    Licensed (SpellsItems room cs) (BreaksItems room cs) (items fuel room cs)
  | 0, _, _ => .malformed
  | fuel + 1, room, cs => by
    simp only [items]
    refine (value_licensed fuel room cs).bind (fun {v r} hv => ?_) .here
    split
    · next hskip => exact .ok (.last hv (gap_of_skipSpace_eq hskip))
    · next hskip =>
      have hcomma := gap_of_skipSpace_eq hskip
      exact (items_licensed fuel room _).map (.more hv hcomma (gap_skipSpace _))
        (.later hv hcomma (gap_skipSpace _))
    · exact .malformed

theorem fields_licensed : ∀ (fuel room : Nat) (t : Fields) (cs : List Char),
    Licensed (SpellsFields room t cs) (BreaksFields room cs) (fields fuel room t cs)
  | 0, _, _, _ => .malformed
  | fuel + 1, room, t, cs => by
    simp only [fields]
    split
    · refine (string_licensed _).bind (fun {k r} hchars => ?_) False.elim
      split
      · next hskip =>
        have hk := Key.named hchars (gap_of_skipSpace_eq hskip) (gap_skipSpace _)
        refine (value_licensed fuel room _).bind (fun {v r} hv => ?_) (.here hk)
        split
        · next hskip => exact .ok (.last hk hv (gap_of_skipSpace_eq hskip))
        · next hskip =>
          have hcomma := gap_of_skipSpace_eq hskip
          exact (fields_licensed fuel room _ _).imp (.more hk hv hcomma (gap_skipSpace _))
            (.later hk hv hcomma (gap_skipSpace _))
        · exact .malformed
      · exact .malformed
    · exact .malformed

end

/-! ### Whole texts -/

/-- **The text is JSON** for some data, however deep, with white space around it. -/
def IsText (cs : List Char) (v : Data) : Prop :=
  ∃ room r rest, Gap cs r ∧ Spells room r v rest ∧ Gap rest []

/-- **The text breaks the reading off** where there is that much room, with the refusal `e`. -/
def BreaksOff (room : Nat) (cs : List Char) (e : Refusal) : Prop :=
  ∃ r, Gap cs r ∧ Breaks room r e

section texts

variable {room : Nat} {cs : List Char}

theorem BreaksOff.ne_malformed {e : Refusal} (h : BreaksOff room cs e) : e ≠ .malformed := by
  obtain ⟨r, -, he⟩ := h
  exact he.ne_malformed

theorem Gap.skipSpace_begins {r : List Char} (hgap : Gap cs r) (hr : Begins r) :
    skipSpace cs = r ∧ 2 * r.length < 2 * cs.length + 1 := by
  have hle := hgap.length_le
  exact ⟨hgap.skipSpace_eq.trans hr.skipSpace_eq, by omega⟩

/-- **A text that breaks the reading off** is refused for that. -/
theorem parse_of_breaksOff {e : Refusal} (h : BreaksOff room cs e) : parse room cs = .error e := by
  obtain ⟨r, hgap, he⟩ := h
  have ⟨hskip, hfuel⟩ := hgap.skipSpace_begins he.begins
  simp only [parse, hskip, value_of_breaks he hfuel, Except.bind]

/-- A text that is JSON is read, unless there is too little room for it. -/
theorem parse_of_isText {v : Data} (h : IsText cs v) (room : Nat) :
    parse room cs = .ok v ∨ ∃ e, BreaksOff room cs e := by
  obtain ⟨_, r, rest, hgap, hv, hend⟩ := h
  rcases hv.or_breaks room with hv | ⟨e, he⟩
  · have ⟨hskip, hfuel⟩ := hgap.skipSpace_begins hv.begins
    have hrest : skipSpace rest = [] := hend.skipSpace_eq
    refine .inl ?_
    simp only [parse, hskip, value_of_spells hv hfuel, Except.bind, hrest, List.isEmpty_nil,
      if_true]
  · exact .inr ⟨e, r, hgap, he⟩

theorem parse_cases (room : Nat) (cs : List Char) : (∃ v, parse room cs = .ok v ∧ IsText cs v) ∨
    parse room cs = .error .malformed ∨
      ∃ e, parse room cs = .error e ∧ BreaksOff room cs e := by
  have hvalue := value_licensed (2 * cs.length + 1) room (skipSpace cs)
  rw [parse]
  generalize value (2 * cs.length + 1) room (skipSpace cs) = outcome at hvalue ⊢
  cases hvalue with
  | @ok v rest hv =>
    simp only [Except.bind]
    -- a value is all of the text only if white space alone follows it
    split
    · next hempty =>
      have hend := gap_of_skipSpace_eq (List.isEmpty_iff.mp hempty)
      exact .inl ⟨v, rfl, room, _, rest, gap_skipSpace cs, hv, hend⟩
    · exact .inr (.inl rfl)
  | malformed => exact .inr (.inl rfl)
  | @broken e he => exact .inr (.inr ⟨e, rfl, _, gap_skipSpace cs, he⟩)

/-- **What a text is read as:** the data that it is JSON for, unless it breaks the reading off. -/
theorem parse_eq_ok_iff {v : Data} :
    parse room cs = .ok v ↔ IsText cs v ∧ ∀ e, ¬ BreaksOff room cs e := by
  constructor
  · intro h
    have hbreaks : ∀ e, ¬ BreaksOff room cs e := by
      intro e he
      rw [parse_of_breaksOff he] at h
      cases h
    obtain ⟨v', hv', htext⟩ | hrefused | ⟨e, -, he⟩ := parse_cases room cs
    · cases hv'.symm.trans h
      exact ⟨htext, hbreaks⟩
    · cases hrefused.symm.trans h
    · exact absurd he (hbreaks e)
  · rintro ⟨htext, hbreaks⟩
    rcases parse_of_isText htext room with h | ⟨e, he⟩
    · exact h
    · exact absurd he (hbreaks e)

/-- **When a text is malformed:** it neither is JSON nor breaks the reading off. -/
theorem parse_eq_malformed_iff :
    parse room cs = .error .malformed ↔ (∀ v, ¬ IsText cs v) ∧ ∀ e, ¬ BreaksOff room cs e := by
  constructor
  · intro h
    have hbreaks : ∀ e, ¬ BreaksOff room cs e := by
      intro e he
      rw [parse_of_breaksOff he] at h
      cases h
      exact he.ne_malformed rfl
    refine ⟨fun v hv => ?_, hbreaks⟩
    cases h.symm.trans (parse_eq_ok_iff.mpr ⟨hv, hbreaks⟩)
  · rintro ⟨htext, hbreaks⟩
    obtain ⟨v, -, hv⟩ | hrefused | ⟨e, -, he⟩ := parse_cases room cs
    · exact absurd hv (htext v)
    · exact hrefused
    · exact absurd he (hbreaks e)

theorem not_breaksOff_of_le {limit : Nat} (hle : limit ≤ room) (h : ∀ e, ¬ BreaksOff limit cs e)
    (e : Refusal) : ¬ BreaksOff room cs e := by
  rintro ⟨r, hgap, he⟩
  obtain ⟨e', he'⟩ := he.of_le limit hle
  exact h e' ⟨r, hgap, he'⟩

/-- **With more room,** a text that is read is read the same way, and one that is no JSON is none. -/
theorem parse_of_le {limit : Nat} (hle : limit ≤ room) (cs : List Char) :
    (∀ v, parse limit cs = .ok v → parse room cs = .ok v) ∧
      (parse limit cs = .error .malformed → parse room cs = .error .malformed) := by
  constructor
  · intro v h
    obtain ⟨htext, hbreaks⟩ := parse_eq_ok_iff.mp h
    exact parse_eq_ok_iff.mpr ⟨htext, not_breaksOff_of_le hle hbreaks⟩
  · intro h
    obtain ⟨htext, hbreaks⟩ := parse_eq_malformed_iff.mp h
    exact parse_eq_malformed_iff.mpr ⟨htext, not_breaksOff_of_le hle hbreaks⟩

end texts

/-! ### Texts that begin with a bracket or a brace -/

/-- The text begins with a bracket or a brace that opens. -/
def Opens (cs : List Char) : Prop := ∃ rest, cs = '[' :: rest ∨ cs = '\x7b' :: rest

/-- **JSON that begins with a bracket or a brace is an array or an object.** -/
theorem IsText.of_opens {cs : List Char} {v : Data} (h : IsText cs v) (hopens : Opens cs) :
    (∃ vs, v = .array vs) ∨ ∃ t, v = .object t := by
  obtain ⟨_, r, rest, hgap, hv, -⟩ := h
  have hr : skipSpace cs = r := hgap.skipSpace_eq.trans hv.begins.skipSpace_eq
  obtain ⟨cs, rfl | rfl⟩ := hopens
  · rw [skipSpace_cons rfl] at hr
    subst hr
    cases hv with
    | scalar h =>
      obtain ⟨c, _, ⟨⟩, hc⟩ := h.exists_cons
      cases hc
    | emptyArray => exact .inl ⟨_, rfl⟩
    | array => exact .inl ⟨_, rfl⟩
  · rw [skipSpace_cons rfl] at hr
    subst hr
    cases hv with
    | scalar h =>
      obtain ⟨c, _, ⟨⟩, hc⟩ := h.exists_cons
      cases hc
    | emptyObject => exact .inr ⟨_, rfl⟩
    | object => exact .inr ⟨_, rfl⟩

/-- **More brackets in a row than there is room for** break the reading off. -/
theorem breaks_of_brackets : ∀ (room : Nat) (rest : List Char),
    Breaks room (List.replicate (room + 1) '[' ++ rest) (.tooDeep "array")
  | 0, _ => .deepArray
  | room + 1, rest => .array .rfl (.here (breaks_of_brackets room rest))

end CrossRef.Json

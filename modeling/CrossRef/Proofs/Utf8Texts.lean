import CrossRef.Proofs.Outcome
import CrossRef.Text.Utf8
import Mathlib.Data.List.Forall2

/-! # Byte strings that are texts

Bytes are read one at a time: a first byte says how many others belong to its character, and each of
them has to lie in a range, which for the second byte depends on the first. Here it is shown that
what is read without a fault is exactly what the characters of a text are written as in UTF-8, so
neither are longer forms, surrogates or cut sequences let through, nor is any text refused.

* `charsFrom_eq_ok_iff`: a reading without a fault, piece by piece.
* `Sequence.Fills`, `IsCode`: what is read as one character.
* `spells_pieces_cons_iff`: a reading without a fault, character by character.
* `isCode_iff`: what is read as a character is what that character is written as.
* `decode?_eq_ok_iff`: the same for whole texts. -/

namespace CrossRef.Text.Utf8

open String (utf8EncodeChar)

/-! ### Pieces -/

/-- The pieces are characters, and these are `cs`. -/
def Spells (ps : List Piece) (cs : List Char) : Prop :=
  List.Forall₂ (fun p c => ∃ width, p = .char c width) ps cs

theorem spells_nil_iff {cs : List Char} : Spells [] cs ↔ cs = [] := List.forall₂_nil_left_iff

theorem spells_char_iff {c : Char} {width : Nat} {ps : List Piece} {cs : List Char} :
    Spells (.char c width :: ps) cs ↔ ∃ ds, cs = c :: ds ∧ Spells ps ds := by
  unfold Spells
  rw [List.forall₂_cons_left_iff]
  constructor
  · rintro ⟨d, ds, ⟨_, hd⟩, hds, rfl⟩
    cases hd
    exact ⟨ds, rfl, hds⟩
  · rintro ⟨ds, rfl, hds⟩
    exact ⟨c, ds, ⟨width, rfl⟩, hds, rfl⟩

theorem not_spells_fault {kind : FaultKind} {first : UInt8} {width : Nat} {ps : List Piece}
    {cs : List Char} : ¬ Spells (.fault kind first width :: ps) cs := by
  unfold Spells
  rw [List.forall₂_cons_left_iff]
  rintro ⟨_, _, ⟨_, ⟨⟩⟩, -⟩

/-- **A reading without a fault,** wherever the pieces stand. -/
theorem charsFrom_eq_ok_iff {ps : List Piece} {cs : List Char} {position : Nat} :
    charsFrom position ps = .ok cs ↔ Spells ps cs := by
  induction ps generalizing cs position with
  | nil => rw [charsFrom, Except.ok.injEq, spells_nil_iff, eq_comm]
  | cons p ps ih =>
    cases p with
    | char c width =>
      rw [charsFrom, map_eq_ok_iff, spells_char_iff]
      constructor
      · rintro ⟨ds, hds, rfl⟩
        exact ⟨ds, rfl, ih.mp hds⟩
      · rintro ⟨ds, rfl, hds⟩
        exact ⟨ds, ih.mpr hds, rfl⟩
    | fault kind first width => exact iff_of_false (by rw [charsFrom]; nofun) not_spells_fault

theorem piecesFrom_some_ne_nil : ∀ (bs : List UInt8) (s : Sequence),
    piecesFrom (some s) bs ≠ []
  | [], s => by simp [piecesFrom]
  | b :: bs, s => by
    simp only [piecesFrom, feed]
    split
    · split
      · simp
      · exact piecesFrom_some_ne_nil bs _
    · simp

/-- Only the empty byte string has no pieces. -/
theorem pieces_eq_nil_iff {bs : List UInt8} : pieces bs = [] ↔ bs = [] := by
  rcases bs with _ | ⟨b, bs⟩
  · exact iff_of_true rfl rfl
  · refine iff_of_false ?_ (by simp)
    simp only [pieces, piecesFrom, feed, begin]
    split
    · simp
    · simp
    · exact piecesFrom_some_ne_nil bs _

/-! ### A sequence that has begun -/

/-- The sequence that begins with `b` and owes `n` bytes. -/
def Sequence.start (b : UInt8) (n : Nat) : Sequence := ⟨b, 1, Utf8.payload b n, n, secondRange b⟩

/-- The sequence with one byte more. -/
def Sequence.extend (s : Sequence) (b : UInt8) : Sequence :=
  ⟨s.first, s.width + 1, s.payload * 64 + (b.toNat - 0x80), s.owed - 1, (0x80, 0xBF)⟩

/-- The byte lies in the range for the next one of the sequence. -/
def Sequence.Takes (s : Sequence) (b : UInt8) : Prop := s.range.1 ≤ b.toNat ∧ b.toNat ≤ s.range.2

instance (s : Sequence) (b : UInt8) : Decidable (s.Takes b) := inferInstanceAs (Decidable (_ ∧ _))

/-- **The bytes fill the sequence:** each lies in the range for it, and none is owed behind them. -/
def Sequence.Fills (s : Sequence) : List UInt8 → Prop
  | [] => False
  | b :: rest => s.Takes b ∧ if s.owed = 1 then rest = [] else (s.extend b).Fills rest

theorem feed_some (s : Sequence) (b : UInt8) : feed (some s) b =
    if s.Takes b then
      if s.owed = 1 then ([.char (Char.ofNat (s.extend b).payload) (s.extend b).width], none)
      else ([], some (s.extend b))
    else (.fault .badContinuation s.first s.width :: (begin b).1, (begin b).2) := rfl

/-- **What goes on a sequence without a fault** fills it, and goes on behind it without a fault. -/
theorem spells_piecesFrom_iff {s : Sequence} {bs : List UInt8} {cs : List Char} :
    Spells (piecesFrom (some s) bs) cs ↔ ∃ tail rest ds, bs = tail ++ rest ∧ s.Fills tail ∧
      cs = Char.ofNat (tail.foldl Sequence.extend s).payload :: ds ∧ Spells (pieces rest) ds := by
  induction bs generalizing s with
  | nil =>
    refine iff_of_false not_spells_fault ?_
    rintro ⟨tail, rest, ds, hbs, hfills, -⟩
    rw [(List.append_eq_nil_iff.mp hbs.symm).1] at hfills
    exact hfills
  | cons b bs ih =>
    rw [piecesFrom, feed_some]
    split
    · next hb =>
      split
      · next hlast =>
        refine spells_char_iff.trans ⟨?_, ?_⟩
        · rintro ⟨ds, rfl, hds⟩
          exact ⟨[b], bs, ds, rfl, ⟨hb, by rw [if_pos hlast]⟩, rfl, hds⟩
        · rintro ⟨_ | ⟨c, tail⟩, rest, ds, hbs, hfills, rfl, hds⟩
          · exact absurd hfills id
          · obtain ⟨rfl, rfl⟩ := List.cons.inj hbs
            have htail : tail = [] := by simpa only [if_pos hlast] using hfills.2
            subst htail
            exact ⟨ds, rfl, hds⟩
      · next hmore =>
        refine ih.trans ⟨?_, ?_⟩
        · rintro ⟨tail, rest, ds, rfl, hfills, rfl, hds⟩
          exact ⟨b :: tail, rest, ds, rfl, ⟨hb, by rwa [if_neg hmore]⟩, rfl, hds⟩
        · rintro ⟨_ | ⟨c, tail⟩, rest, ds, hbs, hfills, rfl, hds⟩
          · exact absurd hfills id
          · obtain ⟨rfl, rfl⟩ := List.cons.inj hbs
            have htail : (s.extend b).Fills tail := by simpa only [if_neg hmore] using hfills.2
            exact ⟨tail, rest, ds, rfl, htail, rfl, hds⟩
    · next hb =>
      refine iff_of_false not_spells_fault ?_
      rintro ⟨_ | ⟨c, tail⟩, rest, ds, hbs, hfills, -⟩
      · exact hfills
      · obtain ⟨rfl, -⟩ := List.cons.inj hbs
        exact hb hfills.1

/-! ### One character -/

/-- **The bytes are a code for the number:** a first byte that stands alone, or one with what it
owes. -/
def IsCode (code : List UInt8) (n : Nat) : Prop :=
  ∃ b tail, code = b :: tail ∧ ∃ owes, owed b = some owes ∧
    if owes = 0 then tail = [] ∧ n = b.toNat
    else (Sequence.start b owes).Fills tail ∧
      n = (tail.foldl Sequence.extend (.start b owes)).payload

/-- **What is read without a fault** is a code, and without a fault behind it. -/
theorem spells_pieces_cons_iff {b : UInt8} {bs : List UInt8} {cs : List Char} :
    Spells (pieces (b :: bs)) cs ↔ ∃ code rest n ds, b :: bs = code ++ rest ∧ IsCode code n ∧
      cs = Char.ofNat n :: ds ∧ Spells (pieces rest) ds := by
  have hpieces : pieces (b :: bs) = (begin b).1 ++ piecesFrom (begin b).2 bs := rfl
  rw [hpieces, begin]
  split
  · next hnone =>
    refine iff_of_false not_spells_fault ?_
    rintro ⟨code, rest, n, ds, hbs, ⟨c, tail, rfl, owes, howed, -⟩, -⟩
    obtain ⟨rfl, -⟩ := List.cons.inj hbs
    rw [hnone] at howed
    cases howed
  · next halone =>
    refine spells_char_iff.trans ⟨?_, ?_⟩
    · rintro ⟨ds, rfl, hds⟩
      have hcode : IsCode [b] b.toNat := ⟨b, [], rfl, 0, halone, rfl, rfl⟩
      exact ⟨[b], bs, b.toNat, ds, rfl, hcode, rfl, hds⟩
    · rintro ⟨code, rest, n, ds, hbs, ⟨c, tail, rfl, owes, howed, hcode⟩, rfl, hds⟩
      obtain ⟨rfl, rfl⟩ := List.cons.inj hbs
      obtain rfl : owes = 0 := Option.some.inj (howed.symm.trans halone)
      rw [if_pos rfl] at hcode
      obtain ⟨rfl, rfl⟩ := hcode
      exact ⟨ds, rfl, hds⟩
  · next owes hne howed =>
    refine spells_piecesFrom_iff.trans ⟨?_, ?_⟩
    · rintro ⟨tail, rest, ds, rfl, hfills, rfl, hds⟩
      have hcode : IsCode (b :: tail) (tail.foldl Sequence.extend (.start b owes)).payload :=
        ⟨b, tail, rfl, owes, howed, by rw [if_neg hne]; exact ⟨hfills, rfl⟩⟩
      exact ⟨b :: tail, rest, _, ds, rfl, hcode, rfl, hds⟩
    · rintro ⟨code, rest, n, ds, hbs, ⟨c, tail, rfl, owes', howed', hcode⟩, rfl, hds⟩
      obtain ⟨rfl, rfl⟩ := List.cons.inj hbs
      obtain rfl : owes' = owes := Option.some.inj (howed'.symm.trans howed)
      rw [if_neg hne] at hcode
      obtain ⟨hfills, rfl⟩ := hcode
      exact ⟨tail, rest, ds, rfl, hfills, rfl, hds⟩

theorem owed_eq_some_iff {b : UInt8} {n : Nat} : owed b = some n ↔
    (n = 0 ∧ b.toNat < 0x80) ∨ (n = 1 ∧ 0xC2 ≤ b.toNat ∧ b.toNat < 0xE0) ∨
      (n = 2 ∧ 0xE0 ≤ b.toNat ∧ b.toNat < 0xF0) ∨ (n = 3 ∧ 0xF0 ≤ b.toNat ∧ b.toNat < 0xF5) := by
  unfold owed
  grind

theorem takes_start_iff {b c : UInt8} {n : Nat} : (Sequence.start b n).Takes c ↔
    0x80 ≤ c.toNat ∧ c.toNat ≤ 0xBF ∧ (b.toNat = 0xE0 → 0xA0 ≤ c.toNat) ∧
      (b.toNat = 0xED → c.toNat ≤ 0x9F) ∧ (b.toNat = 0xF0 → 0x90 ≤ c.toNat) ∧
      (b.toNat = 0xF4 → c.toNat ≤ 0x8F) := by
  simp only [Sequence.Takes, Sequence.start, secondRange]
  split <;> grind

theorem fills_of_last {s : Sequence} {tail : List UInt8} (h : s.owed = 1) :
    s.Fills tail ↔ ∃ b, tail = [b] ∧ s.Takes b := by
  rcases tail with _ | ⟨b, tail⟩
  · exact iff_of_false id (by rintro ⟨_, ⟨⟩, -⟩)
  · simp [Sequence.Fills, h, and_comm]

theorem fills_of_more {s : Sequence} {tail : List UInt8} {n : Nat} (h : s.owed = n + 2) :
    s.Fills tail ↔ ∃ b rest, tail = b :: rest ∧ s.Takes b ∧ (s.extend b).Fills rest := by
  rcases tail with _ | ⟨b, tail⟩
  · exact iff_of_false id (by rintro ⟨_, _, ⟨⟩, -⟩)
  · simp [Sequence.Fills, h]

/-- **The codes by their lengths,** with the numbers that they are for. -/
theorem isCode_iff_lengths {code : List UInt8} {n : Nat} : IsCode code n ↔
    (∃ a : UInt8, code = [a] ∧ a.toNat < 0x80 ∧ n = a.toNat) ∨
    (∃ a b : UInt8, code = [a, b] ∧ (0xC2 ≤ a.toNat ∧ a.toNat < 0xE0) ∧
      (Sequence.start a 1).Takes b ∧ n = a.toNat % 32 * 64 + (b.toNat - 0x80)) ∨
    (∃ a b c : UInt8, code = [a, b, c] ∧ (0xE0 ≤ a.toNat ∧ a.toNat < 0xF0) ∧
      (Sequence.start a 2).Takes b ∧ (0x80 ≤ c.toNat ∧ c.toNat ≤ 0xBF) ∧
      n = (a.toNat % 16 * 64 + (b.toNat - 0x80)) * 64 + (c.toNat - 0x80)) ∨
    (∃ a b c d : UInt8, code = [a, b, c, d] ∧ (0xF0 ≤ a.toNat ∧ a.toNat < 0xF5) ∧
      (Sequence.start a 3).Takes b ∧ (0x80 ≤ c.toNat ∧ c.toNat ≤ 0xBF) ∧
      (0x80 ≤ d.toNat ∧ d.toNat ≤ 0xBF) ∧
      n = ((a.toNat % 8 * 64 + (b.toNat - 0x80)) * 64 + (c.toNat - 0x80)) * 64 +
        (d.toNat - 0x80)) := by
  constructor
  · rintro ⟨a, tail, rfl, owes, howed, hcode⟩
    obtain ⟨rfl, ha⟩ | ⟨rfl, ha⟩ | ⟨rfl, ha⟩ | ⟨rfl, ha⟩ := owed_eq_some_iff.mp howed
    · obtain ⟨rfl, rfl⟩ := hcode
      exact Or.inl ⟨a, rfl, ha, rfl⟩
    · obtain ⟨hfills, rfl⟩ := hcode
      obtain ⟨b, rfl, hb⟩ := (fills_of_last rfl).mp hfills
      exact Or.inr (Or.inl ⟨a, b, rfl, ha, hb, rfl⟩)
    · obtain ⟨hfills, rfl⟩ := hcode
      obtain ⟨b, tail, rfl, hb, htail⟩ := (fills_of_more rfl).mp hfills
      obtain ⟨c, rfl, hc⟩ := (fills_of_last rfl).mp htail
      exact Or.inr (Or.inr (Or.inl ⟨a, b, c, rfl, ha, hb, hc, rfl⟩))
    · obtain ⟨hfills, rfl⟩ := hcode
      obtain ⟨b, tail, rfl, hb, htail⟩ := (fills_of_more rfl).mp hfills
      obtain ⟨c, tail, rfl, hc, htail⟩ := (fills_of_more rfl).mp htail
      obtain ⟨d, rfl, hd⟩ := (fills_of_last rfl).mp htail
      exact Or.inr (Or.inr (Or.inr ⟨a, b, c, d, rfl, ha, hb, hc, hd, rfl⟩))
  · rintro (⟨a, rfl, ha, hn⟩ | ⟨a, b, rfl, ha, hb, hn⟩ | ⟨a, b, c, rfl, ha, hb, hc, hn⟩ |
      ⟨a, b, c, d, rfl, ha, hb, hc, hd, hn⟩)
    · exact ⟨a, [], rfl, 0, owed_eq_some_iff.mpr (Or.inl ⟨rfl, ha⟩), rfl, hn⟩
    · refine ⟨a, [b], rfl, 1, owed_eq_some_iff.mpr (Or.inr (Or.inl ⟨rfl, ha⟩)), ?_, hn⟩
      exact (fills_of_last rfl).mpr ⟨b, rfl, hb⟩
    · have howed : owed a = some 2 := owed_eq_some_iff.mpr (by omega)
      refine ⟨a, [b, c], rfl, 2, howed, ?_, hn⟩
      exact (fills_of_more rfl).mpr ⟨b, [c], rfl, hb, (fills_of_last rfl).mpr ⟨c, rfl, hc⟩⟩
    · have howed : owed a = some 3 := owed_eq_some_iff.mpr (by omega)
      refine ⟨a, [b, c, d], rfl, 3, howed, ?_, hn⟩
      refine (fills_of_more rfl).mpr ⟨b, [c, d], rfl, hb, ?_⟩
      exact (fills_of_more rfl).mpr ⟨c, [d], rfl, hc, (fills_of_last rfl).mpr ⟨d, rfl, hd⟩⟩

theorem ofNat_eq {a : UInt8} {n : Nat} (h : n = a.toNat) : UInt8.ofNat n = a := by
  rw [h, UInt8.ofNat_toNat]

theorem toNat_charOfNat {n : Nat} (h : n.isValidChar) : (Char.ofNat n).toNat = n := by
  rw [Char.ofNat, dif_pos h]
  rfl

/-- What a character is written as, by its number. -/
theorem encode_eq (c : Char) : utf8EncodeChar c =
    if c.toNat ≤ 0x7F then [UInt8.ofNat c.toNat]
    else if c.toNat ≤ 0x7FF then
      [UInt8.ofNat (c.toNat / 64 % 32 + 0xC0), UInt8.ofNat (c.toNat % 64 + 0x80)]
    else if c.toNat ≤ 0xFFFF then
      [UInt8.ofNat (c.toNat / 4096 % 16 + 0xE0), UInt8.ofNat (c.toNat / 64 % 64 + 0x80),
        UInt8.ofNat (c.toNat % 64 + 0x80)]
    else
      [UInt8.ofNat (c.toNat / 262144 % 8 + 0xF0), UInt8.ofNat (c.toNat / 4096 % 64 + 0x80),
        UInt8.ofNat (c.toNat / 64 % 64 + 0x80), UInt8.ofNat (c.toNat % 64 + 0x80)] := rfl

/-- **A code is what a character is written as,** for the number of the character. -/
theorem isCode_iff {code : List UInt8} {n : Nat} :
    IsCode code n ↔ ∃ c : Char, c.toNat = n ∧ code = utf8EncodeChar c := by
  rw [isCode_iff_lengths]
  simp only [takes_start_iff]
  constructor
  · rintro (⟨a, rfl, ha, hn⟩ | ⟨a, b, rfl, ha, hb, hn⟩ | ⟨a, b, c, rfl, ha, hb, hc, hn⟩ |
      ⟨a, b, c, d, rfl, ha, hb, hc, hd, hn⟩)
    · have hvalid : n.isValidChar := Or.inl (by omega)
      refine ⟨Char.ofNat n, toNat_charOfNat hvalid, ?_⟩
      rw [encode_eq, toNat_charOfNat hvalid, if_pos (by omega), ofNat_eq hn]
    · have hvalid : n.isValidChar := Or.inl (by omega)
      refine ⟨Char.ofNat n, toNat_charOfNat hvalid, ?_⟩
      rw [encode_eq, toNat_charOfNat hvalid, if_neg (by omega), if_pos (by omega),
        ofNat_eq (a := a) (by omega), ofNat_eq (a := b) (by omega)]
    · have hvalid : n.isValidChar := by
        show n < 0xD800 ∨ 0xDFFF < n ∧ n < 0x110000
        omega
      refine ⟨Char.ofNat n, toNat_charOfNat hvalid, ?_⟩
      rw [encode_eq, toNat_charOfNat hvalid, if_neg (by omega), if_neg (by omega),
        if_pos (by omega), ofNat_eq (a := a) (by omega), ofNat_eq (a := b) (by omega),
        ofNat_eq (a := c) (by omega)]
    · have hvalid : n.isValidChar := by
        show n < 0xD800 ∨ 0xDFFF < n ∧ n < 0x110000
        omega
      refine ⟨Char.ofNat n, toNat_charOfNat hvalid, ?_⟩
      rw [encode_eq, toNat_charOfNat hvalid, if_neg (by omega), if_neg (by omega),
        if_neg (by omega), ofNat_eq (a := a) (by omega), ofNat_eq (a := b) (by omega),
        ofNat_eq (a := c) (by omega), ofNat_eq (a := d) (by omega)]
  · rintro ⟨c, rfl, rfl⟩
    have hvalid : c.toNat < 0xD800 ∨ 0xDFFF < c.toNat ∧ c.toNat < 0x110000 := c.valid
    have hbyte {m : Nat} (hm : m < 256) : (UInt8.ofNat m).toNat = m := UInt8.toNat_ofNat_of_lt hm
    rw [encode_eq]
    split
    · refine Or.inl ⟨_, rfl, ?_⟩
      rw [hbyte (by omega)]
      omega
    · split
      · refine Or.inr (Or.inl ⟨_, _, rfl, ?_⟩)
        rw [hbyte (by omega), hbyte (by omega)]
        omega
      · split
        · refine Or.inr (Or.inr (Or.inl ⟨_, _, _, rfl, ?_⟩))
          rw [hbyte (by omega), hbyte (by omega), hbyte (by omega)]
          omega
        · refine Or.inr (Or.inr (Or.inr ⟨_, _, _, _, rfl, ?_⟩))
          rw [hbyte (by omega), hbyte (by omega), hbyte (by omega), hbyte (by omega)]
          omega

/-! ### Whole texts -/

/-- **The bytes are a text in UTF-8:** what its characters are written as, one after the other. -/
def IsUtf8 (bytes : List UInt8) : Prop := ∃ cs : List Char, bytes = cs.flatMap utf8EncodeChar

theorem spells_pieces_iff {bs : List UInt8} {cs : List Char} :
    Spells (pieces bs) cs ↔ bs = cs.flatMap utf8EncodeChar := by
  induction cs generalizing bs with
  | nil =>
    rcases bs with _ | ⟨b, bs⟩
    · exact iff_of_true (spells_nil_iff.mpr rfl) rfl
    · refine iff_of_false (fun h => ?_) nofun
      obtain ⟨_, _, _, _, -, -, ⟨⟩, -⟩ := spells_pieces_cons_iff.mp h
  | cons c cs ih =>
    rw [List.flatMap_cons]
    constructor
    · intro h
      rcases bs with _ | ⟨b, bs⟩
      · cases spells_nil_iff.mp h
      · obtain ⟨code, rest, n, ds, hbs, hcode, hcs, hrest⟩ := spells_pieces_cons_iff.mp h
        obtain ⟨d, rfl, rfl⟩ := isCode_iff.mp hcode
        obtain ⟨rfl, rfl⟩ := List.cons.inj hcs
        rw [hbs, Char.ofNat_toNat, ih.mp hrest]
    · rintro rfl
      have hcode : IsCode (utf8EncodeChar c) c.toNat := isCode_iff.mpr ⟨c, rfl, rfl⟩
      obtain ⟨b, tail, hb, -⟩ := id hcode
      rw [hb, List.cons_append, spells_pieces_cons_iff, ← List.cons_append, ← hb]
      exact ⟨_, _, _, cs, rfl, hcode, by rw [Char.ofNat_toNat], ih.mpr rfl⟩

/-- **Bytes are read without a fault exactly if they are a text in UTF-8,** and then that text is
read. -/
theorem decode?_eq_ok_iff {bs : List UInt8} {cs : List Char} :
    decode? bs = .ok cs ↔ bs = cs.flatMap utf8EncodeChar :=
  charsFrom_eq_ok_iff.trans spells_pieces_iff

theorem exists_decode?_iff {bs : List UInt8} : (∃ cs, decode? bs = .ok cs) ↔ IsUtf8 bs :=
  exists_congr fun _ => decode?_eq_ok_iff

end CrossRef.Text.Utf8

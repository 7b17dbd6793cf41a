import CrossRef.Proofs.LineCuts
import CrossRef.World

/-! # Where paths lead

A path can be spelled in many ways: relative or absolute, with single and double points, with
slashes repeated or at its end. All of them come down to a *location*, the names from the root to
what the path leads to. A location is in *normal form* if each of its parts is a name that something
can have; seen from a normal current directory every path leads to a normal location.

* `isNormal_resolve`: locations of paths are normal, also of those that go up above the root.
* `resolve_ofLocation`, `ofString_text`: a normal location is where its own path leads, seen from
  anywhere, and is read back from its text. -/

namespace CrossRef

namespace Path

/-! ### Names -/

/-- **A name that something can have.** -/
@[mk_iff] structure IsName (part : String) : Prop where
  not_idle : isIdle part = false
  not_up : part ≠ ".."
  no_slash : '/' ∉ part.toList
  no_nul : '\x00' ∉ part.toList

instance (part : String) : Decidable (IsName part) := decidable_of_iff' _ (isName_iff part)

/-- **A location in normal form:** all its parts are names. -/
def IsNormal (l : Location) : Prop := ∀ part ∈ l, IsName part

instance (l : Location) : Decidable (IsNormal l) :=
  inferInstanceAs (Decidable (∀ part ∈ l, IsName part))

/-- The parts of the path stand between slashes. -/
def IsCut (p : Path) : Prop := ∀ part ∈ p.parts, '/' ∉ part.toList

/-! ### Steps -/

theorem step_of_isName {part : String} (h : IsName part) (l : Location) :
    step l part = l ++ [part] := by
  unfold step
  rw [h.not_idle, if_neg Bool.false_ne_true, if_neg h.not_up]

/-- Names lead down, one after the other. -/
theorem foldl_step_of_isNormal : ∀ {m : Location}, IsNormal m → ∀ l : Location,
    m.foldl step l = l ++ m
  | [], _, l => by simp
  | part :: m, h, l => by
    have hm : IsNormal m := fun p hp => h p (List.mem_cons_of_mem part hp)
    rw [List.foldl_cons, step_of_isName (h part (List.mem_cons_self ..)),
      foldl_step_of_isNormal hm]
    simp

/-- **One step** from a normal location leads to a normal one. At the root a double point stays
there, since the root has no last part to drop. -/
theorem isNormal_step {l : Location} {part : String} (hl : IsNormal l)
    (hslash : '/' ∉ part.toList) (hnul : '\x00' ∉ part.toList) : IsNormal (step l part) := by
  unfold step
  split
  · exact hl
  · next hidle =>
    split
    · exact fun p hp => hl p (List.dropLast_subset l hp)
    · next hup =>
      intro p hp
      rcases List.mem_append.mp hp with hp | hp
      · exact hl p hp
      · rw [List.mem_singleton.mp hp]
        exact ⟨by simpa using hidle, hup, hslash, hnul⟩

theorem isNormal_foldl_step : ∀ {parts : List String} {l : Location}, IsNormal l →
    (∀ part ∈ parts, '/' ∉ part.toList) → (∀ part ∈ parts, '\x00' ∉ part.toList) →
      IsNormal (parts.foldl step l)
  | [], _, hl, _, _ => hl
  | part :: parts, _, hl, hslash, hnul => by
    rw [List.forall_mem_cons] at hslash hnul
    rw [List.foldl_cons]
    exact isNormal_foldl_step (isNormal_step hl hslash.1 hnul.1) hslash.2 hnul.2

theorem hasNul_eq_false_iff {p : Path} :
    p.hasNul = false ↔ ∀ part ∈ p.parts, '\x00' ∉ part.toList := by
  unfold hasNul
  rw [List.any_eq_false]
  simp

/-- **Every path leads to a normal location,** seen from one. -/
theorem isNormal_resolve {cwd : Location} {p : Path} (hcwd : IsNormal cwd) (hp : p.IsCut)
    (hnul : p.hasNul = false) : IsNormal (p.resolve cwd) := by
  refine isNormal_foldl_step ?_ hp (hasNul_eq_false_iff.mp hnul)
  unfold start
  split
  · exact fun part hpart => absurd hpart (List.not_mem_nil)
  · exact hcwd

/-! ### Paths of locations -/

/-- **A normal location is where its own path leads,** seen from anywhere. -/
theorem resolve_ofLocation {l : Location} (h : IsNormal l) (cwd : Location) :
    (ofLocation l).resolve cwd = l := foldl_step_of_isNormal h []

theorem hasNul_ofLocation {l : Location} (h : IsNormal l) : (ofLocation l).hasNul = false :=
  hasNul_eq_false_iff.mpr fun part hpart => (h part hpart).no_nul

theorem isCut_ofLocation {l : Location} (h : IsNormal l) : (ofLocation l).IsCut :=
  fun part hpart => (h part hpart).no_slash

theorem isCut_ofString (s : String) : (ofString s).IsCut := by
  intro part hpart hslash
  obtain ⟨piece, hpiece, rfl⟩ := List.mem_map.mp (List.mem_filter.mp hpart).1
  rw [Text.cutAt_eq_splitOnP] at hpiece
  rw [String.toList_ofList] at hslash
  simpa using (mem_of_mem_splitOnP hpiece hslash).2

theorem isCut_join {p q : Path} (hp : p.IsCut) (hq : q.IsCut) : (p.join q).IsCut := by
  unfold join
  split
  · exact hq
  · intro part hpart
    rcases List.mem_append.mp hpart with hpart | hpart
    · exact hp part hpart
    · exact hq part hpart

/-- The text of a location begins with one slash and goes on with its names. -/
theorem toList_text_ofLocation (l : Location) :
    (ofLocation l).text.toList = '/' :: ['/'].intercalate (l.map String.toList) := by
  have hroot : ¬ ((ofLocation l).anchor = .relative ∧ (ofLocation l).parts = []) := fun h => by
    cases h.1
  have hslash : "/".toList = ['/'] := by decide
  unfold text
  rw [if_neg hroot, Text.joined, String.toList_append, String.toList_intercalate, hslash]
  show "/".toList ++ ['/'].intercalate (l.map String.toList) = _
  rw [hslash]
  rfl

theorem pieces_text_ofLocation {l : Location} (h : IsNormal l) :
    pieces (ofLocation l).text = if l = [] then ["", ""] else "" :: l := by
  have hcut : Text.cutAt '/' (ofLocation l).text.toList =
      [] :: (['/'].intercalate (l.map String.toList)).splitOn '/' := by
    rw [toList_text_ofLocation, Text.cutAt, if_pos rfl, Text.cutAt_eq_splitOnP]
    rfl
  unfold pieces
  rw [hcut]
  split
  · next hl =>
    subst hl
    rfl
  · next hl =>
    have hslash : ∀ part ∈ l.map String.toList, '/' ∉ part := by
      intro part hpart
      obtain ⟨name, hname, rfl⟩ := List.mem_map.mp hpart
      exact (h name hname).no_slash
    rw [List.splitOn_intercalate '/' hslash (by simpa using hl), List.map_cons, List.map_map]
    have hid : String.ofList ∘ String.toList = id := funext fun s => String.ofList_toList
    rw [hid, List.map_id]

/-- A text that goes on with a name after its slash has one slash in front. -/
theorem anchorOf_text_ofLocation {l : Location} (h : IsNormal l) :
    anchorOf (ofLocation l).text.toList = .root := by
  rw [toList_text_ofLocation]
  rcases l with _ | ⟨name, l⟩
  · rfl
  · have hname := h name (List.mem_cons_self ..)
    rcases hc : name.toList with _ | ⟨c, cs⟩
    · have : name = "" := String.toList_eq_nil_iff.mp hc
      subst this
      exact absurd hname.not_idle (by decide)
    · have hslash : c ≠ '/' := by
        rintro rfl
        exact hname.no_slash (by rw [hc]; exact List.mem_cons_self ..)
      have hhead : ∃ rest, ['/'].intercalate ((name :: l).map String.toList) = c :: rest := by
        rcases l with _ | ⟨next, l⟩
        · exact ⟨cs, by simp [List.intercalate, hc]⟩
        · exact ⟨_, by rw [List.map_cons, hc]; rfl⟩
      obtain ⟨rest, hrest⟩ := hhead
      rw [hrest]
      unfold anchorOf
      split
      · next heq => exact absurd (List.cons.inj (List.cons.inj heq).2).1 hslash
      · next heq => exact absurd (List.cons.inj (List.cons.inj heq).2).1 hslash
      · rfl
      · next h1 h2 h3 => exact absurd rfl (h3 _)

/-- **A normal location is read back from its text.** -/
theorem ofString_text {l : Location} (h : IsNormal l) :
    ofString (ofLocation l).text = ofLocation l := by
  have hparts : (pieces (ofLocation l).text).filter (fun piece => !isIdle piece) = l := by
    rw [pieces_text_ofLocation h]
    split
    · next hl =>
      subst hl
      rfl
    · have hnames : ∀ part ∈ l, (!isIdle part) = true := fun part hpart => by
        rw [(h part hpart).not_idle]
        rfl
      rw [List.filter_cons_of_neg (by decide), List.filter_eq_self.mpr hnames]
  unfold ofString
  rw [anchorOf_text_ofLocation h, hparts]
  rfl

end Path

/-! ### Locating -/

namespace World

theorem locate_eq_ok_iff {w : World} {p : Path} {l : Location} :
    w.locate p = .ok l ↔ p.hasNul = false ∧ p.resolve w.cwd = l := by
  unfold locate
  split
  · next h => simp [h]
  · next h => simp [h]

theorem locate_ofLocation {l : Location} (h : Path.IsNormal l) (w : World) :
    w.locate (.ofLocation l) = .ok l :=
  locate_eq_ok_iff.mpr ⟨Path.hasNul_ofLocation h, Path.resolve_ofLocation h w.cwd⟩

theorem isNormal_of_locate {w : World} {p : Path} {l : Location} (hcwd : Path.IsNormal w.cwd)
    (hp : p.IsCut) (h : w.locate p = .ok l) : Path.IsNormal l := by
  obtain ⟨hnul, rfl⟩ := locate_eq_ok_iff.mp h
  exact Path.isNormal_resolve hcwd hp hnul

end World

end CrossRef

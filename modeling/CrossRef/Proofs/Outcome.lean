import CrossRef.Traced

/-! # Outcomes read back

A computation that can fail is a chain of steps, and a chain ends well exactly if each of its steps
does. The lemmas here take a chain that ended well apart into its steps, for plain outcomes and for
computations that leave a trace.

A chain that failed did so at one of its steps. `Fails P` says that an outcome is a failure of the
kind `P`, and is passed on through a chain in the same way. -/

namespace CrossRef

section outcomes

variable {ε ε' α β : Type}

theorem bind_eq_ok_iff {x : Except ε α} {f : α → Except ε β} {b : β} :
    x.bind f = .ok b ↔ ∃ a, x = .ok a ∧ f a = .ok b := by
  rcases x with e | a <;> simp [Except.bind]

theorem map_eq_ok_iff {x : Except ε α} {f : α → β} {b : β} :
    x.map f = .ok b ↔ ∃ a, x = .ok a ∧ f a = b := by
  rcases x with e | a <;> simp [Except.map]

theorem mapError_eq_ok_iff {x : Except ε α} {f : ε → ε'} {a : α} :
    x.mapError f = .ok a ↔ x = .ok a := by
  constructor
  · intro h
    rcases x with e | a
    · cases h
    · cases h
      rfl
  · rintro rfl
    rfl

theorem toOption_eq_some_iff {x : Except ε α} {a : α} : x.toOption = some a ↔ x = .ok a := by
  rcases x with e | a <;> simp [Except.toOption]

theorem toOption_eq_none_iff {x : Except ε α} : x.toOption = none ↔ ∃ e, x = .error e := by
  rcases x with e | a <;> simp [Except.toOption]

/-- **The outcome is a failure** of the kind `P`. -/
def Fails (P : ε → Prop) (x : Except ε α) : Prop := ∃ e, x = .error e ∧ P e

@[simp] theorem not_fails_ok {P : ε → Prop} (a : α) : ¬ Fails P (.ok a : Except ε α) := by
  rintro ⟨e, ⟨⟩, -⟩

@[simp] theorem fails_error_iff {P : ε → Prop} {e : ε} :
    Fails P (.error e : Except ε α) ↔ P e := by
  constructor
  · rintro ⟨_, ⟨⟩, h⟩
    exact h
  · exact fun h => ⟨e, rfl, h⟩

theorem fails_bind_iff {P : ε → Prop} {x : Except ε α} {f : α → Except ε β} :
    Fails P (x.bind f) ↔ Fails P x ∨ ∃ a, x = .ok a ∧ Fails P (f a) := by
  rcases x with e | a <;> simp [Except.bind]

theorem fails_mapError_iff {P : ε' → Prop} {x : Except ε α} {f : ε → ε'} :
    Fails P (x.mapError f) ↔ Fails (fun e => P (f e)) x := by
  rcases x with e | a
  · show Fails P (.error (f e)) ↔ _
    rw [fails_error_iff, fails_error_iff]
  · exact iff_of_false (not_fails_ok a) (not_fails_ok a)

theorem fails_map_iff {P : ε → Prop} {x : Except ε α} {f : α → β} :
    Fails P (x.map f) ↔ Fails P x := by
  rcases x with e | a <;> simp [Except.map]

end outcomes

namespace Traced

variable {ω α : Type}

@[simp] theorem outcome_ofFault (x : Except Fault α) :
    (ofFault x : Traced ω α).outcome = x.mapError .fault := rfl

end Traced

end CrossRef

import CrossRef.Proofs.IndexEntries
import CrossRef.Session

/-! # Who owns an identifier attribute

The index of a sequence of events is built in one pass that keeps a list of waiting attributes. Here
it is said position by position instead: the identifier attribute at position `i` belongs to the
first element that starts after `i`, and is an anomaly if there is none.

* `entryAt?`, `anomalyAt?`: what the event at one position comes to.
* `entriesOf`, `anomaliesOf`: what all positions come to, in order.
* `foldl_step`: the pass from any state, with any attributes waiting.
* `indexEvents_by_position`: the pass gives what the positions say, under either case policy, strict
  or not. -/

namespace CrossRef.Ownership

/-! ### Positions -/

/-- The name and the value of an identifier attribute. -/
def declared? : Event → Option (String × String)
  | .attr name value kind => if kind = Event.idKind then some (name, value) else none
  | .element _ => none

/-- The name of the element that an event starts. -/
def started? : Event → Option String
  | .attr .. => none
  | .element name => some name

/-- The first element that starts in a sequence of events. -/
def firstStart? (events : List Event) : Option String := events.findSome? started?

/-- **The owner of the position `i`:** the first element that starts after it. -/
def owner? (events : List Event) (i : Nat) : Option String := firstStart? (events.drop (i + 1))

/-- **The entry of the position `i`:** there is one if an identifier attribute stands there and has
an owner. -/
def entryAt? (policy : Bool) (events : List Event) (i : Nat) : Option Entry :=
  match events[i]?.bind declared?, owner? events i with
  | some (name, value), some element =>
    some ⟨Index.foldCase policy value, Index.foldCase policy name, Index.foldCase policy element⟩
  | _, _ => none

/-- **The anomaly of the position `i`:** there is one if an identifier attribute stands there and
has no owner. -/
def anomalyAt? (policy : Bool) (events : List Event) (i : Nat) : Option Anomaly :=
  match events[i]?.bind declared?, owner? events i with
  | some (name, value), none => some ⟨Index.foldCase policy value, Index.foldCase policy name⟩
  | _, _ => none

/-- The entries of all positions, in order. -/
def entriesOf (policy : Bool) (events : List Event) : List Entry :=
  (List.range events.length).filterMap (entryAt? policy events)

/-- The anomalies of all positions, in order. -/
def anomaliesOf (policy : Bool) (events : List Event) : List Anomaly :=
  (List.range events.length).filterMap (anomalyAt? policy events)

/-! ### One event more -/

theorem filterMap_range_succ {α : Type} (f g : Nat → Option α) (n : Nat)
    (h : ∀ i, f (i + 1) = g i) :
    (List.range (n + 1)).filterMap f = (f 0).toList ++ (List.range n).filterMap g := by
  rw [List.range_succ_eq_map, List.filterMap_cons, List.filterMap_map]
  have : f ∘ Nat.succ = g := funext h
  rw [this]
  rcases f 0 with _ | a <;> rfl

theorem entriesOf_cons (policy : Bool) (e : Event) (es : List Event) :
    entriesOf policy (e :: es) = (entryAt? policy (e :: es) 0).toList ++ entriesOf policy es :=
  filterMap_range_succ _ _ _ fun _ => rfl

theorem anomaliesOf_cons (policy : Bool) (e : Event) (es : List Event) :
    anomaliesOf policy (e :: es) =
      (anomalyAt? policy (e :: es) 0).toList ++ anomaliesOf policy es :=
  filterMap_range_succ _ _ _ fun _ => rfl

@[simp] theorem owner?_cons_zero (e : Event) (es : List Event) :
    owner? (e :: es) 0 = firstStart? es := rfl

/-- The first event comes to an entry or to an anomaly if it is an identifier attribute, and to
nothing otherwise. -/
theorem head_cases (policy : Bool) (e : Event) (es : List Event) :
    (entryAt? policy (e :: es) 0).toList.length + (anomalyAt? policy (e :: es) 0).toList.length =
      if (declared? e).isSome then 1 else 0 := by
  simp only [entryAt?, anomalyAt?, owner?_cons_zero, List.getElem?_cons_zero, Option.bind_some]
  rcases declared? e with _ | ⟨name, value⟩ <;> rcases firstStart? es with _ | element <;> rfl

/-- **Every identifier attribute is counted once,** as an entry or as an anomaly. -/
theorem length_entriesOf_add_length_anomaliesOf (policy : Bool) : ∀ events : List Event,
    (entriesOf policy events).length + (anomaliesOf policy events).length =
      events.countP fun e => (declared? e).isSome
  | [] => rfl
  | e :: es => by
    have ih := length_entriesOf_add_length_anomaliesOf policy es
    have hh := head_cases policy e es
    rw [entriesOf_cons, anomaliesOf_cons, List.countP_cons, List.length_append, List.length_append]
    omega

/-! ### The pass over the events -/

/-- The entries of the waiting attributes once an element starts among `events`. -/
def takenBy (policy : Bool) (events : List Event) (waiting : List (String × String)) :
    List Entry :=
  match firstStart? events with
  | some element => waiting.map (Building.entryOf policy element)
  | none => []

/-- The attributes that still wait after `events`, of those that waited before. -/
def leftBy (events : List Event) (waiting : List (String × String)) : List (String × String) :=
  if (firstStart? events).isSome then [] else waiting

/-- The identifier attributes among `events` that no element start follows. -/
def danglingOf (events : List Event) : List (String × String) :=
  (List.range events.length).filterMap fun i =>
    if (owner? events i).isSome then none else events[i]?.bind declared?

theorem danglingOf_cons (e : Event) (es : List Event) :
    danglingOf (e :: es) =
      (if (firstStart? es).isSome then none else declared? e).toList ++ danglingOf es :=
  filterMap_range_succ _ _ _ fun _ => rfl

theorem map_danglingOf (policy : Bool) : ∀ events : List Event,
    (danglingOf events).map (Building.anomalyOf policy) = anomaliesOf policy events
  | [] => rfl
  | e :: es => by
    rw [danglingOf_cons, anomaliesOf_cons, List.map_append, map_danglingOf policy es]
    simp only [anomalyAt?, owner?_cons_zero, List.getElem?_cons_zero, Option.bind_some]
    rcases declared? e with _ | ⟨name, value⟩ <;> rcases firstStart? es with _ | element <;> rfl

theorem takenBy_append (policy : Bool) (events : List Event) (ps qs : List (String × String)) :
    takenBy policy events (ps ++ qs) = takenBy policy events ps ++ takenBy policy events qs := by
  unfold takenBy
  split
  · rw [List.map_append]
  · rfl

theorem takenBy_nil (policy : Bool) (events : List Event) : takenBy policy events [] = [] := by
  unfold takenBy
  split <;> rfl

theorem leftBy_append (events : List Event) (ps qs : List (String × String)) :
    leftBy events (ps ++ qs) = leftBy events ps ++ leftBy events qs := by
  unfold leftBy
  split <;> rfl

theorem leftBy_nil (events : List Event) : leftBy events [] = [] := by
  unfold leftBy
  split <;> rfl

/-- The first event comes to what it would have come to had it waited already. -/
theorem entriesOf_cons_eq_takenBy (policy : Bool) (e : Event) (es : List Event) :
    entriesOf policy (e :: es) =
      takenBy policy es (declared? e).toList ++ entriesOf policy es := by
  rw [entriesOf_cons]
  simp only [entryAt?, takenBy, owner?_cons_zero, List.getElem?_cons_zero, Option.bind_some]
  rcases declared? e with _ | ⟨name, value⟩ <;> rcases firstStart? es with _ | element <;> rfl

theorem danglingOf_cons_eq_leftBy (e : Event) (es : List Event) :
    danglingOf (e :: es) = leftBy es (declared? e).toList ++ danglingOf es := by
  rw [danglingOf_cons]
  unfold leftBy
  split <;> rfl

/-- **The pass from any state.** The attributes that wait go to the first element that starts, and
the rest of the events is taken as if nothing had waited. -/
theorem foldl_step : ∀ (events : List Event) (b : Building),
    events.foldl Building.step b =
      { index := (takenBy b.index.caseSensitive events b.waiting ++
          entriesOf b.index.caseSensitive events).foldl Index.add b.index
        waiting := leftBy events b.waiting ++ danglingOf events }
  | [], b => by simp [takenBy, leftBy, entriesOf, danglingOf, firstStart?]
  | .element name :: es, b => by
    rw [List.foldl_cons, foldl_step es, entriesOf_cons_eq_takenBy, danglingOf_cons_eq_leftBy]
    simp only [Building.step, Index.foldl_add_caseSensitive, declared?, Option.toList_none,
      takenBy_nil, leftBy_nil, List.nil_append, List.foldl_append]
    rfl
  | .attr name value kind :: es, b => by
    rw [List.foldl_cons, foldl_step es, entriesOf_cons_eq_takenBy, danglingOf_cons_eq_leftBy]
    by_cases hk : kind = Event.idKind
    · simp only [Building.step, declared?, if_pos hk, Option.toList_some, takenBy_append,
        leftBy_append, List.append_assoc]
      rfl
    · simp only [Building.step, declared?, if_neg hk, Option.toList_none, takenBy_nil, leftBy_nil,
        List.nil_append]
      rfl

/-- **The index and the anomalies of a sequence of events** are those of its positions. -/
theorem build_eq (policy : Bool) (events : List Event) :
    Index.build policy events =
      ⟨Index.ofEntries policy (entriesOf policy events), anomaliesOf policy events⟩ := by
  unfold Index.build
  rw [foldl_step]
  simp only [Building.finish, takenBy_nil, leftBy_nil, List.nil_append,
    Index.foldl_add_caseSensitive, map_danglingOf]
  rfl

/-! ### Other attributes -/

/-- The event is an identifier attribute or an element start. -/
def matters (e : Event) : Bool := (declared? e).isSome || (started? e).isSome

theorem step_of_not_matters {e : Event} (h : ¬ matters e = true) (b : Building) : b.step e = b := by
  cases e with
  | element name => exact absurd rfl h
  | attr name value kind =>
    have hk : kind ≠ Event.idKind := fun hk => h (by simp [matters, declared?, hk])
    simp only [Building.step, if_neg hk]

/-- **An attribute of another kind has no part in an index.** -/
theorem build_filter_matters (policy : Bool) (events : List Event) :
    Index.build policy (events.filter matters) = Index.build policy events := by
  unfold Index.build
  rw [List.foldl_filter]
  congr 2
  funext b e
  split
  · rfl
  · next h => exact (step_of_not_matters h b).symm

/-! ### Strict and lenient building -/

theorem indexEvents_outcome (policy refuses : Bool) (events : List Event) :
    (Session.indexEvents policy refuses events).outcome =
      if refuses = true ∧ (Index.build policy events).anomalies ≠ [] then
        .error (.problem (.dangling (Index.build policy events).anomalies))
      else .ok (Index.build policy events) := by
  unfold Session.indexEvents
  by_cases h : refuses = true ∧ (Index.build policy events).anomalies ≠ []
  · rw [if_pos h, if_pos (by simpa [Build.ok, List.isEmpty_iff] using h)]
    rfl
  · rw [if_neg h, if_neg (by simpa [Build.ok, List.isEmpty_iff] using h)]
    rfl

/-- **An index is what the positions of its events say.** The entries and the anomalies are those of
the positions, in order; the mapping is what the entries put, so an anomaly has no key of its own;
attributes of another kind have no part in it; and every identifier attribute is counted once. A
strict build is refused, with just these anomalies, exactly if there are any, and is the lenient one
otherwise. -/
theorem indexEvents_by_position (policy : Bool) (events : List Event) :
    let b := Index.build policy events
    b.index.entries = entriesOf policy events ∧
    b.anomalies = anomaliesOf policy events ∧
    b.index.caseSensitive = policy ∧
    b.index.mapping = Assoc.ofPairs ((entriesOf policy events).map Index.pairOf) ∧
    (∀ k, k ∈ Assoc.keys b.index.mapping ↔ ∃ e ∈ entriesOf policy events, e.identifier = k) ∧
    Index.build policy (events.filter matters) = b ∧
    b.index.entries.length + b.anomalies.length = events.countP (fun e => (declared? e).isSome) ∧
    (Session.indexEvents policy false events).outcome = .ok b ∧
    ((Session.indexEvents policy true events).outcome =
        .error (.problem (.dangling (anomaliesOf policy events))) ↔
      anomaliesOf policy events ≠ []) ∧
    (anomaliesOf policy events = [] →
      (Session.indexEvents policy true events).outcome = .ok b) := by
  intro b
  have hb : b = ⟨Index.ofEntries policy (entriesOf policy events), anomaliesOf policy events⟩ :=
    build_eq policy events
  have hx : b.index = Index.ofEntries policy (entriesOf policy events) := by rw [hb]
  have ha : b.anomalies = anomaliesOf policy events := by rw [hb]
  have hstrict := indexEvents_outcome policy true events
  rw [show (Index.build policy events).anomalies = anomaliesOf policy events from ha] at hstrict
  refine ⟨?_, ha, ?_, ?_, ?_, build_filter_matters policy events, ?_, ?_, ?_, ?_⟩
  · rw [hx, Index.ofEntries_entries]
  · rw [hx, Index.ofEntries_caseSensitive]
  · rw [hx, Index.ofEntries_mapping]
  · intro k
    rw [hx, Index.mem_keys_ofEntries]
  · rw [hx, ha, Index.ofEntries_entries, length_entriesOf_add_length_anomaliesOf]
  · rw [indexEvents_outcome, if_neg (by simp)]
  · rw [hstrict]
    by_cases hd : anomaliesOf policy events = []
    · simp [hd]
    · simp [hd]
  · intro hd
    rw [hstrict, if_neg (by simp [hd])]

end CrossRef.Ownership

import Chaincode.Registry

namespace Chaincode.Registry

/-! What a registry finds.

Names are strictly increasing, so a name stands for at most one handler; no name
is empty, so the empty name stands for none.
-/

private theorem find?_of_mem {handlers : List (Handler σ ε)} {handler : Handler σ ε}
    (sorted : (handlers.map Handler.name).Pairwise (· < ·)) (member : handler ∈ handlers) :
    (handlers.find? fun other => other.name == handler.name) = some handler := by
  induction handlers with
  | nil => cases member
  | cons first rest ih =>
      simp only [List.map_cons, List.pairwise_cons, List.mem_map] at sorted
      obtain ⟨below, restSorted⟩ := sorted
      rcases List.mem_cons.mp member with same | later
      · subst same
        exact List.find?_cons_of_pos (by simp)
      · have less : first.name < handler.name := below _ ⟨handler, later, rfl⟩
        have different : first.name ≠ handler.name := by
          intro equal
          exact String.lt_irrefl _ (equal ▸ less)
        rw [List.find?_cons_of_neg (by simpa using different)]
        exact ih restSorted later

theorem get?_eq_some {registry : Registry σ ε} {name : String} {handler : Handler σ ε} :
    registry.get? name = some handler ↔ handler ∈ registry.handlers ∧ handler.name = name := by
  constructor
  · intro found
    exact ⟨List.mem_of_find?_eq_some found, get?_name found⟩
  · rintro ⟨member, rfl⟩
    exact find?_of_mem registry.sorted member

theorem get?_empty (registry : Registry σ ε) : registry.get? "" = none :=
  get?_eq_none.mpr registry.named

variable {registry grown : Registry σ ε} {handler : Handler σ ε}

theorem insert_unnamed (unnamed : handler.name = "") :
    registry.insert handler = .error .emptyName := by
  rw [insert, dif_pos unnamed]

theorem insert_duplicate {other : Handler σ ε} (named : handler.name ≠ "")
    (found : registry.get? handler.name = some other) :
    registry.insert handler = .error (.duplicate handler.name) := by
  rw [insert, dif_neg named]
  split
  · rfl
  next absent =>
    rw [found] at absent
    cases absent

theorem insert_fresh (named : handler.name ≠ "") (absent : registry.get? handler.name = none) :
    ∃ grown, registry.insert handler = .ok grown := by
  rw [insert, dif_neg named]
  split
  next found =>
    rw [absent] at found
    cases found
  · exact ⟨_, rfl⟩

theorem get?_of_insert (inserted : registry.insert handler = .ok grown) :
    registry.get? handler.name = none := by
  cases found : registry.get? handler.name with
  | none => rfl
  | some other =>
      by_cases unnamed : handler.name = ""
      · rw [insert_unnamed unnamed] at inserted
        cases inserted
      · rw [insert_duplicate unnamed found] at inserted
        cases inserted

theorem get?_insert (inserted : registry.insert handler = .ok grown) (name : String) :
    grown.get? name = if handler.name = name then some handler else registry.get? name := by
  split
  next same => exact get?_eq_some.mpr ⟨(mem_insert inserted).mpr (.inl rfl), same⟩
  next different =>
    ext other
    rw [get?_eq_some, get?_eq_some, mem_insert inserted]
    refine and_congr_left fun named => or_iff_right ?_
    rintro rfl
    exact different named

theorem mem_names {name : String} :
    name ∈ registry.names ↔ ∃ handler, registry.get? name = some handler := by
  simp only [names, List.mem_map, get?_eq_some]

/-- A registry is what it finds. -/
theorem eq_of_get? {first second : Registry σ ε} (same : ∀ name, first.get? name = second.get? name) :
    first = second := by
  have ordered (registry : Registry σ ε) :
      registry.handlers.Pairwise fun left right => left.name < right.name :=
    List.pairwise_map.mp registry.sorted
  have nodup (registry : Registry σ ε) : registry.handlers.Nodup := by
    refine (ordered registry).imp ?_
    rintro left _ less rfl
    exact String.lt_irrefl _ less
  have members (handler : Handler σ ε) : handler ∈ first.handlers ↔ handler ∈ second.handlers := by
    have found := same handler.name
    constructor
    · intro member
      rw [get?_eq_some.mpr ⟨member, rfl⟩] at found
      exact (get?_eq_some.mp found.symm).1
    · intro member
      rw [get?_eq_some.mpr ⟨member, rfl⟩] at found
      exact (get?_eq_some.mp found).1
  have handlers : first.handlers = second.handlers := by
    refine List.Perm.eq_of_pairwise ?_ (ordered first) (ordered second)
      ((List.perm_ext_iff_of_nodup (nodup first) (nodup second)).mpr members)
    intro left right _ _ less greater
    exact absurd (String.lt_trans less greater) (String.lt_irrefl _)
  obtain ⟨handlers, _, _⟩ := first
  obtain ⟨_, _, _⟩ := second
  cases handlers
  rfl

end Chaincode.Registry

import BackendRegistrar.Json.Basic

/-! The canonical form of a document is its own canonical form: the members of each of its objects
stand in ascending order, each name once, and their values are canonical. -/

namespace BackendRegistrar.Json

namespace Members

/-- Members in order of their names, each name once. -/
def Ascending (ms : Members) : Prop := ms.Pairwise fun a b => a.1 < b.1

theorem mem_of_mem_insert {ms : Members} {name : String} {value : Json} {m : String × Json}
    (member : m ∈ insert name value ms) : m = (name, value) ∨ m ∈ ms := by
  induction ms with
  | nil => simpa [insert] using member
  | cons first rest ih =>
    simp only [insert] at member
    split at member
    · rcases List.mem_cons.mp member with same | later
      · exact .inl same
      · exact .inr (List.mem_cons_of_mem _ later)
    · split at member
      · exact List.mem_cons.mp member
      · rcases List.mem_cons.mp member with same | later
        · exact .inr (by simp [same])
        · exact (ih later).imp_right (List.mem_cons_of_mem _)

theorem Ascending.insert {ms : Members} (ascending : Ascending ms) (name : String) (value : Json) :
    Ascending (ms.insert name value) := by
  induction ms with
  | nil => exact List.pairwise_singleton _ _
  | cons first rest ih =>
    obtain ⟨below, later⟩ := List.pairwise_cons.mp ascending
    simp only [Members.insert]
    split
    next same =>
      subst same
      exact List.pairwise_cons.mpr ⟨below, later⟩
    next differs =>
      split
      next before =>
        refine List.pairwise_cons.mpr ⟨?_, ascending⟩
        intro m member
        rcases List.mem_cons.mp member with rfl | member
        · exact before
        · exact String.lt_trans before (below m member)
      next notBefore =>
        refine List.pairwise_cons.mpr ⟨?_, ih later⟩
        intro m member
        rcases mem_of_mem_insert member with rfl | member
        · have atMost : first.1 ≤ name := String.not_lt.mp notBefore
          exact Decidable.byContradiction fun above =>
            differs (String.le_antisymm (String.not_lt.mp above) atMost)
        · exact below m member

theorem insert_last {ms : Members} {name : String} (value : Json) (below : ∀ m ∈ ms, m.1 < name) :
    ms.insert name value = ms ++ [(name, value)] := by
  induction ms with
  | nil => rfl
  | cons first rest ih =>
    have before : first.1 < name := below first (by simp)
    have differs : name ≠ first.1 := fun same => String.lt_irrefl name (by rwa [← same] at before)
    rw [insert, if_neg differs, if_neg (String.lt_asymm before),
      ih fun m member => below m (List.mem_cons_of_mem _ member)]
    rfl

end Members

/-- Members that are in canonical form already. -/
structure Members.Canonical (ms : Members) : Prop where
  ascending : ms.Ascending
  values : ∀ m ∈ ms, m.2.canonical = m.2

theorem canonicalMembers_append {sorted ms : Members} (canonical : Members.Canonical (sorted ++ ms)) :
    canonicalMembers sorted ms = sorted ++ ms := by
  induction ms generalizing sorted with
  | nil => simp [canonicalMembers]
  | cons first rest ih =>
    obtain ⟨name, value⟩ := first
    have fixed : value.canonical = value := canonical.values (name, value) (by simp)
    have below : ∀ m ∈ sorted, m.1 < name := by
      intro m member
      exact (List.pairwise_append.mp canonical.ascending).2.2 m member (name, value) (by simp)
    rw [canonicalMembers, fixed, Members.insert_last value below, ih (by simpa using canonical)]
    simp

theorem canonicalMembers_canonical {sorted ms : Members} (before : sorted.Canonical)
    (settled : ∀ m ∈ ms, m.2.canonical.canonical = m.2.canonical) :
    (canonicalMembers sorted ms).Canonical := by
  induction ms generalizing sorted with
  | nil => exact before
  | cons first rest ih =>
    obtain ⟨name, value⟩ := first
    refine ih ⟨before.ascending.insert name _, ?_⟩ fun m member => settled m (List.mem_cons_of_mem _ member)
    intro m member
    rcases Members.mem_of_mem_insert member with rfl | member
    · exact settled (name, value) (by simp)
    · exact before.values m member

mutual

theorem canonical_canonical : (j : Json) → j.canonical.canonical = j.canonical
  | .null | .bool _ | .number _ | .string _ => rfl
  | .array items => congrArg Json.array (canonicalItems_canonicalItems items)
  | .object ms => by
    have empty : Members.Canonical [] := ⟨List.Pairwise.nil, nofun⟩
    have canonical : Members.Canonical ([] ++ canonicalMembers [] ms) :=
      canonicalMembers_canonical empty (canonical_values ms)
    exact congrArg Json.object (canonicalMembers_append canonical)

theorem canonicalItems_canonicalItems : (js : List Json) → canonicalItems (canonicalItems js) = canonicalItems js
  | [] => rfl
  | j :: rest => by
    rw [canonicalItems, canonicalItems, canonical_canonical j, canonicalItems_canonicalItems rest]

theorem canonical_values : (ms : Members) → ∀ m ∈ ms, m.2.canonical.canonical = m.2.canonical
  | [] => nofun
  | (name, value) :: rest => fun m member =>
    match List.mem_cons.mp member with
    | .inl same => by rw [same, canonical_canonical value]
    | .inr later => canonical_values rest m later

end

theorem canonical_eq_null {j : Json} : j.canonical = .null ↔ j = .null := by
  cases j <;> simp [canonical]

end BackendRegistrar.Json

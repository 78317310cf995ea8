import Mathlib.Data.List.Forall2

/-! Steps that may fail, taken for one item of a list after another: the run
succeeds if every step does, and otherwise ends with the first fault. -/

namespace MemoryFabric

variable {ε α β : Type}

theorem ok_bind (value : α) (rest : α → Except ε β) :
    ((.ok value : Except ε α) >>= rest) = rest value := rfl

theorem bind_eq_ok_iff {first : Except ε α} {rest : α → Except ε β} {result : β} :
    (first >>= rest) = .ok result ↔ ∃ value, first = .ok value ∧ rest value = .ok result := by
  cases first with
  | error fault =>
      constructor
      · intro made
        cases made
      · rintro ⟨_, made, _⟩
        cases made
  | ok value =>
      constructor
      · intro made
        exact ⟨value, rfl, made⟩
      · rintro ⟨_, same, made⟩
        cases same
        exact made

theorem bind_eq_error {first : Except ε α} {rest : α → Except ε β} {fault : ε}
    (failed : (first >>= rest) = .error fault) :
    first = .error fault ∨ ∃ value, first = .ok value ∧ rest value = .error fault := by
  cases first with
  | error other =>
      cases failed
      exact Or.inl rfl
  | ok value => exact Or.inr ⟨value, rfl, failed⟩

theorem map_eq_ok_iff {first : Except ε α} {change : α → β} {result : β} :
    first.map change = .ok result ↔ ∃ value, first = .ok value ∧ change value = result := by
  cases first <;> simp [Except.map]

theorem forM_eq_ok_iff {action : α → Except ε Unit} :
    ∀ {items : List α}, items.forM action = .ok () ↔ ∀ item ∈ items, action item = .ok ()
  | [] => ⟨fun _ _ member => (by cases member), fun _ => rfl⟩
  | item :: rest => by
      change (action item >>= fun _ => rest.forM action) = .ok () ↔ _
      rw [bind_eq_ok_iff, List.forall_mem_cons]
      constructor
      · rintro ⟨_, first, others⟩
        exact ⟨first, forM_eq_ok_iff.mp others⟩
      · rintro ⟨first, others⟩
        exact ⟨(), first, forM_eq_ok_iff.mpr others⟩

/-- The fault of a run is that of some item whose step fails, after steps that succeed. -/
theorem forM_eq_error {action : α → Except ε Unit} {fault : ε} :
    ∀ {items : List α}, items.forM action = .error fault →
      ∃ earlier item later, items = earlier ++ item :: later ∧
        (∀ other ∈ earlier, action other = .ok ()) ∧ action item = .error fault
  | [], failed => by cases failed
  | item :: rest, failed => by
      change (action item >>= fun _ => rest.forM action) = _ at failed
      rcases bind_eq_error failed with here | ⟨_, here, failed⟩
      · exact ⟨[], item, rest, rfl, fun _ member => (by cases member), here⟩
      · rcases forM_eq_error failed with ⟨earlier, other, later, rfl, succeed, fails⟩
        exact ⟨item :: earlier, other, later, rfl, List.forall_mem_cons.mpr ⟨here, succeed⟩, fails⟩

def IsFirstIn (items : List α) (property : α → Prop) (item : α) : Prop :=
  ∃ earlier later, items = earlier ++ item :: later ∧
    (∀ other ∈ earlier, ¬ property other) ∧ property item

/-- Where the step fails for the items with a property, the fault of a run is that of the
first of these. -/
theorem exists_isFirstIn {action : α → Except ε Unit} {property : α → Prop} {items : List α}
    {fault : ε} (succeeds_iff : ∀ item ∈ items, action item = .ok () ↔ ¬ property item)
    (failed : items.forM action = .error fault) :
    ∃ item, IsFirstIn items property item ∧ action item = .error fault := by
  rcases forM_eq_error failed with ⟨earlier, item, later, splits, succeed, fails⟩
  refine ⟨item, ⟨earlier, later, splits, ?_, ?_⟩, fails⟩
  · intro other member
    exact (succeeds_iff other (by simp [splits, member])).mp (succeed other member)
  · rw [← Classical.not_not (a := property item), ← succeeds_iff item (by simp [splits]), fails]
    exact fun succeeds => by cases succeeds

theorem mapM_eq_ok {action : α → Except ε β} {result : α → β} :
    ∀ {items : List α}, (∀ item ∈ items, action item = .ok (result item)) →
      items.mapM action = .ok (items.map result)
  | [], _ => rfl
  | item :: rest, succeeds => by
      rw [List.mapM_cons, succeeds item List.mem_cons_self,
        mapM_eq_ok fun other member => succeeds other (List.mem_cons_of_mem item member)]
      rfl

theorem mapM_eq_ok_iff {action : α → Except ε β} {items : List α} {results : List β} :
    items.mapM action = .ok results ↔
      List.Forall₂ (fun item result => action item = .ok result) items results := by
  induction items generalizing results with
  | nil =>
      rw [List.mapM_nil, List.forall₂_nil_left_iff]
      exact ⟨fun made => (Except.ok.inj made).symm, fun none => congrArg Except.ok none.symm⟩
  | cons item rest induction =>
      rw [List.mapM_cons, bind_eq_ok_iff]
      simp only [bind_eq_ok_iff, induction]
      constructor
      · intro made
        rcases made with ⟨first, here, others, there, made⟩
        cases made
        exact .cons here there
      · intro each
        cases each with
        | cons here there => exact ⟨_, here, _, there, rfl⟩

theorem getElem?_of_mapM_eq_ok {action : α → Except ε β} :
    ∀ {items : List α} {results : List β}, items.mapM action = .ok results →
      results.length = items.length ∧
        ∀ {index : Nat} {item : α}, items[index]? = some item →
          ∃ result, results[index]? = some result ∧ action item = .ok result
  | [], results, made => by
      cases made
      exact ⟨rfl, fun missing => by cases missing⟩
  | item :: rest, results, made => by
      rw [List.mapM_cons, bind_eq_ok_iff] at made
      rcases made with ⟨first, madeFirst, made⟩
      rw [bind_eq_ok_iff] at made
      rcases made with ⟨others, madeOthers, made⟩
      cases made
      have induction := getElem?_of_mapM_eq_ok madeOthers
      refine ⟨congrArg (· + 1) induction.1, ?_⟩
      intro index other found
      cases index with
      | zero =>
          cases found
          exact ⟨first, rfl, madeFirst⟩
      | succ index => exact induction.2 found

theorem mapM_eq_error {action : α → Except ε β} {fault : ε} :
    ∀ {earlier : List α} {item : α} {rest : List α},
      (∀ other ∈ earlier, ∃ result, action other = .ok result) → action item = .error fault →
        (earlier ++ item :: rest).mapM action = .error fault
  | [], item, rest, _, fails => by
      rw [List.nil_append, List.mapM_cons, fails]
      rfl
  | other :: earlier, item, rest, succeed, fails => by
      rcases succeed other List.mem_cons_self with ⟨result, made⟩
      have induction : (earlier ++ item :: rest).mapM action = .error fault :=
        mapM_eq_error (fun another member => succeed another
          (List.mem_cons_of_mem other member)) fails
      rw [List.cons_append, List.mapM_cons, made]
      change ((earlier ++ item :: rest).mapM action >>= _) = _
      rw [induction]
      rfl

theorem mapM_cases (action : α → Except ε β) : ∀ items : List α,
    (∃ results, items.mapM action = .ok results) ∨
      ∃ earlier item rest fault, items = earlier ++ item :: rest ∧
        (∀ other ∈ earlier, ∃ result, action other = .ok result) ∧ action item = .error fault
  | [] => Or.inl ⟨[], rfl⟩
  | item :: rest => by
      cases here : action item with
      | error fault =>
          exact Or.inr ⟨[], item, rest, fault, rfl, fun _ member => (by cases member), here⟩
      | ok result =>
          rcases mapM_cases action rest with ⟨results, made⟩ |
            ⟨earlier, other, others, fault, rfl, succeed, fails⟩
          · refine Or.inl ⟨result :: results, ?_⟩
            rw [List.mapM_cons, here, ok_bind, made]
            rfl
          · refine Or.inr ⟨item :: earlier, other, others, fault, rfl, ?_, fails⟩
            intro another member
            rcases List.mem_cons.mp member with rfl | later
            · exact ⟨result, here⟩
            · exact succeed another later

end MemoryFabric

import Mathlib.Data.List.Forall2

/-! Steps that may fail, one after the other or for every element of a list: the whole succeeds
exactly when each step does. -/

namespace FederatedSearch

variable {α β γ δ ε : Type}

theorem bind_ok_iff {first : Except ε α} {next : α → Except ε β} {result : β} :
    first >>= next = .ok result ↔ ∃ value, first = .ok value ∧ next value = .ok result := by
  cases first <;> simp [bind, Except.bind]

theorem bind_error_iff {first : Except ε α} {next : α → Except ε β} {error : ε} :
    first >>= next = .error error ↔
      first = .error error ∨ ∃ value, first = .ok value ∧ next value = .error error := by
  cases first <;> simp [bind, Except.bind]

theorem map_ok_iff {first : Except ε α} {change : α → β} {result : β} :
    change <$> first = .ok result ↔ ∃ value, first = .ok value ∧ change value = result := by
  cases first <;> simp [Functor.map, Except.map]

theorem map_error_iff {first : Except ε α} {change : α → β} {error : ε} :
    change <$> first = .error error ↔ first = .error error := by
  cases first <;> simp [Functor.map, Except.map]

theorem exists_ok_of_toOption {result : Except ε α} {view : α → β} {seen : β}
    (isSeen : result.toOption.map view = some seen) :
    ∃ value, result = .ok value ∧ view value = seen := by
  cases result with
  | error error => cases isSeen
  | ok value => exact ⟨value, rfl, Option.some.inj isSeen⟩

theorem mapM_ok_iff {step : α → Except ε β} {elements : List α} {results : List β} :
    elements.mapM step = .ok results ↔
      List.Forall₂ (fun element result => step element = .ok result) elements results := by
  induction elements generalizing results with
  | nil => cases results <;> simp [pure, Except.pure]
  | cons element rest ih =>
      rw [List.mapM_cons]
      cases first : step element with
      | error error => cases results <;> simp [bind, Except.bind, first]
      | ok result =>
          cases later : rest.mapM step with
          | error error => cases results <;> simp [bind, Except.bind, first, ← ih, later]
          | ok others =>
              cases results <;>
                simp [bind, Except.bind, pure, Except.pure, first, ← ih, later]

theorem mapM_ok_iff_map {step : α → Except ε β} {elements : List α} {results : List β} :
    elements.mapM step = .ok results ↔ elements.map step = results.map .ok := by
  rw [mapM_ok_iff, ← List.forall₂_eq_eq_eq, List.forall₂_map_left_iff, List.forall₂_map_right_iff]

theorem option_mapM_ok_iff_map {step : α → Except ε β} {element : Option α} {result : Option β} :
    element.mapM step = .ok result ↔ element.map step = result.map .ok := by
  cases element with
  | none => cases result <;> simp [pure, Except.pure]
  | some value =>
      rw [Option.mapM_some, map_ok_iff]
      cases result with
      | none => simp
      | some other => simp [eq_comm]

theorem exists_ok_of_mapM {step : α → Except ε β} {elements : List α} {results : List β}
    (done : elements.mapM step = .ok results) {element : α} (member : element ∈ elements) :
    ∃ result ∈ results, step element = .ok result := by
  have steps := mapM_ok_iff.mp done
  clear done
  induction steps with
  | nil => cases member
  | @cons head result _ _ isResult _ ih =>
      rcases List.mem_cons.mp member with rfl | later
      · exact ⟨result, List.mem_cons_self, isResult⟩
      · obtain ⟨other, inResults, isOther⟩ := ih later
        exact ⟨other, List.mem_cons_of_mem result inResults, isOther⟩

theorem mapM_of_forall_ok {step : α → Except ε β} {value : α → β} {elements : List α}
    (each : ∀ element ∈ elements, step element = .ok (value element)) :
    elements.mapM step = .ok (elements.map value) := by
  rw [mapM_ok_iff, List.forall₂_map_right_iff, List.forall₂_same]
  exact each

theorem map_eq_of_mapM_ok {step : α → Except ε β} (before : α → γ) (after : β → γ)
    (keeps : ∀ element result, step element = .ok result → after result = before element)
    {elements : List α} {results : List β} (done : elements.mapM step = .ok results) :
    results.map after = elements.map before := by
  have steps := mapM_ok_iff.mp done
  clear done
  induction steps with
  | nil => rfl
  | cons first _ ih => rw [List.map_cons, List.map_cons, keeps _ _ first, ih]

/-- Of the elements for which the step fails the first is reported. -/
theorem mapM_error_iff {step : α → Except ε β} {elements : List α} {error : ε} :
    elements.mapM step = .error error ↔ ∃ before element after,
      elements = before ++ element :: after ∧
      (∀ earlier ∈ before, ∃ result, step earlier = .ok result) ∧ step element = .error error := by
  induction elements with
  | nil => simp [pure, Except.pure]
  | cons head rest ih =>
      rw [List.mapM_cons]
      constructor
      · intro failed
        cases first : step head with
        | error other =>
            rw [first] at failed
            exact ⟨[], head, rest, rfl, by simp, first.trans (by cases failed; rfl)⟩
        | ok result =>
            have later : rest.mapM step = .error error := by
              cases others : rest.mapM step with
              | error other => simpa [first, others, bind, Except.bind] using failed
              | ok results => simp [first, others, bind, Except.bind, pure, Except.pure] at failed
            obtain ⟨before, element, after, rfl, each, isError⟩ := ih.mp later
            exact ⟨head :: before, element, after, rfl,
              List.forall_mem_cons.mpr ⟨⟨result, first⟩, each⟩, isError⟩
      · rintro ⟨before, element, after, split, each, isError⟩
        cases before with
        | nil =>
            obtain ⟨rfl, rfl⟩ := List.cons.inj split
            rw [isError]
            rfl
        | cons _ before =>
            obtain ⟨rfl, rfl⟩ := List.cons.inj split
            obtain ⟨⟨result, first⟩, others⟩ := List.forall_mem_cons.mp each
            rw [first, ih.mpr ⟨before, element, after, rfl, others, isError⟩]
            rfl

theorem exists_mapM_ok_iff {step : α → Except ε β} {elements : List α} :
    (∃ results, elements.mapM step = .ok results) ↔
      ∀ element ∈ elements, ∃ result, step element = .ok result := by
  constructor
  · rintro ⟨results, done⟩ element member
    obtain ⟨result, -, isResult⟩ := exists_ok_of_mapM done member
    exact ⟨result, isResult⟩
  · intro each
    cases done : elements.mapM step with
    | ok results => exact ⟨results, rfl⟩
    | error error =>
        obtain ⟨before, element, after, rfl, -, failed⟩ := mapM_error_iff.mp done
        obtain ⟨result, isResult⟩ := each element (by simp)
        rw [failed] at isResult
        cases isResult

/-- Steps for the parts of every element, where each element is a step for its parts. -/
theorem mapM_flatMap {step : β → Except ε δ} {whole : α → Except ε γ} {parts : α → List β}
    {partsAfter : γ → List δ} (each : ∀ element,
      (whole element).map partsAfter = (parts element).mapM step) (elements : List α) :
    (elements.mapM whole).map (·.flatMap partsAfter) = (elements.flatMap parts).mapM step := by
  induction elements with
  | nil => rfl
  | cons head rest ih =>
      rw [List.mapM_cons, List.flatMap_cons, List.mapM_append, ← each, ← ih]
      cases whole head with
      | error error => rfl
      | ok result => cases rest.mapM whole <;> rfl

theorem forM_ok_iff {step : α → Except ε Unit} {elements : List α} :
    elements.forM step = .ok () ↔ ∀ element ∈ elements, step element = .ok () := by
  induction elements with
  | nil => simp [pure, Except.pure]
  | cons element rest ih =>
      rw [List.forM, List.forall_mem_cons, ← ih]
      cases step element <;> simp [bind, Except.bind]

theorem exists_mem_zip {relates : α → β → Prop} {firsts : List α} {seconds : List β}
    (each : List.Forall₂ relates firsts seconds) {second : β} (member : second ∈ seconds) :
    ∃ first, (first, second) ∈ firsts.zip seconds ∧ relates first second := by
  rw [← List.map_snd_zip (Nat.le_of_eq each.length_eq.symm)] at member
  obtain ⟨⟨first, _⟩, paired, rfl⟩ := List.mem_map.mp member
  exact ⟨first, paired, List.forall₂_zip each paired⟩

theorem exists_map_of_forall₂ (relates : α → β → Prop) (onOther : β → γ) {items : List α}
    {others : List γ}
    (each : List.Forall₂ (fun item other => ∃ run, relates item run ∧ other = onOther run)
      items others) :
    ∃ runs, List.Forall₂ relates items runs ∧ others = runs.map onOther := by
  induction each with
  | nil => exact ⟨[], .nil, rfl⟩
  | cons first _ ih =>
      obtain ⟨run, related, rfl⟩ := first
      obtain ⟨runs, rest, rfl⟩ := ih
      exact ⟨run :: runs, .cons related rest, rfl⟩

theorem exists_split_of_forall₂ {relates : α → β → Prop} {items : List α} {before after : List β}
    {other : β} (each : List.Forall₂ relates items (before ++ other :: after)) :
    ∃ first item rest, items = first ++ item :: rest ∧ List.Forall₂ relates first before ∧
      relates item other := by
  induction before generalizing items with
  | nil =>
      cases each with
      | cons related _ => exact ⟨[], _, _, rfl, .nil, related⟩
  | cons head before ih =>
      cases each with
      | cons related later =>
          obtain ⟨first, item, rest, rfl, ofFirst, ofItem⟩ := ih later
          exact ⟨_ :: first, item, rest, rfl, .cons related ofFirst, ofItem⟩

end FederatedSearch

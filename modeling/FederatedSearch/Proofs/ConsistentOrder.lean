import FederatedSearch.Proofs.MapEntries
import FederatedSearch.Store.Ranking

/-! When documents are ordered consistently. Two values are compared as numbers if both are, and as
texts otherwise, so the values under a sort key are ranked on a line only if the two orders do not
contradict each other on them. Whatever else the order of documents is made of is consistent. -/

namespace FederatedSearch

namespace IsPreorderOn

variable {α β : Type} {compare compare' : α → α → Ordering} {values : List α}

theorem iff_transCmp : IsPreorderOn compare values ↔
    Std.TransCmp fun first second : {value // value ∈ values} => compare first.1 second.1 := by
  constructor
  · intro consistent
    refine { eq_swap := fun {first second} => ?_, isLE_trans := fun {first second third} => ?_ }
    · exact consistent.1 first.1 first.2 second.1 second.2
    · simp only [Ordering.isLE_iff_ne_gt]
      exact consistent.2 first.1 first.2 second.1 second.2 third.1 third.2
  · intro transitive
    constructor
    · intro first inFirst second inSecond
      exact transitive.eq_swap (a := ⟨first, inFirst⟩) (b := ⟨second, inSecond⟩)
    · intro first inFirst second inSecond third inThird below below'
      have reached := transitive.isLE_trans (a := ⟨first, inFirst⟩) (b := ⟨second, inSecond⟩)
        (c := ⟨third, inThird⟩)
      simp only [Ordering.isLE_iff_ne_gt] at reached
      exact reached below below'

theorem of_transCmp [Std.TransCmp compare] (values : List α) : IsPreorderOn compare values := by
  constructor
  · intro first _ second _
    exact Std.OrientedCmp.eq_swap
  · intro first _ second _ third _ below below'
    exact Ordering.isLE_iff_ne_gt.mp (Std.TransCmp.isLE_trans (Ordering.isLE_iff_ne_gt.mpr below)
      (Ordering.isLE_iff_ne_gt.mpr below'))

theorem congr (consistent : IsPreorderOn compare values) (same : ∀ first ∈ values,
      ∀ second ∈ values, compare' first second = compare first second) :
    IsPreorderOn compare' values := by
  constructor
  · intro first inFirst second inSecond
    rw [same first inFirst second inSecond, same second inSecond first inFirst]
    exact consistent.1 first inFirst second inSecond
  · intro first inFirst second inSecond third inThird
    rw [same first inFirst second inSecond, same second inSecond third inThird,
      same first inFirst third inThird]
    exact consistent.2 first inFirst second inSecond third inThird

theorem comap {view : β → α} {items : List β} (consistent : IsPreorderOn compare values)
    (viewed : ∀ item ∈ items, view item ∈ values) :
    IsPreorderOn (fun first second => compare (view first) (view second)) items := by
  constructor
  · intro first inFirst second inSecond
    exact consistent.1 _ (viewed first inFirst) _ (viewed second inSecond)
  · intro first inFirst second inSecond third inThird
    exact consistent.2 _ (viewed first inFirst) _ (viewed second inSecond) _
      (viewed third inThird)

theorem mono {fewer : List α} (consistent : IsPreorderOn compare values)
    (within : fewer ⊆ values) : IsPreorderOn compare fewer := by
  have ofViews : IsPreorderOn (fun first second => compare (id first) (id second)) fewer :=
    consistent.comap within
  exact ofViews

theorem reverse (consistent : IsPreorderOn compare values) :
    IsPreorderOn (fun first second => compare second first) values := by
  constructor
  · intro first inFirst second inSecond
    exact consistent.1 second inSecond first inFirst
  · intro first inFirst second inSecond third inThird below below'
    exact consistent.2 third inThird second inSecond first inFirst below' below

theorem lexicographic (first : IsPreorderOn compare values)
    (second : IsPreorderOn compare' values) :
    IsPreorderOn (fun one other => (compare one other).then (compare' one other)) values := by
  have ofFirst := iff_transCmp.mp first
  have ofSecond := iff_transCmp.mp second
  exact iff_transCmp.mpr (inferInstanceAs (Std.TransCmp (compareLex
    (fun one other : {value // value ∈ values} => compare one.1 other.1)
    (fun one other : {value // value ∈ values} => compare' one.1 other.1))))

theorem eq_trans (consistent : IsPreorderOn compare values) {first second third : α}
    (inFirst : first ∈ values) (inSecond : second ∈ values) (inThird : third ∈ values)
    (level : compare first second = .eq) (level' : compare second third = .eq) :
    compare first third = .eq := by
  have forth := consistent.2 first inFirst second inSecond third inThird (by simp [level])
    (by simp [level'])
  have back := consistent.2 third inThird second inSecond first inFirst
    (by rw [consistent.1 third inThird second inSecond, level']; decide)
    (by rw [consistent.1 second inSecond first inFirst, level]; decide)
  rw [consistent.1 third inThird first inFirst] at back
  cases found : compare first third with
  | eq => rfl
  | lt => exact absurd (by rw [found]; rfl) back
  | gt => exact absurd found forth

end IsPreorderOn

/-! Numbers -/

namespace Numeral

variable {first second : Numeral}

theorem compareRat_swap (x y : Rat) : compareRat x y = (compareRat y x).swap := by
  unfold compareRat
  by_cases below : x < y
  · simp [below, Rat.not_lt.mpr (Rat.le_of_lt below)]
  · by_cases above : y < x
    · simp [below, above]
    · simp [below, above]

theorem compareRat_ne_gt_iff {x y : Rat} : compareRat x y ≠ .gt ↔ x ≤ y := by
  unfold compareRat
  rw [← Rat.not_lt]
  by_cases below : x < y
  · simp [below, Rat.not_lt.mpr (Rat.le_of_lt below)]
  · by_cases above : y < x
    · simp [below, above]
    · simp [below, above]

theorem isPreorderOn_compareRat (numbers : List Rat) : IsPreorderOn compareRat numbers := by
  constructor
  · intro x _ y _
    exact compareRat_swap x y
  · intro x _ y _ z _ below below'
    rw [compareRat_ne_gt_iff] at below below' ⊢
    exact Rat.le_trans below below'

def side : Numeral → Int
  | .infinite negative => if negative then -1 else 1
  | _ => 0

def amount : Numeral → Rat
  | .finite value => value
  | _ => 0

theorem compare_eq (isNumber : first ≠ .notANumber) (isNumber' : second ≠ .notANumber) :
    first.compare second =
      (Ord.compare first.side second.side).then (compareRat first.amount second.amount) := by
  cases first with
  | notANumber => exact absurd rfl isNumber
  | infinite negative =>
      cases second with
      | notANumber => exact absurd rfl isNumber'
      | infinite negative' => cases negative <;> cases negative' <;> rfl
      | finite value => cases negative <;> rfl
  | finite value =>
      cases second with
      | notANumber => exact absurd rfl isNumber'
      | infinite negative => cases negative <;> rfl
      | finite value' => rfl

theorem isPreorderOn_compare {numerals : List Numeral} (numbers : .notANumber ∉ numerals) :
    IsPreorderOn Numeral.compare numerals := by
  have sides : IsPreorderOn (fun first second : Numeral => Ord.compare first.side second.side)
      numerals :=
    (IsPreorderOn.of_transCmp (numerals.map side)).comap
      fun _ member => List.mem_map_of_mem member
  have amounts : IsPreorderOn (fun first second : Numeral =>
      compareRat first.amount second.amount) numerals :=
    (isPreorderOn_compareRat (numerals.map amount)).comap fun _ member =>
      List.mem_map_of_mem member
  refine (sides.lexicographic amounts).congr ?_
  intro first inFirst second inSecond
  exact compare_eq (fun same => numbers (same ▸ inFirst)) fun same => numbers (same ▸ inSecond)

theorem compare_swap (first second : Numeral) :
    first.compare second = (second.compare first).swap := by
  cases first with
  | notANumber => cases second <;> rfl
  | infinite negative =>
      cases second with
      | notANumber => rfl
      | infinite negative' => cases negative <;> cases negative' <;> rfl
      | finite value => cases negative <;> rfl
  | finite value =>
      cases second with
      | notANumber => rfl
      | infinite negative => cases negative <;> rfl
      | finite value' => exact compareRat_swap value value'

end Numeral

/-! Values -/

def IsNumeral (value : String) : Prop :=
  (Numeral.read? value).isSome = true

instance (value : String) : Decidable (IsNumeral value) :=
  inferInstanceAs (Decidable (_ = true))

section Values

variable {first second : String} {values : List String}

theorem compareValues_of_numerals {x y : Numeral} (isFirst : Numeral.read? first = some x)
    (isSecond : Numeral.read? second = some y) : compareValues first second = x.compare y := by
  rw [compareValues, isFirst, isSecond]

theorem compareValues_of_word (isWord : ¬ IsNumeral first ∨ ¬ IsNumeral second) :
    compareValues first second = Ord.compare first second := by
  unfold compareValues
  unfold IsNumeral at isWord
  cases isFirst : Numeral.read? first with
  | none => rfl
  | some x =>
      cases isSecond : Numeral.read? second with
      | none => rfl
      | some y => simp [isFirst, isSecond] at isWord

theorem compareValues_swap (first second : String) :
    compareValues first second = (compareValues second first).swap := by
  by_cases isFirst : IsNumeral first
  · by_cases isSecond : IsNumeral second
    · obtain ⟨x, isX⟩ := Option.isSome_iff_exists.mp isFirst
      obtain ⟨y, isY⟩ := Option.isSome_iff_exists.mp isSecond
      rw [compareValues_of_numerals isX isY, compareValues_of_numerals isY isX]
      exact Numeral.compare_swap x y
    · rw [compareValues_of_word (Or.inr isSecond), compareValues_of_word (Or.inl isSecond)]
      exact Std.OrientedCmp.eq_swap
  · rw [compareValues_of_word (Or.inl isFirst), compareValues_of_word (Or.inr isFirst)]
    exact Std.OrientedCmp.eq_swap

/-- A number and a text that is none are never level. -/
theorem compare_lt_of_ne_gt (apart : ¬ (IsNumeral first ↔ IsNumeral second))
    (notAbove : Ord.compare first second ≠ .gt) : Ord.compare first second = .lt := by
  cases found : Ord.compare first second with
  | lt => rfl
  | gt => exact absurd found notAbove
  | eq =>
      rw [Std.LawfulEqCmp.eq_of_compare found] at apart
      exact absurd Iff.rfl apart

/-- All numbers are level if one of the texts is `nan`, and a text that is no number has smaller
numbers before it than behind it. -/
structure IsOrderly (values : List String) : Prop where
  level : ∀ odd ∈ values, Numeral.read? odd = some .notANumber → ∀ first ∈ values,
    ∀ second ∈ values, IsNumeral first → IsNumeral second → compareValues first second = .eq
  apart : ∀ word ∈ values, ¬ IsNumeral word → ∀ low ∈ values, ∀ high ∈ values, IsNumeral low →
    IsNumeral high → Ord.compare low word = .lt → Ord.compare word high = .lt →
      compareValues low high = .lt

theorem isOrderly_of_isPreorderOn (consistent : IsPreorderOn compareValues values) :
    IsOrderly values := by
  constructor
  · intro odd inOdd isOdd first inFirst second inSecond isFirst isSecond
    obtain ⟨x, isX⟩ := Option.isSome_iff_exists.mp isFirst
    obtain ⟨y, isY⟩ := Option.isSome_iff_exists.mp isSecond
    refine consistent.eq_trans inFirst inOdd inSecond ?_ ?_
    · rw [compareValues_of_numerals isX isOdd]
      cases x <;> rfl
    · rw [compareValues_of_numerals isOdd isY]
      rfl
  · intro word inWord isWord low inLow high inHigh _ _ below above
    rw [← compareValues_of_word (Or.inr isWord)] at below
    rw [← compareValues_of_word (Or.inl isWord)] at above
    exact consistent.lt_of_lt_of_ne_gt inLow inWord inHigh below (by simp [above])

namespace IsOrderly

variable (orderly : IsOrderly values) {third : String}

include orderly

theorem trans_of_numerals (inFirst : first ∈ values) (inSecond : second ∈ values)
    (inThird : third ∈ values) (isFirst : IsNumeral first) (isSecond : IsNumeral second)
    (isThird : IsNumeral third) (below : compareValues first second ≠ .gt)
    (below' : compareValues second third ≠ .gt) : compareValues first third ≠ .gt := by
  obtain ⟨x, isX⟩ := Option.isSome_iff_exists.mp isFirst
  obtain ⟨y, isY⟩ := Option.isSome_iff_exists.mp isSecond
  obtain ⟨z, isZ⟩ := Option.isSome_iff_exists.mp isThird
  have ofOdd (odd : String) (inOdd : odd ∈ values)
      (isOdd : Numeral.read? odd = some .notANumber) : compareValues first third ≠ .gt := by
    rw [orderly.level odd inOdd isOdd first inFirst third inThird isFirst isThird]
    decide
  by_cases oddFirst : x = .notANumber
  · exact ofOdd first inFirst (oddFirst ▸ isX)
  by_cases oddSecond : y = .notANumber
  · exact ofOdd second inSecond (oddSecond ▸ isY)
  by_cases oddThird : z = .notANumber
  · exact ofOdd third inThird (oddThird ▸ isZ)
  have numbers : Numeral.notANumber ∉ [x, y, z] := by
    simp [Ne.symm oddFirst, Ne.symm oddSecond, Ne.symm oddThird]
  rw [compareValues_of_numerals isX isY] at below
  rw [compareValues_of_numerals isY isZ] at below'
  rw [compareValues_of_numerals isX isZ]
  exact (Numeral.isPreorderOn_compare numbers).2 x (by simp) y (by simp) z (by simp) below below'

/-- The cases are which of the three values are numbers. With at most one, all are compared as
texts; with two, the third stands before, between or behind them. -/
theorem isPreorderOn : IsPreorderOn compareValues values := by
  refine ⟨fun first _ second _ => compareValues_swap first second, ?_⟩
  intro first inFirst second inSecond third inThird below below'
  by_cases isFirst : IsNumeral first
  · by_cases isSecond : IsNumeral second
    · by_cases isThird : IsNumeral third
      · exact orderly.trans_of_numerals inFirst inSecond inThird isFirst isSecond isThird below
          below'
      · rw [compareValues_of_word (Or.inr isThird)] at below' ⊢
        intro above
        have later := compare_lt_of_ne_gt (by simp [isSecond, isThird]) below'
        have wrong := orderly.apart third inThird isThird second inSecond first inFirst isSecond
          isFirst later (Std.OrientedCmp.lt_of_gt above)
        rw [compareValues_swap, wrong] at below
        exact below rfl
    · rw [compareValues_of_word (Or.inr isSecond)] at below
      rw [compareValues_of_word (Or.inl isSecond)] at below'
      by_cases isThird : IsNumeral third
      · have before := compare_lt_of_ne_gt (by simp [isFirst, isSecond]) below
        have behind := compare_lt_of_ne_gt (by simp [isSecond, isThird]) below'
        rw [orderly.apart second inSecond isSecond first inFirst third inThird isFirst isThird
          before behind]
        decide
      · rw [compareValues_of_word (Or.inr isThird)]
        exact (IsPreorderOn.of_transCmp values).2 first inFirst second inSecond third inThird below
          below'
  · rw [compareValues_of_word (Or.inl isFirst)] at below ⊢
    by_cases isSecond : IsNumeral second
    · by_cases isThird : IsNumeral third
      · intro above
        have before := compare_lt_of_ne_gt (by simp [isFirst, isSecond]) below
        have wrong := orderly.apart first inFirst isFirst third inThird second inSecond isThird
          isSecond (Std.OrientedCmp.lt_of_gt above) before
        rw [compareValues_swap, wrong] at below'
        exact below' rfl
      · rw [compareValues_of_word (Or.inr isThird)] at below'
        exact (IsPreorderOn.of_transCmp values).2 first inFirst second inSecond third inThird below
          below'
    · rw [compareValues_of_word (Or.inl isSecond)] at below'
      exact (IsPreorderOn.of_transCmp values).2 first inFirst second inSecond third inThird below
        below'

end IsOrderly

theorem isPreorderOn_compareValues_iff : IsPreorderOn compareValues values ↔ IsOrderly values :=
  ⟨isOrderly_of_isPreorderOn, IsOrderly.isPreorderOn⟩

instance (values : List String) : Decidable (IsOrderly values) :=
  decidable_of_iff (comparesByCount compareValues values = true)
    ((comparesByCount_iff compareValues values).trans isPreorderOn_compareValues_iff)

example : IsOrderly ["9", "10", "x"] ∧ ¬ IsOrderly ["9", "10", "1a"] := by decide +kernel

end Values

/-! Documents -/

namespace Scored

variable {values : List String}

theorem isPreorderOn_compareOptional (descending : Bool)
    (consistent : IsPreorderOn compareValues values) {options : List (Option String)}
    (within : ∀ option ∈ options, ∀ value ∈ option, value ∈ values) :
    IsPreorderOn (compareOptional descending) options := by
  have directed : IsPreorderOn (fun first second =>
      if descending then compareValues second first else compareValues first second) values := by
    cases descending with
    | true => exact consistent.reverse
    | false => exact consistent
  constructor
  · intro first inFirst second inSecond
    cases first with
    | none => cases second <;> rfl
    | some value =>
        cases second with
        | none => rfl
        | some value' =>
            exact directed.1 value (within _ inFirst value rfl) value'
              (within _ inSecond value' rfl)
  · intro first inFirst second inSecond third inThird below below'
    cases first with
    | none =>
        cases second with
        | none => exact below'
        | some value' => exact absurd rfl below
    | some value =>
        cases third with
        | none => simp [compareOptional]
        | some value'' =>
            cases second with
            | none => exact absurd rfl below'
            | some value' =>
                exact directed.2 value (within _ inFirst value rfl) value'
                  (within _ inSecond value' rfl) value'' (within _ inThird value'' rfl) below below'

theorem mem_valuesUnder_iff {key : SortKey} {found : List Scored} {value : String} :
    value ∈ valuesUnder key found ↔
      ∃ scored ∈ found, scored.document.firstValue? key.field = some value := by
  rw [valuesUnder, SortedSet.mem_toList, SortedSet.contains_ofList, List.mem_filterMap]

theorem isPreorderOn_compareRank_of_keys {keys : List SortKey} {found : List Scored}
    (consistent : ∀ key ∈ keys, IsPreorderOn compareValues (valuesUnder key found)) :
    IsPreorderOn (compareRank keys) found := by
  induction keys with
  | nil =>
      have scores : IsPreorderOn (fun first second : Scored =>
          Numeral.compareRat first.score second.score) found :=
        (Numeral.isPreorderOn_compareRat (found.map (·.score))).comap fun _ member =>
          List.mem_map_of_mem member
      exact scores.reverse
  | cons key keys ih =>
      obtain ⟨ofKey, ofOthers⟩ := List.forall_mem_cons.mp consistent
      have options : IsPreorderOn (compareOptional key.descending)
          (found.map (·.document.firstValue? key.field)) := by
        refine isPreorderOn_compareOptional key.descending ofKey ?_
        intro option member value isValue
        obtain ⟨scored, inFound, rfl⟩ := List.mem_map.mp member
        exact mem_valuesUnder_iff.mpr ⟨scored, inFound, isValue⟩
      have byKey : IsPreorderOn (compareBy key) found :=
        options.comap fun _ member => List.mem_map_of_mem member
      exact byKey.lexicographic (ih ofOthers)

def SortedWithin (values : List String) (keys : List SortKey) (found : List Scored) : Prop :=
  ∀ key ∈ keys, ∀ scored ∈ found, ∀ value ∈ scored.document.firstValue? key.field, value ∈ values

theorem isPreorderOn_compareRank {keys : List SortKey} {found : List Scored}
    (consistent : IsPreorderOn compareValues values) (within : SortedWithin values keys found) :
    IsPreorderOn (compareRank keys) found := by
  refine isPreorderOn_compareRank_of_keys fun key isKey => consistent.mono fun value member => ?_
  obtain ⟨scored, inFound, isValue⟩ := mem_valuesUnder_iff.mp member
  exact within key isKey scored inFound value isValue

theorem compareRank_swap (keys : List SortKey) (first second : Scored) :
    compareRank keys first second = (compareRank keys second first).swap := by
  induction keys with
  | nil => exact Numeral.compareRat_swap _ _
  | cons key keys ih =>
      have byKey : compareBy key first second = (compareBy key second first).swap := by
        unfold compareBy compareOptional
        cases first.document.firstValue? key.field with
        | none => cases second.document.firstValue? key.field <;> rfl
        | some value =>
            cases second.document.firstValue? key.field with
            | none => rfl
            | some value' =>
                cases key.descending <;> exact compareValues_swap _ _
      rw [compareRank, compareRank, byKey, ih, Ordering.swap_then]

def ofValue (field value : String) : Scored :=
  ⟨Document.addValue { id := value } field value, 1⟩

theorem firstValue?_ofValue (field value : String) :
    (ofValue field value).document.firstValue? field = some value := by
  simp [ofValue, Document.addValue, Document.firstValue?, Document.values, SortedMap.getD,
    SortedMap.update, SortedMap.get?_insert]

theorem compareRank_ofValue (field first second : String) :
    compareRank [⟨"", field, false⟩] (ofValue field first) (ofValue field second) =
      compareValues first second := by
  have level : Numeral.compareRat (ofValue field second).score (ofValue field first).score = .eq :=
    Numeral.compareRat_self 1
  simp [compareRank, compareBy, compareOptional, firstValue?_ofValue, level]

/-- The order of documents is always the same read from either side. It ranks all documents that are
sorted by some values on a line exactly if the order of the values does, which is to say exactly if
the values are orderly. -/
theorem rank_consistent_iff (values : List String) :
    (∀ keys first second,
      compareRank keys first second = (compareRank keys second first).swap) ∧
    (IsPreorderOn compareValues values ↔ IsOrderly values) ∧
    ((∀ keys found, SortedWithin values keys found → IsPreorderOn (compareRank keys) found) ↔
      IsOrderly values) ∧
    (IsOrderly values → ∀ keys found, SortedWithin values keys found →
      ∀ first ∈ found, ∀ second ∈ found, ∀ third ∈ found, compareRank keys first second = .eq →
        compareRank keys second third = .eq → compareRank keys first third = .eq) := by
  refine ⟨compareRank_swap, isPreorderOn_compareValues_iff, ⟨?_, ?_⟩, ?_⟩
  · intro consistent
    rw [← isPreorderOn_compareValues_iff]
    have within : SortedWithin values [⟨"", "field", false⟩] (values.map (ofValue "field")) := by
      intro key isKey scored member value isValue
      obtain rfl := List.mem_singleton.mp isKey
      obtain ⟨own, inValues, rfl⟩ := List.mem_map.mp member
      rw [firstValue?_ofValue] at isValue
      exact Option.some.inj isValue ▸ inValues
    have ofDocuments := (consistent _ _ within).comap
      fun value (member : value ∈ values) => List.mem_map_of_mem member
    refine ofDocuments.congr ?_
    intro first _ second _
    exact (compareRank_ofValue "field" first second).symm
  · intro orderly keys found within
    exact isPreorderOn_compareRank orderly.isPreorderOn within
  · intro orderly keys found within first inFirst second inSecond third inThird
    exact (isPreorderOn_compareRank orderly.isPreorderOn within).eq_trans inFirst inSecond inThird

/-- By year, 9 is before 10 and 10 before 1a, but 1a before 9; and `nan` is level with 1 and with 2,
but 1 before 2. -/
theorem years_circular :
    let compareYears (first second : String) :=
      compareRank [⟨"A", "year", false⟩] (ofValue "year" first) (ofValue "year" second)
    compareYears "9" "10" = .lt ∧ compareYears "10" "1a" = .lt ∧ compareYears "9" "1a" = .gt ∧
      compareYears "1" "nan" = .eq ∧ compareYears "nan" "2" = .eq ∧ compareYears "1" "2" = .lt := by
  decide +kernel

end Scored

end FederatedSearch

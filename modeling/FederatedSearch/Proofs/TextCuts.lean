import FederatedSearch.Text.Cut
import Mathlib.Data.List.Infix

/-! Where a text is cut: at the first place at which the separator stands. -/

namespace FederatedSearch

section Chars

variable {separator text before after : List Char}

theorem cutChars_isSome_iff : (cutChars separator text).isSome = true ↔ separator <:+: text := by
  induction text with
  | nil => cases separator <;> simp [cutChars]
  | cons c rest ih =>
      rw [cutChars, List.infix_cons_iff, ← List.isPrefixOf_iff_prefix, ← ih]
      by_cases starts : separator.isPrefixOf (c :: rest) = true
      · simp [starts]
      · simp [starts]

/-- That the separator stands at no earlier place depends on what is before it alone. -/
theorem not_infix_of_cutChars (nonempty : separator ≠ [])
    (found : cutChars separator text = some (before, after)) :
    ¬ separator <:+: before ++ separator.dropLast := by
  induction text generalizing before with
  | nil => simp [cutChars, nonempty] at found
  | cons c rest ih =>
      rw [cutChars] at found
      by_cases starts : separator.isPrefixOf (c :: rest) = true
      · rw [if_pos starts, Option.some.injEq, Prod.mk.injEq] at found
        rw [← found.1, List.nil_append]
        intro inside
        have short := inside.length_le
        have long := List.length_pos_iff.mpr nonempty
        rw [List.length_dropLast] at short
        omega
      · rw [if_neg starts] at found
        obtain ⟨⟨later, remaining⟩, inRest, pair⟩ := Option.map_eq_some_iff.mp found
        obtain ⟨rfl, rfl⟩ := Prod.mk.inj pair
        rw [List.cons_append, List.infix_cons_iff]
        rintro (atStart | further)
        · have extended : c :: (later ++ separator.dropLast) <+: c :: rest := by
            rw [eq_append_of_cutChars inRest, List.append_assoc, List.prefix_cons_inj,
              List.prefix_append_right_inj]
            exact (List.dropLast_prefix separator).trans (List.prefix_append separator remaining)
          exact starts (List.isPrefixOf_iff_prefix.mpr (atStart.trans extended))
        · exact ih inRest further

theorem cutChars_of_not_infix (nonempty : separator ≠ [])
    (first : ¬ separator <:+: before ++ separator.dropLast) :
    cutChars separator (before ++ separator ++ after) = some (before, after) := by
  induction before with
  | nil =>
      obtain ⟨head, tail, rfl⟩ := List.exists_cons_of_ne_nil nonempty
      simp [cutChars]
  | cons c rest ih =>
      rw [List.cons_append, List.infix_cons_iff, not_or] at first
      have notHere : ¬ separator.isPrefixOf (c :: (rest ++ separator ++ after)) = true := by
        rw [List.isPrefixOf_iff_prefix]
        intro stands
        refine first.1 (List.prefix_of_prefix_length_le stands ?_ ?_)
        · rw [List.append_assoc, List.prefix_cons_inj, List.prefix_append_right_inj]
          exact (List.dropLast_prefix separator).trans (List.prefix_append separator after)
        · have long := List.length_pos_iff.mpr nonempty
          simp only [List.length_cons, List.length_append, List.length_dropLast]
          omega
      rw [List.cons_append, List.cons_append, cutChars, if_neg notHere, ih first.2]
      rfl

/-- A separator whose first character does not recur in it cannot begin in a text and end behind
it. -/
theorem not_infix_append_dropLast {head : Char} {tail : List Char} (once : head ∉ tail)
    (absent : ¬ head :: tail <:+: before) :
    ¬ head :: tail <:+: before ++ (head :: tail).dropLast := by
  induction before with
  | nil =>
      intro inside
      have short := inside.length_le
      simp only [List.nil_append, List.length_dropLast, List.length_cons] at short
      omega
  | cons c rest ih =>
      rw [List.infix_cons_iff, not_or] at absent
      rw [List.cons_append, List.infix_cons_iff]
      rintro (stands | further)
      · obtain ⟨isHead, tailStands⟩ := List.cons_prefix_cons.mp stands
        rcases List.prefix_or_prefix_of_prefix tailStands (List.prefix_append rest _) with
          inRest | restInTail
        · exact absent.1 (List.cons_prefix_cons.mpr ⟨isHead, inRest⟩)
        · obtain ⟨more, rfl⟩ := restInTail
          rw [List.prefix_append_right_inj] at tailStands
          cases more with
          | nil => exact absent.1 (by simp [isHead])
          | cons d others =>
              have again := tailStands.trans (List.dropLast_prefix _)
              obtain ⟨isHead, -⟩ := List.cons_prefix_cons.mp again
              exact once (by simp [isHead])
      · exact ih absent.2 further

end Chars

section Texts

variable {separator text before after : String}

theorem cutAt?_eq_some_iff : cutAt? separator text = some (before, after) ↔
    cutChars separator.toList text.toList = some (before.toList, after.toList) := by
  rw [cutAt?, Option.map_eq_some_iff]
  constructor
  · rintro ⟨⟨first, second⟩, found, pair⟩
    obtain ⟨rfl, rfl⟩ := Prod.mk.inj pair
    simpa using found
  · intro found
    exact ⟨_, found, by simp⟩

theorem eq_append_of_cutAt? (found : cutAt? separator text = some (before, after)) :
    text = before ++ separator ++ after := by
  have chars := eq_append_of_cutChars (cutAt?_eq_some_iff.mp found)
  apply String.toList_injective
  simpa using chars

theorem cutAt?_eq_none_iff :
    cutAt? separator text = none ↔ ¬ separator.toList <:+: text.toList := by
  rw [← cutChars_isSome_iff, cutAt?, Option.map_eq_none_iff, Bool.not_eq_true,
    Option.isSome_eq_false_iff, Option.isNone_iff_eq_none]

theorem cutAt?_append {head : Char} {tail : List Char}
    (isSeparator : separator.toList = head :: tail)
    (once : head ∉ tail) (absent : ¬ separator.toList <:+: before.toList) :
    cutAt? separator (before ++ separator ++ after) = some (before, after) := by
  rw [cutAt?_eq_some_iff, String.toList_append, String.toList_append]
  refine cutChars_of_not_infix (by simp [isSeparator]) ?_
  rw [isSeparator] at absent ⊢
  exact not_infix_append_dropLast once absent

/-- A text that holds the separator is cut there, whatever follows it. -/
theorem cutAt?_append_of_infix (nonempty : separator.toList ≠ [])
    (inside : separator.toList <:+: text.toList) (more : String) :
    ∃ first later, cutAt? separator (text ++ more) = some (first, later ++ more) ∧
      text = first ++ separator ++ later ∧ ¬ separator.toList <:+: first.toList := by
  cases found : cutAt? separator text with
  | none => exact absurd inside (cutAt?_eq_none_iff.mp found)
  | some parts =>
      obtain ⟨first, later⟩ := parts
      have isFirst := not_infix_of_cutChars nonempty (cutAt?_eq_some_iff.mp found)
      have isText := eq_append_of_cutAt? found
      refine ⟨first, later, ?_, isText, ?_⟩
      · rw [cutAt?_eq_some_iff]
        have again : cutChars separator.toList
            (first.toList ++ separator.toList ++ (later ++ more).toList) =
              some (first.toList, (later ++ more).toList) :=
          cutChars_of_not_infix nonempty isFirst
        simpa [isText] using again
      · intro within
        exact isFirst (within.trans (List.prefix_append _ _).isInfix)

end Texts

end FederatedSearch

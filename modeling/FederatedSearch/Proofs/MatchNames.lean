import FederatedSearch.Proofs.StoredParts
import FederatedSearch.Proofs.TextCuts
import Mathlib.Data.Finset.Max
import Mathlib.Data.String.Basic

/-! Matches under the names they are stored by. A name is cut at its first separator, so that the
match of a core whose own name holds the separator may come back as one of other cores. -/

namespace FederatedSearch

theorem compare_eq_gt_iff {first second : String} :
    compare first second = .gt ↔ second < first := by
  rw [Std.OrientedCmp.gt_iff_lt]
  exact compareOfLessAndEq_eq_lt

theorem lt_append {more : String} (text : String) (nonempty : more ≠ "") : text < text ++ more := by
  rw [String.lt_iff_toList_lt, String.toList_append]
  obtain ⟨c, rest, chars⟩ := List.exists_cons_of_ne_nil (mt String.toList_eq_nil_iff.mp nonempty)
  have longer : text.toList ++ [] < text.toList ++ more.toList := by
    rw [chars]
    exact List.Lex.append_left _ List.Lex.nil text.toList
  rwa [List.append_nil] at longer

namespace CorePair

def Separated (pair : CorePair) : Prop :=
  ¬ matchSeparator.toList <:+: pair.first.toList

instance (pair : CorePair) : Decidable pair.Separated :=
  inferInstanceAs (Decidable (¬ _))

theorem ofMatchName?_matchName {pair : CorePair} (separated : pair.Separated) :
    ofMatchName? pair.matchName = some pair := by
  have cut : cutAt? matchSeparator (pair.first ++ matchSeparator ++ pair.second) =
      some (pair.first, pair.second) := cutAt?_append rfl (by decide) separated
  rw [ofMatchName?, matchName, cut]
  rfl

theorem exists_ofMatchName? (pair : CorePair) :
    ∃ read, ofMatchName? pair.matchName = some read := by
  cases cut : cutAt? matchSeparator pair.matchName with
  | none =>
      refine absurd ?_ (cutAt?_eq_none_iff.mp cut)
      rw [matchName, String.toList_append, String.toList_append]
      exact List.infix_append _ _ _
  | some parts =>
      rw [ofMatchName?, cut]
      exact ⟨_, rfl⟩

theorem separated_of_ofMatchName? {name : String} {cut : CorePair}
    (found : ofMatchName? name = some cut) : cut.Separated := by
  obtain ⟨⟨first, second⟩, isCut, rfl⟩ := Option.map_eq_some_iff.mp found
  intro inside
  refine not_infix_of_cutChars (by decide) (cutAt?_eq_some_iff.mp isCut) ?_
  exact inside.trans (List.prefix_append _ _).isInfix

/-- The name of a match whose first core holds the separator is cut within that core. -/
theorem first_lt_of_ofMatchName? {pair cut : CorePair} (held : ¬ pair.Separated)
    (found : ofMatchName? pair.matchName = some cut) : cut.first < pair.first := by
  have inside : matchSeparator.toList <:+: pair.first.toList := not_not.mp held
  obtain ⟨first, later, isCut, parts, -⟩ :=
    cutAt?_append_of_infix (by decide) inside (matchSeparator ++ pair.second)
  rw [ofMatchName?, matchName, String.append_assoc, isCut, Option.map_some, Option.some.injEq]
    at found
  rw [← found, parts, String.append_assoc]
  refine lt_append first ?_
  simp [matchSeparator]

end CorePair

namespace Matchings

variable {matchings : Matchings}

def Ordered (matchings : Matchings) : Prop :=
  ∀ pair ∈ SortedMap.keys matchings, compare pair.first pair.second ≠ .gt

theorem ordered_empty : Ordered SortedMap.empty := by
  intro pair member
  cases member

theorem Ordered.declare (ordered : matchings.Ordered) {first second : String × String}
    (inOrder : compare first.1 second.1 ≠ .gt) : (matchings.declare first second).Ordered := by
  intro pair member
  obtain ⟨entry, inEntries, rfl⟩ := List.mem_map.mp member
  rcases key_of_mem_putEntry inEntries with isNew | wasThere
  · rw [isNew]
    exact inOrder
  · exact ordered _ (List.mem_map_of_mem wasThere)

theorem ordered_of_addNamed {entries : List (String × (String × String))} {read : Matchings}
    (ordered : matchings.Ordered) (added : matchings.addNamed entries = .ok read) :
    read.Ordered := by
  induction entries generalizing matchings with
  | nil =>
      cases added
      exact ordered
  | cons entry rest ih =>
      rw [addNamed] at added
      split at added
      · cases added
      · split at added
        next turned =>
          refine ih (ordered.declare ?_) added
          rw [Std.OrientedCmp.lt_of_gt turned]
          simp
        next inOrder => exact ih (ordered.declare inOrder) added

theorem decode_yields : decode.Yields Ordered := by
  intro value read found
  obtain ⟨named, -, added⟩ := bind_ok_iff.mp found
  exact ordered_of_addNamed ordered_empty added

def readNamed? (entry : String × (String × String)) : Option (CorePair × (String × String)) :=
  (CorePair.ofMatchName? entry.1).map fun pair =>
    if compare pair.first pair.second = .gt then (⟨pair.second, pair.first⟩, entry.2.swap)
    else (pair, entry.2)

theorem addNamed_eq {entries : List (String × (String × String))}
    (named : ∀ entry ∈ entries, ∃ pair, CorePair.ofMatchName? entry.1 = some pair) :
    matchings.addNamed entries = .ok
      ((entries.filterMap readNamed?).foldl (fun read entry => read.insert entry.1 entry.2)
        matchings) := by
  induction entries generalizing matchings with
  | nil => rfl
  | cons entry rest ih =>
      obtain ⟨name, firstKey, secondKey⟩ := entry
      obtain ⟨isNamed, restNamed⟩ := List.forall_mem_cons.mp named
      obtain ⟨pair, cut⟩ := isNamed
      rw [addNamed, List.filterMap_cons, readNamed?]
      simp only [cut, Option.map_some]
      by_cases turned : compare pair.first pair.second = .gt
      · rw [if_pos turned, if_pos turned, ih restNamed]
        rfl
      · rw [if_neg turned, if_neg turned, ih restNamed]
        rfl

def restored (matchings : Matchings) : Matchings :=
  SortedMap.ofList (matchings.named.entries.filterMap readNamed?)

theorem exists_of_mem_named {entry : String × (String × String)}
    (member : entry ∈ matchings.named.entries) :
    ∃ pair, (pair, entry.2) ∈ matchings.entries ∧ entry.1 = pair.matchName := by
  obtain ⟨name, keys⟩ := entry
  obtain ⟨⟨pair, _⟩, inMatchings, same⟩ :=
    List.mem_map.mp (SortedMap.mem_of_get?_ofList (SortedMap.mem_entries_iff.mp member))
  obtain ⟨rfl, rfl⟩ := Prod.mk.inj same
  exact ⟨pair, inMatchings, rfl⟩

theorem decode_encode (matchings : Matchings) :
    decode matchings.encode = .ok matchings.restored := by
  have listed : Value.asMap (Value.asPair Value.asText Value.asText) matchings.encode =
      .ok matchings.named :=
    Value.asMap_ofMap fun entry _ => rfl
  rw [decode, listed]
  change addNamed SortedMap.empty matchings.named.entries = _
  rw [addNamed_eq]
  · rfl
  · intro entry member
    obtain ⟨pair, -, isName⟩ := exists_of_mem_named member
    rw [isName]
    exact pair.exists_ofMatchName?

/-! Matches whose names are cut where they were joined -/

theorem readNamed?_matchName {pair : CorePair} (separated : pair.Separated)
    (ordered : compare pair.first pair.second ≠ .gt) (keys : String × String) :
    readNamed? (pair.matchName, keys) = some (pair, keys) := by
  rw [readNamed?, CorePair.ofMatchName?_matchName separated, Option.map_some, if_neg ordered]

theorem matchName_injective {pair other : CorePair} (separated : pair.Separated)
    (otherSeparated : other.Separated) (same : pair.matchName = other.matchName) :
    pair = other := by
  have read := CorePair.ofMatchName?_matchName separated
  rw [same, CorePair.ofMatchName?_matchName otherSeparated] at read
  exact (Option.some.inj read).symm

theorem mem_named_iff (separated : ∀ pair ∈ SortedMap.keys matchings, pair.Separated)
    {entry : String × (String × String)} : entry ∈ matchings.named.entries ↔
      ∃ pair, (pair, entry.2) ∈ matchings.entries ∧ entry.1 = pair.matchName := by
  constructor
  · exact exists_of_mem_named
  · rintro ⟨pair, member, isName⟩
    rw [SortedMap.mem_entries_iff, named, SortedMap.get?_ofList_iff]
    · exact List.mem_map.mpr ⟨(pair, entry.2), member, Prod.ext isName.symm rfl⟩
    · intro one inNames other alsoInNames sameName
      obtain ⟨⟨onePair, oneKeys⟩, oneMember, rfl⟩ := List.mem_map.mp inNames
      obtain ⟨⟨otherPair, otherKeys⟩, otherMember, rfl⟩ := List.mem_map.mp alsoInNames
      have samePair : onePair = otherPair :=
        matchName_injective (separated _ (List.mem_map_of_mem oneMember))
          (separated _ (List.mem_map_of_mem otherMember)) sameName
      subst samePair
      rw [SortedMap.mem_entries_iff] at oneMember otherMember
      exact Option.some.inj (oneMember.symm.trans otherMember)

theorem restored_of_separated (ordered : matchings.Ordered)
    (separated : ∀ pair ∈ SortedMap.keys matchings, pair.Separated) :
    matchings.restored = matchings := by
  have asRead : ∀ {pair keys}, (pair, keys) ∈ matchings.entries →
      readNamed? (pair.matchName, keys) = some (pair, keys) := by
    intro pair keys member
    have inKeys : pair ∈ SortedMap.keys matchings := List.mem_map_of_mem member
    exact readNamed?_matchName (separated pair inKeys) (ordered pair inKeys) keys
  have mem_read : ∀ entry,
      entry ∈ matchings.named.entries.filterMap readNamed? ↔ entry ∈ matchings.entries := by
    intro entry
    rw [List.mem_filterMap]
    constructor
    · rintro ⟨⟨name, keys⟩, inNames, isRead⟩
      obtain ⟨pair, member, rfl⟩ := exists_of_mem_named inNames
      rw [asRead member, Option.some.injEq] at isRead
      rwa [← isRead]
    · intro member
      exact ⟨(entry.1.matchName, entry.2), (mem_named_iff separated).mpr ⟨entry.1, member, rfl⟩,
        asRead member⟩
  refine SortedMap.ext_get? fun pair => Option.ext fun keys => ?_
  rw [restored, SortedMap.get?_ofList_iff, mem_read, SortedMap.mem_entries_iff]
  intro one inRead other alsoInRead samePair
  rw [mem_read] at inRead alsoInRead
  have found := SortedMap.mem_entries_iff.mp inRead
  rw [samePair, SortedMap.mem_entries_iff.mp alsoInRead] at found
  exact (Option.some.inj found).symm

theorem nodup_matchNames (separated : ∀ pair ∈ SortedMap.keys matchings, pair.Separated) :
    ((SortedMap.keys matchings).map CorePair.matchName).Nodup := by
  refine List.Nodup.map_on ?_ matchings.ascending.nodup
  intro pair member other otherMember same
  exact matchName_injective (separated pair member) (separated other otherMember) same

/-! Matches that come back as others -/

theorem exists_of_get?_restored {key : CorePair} {keys : String × String}
    (found : matchings.restored.get? key = some keys) :
    ∃ pair ∈ SortedMap.keys matchings, ∃ cut, CorePair.ofMatchName? pair.matchName = some cut ∧
      (cut = key ∨ cut = ⟨key.second, key.first⟩) := by
  obtain ⟨⟨name, stored⟩, inNames, isRead⟩ :=
    List.mem_filterMap.mp (SortedMap.mem_of_get?_ofList found)
  obtain ⟨pair, member, rfl⟩ := exists_of_mem_named inNames
  obtain ⟨cut, isCut, oriented⟩ := Option.map_eq_some_iff.mp isRead
  refine ⟨pair, List.mem_map_of_mem member, cut, isCut, ?_⟩
  by_cases turned : compare cut.first cut.second = .gt
  · rw [if_pos turned, Prod.mk.injEq] at oriented
    rw [← oriented.1]
    exact Or.inr rfl
  · rw [if_neg turned, Prod.mk.injEq] at oriented
    exact Or.inl oriented.1

theorem exists_of_keyNames?_restored {first second : String}
    (found : (matchings.restored.keyNames? first second).isSome = true) :
    ∃ pair ∈ SortedMap.keys matchings, ∃ cut, CorePair.ofMatchName? pair.matchName = some cut ∧
      (cut = ⟨first, second⟩ ∨ cut = ⟨second, first⟩) := by
  unfold keyNames? at found
  cases forward : matchings.restored.get? ⟨first, second⟩ with
  | some keys => exact exists_of_get?_restored forward
  | none =>
      rw [forward, Option.isSome_map] at found
      obtain ⟨keys, backward⟩ := Option.isSome_iff_exists.mp found
      obtain ⟨pair, member, cut, isCut, isEither⟩ := exists_of_get?_restored backward
      exact ⟨pair, member, cut, isCut, isEither.symm⟩

/-- Only the name of a match with a larger first core can be read as a match whose first core holds
the separator. -/
theorem exists_larger (ordered : matchings.Ordered) {pair : CorePair}
    (member : pair ∈ SortedMap.keys matchings) (held : ¬ pair.Separated)
    (found : (matchings.restored.keyNames? pair.first pair.second).isSome = true) :
    ∃ other ∈ SortedMap.keys matchings, ¬ other.Separated ∧ pair.first < other.first := by
  obtain ⟨other, otherMember, cut, isCut, isEither⟩ := exists_of_keyNames?_restored found
  have turned : cut = ⟨pair.second, pair.first⟩ := by
    refine isEither.resolve_left fun same => held ?_
    have separated := CorePair.separated_of_ofMatchName? isCut
    rwa [same] at separated
  have notAbove : ¬ pair.second < pair.first := mt compare_eq_gt_iff.mpr (ordered pair member)
  by_cases otherSeparated : other.Separated
  · rw [CorePair.ofMatchName?_matchName otherSeparated, Option.some.injEq] at isCut
    rw [isCut, turned] at otherMember otherSeparated
    have notBelow : ¬ pair.first < pair.second :=
      mt compare_eq_gt_iff.mpr (ordered _ otherMember)
    have same : pair.second = pair.first := le_antisymm (not_lt.mp notBelow) (not_lt.mp notAbove)
    unfold CorePair.Separated at otherSeparated held
    rw [same] at otherSeparated
    exact absurd otherSeparated held
  · refine ⟨other, otherMember, otherSeparated, lt_of_le_of_lt (not_lt.mp notAbove) ?_⟩
    have within := CorePair.first_lt_of_ofMatchName? otherSeparated isCut
    rwa [turned] at within

theorem separated_of_restored (ordered : matchings.Ordered)
    (kept : ∀ pair ∈ SortedMap.keys matchings,
      (matchings.restored.keyNames? pair.first pair.second).isSome = true) :
    ∀ pair ∈ SortedMap.keys matchings, pair.Separated := by
  by_contra someHeld
  push Not at someHeld
  obtain ⟨pair, member, held⟩ := someHeld
  classical
  obtain ⟨largest, isHeld, greatest⟩ := Finset.exists_max_image
    ((SortedMap.keys matchings).toFinset.filter fun pair => ¬ pair.Separated) (·.first)
    ⟨pair, by simpa using ⟨member, held⟩⟩
  rw [Finset.mem_filter, List.mem_toFinset] at isHeld
  obtain ⟨other, otherMember, otherHeld, above⟩ :=
    exists_larger ordered isHeld.1 isHeld.2 (kept largest isHeld.1)
  have notAbove := greatest other (by simpa using ⟨otherMember, otherHeld⟩)
  exact absurd above (not_lt.mpr notAbove)

end Matchings

end FederatedSearch

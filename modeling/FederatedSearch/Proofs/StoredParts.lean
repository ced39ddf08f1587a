import FederatedSearch.Codec.Composed
import FederatedSearch.Codec.Expression
import FederatedSearch.Proofs.ListResults
import FederatedSearch.Proofs.MapEntries

/-! The parts of a composed query as structured values: what a part is written as is read as that
part, if its numbers fit the format, and whatever is read has numbers that do. -/

namespace FederatedSearch

variable {α Q : Type}

namespace Value

@[simp] theorem asText_text (value : String) : asText (.text value) = .ok value :=
  rfl

@[simp] theorem asBool_bool (value : Bool) : asBool (.bool value) = .ok value :=
  rfl

theorem asNat_ofNat {n : Nat} (fits : n < UInt64.size) : asNat (ofNat n) = .ok n := by
  simp [asNat, ofNat, fits]

theorem asList_map {item : Decoder α} {write : α → Value} {elements : List α}
    (each : ∀ element ∈ elements, item (write element) = .ok element) :
    asList item (.list (elements.map write)) = .ok elements := by
  rw [asList, mapM_ok_iff, List.forall₂_map_left_iff, List.forall₂_same]
  exact each

@[simp] theorem asList_ofTexts (texts : List String) : asList asText (ofTexts texts) = .ok texts :=
  asList_map fun _ _ => rfl

theorem asOptional_ofOption {item : Decoder α} {write : α → Value} {part : Option α}
    (each : ∀ value, part = some value → asOptional item (write value) = .ok (some value)) :
    asOptional item (ofOption (part.map write)) = .ok part := by
  cases part with
  | none => rfl
  | some value => exact each value rfl

@[simp] theorem asOptional_texts (part : Option String) :
    asOptional asText (ofOption (part.map .text)) = .ok part :=
  asOptional_ofOption fun _ _ => rfl

theorem asMap_ofMap {item : Decoder α} {write : α → Value} {map : SortedMap String α}
    (each : ∀ entry ∈ map.entries, item (write entry.2) = .ok entry.2) :
    asMap item (ofMap write map) = .ok map := by
  have entries : (map.entries.map fun entry => (entry.1, write entry.2)).mapM
      (fun entry => do return (entry.1, ← item entry.2)) = Except.ok map.entries := by
    rw [mapM_ok_iff, List.forall₂_map_left_iff, List.forall₂_same]
    intro entry member
    simp only [each entry member]
    rfl
  refine (congrArg (SortedMap.ofList <$> ·) entries).trans ?_
  exact congrArg Except.ok (SortedMap.ofList_entries map)

end Value

namespace Fields

variable (name key : String) (item : Decoder α) (value : Value) (rest : Fields)

theorem named?_cons :
    named? ((key, value) :: rest) name = if name = key then some value else named? rest name := by
  by_cases same : name = key
  · simp [named?, same]
  · have different : (name == key) = false := beq_false_of_ne same
    rw [if_neg same, named?, List.lookup_cons, different]
    rfl

@[simp] theorem required_cons : required ((key, value) :: rest) name item =
    if name = key then item value else required rest name item := by
  by_cases same : name = key <;> simp [required, named?_cons, same]

@[simp] theorem optional_cons : optional ((key, value) :: rest) name item =
    if name = key then Value.asOptional item value else optional rest name item := by
  by_cases same : name = key <;> simp [optional, named?_cons, same]

@[simp] theorem orElse_cons (otherwise : α) : orElse ((key, value) :: rest) name item otherwise =
    if name = key then item value else orElse rest name item otherwise := by
  by_cases same : name = key <;> simp [orElse, named?_cons, same]

@[simp] theorem optional_nil : optional [] name item = .ok none :=
  rfl

end Fields

theorem ok_bind {β ε : Type} (value : α) (next : α → Except ε β) :
    (Except.ok value >>= next) = next value :=
  rfl

/-! Numbers that fit -/

def FacetRequest.Fits (facet : FacetRequest) : Prop :=
  facet.maxTerms < UInt64.size

def SuggestionRequest.Fits (request : SuggestionRequest) : Prop :=
  request.count < UInt64.size

def Bundle.Fits (bundle : Bundle Q) : Prop :=
  ∀ facet ∈ bundle.facets, facet.Fits

structure QueryOptions.Fits (options : QueryOptions) : Prop where
  start : ∀ start, options.start = some start → start < UInt64.size
  stop : ∀ stop, options.stop = some stop → stop < UInt64.size
  suggestions : ∀ request, options.suggestions = some request → request.Fits

theorem QueryOptions.fits_default : ({} : QueryOptions).Fits := by
  refine ⟨?start, ?stop, ?suggestions⟩
  all_goals
    intro _ impossible
    cases impossible

/-! Reading what is written -/

theorem FacetRequest.decode_encode {facet : FacetRequest} (fits : facet.Fits) :
    decode facet.encode = .ok facet := by
  have count : Value.asNat (.ofNat facet.maxTerms) = .ok facet.maxTerms := Value.asNat_ofNat fits
  have sorted : Fields.optional (skippedField "sortBy" (facet.sort.map (·.encode))) "sortBy"
      FacetSort.decode = .ok facet.sort := by
    cases facet.sort with
    | none => rfl
    | some sort =>
        cases sort
        rfl
  simp [decode, encode, Value.asRecord, ok_bind, count, sorted]

theorem Drilldown.decode_encode (drilldown : Drilldown) :
    decode drilldown.encode = .ok drilldown := by
  simp [decode, encode, Value.asRecord, ok_bind]

theorem SortKey.decode_encode (key : SortKey) : decode key.encode = .ok key := by
  simp [decode, encode, Value.asRecord, ok_bind]

theorem SuggestionRequest.decode_encode {request : SuggestionRequest} (fits : request.Fits) :
    decode request.encode = .ok request := by
  have count : Value.asNat (.ofNat request.count) = .ok request.count := Value.asNat_ofNat fits
  simp [decode, encode, Value.asRecord, ok_bind, count]

theorem QueryOptions.decode_encode {options : QueryOptions} (fits : options.Fits) :
    decode options.encode = .ok options := by
  have number {n : Option Nat} (fit : ∀ value, n = some value → value < UInt64.size) :
      Value.asOptional Value.asNat (.ofOption (n.map .ofNat)) = .ok n := by
    refine Value.asOptional_ofOption fun value isSome => ?_
    change some <$> Value.asNat (.ofNat value) = _
    rw [Value.asNat_ofNat (fit value isSome)]
    rfl
  have keys : Value.asList SortKey.decode (.list (options.sortKeys.map (·.encode))) =
      .ok options.sortKeys :=
    Value.asList_map fun key _ => key.decode_encode
  have suggested : Value.asOptional SuggestionRequest.decode
      (.ofOption (options.suggestions.map (·.encode))) = .ok options.suggestions := by
    refine Value.asOptional_ofOption fun request isSome => ?_
    change some <$> SuggestionRequest.decode request.encode = _
    rw [SuggestionRequest.decode_encode (fits.suggestions request isSome)]
    rfl
  simp [decode, encode, Value.asRecord, ok_bind, number fits.start, number fits.stop, keys,
    suggested]

theorem Clause.decode_encode (clause : Clause) : decode clause.encode = .ok clause := by
  obtain ⟨index, relation, term⟩ := clause
  cases index <;> cases relation <;>
    simp [decode, encode, Value.asRecord, skippedField, ok_bind, Value.asOptional]

namespace Expression

/-- A query is written as an object with one field. -/
theorem exists_encode_eq (query : Expression) : ∃ field, query.encode = .object [field] := by
  cases query <;> simp [encode]

mutual

theorem decode_encode (query : Expression) : decode query.encode = .ok query := by
  cases query with
  | clause leaf =>
      have read := leaf.decode_encode
      rw [Clause.encode] at read
      rw [encode, Clause.encode]
      simp only [decode, if_true, read]
      rfl
  | all operands =>
      rw [encode, decode, decodeAll_encodeAll operands]
      rfl
  | any operands =>
      rw [encode, decode, decodeAll_encodeAll operands]
      rfl
  | not operand =>
      obtain ⟨field, written⟩ := exists_encode_eq operand
      have read := decode_encode operand
      rw [encode, written] at *
      simp [decode, read]

theorem decodeAll_encodeAll (queries : List Expression) :
    decodeAll (encodeAll queries) = .ok queries := by
  cases queries with
  | nil => rfl
  | cons query rest =>
      rw [encodeAll, decodeAll, decode_encode query, decodeAll_encodeAll rest]
      rfl

end

end Expression

/-! What is read -/

def Decoder.Yields (item : Decoder α) (holds : α → Prop) : Prop :=
  ∀ value part, item value = .ok part → holds part

namespace Decoder.Yields

variable {item : Decoder α} {holds : α → Prop} {fields : Fields} {name : String}

theorem list (each : item.Yields holds) :
    (Value.asList item).Yields fun parts => ∀ part ∈ parts, holds part := by
  intro value parts found part member
  cases value with
  | list items =>
      obtain ⟨read, -, isPart⟩ := exists_mem_zip (mapM_ok_iff.mp found) member
      exact each read part isPart
  | _ => cases found

theorem mapSome (each : item.Yields holds) :
    Decoder.Yields (some <$> item ·) fun part => ∀ value, part = some value → holds value := by
  rintro value _ found result rfl
  obtain ⟨read, isRead, same⟩ := map_ok_iff.mp found
  obtain rfl := Option.some.inj same
  exact each value read isRead

theorem optional (each : item.Yields holds) {part : Option α}
    (found : fields.optional name item = .ok part) : ∀ value, part = some value → holds value := by
  rintro result rfl
  unfold Fields.optional at found
  cases named : fields.named? name with
  | none =>
      rw [named] at found
      cases found
  | some value =>
      rw [named] at found
      cases value with
      | null => cases found
      | _ => exact each.mapSome _ _ found result rfl

theorem required (each : item.Yields holds) {part : α}
    (found : fields.required name item = .ok part) : holds part := by
  unfold Fields.required at found
  cases named : fields.named? name with
  | none =>
      rw [named] at found
      cases found
  | some value =>
      rw [named] at found
      exact each value part found

theorem orElse (each : item.Yields holds) {otherwise part : α} (absent : holds otherwise)
    (found : fields.orElse name item otherwise = .ok part) : holds part := by
  unfold Fields.orElse at found
  cases named : fields.named? name with
  | none =>
      rw [named] at found
      cases found
      exact absent
  | some value =>
      rw [named] at found
      exact each value part found

end Decoder.Yields

theorem Value.exists_fields_of_asRecord {names : List String} {read : Fields → Except DecodeError α}
    {value : Value} {record : α} (found : asRecord names read value = .ok record) :
    ∃ fields, read fields = .ok record := by
  cases value with
  | object fields => exact ⟨fields, found⟩
  | list values =>
      obtain ⟨part, isRead, kept⟩ := bind_ok_iff.mp found
      refine ⟨_, isRead.trans ?_⟩
      split at kept
      · exact kept
      · cases kept
  | _ => cases found

theorem Value.asNat_yields : asNat.Yields (· < UInt64.size) := by
  intro value n found
  cases value with
  | integer number =>
      simp only [asNat, Bool.and_eq_true, decide_eq_true_eq] at found
      split at found
      next inRange =>
        cases found
        exact inRange.2
      next => cases found
  | _ => cases found

theorem FacetRequest.decode_yields : decode.Yields FacetRequest.Fits := by
  intro value facet found
  obtain ⟨fields, read⟩ := Value.exists_fields_of_asRecord found
  simp only [bind_ok_iff] at read
  obtain ⟨_, -, _, -, maxTerms, count, _, -, same⟩ := read
  obtain rfl := Except.ok.inj same
  exact Value.asNat_yields.required count

theorem SuggestionRequest.decode_yields : decode.Yields SuggestionRequest.Fits := by
  intro value request found
  obtain ⟨fields, read⟩ := Value.exists_fields_of_asRecord found
  simp only [bind_ok_iff] at read
  obtain ⟨count, isCount, _, -, _, -, same⟩ := read
  obtain rfl := Except.ok.inj same
  exact Value.asNat_yields.required isCount

theorem QueryOptions.decode_yields : decode.Yields QueryOptions.Fits := by
  intro value options found
  obtain ⟨fields, read⟩ := Value.exists_fields_of_asRecord found
  simp only [bind_ok_iff] at read
  obtain ⟨start, isStart, stop, isStop, _, -, suggestions, isRequest, _, -, _, -, _, -, _, -,
    same⟩ := read
  obtain rfl := Except.ok.inj same
  exact ⟨Value.asNat_yields.optional isStart, Value.asNat_yields.optional isStop,
    SuggestionRequest.decode_yields.optional isRequest⟩

theorem Bundle.decode_yields (read : Decoder Q) : (decode read).Yields Bundle.Fits := by
  intro value bundle found
  obtain ⟨fields, isRead⟩ := Value.exists_fields_of_asRecord found
  simp only [bind_ok_iff] at isRead
  obtain ⟨_, -, _, -, _, -, facets, areFacets, _, -, _, -, same⟩ := isRead
  obtain rfl := Except.ok.inj same
  exact FacetRequest.decode_yields.list.orElse (by simp) areFacets

end FederatedSearch

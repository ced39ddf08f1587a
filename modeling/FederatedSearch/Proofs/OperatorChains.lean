import FederatedSearch.Proofs.Admission
import FederatedSearch.Proofs.ParsedQueries

/-! Chains of operands in parentheses with operators between them. All operators have one
precedence: a chain is read, and evaluated, from left to right. -/

namespace FederatedSearch

theorem Expression.allOf_eq_some {queries : List Expression}
    (someOperand : queries.flatMap conjuncts ≠ []) :
    allOf queries = some (conjunction queries) := by
  unfold conjunction allOf
  match listed : queries.flatMap conjuncts with
  | [] => exact absurd listed someOperand
  | [_] => rfl
  | _ :: _ :: _ => rfl

theorem Expression.anyOf_eq_some {queries : List Expression}
    (someOperand : queries.flatMap disjuncts ≠ []) :
    anyOf queries = some (disjunction queries) := by
  unfold disjunction anyOf
  match listed : queries.flatMap disjuncts with
  | [] => exact absurd listed someOperand
  | [_] => rfl
  | _ :: _ :: _ => rfl

namespace Connective

def name : Connective → String
  | .and => "and"
  | .or => "or"
  | .not => "not"

theorem ofWord?_of_name {word : String} {connective : Connective}
    (spelled : asciiLowerCase word = connective.name) : ofWord? word = some connective := by
  unfold ofWord?
  rw [spelled]
  cases connective <;> decide

def combine? (connective : Connective) (left right : Expression) : Option Expression :=
  match connective with
  | .and => Expression.allOf [left, right]
  | .or => Expression.anyOf [left, right]
  | .not => Expression.allOf [left, .not right]

def nest (connective : Connective) (left right : Expression) : Expression :=
  match connective with
  | .and => .all [left, right]
  | .or => .any [left, right]
  | .not => .all [left, .not right]

def holds (connective : Connective) (left right : Bool) : Bool :=
  match connective with
  | .and => left && right
  | .or => left || right
  | .not => left && !right

variable (connective : Connective) {left right : Expression}

theorem combine?_eq (ofLeft : left.IsCanonical) :
    connective.combine? left right = some (connective.join left right) := by
  have ofAll (other : Expression) : Expression.allOf [left, other] = some (left.both other) := by
    obtain ⟨first, others, listed, _⟩ := ofLeft.conjuncts
    exact Expression.allOf_eq_some (by simp [listed])
  have ofAny : Expression.anyOf [left, right] = some (left.either right) := by
    exact Expression.anyOf_eq_some (by simp [ofLeft.disjuncts.1])
  cases connective with
  | and => exact ofAll right
  | or => exact ofAny
  | not => exact ofAll (.not right)

/-- Taking in the operands of an operand changes nothing. -/
theorem matchedBy_join (document : Document) :
    (connective.join left right).matchedBy document =
      (connective.nest left right).matchedBy document := by
  cases connective with
  | and => exact Expression.matchedBy_conjunction document [left, right]
  | or => exact Expression.matchedBy_disjunction document [left, right]
  | not => exact Expression.matchedBy_conjunction document [left, .not right]

theorem matchedBy_nest_congr {document : Document} {other : Expression}
    (same : left.matchedBy document = other.matchedBy document) :
    (connective.nest left right).matchedBy document =
      (connective.nest other right).matchedBy document := by
  cases connective <;>
    simp only [nest, Expression.matchedBy, Expression.allMatchedBy, Expression.anyMatchedBy, same]

theorem matchedBy_nest {document : Document} {first second : Bool}
    (ofLeft : left.matchedBy document = .ok first)
    (ofRight : right.matchedBy document = .ok second) :
    (connective.nest left right).matchedBy document = .ok (connective.holds first second) := by
  cases connective <;> cases first <;> cases second <;>
    simp [nest, holds, Expression.matchedBy, Expression.allMatchedBy, Expression.anyMatchedBy,
      ofLeft, ofRight, Except.map]

end Connective

structure ChainLink where
  word : String
  connective : Connective
  spelled : asciiLowerCase word = connective.name
  text : String
  value : Expression
  parsed : parse text = .ok value

namespace ChainLink

def linksText : List ChainLink → String
  | [] => ""
  | link :: links => " " ++ link.word ++ " (" ++ link.text ++ ")" ++ linksText links

def chainText (first : String) (links : List ChainLink) : String :=
  "(" ++ first ++ ")" ++ linksText links

def joinAll (left : Expression) (links : List ChainLink) : Expression :=
  links.foldl (fun left link => link.connective.join left link.value) left

def nestAll (left : Expression) (links : List ChainLink) : Expression :=
  links.foldl (fun left link => link.connective.nest left link.value) left

theorem isTail_links (links : List ChainLink) :
    IsTail (linksText links).toList (joinAll · links) := by
  induction links with
  | nil => exact isTail_nil
  | cons link links ih =>
      have named := Connective.ofWord?_of_name link.spelled
      have operand : IsOperand ('(' :: link.text.toList ++ [')']) link.value :=
        isOperand_group (by rw [String.ofList_toList, link.parsed])
      have written : (linksText (link :: links)).toList = ' ' :: (link.word.toList ++
          ' ' :: ('(' :: link.text.toList ++ [')'] ++ (linksText links).toList)) := by
        simp [linksText]
      rw [written]
      exact isTail_cons named operand ih

theorem parse_chainText {first : String} {value : Expression} (parsed : parse first = .ok value)
    (links : List ChainLink) : parse (chainText first links) = .ok (joinAll value links) := by
  have operand : IsOperand ('(' :: first.toList ++ [')']) value :=
    isOperand_group (by rw [String.ofList_toList, parsed])
  have whole := parse_of_parts operand (isTail_links links)
  have written : chainText first links =
      String.ofList ('(' :: first.toList ++ [')'] ++ (linksText links).toList) := by
    rw [← String.toList_inj, String.toList_ofList]
    simp [chainText]
  rw [written]
  exact whole

theorem foldlM_combine? {left : Expression} (ofLeft : left.IsCanonical) (links : List ChainLink) :
    links.foldlM (fun left link => link.connective.combine? left link.value) left =
      some (joinAll left links) := by
  induction links generalizing left with
  | nil => rfl
  | cons link links ih =>
      have canonical := ofLeft.join (isCanonical_of_parse link.parsed) link.connective
      rw [List.foldlM_cons, link.connective.combine?_eq ofLeft, Option.bind_eq_bind,
        Option.bind_some]
      exact ih canonical

variable {document : Document} {left other : Expression}

theorem matchedBy_nestAll (same : left.matchedBy document = other.matchedBy document)
    (links : List ChainLink) :
    (joinAll left links).matchedBy document = (nestAll other links).matchedBy document := by
  induction links generalizing left other with
  | nil => exact same
  | cons link links ih =>
      refine ih ?_
      rw [Connective.matchedBy_join]
      exact link.connective.matchedBy_nest_congr same

theorem matchedBy_joinAll {matched : Bool} (ofLeft : left.matchedBy document = .ok matched)
    {links : List ChainLink} (supported : ∀ link ∈ links, link.value.Supported) :
    (joinAll left links).matchedBy document =
      .ok (links.foldl (fun matched link =>
        link.connective.holds matched (link.value.accepts document)) matched) := by
  induction links generalizing left matched with
  | nil => exact ofLeft
  | cons link links ih =>
      obtain ⟨ofLink, ofLinks⟩ := List.forall_mem_cons.mp supported
      have ofRight := Expression.matchedBy_eq document link.value ofLink
      refine ih ?_ ofLinks
      rw [Connective.matchedBy_join, Connective.matchedBy_nest _ ofLeft ofRight]

end ChainLink

theorem Relation.isSome_ofText?_of_known {relation : String} (known : relation ∈ relationNames) :
    (Relation.ofText? relation).isSome = true := by
  revert relation
  decide

namespace Expression

theorem supported_of_isCanonical {query : Expression} (canonical : query.IsCanonical) :
    query.Supported := by
  intro leaf member
  cases isCanonical_of_mem_clauses canonical leaf member with
  | ofTerm term => rfl
  | @related index relation term known =>
      exact Relation.isSome_ofText?_of_known known

end Expression

/-- A chain of operands is read as the operands are read on their own, taken together from left to
right, and a document matches it if the outcomes for the operands, taken together from left to
right, say so. That nodes of a kind become one does not matter. -/
theorem parse_chain {first : String} {value : Expression} (parsed : parse first = .ok value)
    (links : List ChainLink) :
    ∃ tree, parse (ChainLink.chainText first links) = .ok tree ∧
      links.foldlM (fun left link => link.connective.combine? left link.value) value =
        some tree ∧
      ∀ document,
        (∀ operand ∈ value :: links.map (·.value),
          operand.matchedBy document = .ok (operand.accepts document)) ∧
        tree.matchedBy document = .ok (links.foldl (fun matched link =>
          link.connective.holds matched (link.value.accepts document)) (value.accepts document)) ∧
        tree.matchedBy document = (ChainLink.nestAll value links).matchedBy document := by
  have canonical := isCanonical_of_parse parsed
  have supported := Expression.supported_of_isCanonical canonical
  have ofLinks : ∀ link ∈ links, link.value.Supported := fun link _ =>
    Expression.supported_of_isCanonical (isCanonical_of_parse link.parsed)
  refine ⟨ChainLink.joinAll value links, ChainLink.parse_chainText parsed links,
    ChainLink.foldlM_combine? canonical links, fun document => ⟨?operands, ?outcome, ?nested⟩⟩
  case operands =>
      refine List.forall_mem_cons.mpr ⟨Expression.matchedBy_eq document value supported, ?_⟩
      rw [List.forall_mem_map]
      exact fun link member => Expression.matchedBy_eq document link.value (ofLinks link member)
  case outcome =>
      exact ChainLink.matchedBy_joinAll (Expression.matchedBy_eq document value supported) ofLinks
  case nested => exact ChainLink.matchedBy_nestAll rfl links

def mixedChain : List ChainLink :=
  [⟨"oR", .or, by decide, "c or d", .any [.ofTerm "c", .ofTerm "d"], by rfl⟩,
    ⟨"NOT", .not, by decide, "x=1 and y", .all [.clause (.related "x" "=" "1"), .ofTerm "y"],
      by rfl⟩,
    ⟨"and", .and, by decide, "e and f", .all [.ofTerm "e", .ofTerm "f"], by rfl⟩]

theorem parse_mixedChain :
    ChainLink.chainText "a and b" mixedChain =
      "(a and b) oR (c or d) NOT (x=1 and y) and (e and f)" ∧
    parse (ChainLink.chainText "a and b" mixedChain) = .ok (.all
      [.any [.all [.ofTerm "a", .ofTerm "b"], .ofTerm "c", .ofTerm "d"],
        .not (.all [.clause (.related "x" "=" "1"), .ofTerm "y"]), .ofTerm "e", .ofTerm "f"]) := by
  have parsed : parse "a and b" = .ok (.all [.ofTerm "a", .ofTerm "b"]) := by rfl
  obtain ⟨tree, isRead, folded, _⟩ := parse_chain parsed mixedChain
  have isTree := Option.some.inj (folded.symm.trans rfl)
  exact ⟨by decide +kernel, isRead.trans (congrArg Except.ok isTree)⟩

end FederatedSearch

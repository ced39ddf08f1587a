import FederatedSearch.Proofs.CanonicalQueries
import FederatedSearch.Proofs.OperandReading

/-! Every query that is read is canonical: so is whatever the reader holds on its way. -/

namespace FederatedSearch

def Pending.IsCanonical : Pending → Prop
  | .start => True
  | .joined left _ => left.IsCanonical

theorem Pending.isCanonical_close {pending : Pending} {query : Expression}
    (held : pending.IsCanonical) (canonical : query.IsCanonical) :
    (pending.close query).IsCanonical := by
  cases pending with
  | start => exact canonical
  | joined left connective => exact held.join canonical connective

namespace Position

def IsCanonical : Position → Prop
  | .operand pending outer => ∀ held ∈ pending :: outer, held.IsCanonical
  | .term _ pending outer => ∀ held ∈ pending :: outer, held.IsCanonical
  | .relation _ relating pending outer =>
    relating ∈ relationNames ∧ ∀ held ∈ pending :: outer, held.IsCanonical
  | .operator left outer => left.IsCanonical ∧ ∀ held ∈ outer, held.IsCanonical

variable {position after : Position} {token : Token} {next : Option Token}

theorem relation?_mem (read : token.IsRead) {relating : String}
    (related : relation? token next = some relating) : relating ∈ relationNames := by
  cases token with
  | relation marks =>
      obtain rfl := Option.some.inj related
      exact List.mem_append_left relationWords read
  | word word =>
      unfold relation? at related
      dsimp only at related
      split at related
      · unfold relationOfWord? at related
        dsimp only at related
        split at related
        next known =>
          obtain rfl := Option.some.inj related
          exact List.mem_append_right relationMarks (List.contains_iff_mem.mp known)
        next => cases related
      · cases related
  | quoted text => cases related
  | opening => cases related
  | closing => cases related

theorem isCanonical_step (canonical : position.IsCanonical) (read : token.IsRead)
    (stepped : Step token next position after) : after.IsCanonical := by
  induction stepped with
  | opening _ => exact List.forall_mem_cons.mpr ⟨trivial, canonical⟩
  | first _ => exact canonical
  | relation related => exact ⟨relation?_mem read related, canonical⟩
  | noRelation _ _ ih =>
      obtain ⟨ofPending, ofOuter⟩ := List.forall_mem_cons.mp canonical
      exact ih ⟨Pending.isCanonical_close ofPending (.clause (.ofTerm _)), ofOuter⟩
  | second _ =>
      obtain ⟨known, held⟩ := canonical
      obtain ⟨ofPending, ofOuter⟩ := List.forall_mem_cons.mp held
      exact ⟨Pending.isCanonical_close ofPending (.clause (.related known)), ofOuter⟩
  | connective _ _ => exact List.forall_mem_cons.mpr canonical
  | closing _ =>
      obtain ⟨ofLeft, held⟩ := canonical
      obtain ⟨ofPending, ofOuter⟩ := List.forall_mem_cons.mp held
      exact ⟨Pending.isCanonical_close ofPending ofLeft, ofOuter⟩

theorem isCanonical_readTokens {tokens : List Token} {query : Expression}
    (canonical : position.IsCanonical) (read : ∀ token ∈ tokens, token.IsRead)
    (found : position.readTokens tokens = .ok query) : query.IsCanonical := by
  induction tokens generalizing position with
  | nil =>
      rcases finish_ok found with rfl | ⟨first, pending, rfl, rfl⟩
      · exact canonical.1
      · have ofPending := canonical pending List.mem_cons_self
        exact Pending.isCanonical_close ofPending (.clause (.ofTerm first))
  | cons token tokens ih =>
      obtain ⟨ofToken, ofOthers⟩ := List.forall_mem_cons.mp read
      obtain ⟨after, stepped, readRest⟩ := readTokens_cons_ok found
      exact ih (isCanonical_step canonical ofToken stepped) ofOthers readRest

end Position

theorem isCanonical_of_parse {text : String} {query : Expression}
    (parsed : parse text = .ok query) : query.IsCanonical := by
  obtain ⟨tokens, found, _, read⟩ := parse_ok_iff.mp parsed
  have start : (Position.operand .start []).IsCanonical :=
    List.forall_mem_cons.mpr ⟨trivial, by simp⟩
  exact Position.isCanonical_readTokens start (isRead_of_tokens? found) read

end FederatedSearch

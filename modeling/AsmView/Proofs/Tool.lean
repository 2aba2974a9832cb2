/-
# What a tool's answer says

An answer is an object; its members can be looked up by their keys.  Every answer that is
given carries the revision of the board it was read from, or, for a request, of the board
with the request on it.  A call that only reads leaves the board alone, and whether it is
refused depends on its parameters and on nothing else.
-/
import AsmView.Tool
import AsmView.Proofs.Line

namespace AsmView

open Json

/-- The member of an object with a key. -/
def Json.Value.member? (key : String) : Value → Option Value
  | .object members => (members.find? (·.1 = key)).map (·.2)
  | _ => none

/-- The number that a value is. -/
def Json.Value.count? : Value → Option Nat
  | .count n => some n
  | _ => none

/-- A call that leaves no request. -/
def ToolCall.isRead : ToolCall → Bool
  | .seek _ => false
  | _ => true

namespace Tool

/-- The revision that an answer was read from. -/
def revision? : Except ToolFault Value → Option Nat
  | .ok v => ((v.member? "context").bind (·.member? "ui_rev")).bind Value.count?
  | .error _ => none

theorem ofAddress_injective {a b : Address} (h : ofAddress a = ofAddress b) : a = b := by
  have same : Address.parse a.text = Address.parse b.text := by rw [Value.text.inj h]
  rw [Address.parse_text, Address.parse_text] at same
  exact Except.ok.inj same

theorem revision?_answer {b : Board} {members : List (String × Value)}
    (named : ∀ m ∈ members, m.1 ≠ "context") :
    revision? (.ok (answer b members)) = some b.revision.toNat := by
  have others : members.find? (·.1 = "context") = none := by
    simpa [List.find?_eq_none] using named
  simp [revision?, answer, Value.member?, List.find?_append, others, Value.count?]

/-- A read leaves the board alone. -/
theorem call_of_isRead {c : ToolCall} (read : c.isRead = true) (b : Board) :
    (call b c).2 = b := by
  cases c with
  | seek _ => exact nomatch read
  | _ => rfl

/-- A read is refused for its parameters, whatever is on the board, or its answer carries
the revision of the board. -/
theorem read_refused_or_revision {c : ToolCall} (read : c.isRead = true) :
    (∃ e, ∀ b, (call b c).1 = .error e) ∨
      ∀ b, ∃ v, (call b c).1 = .ok v ∧ revision? (.ok v) = some b.revision.toNat := by
  cases c with
  | seek _ => exact nomatch read
  | readView => exact .inr fun b => ⟨_, rfl, revision?_answer (by simp)⟩
  | readFocus => exact .inr fun b => ⟨_, rfl, revision?_answer (by simp)⟩
  | readPanels => exact .inr fun b => ⟨_, rfl, revision?_answer (by simp)⟩
  | listReferences direction? =>
      cases wanted : directions direction? with
      | error e => exact .inl ⟨e, fun b => by simp [call, listReferences, wanted, bind, Except.bind]⟩
      | ok ds =>
          refine .inr fun b => ?_
          let lists := (b.snapshot?.bind (·.panels.references?)).getD {}
          have answered : (call b (.listReferences direction?)).1 = .ok (answer b [
              ("xrefs", .list (ds.flatMap fun d => (lists.entries d).map (ofEntry d)))]) := by
            simp [call, listReferences, wanted, bind, Except.bind, lists]
          exact ⟨_, answered, revision?_answer (by simp)⟩

end Tool

end AsmView

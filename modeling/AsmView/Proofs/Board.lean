/-
# Turns with the board

The programs that call tools and the view that posts snapshots and takes up requests hold
the board one at a time, so all that they do to it is a list of turns.  `log` has what
comes of each, for the one whose turn it is.  `acted` says what one turn can come to, and
everything about a run is derived from that: an outcome that does not move the request
leaves it as it was, and one that does not change the board leaves all of it.
-/
import AsmView.Proofs.Tool

namespace AsmView.Board

open Json

/-- One turn with the board: a tool is called, or the view takes the request from it or
posts a snapshot. -/
inductive Action where
  | call (c : ToolCall)
  | take
  | post (s : Snapshot)
deriving DecidableEq, Repr

/-- What comes of a turn. -/
inductive Outcome where
  | answered (c : ToolCall) (result : Except ToolFault Value)
  | taken (target? : Option Address)
  | posted (changed : Bool)

namespace Outcome

/-- A request was left on the board, or taken from it. -/
def movesRequest : Outcome → Bool
  | .answered (.seek _) (.ok _) => true
  | .taken (some _) => true
  | _ => false

/-- Something on the board is new. -/
def changes : Outcome → Bool
  | .posted changed => changed
  | o => o.movesRequest

theorem not_moves_of_isRead {c : ToolCall} (read : c.isRead = true)
    (x : Except ToolFault Value) : ¬ (Outcome.answered c x).movesRequest = true := by
  cases c with
  | seek _ => exact nomatch read
  | _ => exact Bool.false_ne_true

end Outcome

/-- The board after a turn, and what comes of it. -/
def act (b : Board) : Action → Board × Outcome
  | .call c => ((Tool.call b c).2, .answered c (Tool.call b c).1)
  | .take => (b.takePending.1, .taken b.takePending.2)
  | .post s => ((b.post s).1, .posted (b.post s).2)

/-- The board after some turns. -/
def after (b : Board) (acts : List Action) : Board :=
  acts.foldl (fun b a => (b.act a).1) b

/-- What comes of each of some turns. -/
def log (b : Board) : List Action → List Outcome
  | [] => []
  | a :: acts => (b.act a).2 :: (b.act a).1.log acts

/-- The functions that are posted. -/
def functions (b : Board) : List KnownFunction :=
  (b.snapshot?.map (·.functions)).getD []

variable {b b' : Board} {o : Outcome} {acts : List Action}

/-! ## Runs and their logs -/

@[simp] theorem after_nil (b : Board) : b.after [] = b := rfl

@[simp] theorem after_cons (b : Board) (a : Action) (acts : List Action) :
    b.after (a :: acts) = (b.act a).1.after acts := rfl

theorem after_append (b : Board) (xs ys : List Action) :
    b.after (xs ++ ys) = (b.after xs).after ys := List.foldl_append

@[simp] theorem log_length (b : Board) (acts : List Action) :
    (b.log acts).length = acts.length := by
  induction acts generalizing b with
  | nil => rfl
  | cons a acts ih => rw [log, List.length_cons, ih, List.length_cons]

theorem log_append (b : Board) (xs ys : List Action) :
    b.log (xs ++ ys) = b.log xs ++ (b.after xs).log ys := by
  induction xs generalizing b with
  | nil => rfl
  | cons a xs ih => rw [List.cons_append, log, ih, log, List.cons_append, after_cons]

theorem log_take (b : Board) (acts : List Action) (n : Nat) :
    (b.log acts).take n = b.log (acts.take n) := by
  induction acts generalizing b n with
  | nil => rw [log, List.take_nil, List.take_nil, log]
  | cons a acts ih =>
      cases n with
      | zero => rfl
      | succ n => rw [log, List.take_succ_cons, ih, List.take_succ_cons, log]

/-- The outcome at a position is that of the turn there, on the board that the turns
before it leave. -/
theorem log_getElem? (b : Board) (acts : List Action) (n : Nat) :
    (b.log acts)[n]? = acts[n]?.map fun a => ((b.after (acts.take n)).act a).2 := by
  induction acts generalizing b n with
  | nil => rfl
  | cons a acts ih =>
      cases n with
      | zero => rfl
      | succ n => rw [log, List.getElem?_cons_succ, ih, List.getElem?_cons_succ,
          List.take_succ_cons, after_cons]

theorem after_take_succ {a : Action} {n : Nat} (there : acts[n]? = some a) (b : Board) :
    b.after (acts.take (n + 1)) = ((b.after (acts.take n)).act a).1 := by
  rw [List.take_add_one, there, after_append]
  rfl

/-! ## What a turn comes to -/

/-- An outcome of a turn, and the board after it. -/
inductive Acted (b : Board) : Outcome → Board → Prop
  | read {c : ToolCall} : c.isRead = true → Acted b (.answered c (Tool.call b c).1) b
  | refused {q : String} : Destination.resolve? q b.functions = none →
      Acted b (.answered (.seek q) (.error (.unresolvedTarget q))) b
  | requested {q : String} {d : Destination} {v : Value} :
      Destination.resolve? q b.functions = some d →
      v.member? "address" = some (Tool.ofAddress d.place) →
      v.member? "replaced" = some (.orNull Tool.ofAddress b.pending?) →
      Tool.revision? (.ok v) = some (b.request d.place).1.revision.toNat →
      Acted b (.answered (.seek q) (.ok v)) (b.request d.place).1
  | nothingToTake : b.pending? = none → Acted b (.taken none) b
  | took {t : Address} : b.pending? = some t →
      Acted b (.taken (some t)) { b with pending? := none }.touch
  | known {s : Snapshot} : b.snapshot? = some s → Acted b (.posted false) b
  | posted {s : Snapshot} : b.snapshot? ≠ some s →
      Acted b (.posted true) { b with snapshot? := some s }.touch

theorem act_seek_unresolved {q : String} (unknown : Destination.resolve? q b.functions = none) :
    b.act (.call (.seek q)) = (b, .answered (.seek q) (.error (.unresolvedTarget q))) := by
  have refused : Tool.call b (.seek q) = (.error (.unresolvedTarget q), b) := by
    simp [Tool.call, Tool.seek, show Destination.resolve? q
      ((b.snapshot?.map (·.functions)).getD []) = none from unknown]
  rw [act, refused]

theorem act_seek_resolved {q : String} {d : Destination}
    (found : Destination.resolve? q b.functions = some d) :
    ∃ v : Value, b.act (.call (.seek q)) =
        ((b.request d.place).1, .answered (.seek q) (.ok v)) ∧
      v.member? "address" = some (Tool.ofAddress d.place) ∧
      v.member? "replaced" = some (.orNull Tool.ofAddress b.pending?) ∧
      Tool.revision? (.ok v) = some (b.request d.place).1.revision.toNat := by
  have requested : Tool.call b (.seek q) =
      (.ok (Tool.answer (b.request d.place).1 [
        ("address", Tool.ofAddress d.place),
        ("function", .orNull .text d.functionName?),
        ("replaced", .orNull Tool.ofAddress b.pending?)]), (b.request d.place).1) := by
    simp [Tool.call, Tool.seek, request, show Destination.resolve? q
      ((b.snapshot?.map (·.functions)).getD []) = some d from found]
  rw [act, requested]
  exact ⟨_, rfl, rfl, rfl, Tool.revision?_answer (by simp)⟩

theorem acted_seek (b : Board) (q : String) :
    Acted b (b.act (.call (.seek q))).2 (b.act (.call (.seek q))).1 := by
  cases found : Destination.resolve? q b.functions with
  | none =>
      rw [act_seek_unresolved found]
      exact .refused found
  | some d =>
      obtain ⟨v, turn, asks, names, carries⟩ := act_seek_resolved found
      rw [turn]
      exact .requested found asks names carries

theorem acted (b : Board) (a : Action) : Acted b (b.act a).2 (b.act a).1 := by
  cases a with
  | call c =>
      by_cases read : c.isRead = true
      · rw [act, Tool.call_of_isRead read]
        exact .read read
      · cases c with
        | seek q => exact acted_seek b q
        | _ => exact absurd rfl read
  | take =>
      rw [act, takePending]
      cases waiting : b.pending? with
      | none => exact .nothingToTake waiting
      | some t => exact .took waiting
  | post s =>
      rw [act, post]
      by_cases same : b.snapshot? = some s
      · rw [if_pos same]
        exact .known same
      · rw [if_neg same]
        exact .posted same

theorem acted_at {n : Nat} (there : (b.log acts)[n]? = some o) :
    Acted (b.after (acts.take n)) o (b.after (acts.take (n + 1))) := by
  rw [log_getElem?, Option.map_eq_some_iff] at there
  obtain ⟨a, there, rfl⟩ := there
  rw [after_take_succ there]
  exact acted _ a

namespace Acted

/-- An outcome that does not move the request leaves it as it was. -/
theorem pending?_eq (h : Acted b o b') (still : o.movesRequest = false) :
    b'.pending? = b.pending? := by
  cases h with
  | requested => exact nomatch still
  | took => exact nomatch still
  | _ => rfl

/-- An outcome that changes nothing leaves the board as it was. -/
theorem eq_of_not_changes (h : Acted b o b') (same : o.changes = false) : b' = b := by
  cases h with
  | requested => exact nomatch same
  | took => exact nomatch same
  | posted => exact nomatch same
  | _ => rfl

/-- The revision counts the changes. -/
theorem revision_of_changes (h : Acted b o b') (new : o.changes = true) :
    b'.revision = b.revision + 1 := by
  cases h with
  | requested => rfl
  | took => rfl
  | posted => rfl
  | read read => exact absurd new (Outcome.not_moves_of_isRead read _)
  | _ => exact nomatch new

end Acted

end AsmView.Board

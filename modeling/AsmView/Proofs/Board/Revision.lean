/-
# The revision tells what was read

The revision counts the changes of the board.  Two reads that carry one revision have no
change between them, so they were made on one board, and a tool that only reads answers
from the board and its parameters alone.  The count goes round at 2⁶⁴; a run that stays
below shows every revision once.
-/
import Mathlib.Tactic.WLOG
import AsmView.Proofs.Board

namespace AsmView.Board

open Json

variable {b b' : Board} {o : Outcome} {acts : List Action}

/-- The board after some turns has been changed as often as the log says. -/
theorem revision_after (b : Board) (acts : List Action) :
    (b.after acts).revision = b.revision + UInt64.ofNat ((b.log acts).countP Outcome.changes) := by
  induction acts generalizing b with
  | nil => exact (UInt64.add_zero _).symm
  | cons a acts ih =>
      rw [after_cons, ih, log, List.countP_cons]
      by_cases new : (b.act a).2.changes = true
      · rw [(acted b a).revision_of_changes new, if_pos new, UInt64.ofNat_add,
          UInt64.add_assoc, UInt64.add_comm 1]
        rfl
      · rw [(acted b a).eq_of_not_changes (Bool.eq_false_iff.mpr new), if_neg new, Nat.add_zero]

/-- Turns of which none changes the board leave it as it was. -/
theorem after_eq_of_countP (unchanged : (b.log acts).countP Outcome.changes = 0) :
    b.after acts = b := by
  induction acts generalizing b with
  | nil => rfl
  | cons a acts ih =>
      rw [log, List.countP_cons] at unchanged
      have first : (b.act a).2.changes = false := by
        by_contra new
        rw [if_pos (Bool.not_eq_false _ ▸ new)] at unchanged
        omega
      have same : (b.act a).1 = b := (acted b a).eq_of_not_changes first
      rw [after_cons, ih (by omega), same]

/-- How often the board has changed in the first turns of a run. -/
def changesBefore (b : Board) (acts : List Action) (n : Nat) : Nat :=
  ((b.log acts).take n).countP Outcome.changes

theorem changesBefore_mono (b : Board) (acts : List Action) {n m : Nat} (le : n ≤ m) :
    b.changesBefore acts n ≤ b.changesBefore acts m :=
  (List.take_prefix_take_left le).sublist.countP_le

/-- Between two places of a run with as many changes behind them, nothing changes. -/
theorem after_take_eq {n m : Nat} (same : b.changesBefore acts n = b.changesBefore acts m) :
    b.after (acts.take n) = b.after (acts.take m) := by
  wlog le : n ≤ m generalizing n m
  · exact (this same.symm (Nat.le_of_not_le le)).symm
  obtain ⟨k, rfl⟩ := Nat.exists_eq_add_of_le le
  rw [changesBefore, changesBefore, log_take, log_take, List.take_add, log_append,
    List.countP_append] at same
  have still : (b.after (acts.take n)).after ((acts.drop n).take k) = b.after (acts.take n) :=
    after_eq_of_countP (by omega)
  rw [List.take_add, after_append, still]

/-- Before the count goes round, the revision is the number of changes. -/
theorem revision_after_take {acts : List Action}
    (few : (({} : Board).log acts).countP Outcome.changes < UInt64.size) (n : Nat) :
    (({} : Board).after (acts.take n)).revision.toNat = ({} : Board).changesBefore acts n := by
  have bound : ({} : Board).changesBefore acts n < UInt64.size :=
    Nat.lt_of_le_of_lt (List.take_sublist n _).countP_le few
  rw [revision_after, ← log_take, show (({} : Board).revision = 0) from rfl, UInt64.zero_add]
  exact UInt64.toNat_ofNat_of_lt bound

/-- What a tool answers at a position of the log is what it answers on the board there. -/
theorem answered_at {n : Nat} {c : ToolCall} {x : Except ToolFault Value}
    (there : (b.log acts)[n]? = some (.answered c x)) :
    x = (Tool.call (b.after (acts.take n)) c).1 := by
  rw [log_getElem?, Option.map_eq_some_iff] at there
  obtain ⟨a, -, comes⟩ := there
  cases a with
  | call d =>
      obtain ⟨rfl, rfl⟩ := Outcome.answered.inj comes
      rfl
  | take => exact nomatch comes
  | post s => exact nomatch comes

/-- An answer carries the revision of the board that the turn leaves. -/
theorem Acted.revision?_eq {c : ToolCall} {v : Value} (h : Acted b (.answered c (.ok v)) b') :
    Tool.revision? (.ok v) = some b'.revision.toNat := by
  generalize is : Except.ok v = x at h
  cases h with
  | requested _ _ _ carries => exact carries
  | refused => exact nomatch is
  | read read =>
      rcases Tool.read_refused_or_revision read with ⟨e, refused⟩ | answered
      · rw [refused] at is
        exact nomatch is
      · obtain ⟨w, given, carries⟩ := answered b
        rw [given]
        exact carries

/-- The revision in an answer is the number of changes so far.  So two answers of one
reading tool, called alike, are the same when they carry the same revision, whatever lies
between them, and the revision of a later answer is never the smaller one. -/
theorem revision_identifies_answers (acts : List Action)
    (few : (({} : Board).log acts).countP Outcome.changes < UInt64.size) :
    let outcomes := ({} : Board).log acts
    (∀ (i : Nat) (c : ToolCall) (v : Value), outcomes[i]? = some (.answered c (.ok v)) →
      Tool.revision? (.ok v) = some (({} : Board).changesBefore acts (i + 1))) ∧
    (∀ (i j : Nat) (c : ToolCall) (x y : Except ToolFault Value), c.isRead = true →
      outcomes[i]? = some (.answered c x) → outcomes[j]? = some (.answered c y) →
      Tool.revision? x = Tool.revision? y → x = y) ∧
    (∀ (i j : Nat) (c d : ToolCall) (v w : Value) (r s : Nat), i ≤ j →
      outcomes[i]? = some (.answered c (.ok v)) → outcomes[j]? = some (.answered d (.ok w)) →
      Tool.revision? (.ok v) = some r → Tool.revision? (.ok w) = some s → r ≤ s) := by
  intro outcomes
  have counted : ∀ (i : Nat) (c : ToolCall) (v : Value),
      outcomes[i]? = some (.answered c (.ok v)) →
      Tool.revision? (.ok v) = some (({} : Board).changesBefore acts (i + 1)) := by
    intro i c v there
    rw [(acted_at there).revision?_eq, revision_after_take few]
  refine ⟨counted, ?_, ?_⟩
  · intro i j c x y read first second same
    obtain rfl := answered_at first
    obtain rfl := answered_at second
    rcases Tool.read_refused_or_revision read with ⟨e, refused⟩ | answered
    · rw [refused, refused]
    · obtain ⟨v, given, carries⟩ := answered (({} : Board).after (acts.take i))
      obtain ⟨w, given', carries'⟩ := answered (({} : Board).after (acts.take j))
      rw [given, given', carries, carries', revision_after_take few, revision_after_take few]
        at same
      rw [after_take_eq (Option.some.inj same)]
  · intro i j c d v w r s le first second hfirst hsecond
    rw [counted i c v first] at hfirst
    rw [counted j d w second] at hsecond
    obtain rfl := Option.some.inj hfirst
    obtain rfl := Option.some.inj hsecond
    exact changesBefore_mono _ acts (Nat.succ_le_succ le)

/-- The view is read, sent somewhere, and read twice more with a look at the focus in
between; then it sets out, and is read again. -/
def visited : List Action := [
  .call .readView, .call (.seek "0x10"), .call .readView, .call .readFocus, .call .readView,
  .take, .call .readView]

theorem revision_identifies_answers_visited :
    (({} : Board).log visited).countP Outcome.changes < UInt64.size ∧
    ∃ v w : Value,
      (({} : Board).log visited)[2]? = some (.answered .readView (.ok v)) ∧
      (({} : Board).log visited)[4]? = some (.answered .readView (.ok v)) ∧
      (({} : Board).log visited)[6]? = some (.answered .readView (.ok w)) ∧
      Tool.revision? (.ok v) = some 1 ∧ Tool.revision? (.ok w) = some 2 ∧ 1 ≤ 2 := by
  have two : (({} : Board).log visited).countP Outcome.changes = 2 := by rfl
  have few : (({} : Board).log visited).countP Outcome.changes < UInt64.size := by
    rw [two]
    decide
  obtain ⟨counted, same, grows⟩ := revision_identifies_answers visited few
  let v := Tool.readView (({} : Board).after (visited.take 2))
  let w := Tool.readView (({} : Board).after (visited.take 6))
  have there : (({} : Board).log visited)[2]? = some (.answered .readView (.ok v)) := rfl
  have again : (({} : Board).log visited)[4]? = some (.answered .readView (.ok v)) := by
    rw [same 2 4 .readView _ _ rfl there rfl rfl]
    rfl
  have last : (({} : Board).log visited)[6]? = some (.answered .readView (.ok w)) := rfl
  have one : Tool.revision? (.ok v) = some 1 := counted 2 .readView v there
  have two : Tool.revision? (.ok w) = some 2 := counted 6 .readView w last
  exact ⟨few, v, w, there, again, last, one, two,
    grows 4 6 .readView .readView v w 1 2 (by decide) again last one two⟩

end AsmView.Board

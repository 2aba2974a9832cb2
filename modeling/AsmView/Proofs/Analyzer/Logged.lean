/-
# A record of what an analyzer is asked

`Logged σ` is an analyzer that passes every question on to another one and writes down what
was asked and whether there was an answer.  Whatever is done over an analyzer can be done over
its logged one, so the questions that some work leads to can be read off afterwards; that the
record makes no difference to the work itself is shown for each kind of work in turn.
-/
import AsmView.Proofs.Analyzer

namespace AsmView

/-- A question that an analyzer was asked. -/
inductive Call where
  | disassemble (count : Nat)
  | reposition (address : Address)
  | functionNameAt (address : Address)
  | functionAt (address : Address)
  | decompile (name : String)
  | references (address : Address) (direction : Direction)
  | disassembleOne (address : Address)
  | jumpTarget (line : String)
  | offsetInfo (address : Address)
  | opcodeDescription (address : Address)
  | complexity (address : Address)
  | blockCount (address : Address)
  | exitCount (address : Address)
  | simplifiedGraph (name : String)
deriving DecidableEq, Repr

/-- What is written down of a question. -/
def Question.call {α : Type} : Question α → Call
  | .disassemble n => .disassemble n
  | .reposition a => .reposition a
  | .functionNameAt a => .functionNameAt a
  | .functionAt a => .functionAt a
  | .decompile name => .decompile name
  | .references a d => .references a d
  | .disassembleOne a => .disassembleOne a
  | .jumpTarget line => .jumpTarget line
  | .offsetInfo a => .offsetInfo a
  | .opcodeDescription a => .opcodeDescription a
  | .complexity a => .complexity a
  | .blockCount a => .blockCount a
  | .exitCount a => .exitCount a
  | .simplifiedGraph name => .simplifiedGraph name

namespace Call

/-- Questions about a whole function. -/
def isHeavy : Call → Bool
  | .functionAt _ => true
  | .references _ _ => true
  | .complexity _ => true
  | .blockCount _ => true
  | .exitCount _ => true
  | .decompile _ => true
  | .simplifiedGraph _ => true
  | .disassembleOne _ => true
  | _ => false

/-- The question where a line leads. -/
def isTransfer : Call → Bool
  | .jumpTarget _ => true
  | _ => false

/-- The question for the decompiled body of a function. -/
def isBody : Call → Bool
  | .decompile _ => true
  | _ => false

/-- The question for the graph of a function. -/
def isGraph : Call → Bool
  | .simplifiedGraph _ => true
  | _ => false

/-- Questions where a line is and whose. -/
def isTracking : Call → Bool
  | .reposition _ => true
  | .functionNameAt _ => true
  | _ => false

/-- The question for references. -/
def isReferences : Call → Bool
  | .references _ _ => true
  | _ => false

/-- Tracking a line asks nothing else. -/
theorem not_of_isTracking {c : Call} (h : c.isTracking = true) :
    c.isHeavy = false ∧ c.isTransfer = false ∧ c.isBody = false ∧ c.isGraph = false ∧
      c.isReferences = false := by
  cases c <;> simp_all [isTracking, isHeavy, isTransfer, isBody, isGraph, isReferences]

end Call

/-- No question for references is put again once it was answered. -/
def Unrepeated (calls : List (Call × Bool)) : Prop :=
  calls.Pairwise fun c later => c.1.isReferences = true → c.2 = true → later.1 ≠ c.1

/-- Questions that are not for references repeat none of them. -/
theorem Unrepeated.append {calls asked : List (Call × Bool)} (h : Unrepeated calls)
    (other : ∀ c ∈ asked, c.1.isReferences = false) : Unrepeated (calls ++ asked) := by
  refine List.pairwise_append.mpr ⟨h, ?_, ?_⟩
  · refine List.pairwise_of_forall_mem_list fun c hc later _ sort => ?_
    rw [other c hc] at sort
    exact nomatch sort
  · intro c _ later hlater sort _ same
    rw [← same, other later hlater] at sort
    exact nomatch sort

theorem mem_references_append {calls asked : List (Call × Bool)}
    (other : ∀ c ∈ asked, c.1.isReferences = false) {a : Address} {k : Direction} :
    (.references a k, true) ∈ calls ++ asked ↔ (.references a k, true) ∈ calls := by
  rw [List.mem_append]
  refine or_iff_left fun h => ?_
  exact absurd (other _ h) (by simp [Call.isReferences])

/-- An analyzer, what it was asked in this order, and which questions it answered. -/
structure Logged (σ : Type) where
  engine : σ
  calls : List (Call × Bool) := []

namespace Logged

variable {σ α : Type}

/-- How many questions of a sort are on record. -/
def count (p : Call → Bool) (r : Logged σ) : Nat :=
  r.calls.countP (p ·.1)

theorem count_eq_zero {p : Call → Bool} {r : Logged σ} :
    r.count p = 0 ↔ ∀ c ∈ r.calls, p c.1 = false := by
  simp [count]

variable [Analyzer σ]

/-- Passes a question on and writes it down. -/
def put (q : Question α) : Query (Logged σ) α := fun r =>
  let (answer, engine) := q.query.ask r.engine
  (answer, ⟨engine, r.calls ++ [(q.call, answer.isOk)]⟩)

instance : Analyzer (Logged σ) where
  disassemble n := put (.disassemble n)
  reposition a := put (.reposition a)
  functionNameAt a := put (.functionNameAt a)
  functionAt a := put (.functionAt a)
  decompile name := put (.decompile name)
  references a d := put (.references a d)
  disassembleOne a := put (.disassembleOne a)
  jumpTarget line := put (.jumpTarget line)
  offsetInfo a := put (.offsetInfo a)
  opcodeDescription a := put (.opcodeDescription a)
  complexity a := put (.complexity a)
  blockCount a := put (.blockCount a)
  exitCount a := put (.exitCount a)
  simplifiedGraph name := put (.simplifiedGraph name)
  start? r := Analyzer.start? r.engine
  functions r := Analyzer.functions r.engine

/-- A logged analyzer answers as the other one does, and has the question on record. -/
theorem ask_query (q : Question α) (r : Logged σ) :
    (q.query : Query (Logged σ) α).ask r =
      ((q.query.ask r.engine).1,
        ⟨(q.query.ask r.engine).2, r.calls ++ [(q.call, (q.query.ask r.engine).1.isOk)]⟩) := by
  cases q <;> rfl

end Logged

namespace Query

variable {σ α β : Type}

/-- A query over a logged analyzer does what the other one does over the analyzer, and all
that it adds to the record is of one sort. -/
def Mirrors (S : Call → Prop) (q' : Query (Logged σ) α) (q : Query σ α) : Prop :=
  ∀ r : Logged σ, ∃ asked, (∀ c ∈ asked, S c.1) ∧
    q'.ask r = ((q.ask r.engine).1, ⟨(q.ask r.engine).2, r.calls ++ asked⟩)

variable {S : Call → Prop}

theorem mirrors_query [Analyzer σ] (q : Question α) (h : S q.call) :
    Mirrors (σ := σ) S q.query q.query := by
  intro r
  refine ⟨[(q.call, (q.query.ask r.engine).1.isOk)], ?_, Logged.ask_query q r⟩
  rintro c (_ | _)
  · exact h
  · contradiction

theorem Mirrors.bind {q' : Query (Logged σ) α} {q : Query σ α}
    {f' : α → Query (Logged σ) β} {f : α → Query σ β} (hq : Mirrors S q' q)
    (hf : ∀ a, Mirrors S (f' a) (f a)) : Mirrors S (q' >>= f') (q >>= f) := by
  intro r
  obtain ⟨asked, sorted, same⟩ := hq r
  rw [ask_bind, ask_bind, same]
  cases q.ask r.engine with
  | mk answer engine =>
      cases answer with
      | error e => exact ⟨asked, sorted, rfl⟩
      | ok a =>
          obtain ⟨asked', sorted', same'⟩ := hf a ⟨engine, r.calls ++ asked⟩
          refine ⟨asked ++ asked', ?_, ?_⟩
          · intro c hc
            rcases List.mem_append.mp hc with first | later
            · exact sorted c first
            · exact sorted' c later
          · rw [← List.append_assoc]
            exact same'

end Query

end AsmView

/-
# What asking does to an analyzer

Nothing is known about what an analyzer answers, but the view reaches it through a
fixed set of questions.  `Question` has them as data, and `Asked s t` says that some
questions, put one after the other, lead from the state `s` to the state `t`.  A
program that only asks is `Plain`: whatever it computes, and whether or not it fails,
it leaves the analyzer in a state that questions lead to.
-/
import Mathlib.Logic.Relation
import AsmView.Analyzer

namespace AsmView

/-- The questions an analyzer takes, by the type of their answers. -/
inductive Question : Type → Type
  | disassemble (count : Nat) : Question String
  | reposition (address : Address) : Question Unit
  | functionNameAt (address : Address) : Question String
  | functionAt (address : Address) : Question (Option KnownFunction)
  | decompile (name : String) : Question String
  | references (address : Address) (direction : Direction) : Question (List Reference)
  | disassembleOne (address : Address) : Question String
  | jumpTarget (line : String) : Question (Option Address)
  | offsetInfo (address : Address) : Question String
  | opcodeDescription (address : Address) : Question String
  | complexity (address : Address) : Question UInt64
  | blockCount (address : Address) : Question UInt64
  | exitCount (address : Address) : Question UInt64
  | simplifiedGraph (name : String) : Question String

variable {σ : Type}

section Question

variable [Analyzer σ]

/-- The question, put to the analyzers of a type. -/
def Question.query {α : Type} : Question α → Query σ α
  | .disassemble n => Analyzer.disassemble n
  | .reposition a => Analyzer.reposition a
  | .functionNameAt a => Analyzer.functionNameAt a
  | .functionAt a => Analyzer.functionAt a
  | .decompile name => Analyzer.decompile name
  | .references a d => Analyzer.references a d
  | .disassembleOne a => Analyzer.disassembleOne a
  | .jumpTarget line => Analyzer.jumpTarget line
  | .offsetInfo a => Analyzer.offsetInfo a
  | .opcodeDescription a => Analyzer.opcodeDescription a
  | .complexity a => Analyzer.complexity a
  | .blockCount a => Analyzer.blockCount a
  | .exitCount a => Analyzer.exitCount a
  | .simplifiedGraph name => Analyzer.simplifiedGraph name

/-- One question leads from `s` to `t`. -/
inductive Analyzer.Asks : σ → σ → Prop
  | mk {α : Type} (q : Question α) (s : σ) : Asks s (q.query.ask s).2

/-- Questions put one after the other lead from one state to another. -/
abbrev Analyzer.Asked : σ → σ → Prop :=
  Relation.ReflTransGen Analyzer.Asks

end Question

/-! ## Programs that only ask -/

namespace Query

variable {α β : Type}

/-- The answer to the first question decides what is asked next; a fault ends the
asking. -/
theorem ask_bind (q : Query σ α) (f : α → Query σ β) (s : σ) :
    (q >>= f).ask s = match q.ask s with
      | (.ok a, t) => (f a).ask t
      | (.error e, t) => (.error e, t) := by
  simp only [ask, ExceptT.run_bind, StateT.run_bind]
  cases h : StateT.run (ExceptT.run q) s with
  | mk answer t =>
      cases answer with
      | ok a => rfl
      | error e => rfl

variable [Analyzer σ]

/-- The query does nothing to the analyzer but ask it. -/
def Plain (q : Query σ α) : Prop :=
  ∀ s, Analyzer.Asked s (q.ask s).2

theorem Plain.asked {q : Query σ α} (h : q.Plain) {s t : σ} {answer : Except EngineFault α}
    (ask : q.ask s = (answer, t)) : Analyzer.Asked s t := by
  have := h s
  rwa [ask] at this

theorem plain_query (q : Question α) : (q.query : Query σ α).Plain :=
  fun s => .single (.mk q s)

theorem plain_pure (a : α) : (pure a : Query σ α).Plain :=
  fun _ => .refl

theorem Plain.bind {q : Query σ α} {f : α → Query σ β} (hq : q.Plain)
    (hf : ∀ a, (f a).Plain) : (q >>= f).Plain := by
  intro s
  have first := hq s
  rw [ask_bind]
  cases h : q.ask s with
  | mk answer t =>
      rw [h] at first
      cases answer with
      | ok a => exact first.trans (hf a t)
      | error e => exact first

end Query

end AsmView

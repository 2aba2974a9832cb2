/-
# Handlers as programs

A handler of a panel asks the analyzer, looks into the cache it shares with the others,
and may fail.  Five kinds of facts about handlers are built up along their binds:
`Leaves R`, what the desk they leave has to do with the one they found; `Gives P`, what
holds of every value they answer with; `Meets P Q`, what an answer says about the cache
that is left; `Yields I J`, what they come to on any desk of a kind; and `Alike R`, that
two handlers started on related desks answer the same and leave related desks.
-/
import AsmView.Panel.Refill
import AsmView.Proofs.Analyzer

namespace AsmView

variable {σ α β : Type}

/-- A handler's answer on a desk, and the desk it leaves. -/
def Handler.on (h : Handler σ α) (d : Desk σ) : Except PanelFault α × Desk σ :=
  h.run.run d

namespace Handler

@[simp] theorem on_get (d : Desk σ) : (get : Handler σ (Desk σ)).on d = (.ok d, d) :=
  rfl

@[simp] theorem on_updateCache (f : FocusFacts → FocusFacts) (d : Desk σ) :
    (Refill.updateCache f : Handler σ Unit).on d = (.ok (), { d with cache := f d.cache }) :=
  rfl

/-- A question leaves the cache alone. -/
theorem on_ask (q : Query σ α) (d : Desk σ) :
    (Refill.ask q).on d =
      ((q.ask d.engine).1.mapError .engine, { d with engine := (q.ask d.engine).2 }) := by
  show (Refill.ask q : Handler σ α) d = _
  unfold Refill.ask
  cases q.ask d.engine with
  | mk answer engine => cases answer <;> rfl

theorem on_bind (g : Handler σ α) (f : α → Handler σ β) (d : Desk σ) :
    (g >>= f).on d = match g.on d with
      | (.ok a, d) => (f a).on d
      | (.error e, d) => (.error e, d) := by
  simp only [on, ExceptT.run_bind, StateT.run_bind]
  cases h : StateT.run (ExceptT.run g) d with
  | mk answer t => cases answer <;> rfl

/-- A question that is answered leaves the engine behind it on the desk. -/
theorem ask_eq_ok {q : Query σ α} {a : α} {d d' : Desk σ}
    (answer : (Refill.ask q).on d = (.ok a, d')) :
    ∃ engine, q.ask d.engine = (.ok a, engine) ∧ d' = { d with engine } := by
  rw [on_ask] at answer
  cases asked : q.ask d.engine with
  | mk given engine =>
      rw [asked] at answer
      cases given with
      | error f => exact nomatch (Prod.mk.inj answer).1
      | ok b =>
          obtain ⟨same, rfl⟩ := Prod.mk.inj answer
          obtain rfl : b = a := Except.ok.inj same
          exact ⟨engine, rfl, rfl⟩

/-- What answers in the end answered first. -/
theorem bind_eq_ok {g : Handler σ α} {f : α → Handler σ β} {b : β} {d d' : Desk σ}
    (answer : (g >>= f).on d = (.ok b, d')) :
    ∃ a t, g.on d = (.ok a, t) ∧ (f a).on t = (.ok b, d') := by
  rw [on_bind] at answer
  cases first : g.on d with
  | mk given t =>
      rw [first] at answer
      cases given with
      | error e => exact nomatch (Prod.mk.inj answer).1
      | ok a => exact ⟨a, t, rfl, answer⟩

/-! ## The desk a handler leaves -/

/-- The desk a handler leaves is related to the one it found. -/
def Leaves (R : Desk σ → Desk σ → Prop) (h : Handler σ α) : Prop :=
  ∀ d, R d (h.on d).2

section Leaves

variable {R : Desk σ → Desk σ → Prop}

theorem Leaves.pure (refl : ∀ d, R d d) (a : α) : Leaves R (pure a : Handler σ α) :=
  refl

theorem Leaves.bind (trans : ∀ {b c d}, R b c → R c d → R b d) {g : Handler σ α}
    {f : α → Handler σ β} (hg : Leaves R g) (hf : ∀ a, Leaves R (f a)) : Leaves R (g >>= f) := by
  intro d
  have first := hg d
  rw [on_bind]
  cases h : g.on d with
  | mk answer t =>
      rw [h] at first
      cases answer with
      | ok a => exact trans first (hf a t)
      | error e => exact first

end Leaves

/-! ## The values a handler answers with -/

/-- Whatever the handler answers with has the property. -/
def Gives (P : α → Prop) (h : Handler σ α) : Prop :=
  ∀ d a, (h.on d).1 = .ok a → P a

section Gives

theorem Gives.pure {P : α → Prop} {a : α} (h : P a) : Gives P (pure a : Handler σ α) := by
  rintro d b ⟨⟩
  exact h

theorem Gives.bind {P : β → Prop} {g : Handler σ α} {f : α → Handler σ β}
    (hf : ∀ a, Gives P (f a)) : Gives P (g >>= f) := by
  intro d b hb
  rw [on_bind] at hb
  cases h : g.on d with
  | mk answer t =>
      rw [h] at hb
      cases answer with
      | ok a => exact hf a t b hb
      | error e => exact nomatch hb

end Gives

/-! ## What an answer says about the cache -/

/-- From a cache with the first property the handler leaves one with it again, whether it
answers or fails; when it answers, the second property ties the answer to the cache. -/
def Meets (P : FocusFacts → Prop) (Q : α → FocusFacts → Prop) (h : Handler σ α) : Prop :=
  ∀ d, P d.cache → P (h.on d).2.cache ∧ ∀ a, (h.on d).1 = .ok a → Q a (h.on d).2.cache

section Meets

variable {P P' : FocusFacts → Prop} {Q : α → FocusFacts → Prop} {R : β → FocusFacts → Prop}

theorem Meets.pure {a : α} (h : ∀ c, P c → Q a c) : Meets P Q (pure a : Handler σ α) := by
  refine fun d hd => ⟨hd, ?_⟩
  rintro b ⟨⟩
  exact h _ hd

/-- What follows goes on from a cache that the answer of the first handler is tied to. -/
theorem Meets.bind {g : Handler σ α} {f : α → Handler σ β} (hg : Meets P Q g)
    (hf : ∀ a, Meets (fun c => P c ∧ Q a c) R (f a)) : Meets P R (g >>= f) := by
  intro d hd
  obtain ⟨left, tied⟩ := hg d hd
  rw [on_bind]
  cases h : g.on d with
  | mk answer t =>
      rw [h] at left tied
      cases answer with
      | ok a =>
          obtain ⟨⟨kept, -⟩, last⟩ := hf a t ⟨left, tied a rfl⟩
          exact ⟨kept, last⟩
      | error e => exact ⟨left, fun b hb => nomatch hb⟩

end Meets

/-! ## Handlers that come to one result -/

/-- On every desk with the first property the handler comes to the result, and it leaves a
desk with the second. -/
def Yields (I J : Desk σ → Prop) (h : Handler σ α) (r : Except PanelFault α) : Prop :=
  ∀ d, I d → (h.on d).1 = r ∧ J (h.on d).2

section Yields

variable {I J K : Desk σ → Prop}

theorem Yields.pure (a : α) : Yields I I (pure a : Handler σ α) (.ok a) :=
  fun _ h => ⟨rfl, h⟩

theorem Yields.mono {h : Handler σ α} {r : Except PanelFault α} (hr : Yields I J h r)
    (weaker : ∀ d, J d → K d) : Yields I K h r :=
  fun d hd => ⟨(hr d hd).1, weaker _ (hr d hd).2⟩

/-- What comes second goes on with the value of the first, if that has one. -/
theorem Yields.bind {g : Handler σ α} {f : α → Handler σ β} {r : Except PanelFault α}
    {k : α → Except PanelFault β} (hg : Yields I J g r)
    (hf : ∀ a, r = .ok a → Yields J J (f a) (k a)) : Yields I J (g >>= f) (r >>= k) := by
  intro d hd
  obtain ⟨same, left⟩ := hg d hd
  rw [on_bind]
  cases h : g.on d with
  | mk answer t =>
      rw [h] at same left
      subst same
      cases answer with
      | ok a => exact hf a rfl t left
      | error e => exact ⟨rfl, left⟩

/-- A handler that looks at the desk first. -/
theorem Yields.get_bind {f : Desk σ → Handler σ α} {r : Except PanelFault α}
    (h : ∀ d, I d → ((f d).on d).1 = r ∧ J ((f d).on d).2) : Yields I J (get >>= f) r := by
  intro d hd
  rw [on_bind, on_get]
  exact h d hd

end Yields

/-! ## Handlers that answer alike -/

/-- Started on related desks, the two handlers answer the same and leave related
desks. -/
def Alike (R : Desk σ → Desk σ → Prop) (g h : Handler σ α) : Prop :=
  ∀ ⦃c d⦄, R c d → (g.on c).1 = (h.on d).1 ∧ R (g.on c).2 (h.on d).2

section Alike

variable {R : Desk σ → Desk σ → Prop}

theorem Alike.pure (a : α) : Alike R (pure a : Handler σ α) (pure a) :=
  fun _ _ h => ⟨rfl, h⟩

theorem Alike.throw (f : PanelFault) : Alike R (throw f : Handler σ α) (throw f) :=
  fun _ _ h => ⟨rfl, h⟩

theorem Alike.bind {g g' : Handler σ α} {f f' : α → Handler σ β} (hg : Alike R g g')
    (hf : ∀ a, Alike R (f a) (f' a)) : Alike R (g >>= f) (g' >>= f') := by
  intro c d hR
  obtain ⟨same, left⟩ := hg hR
  rw [on_bind, on_bind]
  cases hc : g.on c with
  | mk answer c' =>
      cases hd : g'.on d with
      | mk answer' d' =>
          rw [hc, hd] at same left
          obtain rfl : answer = answer' := same
          cases answer with
          | ok a => exact hf a left
          | error e => exact ⟨rfl, left⟩

theorem Alike.page (r : Except TemplateFault α) :
    Alike R (Refill.page r : Handler σ α) (Refill.page r) := by
  cases r with
  | ok a => exact .pure a
  | error f => exact .throw (.template f)

/-- Two desks with the same property. -/
def Both (I : Desk σ → Prop) (c d : Desk σ) : Prop :=
  I c ∧ I d

/-- Handlers that come to the same result, whatever the desk. -/
theorem Yields.alike {I : Desk σ → Prop} {g h : Handler σ α} {r : Except PanelFault α}
    (hg : Yields I I g r) (hh : Yields I I h r) : Alike (Both I) g h := by
  rintro c d ⟨hc, hd⟩
  obtain ⟨first, left⟩ := hg c hc
  obtain ⟨second, left'⟩ := hh d hd
  exact ⟨first.trans second.symm, left, left'⟩

end Alike

end Handler

end AsmView

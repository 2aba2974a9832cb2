/-
# What updates do to the panels

An update concerns one panel: that panel holds the update's content afterwards, and the
others hold what they held and were written as often.  After several updates a panel holds
the content that all the updates of it agree on.
-/
import AsmView.Panel

namespace AsmView.Panels

theorem content?_fill (p : Panels) (c : Content) (k : Panel) :
    (p.fill c).content? k = if c.panel = k then some c else p.content? k := by
  cases c <;> cases k <;> rfl

theorem content?_clear (p : Panels) (j k : Panel) :
    (p.clear j).content? k = if j = k then none else p.content? k := by
  cases j <;> cases k <;> rfl

theorem content?_apply (p : Panels) (w : PanelUpdate) (k : Panel) :
    (p.apply w).1.content? k = if w.panel = k then w.content? else p.content? k := by
  cases w with
  | fill c =>
      show Panels.content? { p.fill c with .. } k = _
      exact content?_fill p c k
  | clear j => exact content?_clear p j k

@[simp] theorem applyAll_cons (p : Panels) (w : PanelUpdate) (ws : List PanelUpdate) :
    p.applyAll (w :: ws) = (p.apply w).1.applyAll ws :=
  rfl

theorem applyAll_append (p : Panels) (vs ws : List PanelUpdate) :
    p.applyAll (vs ++ ws) = (p.applyAll vs).applyAll ws :=
  List.foldl_append

/-- A panel that no update concerns keeps its content. -/
theorem content?_applyAll_of_forall_ne (p : Panels) {ws : List PanelUpdate} {k : Panel}
    (h : ∀ w ∈ ws, w.panel ≠ k) : (p.applyAll ws).content? k = p.content? k := by
  induction ws generalizing p with
  | nil => rfl
  | cons w ws ih =>
      rw [applyAll_cons, ih _ fun v hv => h v (List.mem_cons_of_mem w hv), content?_apply,
        if_neg (h w List.mem_cons_self)]

/-- A panel whose updates agree on a content holds it after them. -/
theorem content?_applyAll_of_forall (p : Panels) {ws : List PanelUpdate} {k : Panel}
    {content? : Option Content} (h : ∀ w ∈ ws, w.panel = k → w.content? = content?)
    (hupdate : ∃ w ∈ ws, w.panel = k) : (p.applyAll ws).content? k = content? := by
  induction ws generalizing p with
  | nil => exact nomatch hupdate
  | cons w ws ih =>
      have later : ∀ v ∈ ws, v.panel = k → v.content? = content? :=
        fun v hv => h v (List.mem_cons_of_mem w hv)
      rw [applyAll_cons]
      by_cases hws : ∃ v ∈ ws, v.panel = k
      · exact ih _ later hws
      · -- the last update of the panel is the first of the list
        obtain ⟨v, hv, hk⟩ := hupdate
        have hvw : v = w := (List.mem_cons.mp hv).resolve_right fun hv => hws ⟨v, hv, hk⟩
        rw [content?_applyAll_of_forall_ne _ fun v hv hk => hws ⟨v, hv, hk⟩, content?_apply,
          if_pos (hvw ▸ hk)]
        exact h w List.mem_cons_self (hvw ▸ hk)

/-! ## How often a panel was written -/

theorem writes_fill (p : Panels) (c : Content) : (p.fill c).writes = p.writes := by
  cases c <;> rfl

theorem writes_clear (p : Panels) (k : Panel) : (p.clear k).writes = p.writes := by
  cases k <;> rfl

theorem writes_apply (p : Panels) (w : PanelUpdate) :
    (p.apply w).1.writes = p.writes.modify w.panel.index (· + 1) := by
  cases w with
  | fill c => exact congrArg (·.modify c.panel.index (· + 1)) (writes_fill p c)
  | clear j => exact congrArg (·.modify j.index (· + 1)) (writes_clear p j)

/-- Panels have places of their own. -/
theorem index_injective {j k : Panel} (h : j.index = k.index) : j = k := by
  have hindex : ∀ i : Panel, Panel.ordered[i.index]? = some i := by
    intro i
    cases i <;> rfl
  have same := hindex j
  rw [h, hindex k] at same
  exact (Option.some.inj same).symm

theorem writeCount_apply_of_ne (p : Panels) {w : PanelUpdate} {k : Panel} (h : w.panel ≠ k) :
    (p.apply w).1.writeCount k = p.writeCount k := by
  have apart : w.panel.index ≠ k.index := fun same => h (index_injective same)
  simp only [writeCount, writes_apply, List.getD_eq_getElem?_getD,
    List.getElem?_modify_ne _ _ apart]

/-- A panel that no update concerns was written as often as before. -/
theorem writeCount_applyAll_of_forall_ne (p : Panels) {ws : List PanelUpdate} {k : Panel}
    (h : ∀ w ∈ ws, w.panel ≠ k) : (p.applyAll ws).writeCount k = p.writeCount k := by
  induction ws generalizing p with
  | nil => rfl
  | cons w ws ih =>
      rw [applyAll_cons, ih _ fun v hv => h v (List.mem_cons_of_mem w hv),
        writeCount_apply_of_ne p (h w List.mem_cons_self)]

end AsmView.Panels

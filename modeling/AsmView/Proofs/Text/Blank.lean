/-
# Runs of characters, and texts without the blanks around them

A text begins with a longest run of the characters of a class, and `Run` says what that is.
Trimming takes the blanks off both ends of a text and nothing else.  `Trimmed` says so without
the way it is done: only blanks stand around what is left, and it neither begins nor ends with
one.  There is just one such text, the trimmed one.
-/
import Mathlib.Data.List.TakeWhile
import AsmView.Text.Blank

namespace AsmView.Text

variable {p : Char → Bool} {cs t front run behind : List Char} {c : Char}

/-! ## Runs -/

/-- The longest run of characters of a class that a text begins with, and what is behind it. -/
structure Run (p : Char → Bool) (cs run behind : List Char) : Prop where
  text : cs = run ++ behind
  all : ∀ c ∈ run, p c = true
  stops : ∀ c, behind.head? = some c → p c = false

theorem run_takeWhile (p : Char → Bool) (cs : List Char) :
    Run p cs (cs.takeWhile p) (cs.dropWhile p) where
  text := List.takeWhile_append_dropWhile.symm
  all _ := List.mem_takeWhile_imp
  stops c first := by
    have stop := List.head?_dropWhile_not p cs
    rwa [first] at stop

theorem exists_run (p : Char → Bool) (cs : List Char) : ∃ run behind, Run p cs run behind :=
  ⟨_, _, run_takeWhile p cs⟩

theorem Run.takeWhile (h : Run p cs run behind) : cs.takeWhile p = run := by
  obtain ⟨rfl, all, stops⟩ := h
  have nothing : behind.takeWhile p = [] := by
    cases behind with
    | nil => rfl
    | cons c behind => exact List.takeWhile_cons_of_neg (by simp [stops c rfl])
  rw [List.takeWhile_append_of_pos all, nothing, List.append_nil]

theorem Run.dropWhile (h : Run p cs run behind) : cs.dropWhile p = behind := by
  have whole : run ++ cs.dropWhile p = run ++ behind := by
    rw [← h.text, ← h.takeWhile, List.takeWhile_append_dropWhile]
  exact List.append_cancel_left whole

/-! ## Trimming -/

theorem dropBlanks_eq_self (h : ∀ c, cs.head? = some c → isBlank c = false) :
    dropBlanks cs = cs := by
  cases cs with
  | nil => rfl
  | cons c cs => exact List.dropWhile_cons_of_neg (by simp [h c rfl])

theorem head?_dropBlanks (h : (dropBlanks cs).head? = some c) : isBlank c = false :=
  (run_takeWhile isBlank cs).stops c h

theorem dropBlanks_append (h : ∀ c ∈ front, isBlank c = true) (cs : List Char) :
    dropBlanks (front ++ cs) = dropBlanks cs :=
  List.dropWhile_append_of_pos h

theorem head?_dropBlanks_append (front cs : List Char) :
    (dropBlanks (front ++ cs)).head? = (dropBlanks front).head?.or (dropBlanks cs).head? := by
  induction front with
  | nil => rfl
  | cons c front ih =>
      rw [List.cons_append, dropBlanks, dropBlanks, List.dropWhile_cons, List.dropWhile_cons]
      split
      · exact ih
      · rfl

/-- Only blanks are taken off in front. -/
theorem exists_append_dropBlanks (cs : List Char) :
    ∃ front, cs = front ++ dropBlanks cs ∧ ∀ c ∈ front, isBlank c = true := by
  obtain ⟨text, all, -⟩ := run_takeWhile isBlank cs
  exact ⟨_, text, all⟩

/-- Only blanks are taken off at the end. -/
theorem exists_dropBlanksRight_append (cs : List Char) :
    ∃ back, cs = dropBlanksRight cs ++ back ∧ ∀ c ∈ back, isBlank c = true := by
  obtain ⟨back, whole, blank⟩ := exists_append_dropBlanks cs.reverse
  refine ⟨back.reverse, ?_, fun c hc => blank c (List.mem_reverse.mp hc)⟩
  rw [dropBlanksRight, ← List.reverse_append, ← whole, List.reverse_reverse]

/-- The text between the blanks at either end of another. -/
structure Trimmed (cs t : List Char) : Prop where
  around : ∃ front back, cs = front ++ t ++ back ∧
    (∀ c ∈ front, isBlank c = true) ∧ ∀ c ∈ back, isBlank c = true
  first : ∀ c, t.head? = some c → isBlank c = false
  last : ∀ c, t.getLast? = some c → isBlank c = false

theorem trimmed_trimBlanks (cs : List Char) : Trimmed cs (trimBlanks cs) := by
  obtain ⟨front, whole, blank⟩ := exists_append_dropBlanks cs
  obtain ⟨back, cut, blank'⟩ := exists_dropBlanksRight_append (dropBlanks cs)
  rw [← trimBlanks] at cut
  refine ⟨⟨front, back, ?_, blank, blank'⟩, ?_, ?_⟩
  · rw [List.append_assoc, ← cut, ← whole]
  · intro c first
    have first : (dropBlanks cs).head? = some c := by
      rw [cut, List.head?_append, first]
      rfl
    exact head?_dropBlanks first
  · intro c last
    rw [trimBlanks, dropBlanksRight, List.getLast?_reverse] at last
    exact head?_dropBlanks last

/-- There is just one text between the blanks. -/
theorem Trimmed.eq (h : Trimmed cs t) : trimBlanks cs = t := by
  obtain ⟨front, back, rfl, blank, blank'⟩ := h.around
  rw [trimBlanks, List.append_assoc, dropBlanks_append blank]
  cases t with
  | nil =>
      rw [List.nil_append, dropBlanks, List.dropWhile_eq_nil_iff.mpr blank']
      rfl
  | cons d t =>
      have kept : dropBlanks (d :: t ++ back) = d :: t ++ back :=
        dropBlanks_eq_self fun c first => h.first c first
      have kept' : dropBlanks (d :: t).reverse = (d :: t).reverse := by
        refine dropBlanks_eq_self fun c last => h.last c ?_
        rwa [List.head?_reverse] at last
      rw [kept, dropBlanksRight, List.reverse_append,
        dropBlanks_append fun c hc => blank' c (List.mem_reverse.mp hc), kept',
        List.reverse_reverse]

/-- A text that neither begins nor ends with a blank has nothing to trim. -/
theorem trimBlanks_eq_self (first : ∀ c, cs.head? = some c → isBlank c = false)
    (last : ∀ c, cs.getLast? = some c → isBlank c = false) : trimBlanks cs = cs :=
  Trimmed.eq ⟨⟨[], [], by simp⟩, first, last⟩

theorem trimBlanks_trimBlanks (cs : List Char) : trimBlanks (trimBlanks cs) = trimBlanks cs :=
  trimBlanks_eq_self (trimmed_trimBlanks cs).first (trimmed_trimBlanks cs).last

theorem trimBlanks_of_forall (h : ∀ c ∈ cs, isBlank c = false) : trimBlanks cs = cs :=
  trimBlanks_eq_self (fun c first => h c (List.mem_of_head? first))
    fun c last => h c (List.mem_of_getLast? last)

theorem infix_trimBlanks (cs : List Char) : trimBlanks cs <:+: cs := by
  obtain ⟨front, back, whole, -⟩ := (trimmed_trimBlanks cs).around
  exact ⟨front, back, whole.symm⟩

/-- What stands in a text besides blanks is left when it is trimmed. -/
theorem mem_trimBlanks (h : c ∈ cs) (visible : isBlank c = false) : c ∈ trimBlanks cs := by
  obtain ⟨front, back, whole, blank, blank'⟩ := (trimmed_trimBlanks cs).around
  rw [whole, List.mem_append, List.mem_append] at h
  rcases h with (hfront | inside) | behind
  · rw [blank c hfront] at visible
    cases visible
  · exact inside
  · rw [blank' c behind] at visible
    cases visible

/-- The blanks behind a word are taken off. -/
theorem trimBlanks_word {word gap : List Char} (visible : ∀ c ∈ word, isBlank c = false)
    (blank : ∀ c ∈ gap, isBlank c = true) : trimBlanks (word ++ gap) = word :=
  Trimmed.eq
    { around := ⟨[], gap, rfl, nofun, blank⟩
      first := fun c first => visible c (List.mem_of_head? first)
      last := fun c last => visible c (List.mem_of_getLast? last) }

theorem toList_trim (s : String) : (trim s).toList = trimBlanks s.toList :=
  String.toList_ofList

end AsmView.Text

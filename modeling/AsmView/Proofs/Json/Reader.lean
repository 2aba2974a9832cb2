/-
# What is written is read back

`Decodes r v a` says that a reader finds `a` in a written value, at whatever depth the value
stands, whatever blanks stand before it, and whatever may follow a value.  It is shown for
the readers of strings and counts, and passes from the reader of an element to that of a
list.  An object is read member by member into a draft; `Fills` follows the drafts from one
member to the next, and an object is decoded when its members fill a draft that can be
finished.
-/
import AsmView.Proofs.Json.Scalar

namespace AsmView.Json

open Text Reader

variable {α β δ : Type}

/-- Nothing but blanks between tokens. -/
def Blank (cs : List Char) : Prop :=
  ∀ c ∈ cs, isSpace c = true

theorem blank_nil : Blank [] :=
  nofun

theorem blank_lineBreak (level : Nat) : Blank (lineBreak level) := by
  intro c hc
  rcases List.mem_cons.mp hc with rfl | indent
  · rfl
  · rw [List.eq_of_mem_replicate indent]
    rfl

theorem not_isSpace_of_digit {c : Char} (h : isDecimalDigit c = true) : isSpace c = false := by
  simp [isSpace, digit_ne h (d := ' ') rfl, digit_ne h (d := '\n') rfl,
    digit_ne h (d := '\t') rfl, digit_ne h (d := '\r') rfl]

namespace Reader

/-- The reader takes a value from the front of a text and leaves the rest. -/
def Takes (r : Reader α) (cs rest : List Char) (a : α) : Prop :=
  StateT.run r cs = .ok (a, rest)

section Takes

variable {cs mid rest blanks : List Char} {c : Char} {r : Reader α} {a : α}

theorem Takes.pure (a : α) (cs : List Char) : Takes (pure a) cs cs a :=
  rfl

theorem Takes.bind {f : α → Reader β} {b : β} (first : Takes r cs mid a)
    (second : Takes (f a) mid rest b) : Takes (r >>= f) cs rest b := by
  unfold Takes at first
  rw [Takes, StateT.run_bind, first]
  exact second

theorem takes_get (cs : List Char) : Takes get cs cs cs :=
  rfl

theorem takes_advance (c : Char) (cs : List Char) : Takes advance (c :: cs) cs () :=
  rfl

/-- Blanks are passed over to the character behind them. -/
theorem takes_peek (blank : Blank blanks) (hc : isSpace c = false) (cs : List Char) :
    Takes peek (blanks ++ c :: cs) (c :: cs) (some c) := by
  have left : (blanks ++ c :: cs).dropWhile isSpace = c :: cs := by
    rw [List.dropWhile_append_of_pos blank, List.dropWhile_cons_of_neg (by simp [hc])]
  show Except.ok (((blanks ++ c :: cs).dropWhile isSpace).head?,
    (blanks ++ c :: cs).dropWhile isSpace) = _
  rw [left]
  rfl

theorem takes_peek_here (hc : isSpace c = false) (cs : List Char) :
    Takes peek (c :: cs) (c :: cs) (some c) := by
  have peeked := takes_peek blank_nil hc cs
  exact peeked

theorem takes_peek_end (blank : Blank blanks) : Takes peek blanks [] none := by
  have left : blanks.dropWhile isSpace = [] := List.dropWhile_eq_nil_iff.mpr blank
  show Except.ok ((blanks.dropWhile isSpace).head?, blanks.dropWhile isSpace) = _
  rw [left]
  rfl

theorem takes_peekValue (blank : Blank blanks) (hc : isSpace c = false) (cs : List Char) :
    Takes peekValue (blanks ++ c :: cs) (c :: cs) c :=
  .bind (takes_peek blank hc cs) (.pure c _)

theorem Takes.settled (h : Takes r cs rest a) : Takes (settled r) cs rest a := by
  unfold Reader.settled Takes StateT.run
  unfold Takes StateT.run at h
  simp only [h]

theorem Takes.closedBy {close : Reader Unit} (body : Takes r cs mid a)
    (closed : Takes close mid rest ()) : Takes (closedBy close r) cs rest a := by
  unfold Reader.closedBy Takes StateT.run
  unfold Takes StateT.run at body closed
  simp only [body, closed]

/-- A string behind its opening quote. -/
theorem takes_stringRest (s : String) (rest : List Char) :
    Takes stringRest (s.toList.flatMap escapedChar ++ '"' :: rest) rest s := by
  show scanString true .plain [] _ = _
  rw [scanString_literal]
  simp

end Takes

end Reader

/-! ## Values -/

/-- The reader finds `a` in the written value. -/
def Decodes (r : Reader α) (v : Value) (a : α) : Prop :=
  ∀ level {blanks rest}, Blank blanks → Delimited rest →
    Takes r (blanks ++ (v.chars level ++ rest)) rest a

theorem Decodes.map {r : Reader α} {v : Value} {a : α} (h : Decodes r v a) (f : α → β) :
    Decodes (do let a ← r; pure (f a)) v (f a) :=
  fun level _ _ blank delimited => .bind (h level blank delimited) (.pure _ _)

theorem Value.chars_text (s : String) (level : Nat) (rest : List Char) :
    (Value.text s).chars level ++ rest = '"' :: (s.toList.flatMap escapedChar ++ '"' :: rest) := by
  simp [Value.chars, stringLiteral]

theorem decodes_string (s : String) : Decodes string (.text s) s := by
  intro level blanks rest blank _
  rw [Value.chars_text]
  refine .bind (takes_peekValue blank rfl _) ?_
  exact .bind (takes_advance _ _) (takes_stringRest s rest)

/-- A text that is there is read by whatever reads it when it may be absent. -/
theorem Decodes.nullable {r : Reader α} {s : String} {a : α} (h : Decodes r (.text s) a) :
    Decodes (nullable r) (.text s) (some a) := by
  intro level blanks rest blank delimited
  have behind := h level blank_nil delimited
  rw [Value.chars_text] at behind ⊢
  refine .bind (takes_peek blank rfl _) ?_
  exact .bind behind (.pure _ _)

theorem decodes_count64 (n : UInt64) : Decodes count64 (.count n.toNat) n := by
  intro level blanks rest blank delimited
  obtain ⟨c, cs, digits, digit⟩ := decimal_cons n.toNat
  have taken : Takes (number false) (c :: (cs ++ rest)) rest (.count n.toNat) := by
    rw [← List.cons_append, ← digits]
    exact scanNumber_decimal n.toNat_lt delimited
  show Takes count64 (blanks ++ (decimal n.toNat ++ rest)) rest n
  rw [digits]
  refine Takes.settled (.bind (takes_peekValue blank (not_isSpace_of_digit digit) _) ?_)
  dsimp only
  rw [if_neg (digit_ne digit rfl), if_pos digit]
  refine .bind taken ?_
  have back : n.toNat.toUInt64 = n := by simp
  show Takes (pure n.toNat.toUInt64) rest rest n
  rw [back]
  exact .pure n rest

/-- A value begins with a character that neither is a blank nor ends a list. -/
theorem Value.chars_cons (v : Value) (level : Nat) :
    ∃ c cs, v.chars level = c :: cs ∧ isSpace c = false ∧ c ≠ ']' := by
  cases v with
  | null => exact ⟨_, _, rfl, rfl, by decide⟩
  | flag b => cases b <;> exact ⟨_, _, rfl, rfl, by decide⟩
  | text s => exact ⟨_, _, rfl, rfl, by decide⟩
  | count n =>
      obtain ⟨c, cs, digits, digit⟩ := decimal_cons n
      exact ⟨c, cs, digits, not_isSpace_of_digit digit, digit_ne digit rfl⟩
  | list vs => cases vs <;> exact ⟨_, _, rfl, rfl, by decide⟩
  | object ms => cases ms <;> exact ⟨_, _, rfl, rfl, by decide⟩

/-! ## Lists -/

section List

variable {cs blanks : List Char}

theorem takes_listContinues_end (blank : Blank blanks) (first : Bool) (rest : List Char) :
    Takes (listContinues first) (blanks ++ ']' :: rest) (']' :: rest) false :=
  .bind (takes_peek blank rfl rest) (.pure false _)

theorem takes_listContinues_first (blank : Blank blanks) {c : Char} (visible : isSpace c = false)
    (inside : c ≠ ']') (cs : List Char) :
    Takes (listContinues true) (blanks ++ c :: cs) (c :: cs) true := by
  refine .bind (takes_peek blank visible cs) ?_
  split
  · rename_i h
    exact nomatch h
  · rename_i h
    exact absurd (Option.some.inj h) inside
  · exact .pure true _

theorem takes_listContinues_comma (blank : Blank blanks) {c : Char} (visible : isSpace c = false)
    (inside : c ≠ ']') (cs : List Char) :
    Takes (listContinues false) (',' :: (blanks ++ c :: cs)) (c :: cs) true := by
  refine .bind (takes_peek_here rfl _) ?_
  refine .bind (takes_advance _ _) (.bind (takes_peek blank visible cs) ?_)
  split
  · rename_i h
    exact absurd (Option.some.inj h) inside
  · exact .pure true _
  · rename_i h
    exact nomatch h

theorem takes_listEnd (rest : List Char) : Takes listEnd (']' :: rest) rest () :=
  .bind (takes_peek_here rfl rest) (takes_advance _ _)

theorem delimited_lineBreak (level : Nat) (cs : List Char) : Delimited (lineBreak level ++ cs) :=
  .newline _

theorem delimited_restOfList (level : Nat) (vs : List Value) {cs : List Char}
    (delimited : Delimited cs) : Delimited (restOfList level vs ++ cs) := by
  cases vs with
  | nil => exact delimited
  | cons v vs => exact .comma _

/-- There is a comma in front of each further element. -/
theorem length_le_restOfList (level : Nat) (vs : List Value) :
    vs.length ≤ (restOfList level vs).length := by
  induction vs with
  | nil => exact Nat.zero_le _
  | cons v vs ih =>
      simp only [restOfList, List.length_append, List.length_cons]
      omega

variable {item : Reader α} {vs : List Value} {as : List α}

/-- The elements behind the first, and what ends the list. -/
theorem takes_elements_rest (decoded : List.Forall₂ (Decodes item) vs as) (level : Nat)
    (blank : Blank blanks) (delimited : Delimited (blanks ++ ']' :: cs)) {n : Nat}
    (room : vs.length < n) :
    Takes (elements item n false) (restOfList level vs ++ (blanks ++ ']' :: cs)) (']' :: cs) as := by
  induction decoded generalizing n with
  | nil =>
      obtain ⟨n, rfl⟩ := Nat.exists_eq_add_of_lt room
      exact .bind (takes_listContinues_end blank false cs) (.pure [] _)
  | @cons v a vs as decodes _ ih =>
      obtain ⟨n, rfl⟩ : ∃ m, n = m + 1 := ⟨n - 1, by omega⟩
      obtain ⟨c, text, chars, visible, inside⟩ := v.chars_cons level
      have cut : restOfList level (v :: vs) ++ (blanks ++ ']' :: cs) =
          ',' :: (lineBreak level ++ c :: (text ++ (restOfList level vs ++ (blanks ++ ']' :: cs)))) := by
        simp [restOfList, chars]
      have taken := decodes level blank_nil (delimited_restOfList level vs delimited)
      rw [chars] at taken
      rw [cut]
      refine .bind (takes_listContinues_comma (blank_lineBreak level) visible inside _) ?_
      exact .bind taken (.bind (ih (by simpa using room)) (.pure _ _))

/-- A list is read when its elements are. -/
theorem decodes_list (decoded : List.Forall₂ (Decodes item) vs as) :
    Decodes (list item) (.list vs) as := by
  intro level blanks rest blank delimited
  cases decoded with
  | nil =>
      refine .bind (takes_peekValue blank rfl _) ?_
      refine Takes.closedBy (.bind (takes_advance _ _) ?_) (takes_listEnd rest)
      refine .bind (takes_get _) ?_
      exact .bind (takes_listContinues_end blank_nil true rest) (.pure [] _)
  | @cons v a vs as decodes decoded =>
      obtain ⟨c, text, chars, visible, inside⟩ := v.chars_cons (level + 1)
      let close := lineBreak level ++ ']' :: rest
      have cut : (Value.list (v :: vs)).chars level ++ rest =
          '[' :: (lineBreak (level + 1) ++ c :: (text ++ (restOfList (level + 1) vs ++ close))) := by
        simp [Value.chars, chars, close]
      have hclose : Delimited close := delimited_lineBreak level _
      have taken := decodes (level + 1) blank_nil
        (delimited_restOfList (level + 1) vs hclose)
      rw [chars] at taken
      rw [cut]
      refine .bind (takes_peekValue blank rfl _) ?_
      refine Takes.closedBy (.bind (takes_advance _ _) ?_) (takes_listEnd rest)
      refine .bind (takes_get _) ?_
      refine .bind (takes_listContinues_first (blank_lineBreak _) visible inside _) ?_
      refine .bind taken (.bind ?_ (.pure _ _))
      refine takes_elements_rest decoded (level + 1) (blank_lineBreak level) hclose ?_
      -- the characters that are left bound the elements, and each further one has a comma
      have enough := length_le_restOfList (level + 1) vs
      simp only [List.length_append, List.length_cons]
      omega

end List

/-! ## Objects of a fixed shape -/

section Object

variable {cs blanks : List Char}

theorem takes_objectContinues_end (blank : Blank blanks) (first : Bool) (rest : List Char) :
    Takes (objectContinues first) (blanks ++ '\x7d' :: rest) ('\x7d' :: rest) false :=
  .bind (takes_peek blank rfl rest) (.pure false _)

theorem takes_objectContinues_first (blank : Blank blanks) (cs : List Char) :
    Takes (objectContinues true) (blanks ++ '"' :: cs) ('"' :: cs) true :=
  .bind (takes_peek blank rfl cs) (.pure true _)

theorem takes_objectContinues_comma (blank : Blank blanks) (cs : List Char) :
    Takes (objectContinues false) (',' :: (blanks ++ '"' :: cs)) ('"' :: cs) true := by
  refine .bind (takes_peek_here rfl _) ?_
  exact .bind (takes_advance _ _) (.bind (takes_peek blank rfl cs) (.pure true _))

theorem takes_objectEnd (rest : List Char) : Takes objectEnd ('\x7d' :: rest) rest () :=
  .bind (takes_peek_here rfl rest) (takes_advance _ _)

theorem takes_colon (cs : List Char) : Takes colon (':' :: cs) cs () :=
  .bind (takes_peek_here rfl cs) (takes_advance _ _)

theorem delimited_restOfObject (level : Nat) (ms : List (String × Value)) {cs : List Char}
    (delimited : Delimited cs) : Delimited (restOfObject level ms ++ cs) := by
  cases ms with
  | nil => exact delimited
  | cons m ms => exact .comma _

theorem length_le_restOfObject (level : Nat) (ms : List (String × Value)) :
    ms.length ≤ (restOfObject level ms).length := by
  induction ms with
  | nil => exact Nat.zero_le _
  | cons m ms ih =>
      simp only [restOfObject, List.length_append, List.length_cons]
      omega

/-- Written members, read one after the other, turn one draft into another. -/
inductive Fills (members : List (Member δ)) : δ → List (String × Value) → δ → Prop
  | nothing (d : δ) : Fills members d [] d
  | member {m : Member δ} {key : String} {v : Value} {ms : List (String × Value)} {d d' d'' : δ}
      (known : members.find? (·.name = key) = some m) (unset : m.isSet d = false)
      (read : Decodes (m.read d) v d') (further : Fills members d' ms d'') :
      Fills members d ((key, v) :: ms) d''

variable {members : List (Member δ)} {d d' d'' : δ} {ms ms' : List (String × Value)}

theorem Fills.append (h : Fills members d ms d') (h' : Fills members d' ms' d'') :
    Fills members d (ms ++ ms') d'' := by
  induction h with
  | nothing _ => exact h'
  | member known unset read _ ih => exact .member known unset read (ih h')

theorem chars_literal (key : String) (cs : List Char) :
    stringLiteral key ++ cs = '"' :: (key.toList.flatMap escapedChar ++ '"' :: cs) := by
  simp [stringLiteral]

/-- One member is read, and then the members behind it. -/
theorem takes_member {m : Member δ} {key : String} {v : Value}
    (known : members.find? (·.name = key) = some m) (unset : m.isSet d = false)
    (read : Decodes (m.read d) v d') (level : Nat) {rest cs' : List Char}
    (delimited : Delimited rest) {first : Bool}
    (continues : Takes (objectContinues first) cs
      (stringLiteral key ++ ':' :: ' ' :: (v.chars level ++ rest)) true) {n : Nat}
    (further : Takes (objectMembers members n false d') rest cs' d'') :
    Takes (objectMembers members (n + 1) first d) cs cs' d'' := by
  have space : Blank [' '] := by
    rintro c ⟨⟩
    · rfl
    · contradiction
  rw [chars_literal] at continues
  refine .bind continues (.bind (takes_advance _ _) (.bind (takes_stringRest key _) ?_))
  rw [known]
  dsimp only
  rw [unset]
  exact .bind (takes_colon _) (.bind (read level space delimited) further)

/-- The members behind the first, and what ends the object. -/
theorem takes_objectMembers_rest (fills : Fills members d ms d') (level : Nat)
    (blank : Blank blanks) (delimited : Delimited (blanks ++ '\x7d' :: cs)) {n : Nat}
    (room : ms.length < n) :
    Takes (objectMembers members n false d)
      (restOfObject level ms ++ (blanks ++ '\x7d' :: cs)) ('\x7d' :: cs) d' := by
  induction fills generalizing n with
  | nothing d =>
      obtain ⟨n, rfl⟩ := Nat.exists_eq_add_of_lt room
      exact .bind (takes_objectContinues_end blank false cs) (.pure d _)
  | @member m key v ms _ _ _ known unset read _ ih =>
      obtain ⟨n, rfl⟩ : ∃ m, n = m + 1 := ⟨n - 1, by omega⟩
      have behind := delimited_restOfObject level ms delimited
      refine takes_member known unset read level behind ?_ (ih (by simpa using room))
      have cut : restOfObject level ((key, v) :: ms) ++ (blanks ++ '\x7d' :: cs) =
          ',' :: (lineBreak level ++ (stringLiteral key ++
            ':' :: ' ' :: (v.chars level ++ (restOfObject level ms ++ (blanks ++ '\x7d' :: cs))))) := by
        simp [restOfObject]
      rw [cut, chars_literal]
      exact takes_objectContinues_comma (blank_lineBreak level) _

/-- An object is read when its members fill a draft that can be finished. -/
theorem Fills.decodes {shape : Shape δ α} {a : α} (fills : Fills shape.members d ms d')
    (finish : shape.finish d' = .ok a) : Decodes (shaped shape d) (.object ms) a := by
  have done : ∀ cs, Takes (finished shape d') cs cs a := by
    intro cs
    rw [finished, finish]
    exact .pure a cs
  intro level blanks rest blank delimited
  cases fills with
  | nothing =>
      refine .bind (takes_peekValue blank rfl _) ?_
      refine Takes.closedBy (.bind (takes_advance _ _) (.bind (takes_get _) ?_))
        (takes_objectEnd rest)
      refine .bind (.bind (takes_objectContinues_end blank_nil true rest) (.pure d _)) (done _)
  | @member m key v ms _ _ _ known unset read further =>
      let close := lineBreak level ++ '\x7d' :: rest
      have cut : (Value.object ((key, v) :: ms)).chars level ++ rest =
          '\x7b' :: (lineBreak (level + 1) ++ (stringLiteral key ++
            ':' :: ' ' :: (v.chars (level + 1) ++ (restOfObject (level + 1) ms ++ close)))) := by
        simp [Value.chars, close]
      have hclose : Delimited close := delimited_lineBreak level _
      have behind := delimited_restOfObject (level + 1) ms hclose
      rw [cut]
      refine .bind (takes_peekValue blank rfl _) ?_
      refine Takes.closedBy (.bind (takes_advance _ _) (.bind (takes_get _) ?_))
        (takes_objectEnd rest)
      refine .bind ?_ (done _)
      refine takes_member known unset read (level + 1) behind ?_
        (takes_objectMembers_rest further (level + 1) (blank_lineBreak level) hclose ?_)
      · rw [chars_literal]
        exact takes_objectContinues_first (blank_lineBreak _) _
      · have enough := length_le_restOfObject (level + 1) ms
        simp only [List.length_append, List.length_cons]
        omega

end Object

/-! ## Whole texts -/

/-- A text that holds a written value and nothing but blanks behind it. -/
theorem run_of_decodes {r : Reader α} {v : Value} {a : α} (h : Decodes r v a) {text : String}
    {blanks : List Char} (holds : text.toList = v.chars 0 ++ blanks) (blank : Blank blanks)
    (ends : Delimited blanks) : Reader.run r text = .ok a := by
  have ended : Takes endOfText blanks [] () := .bind (takes_peek_end blank) (.pure () [])
  have taken : Takes (do let a ← r; endOfText; pure a) (v.chars 0 ++ blanks) [] a :=
    .bind (h 0 blank_nil ends) (.bind ended (.pure a []))
  unfold Takes StateT.run at taken
  rw [Reader.run, holds, StateT.run', taken]
  rfl

theorem run_pretty {r : Reader α} {v : Value} {a : α} (h : Decodes r v a) :
    Reader.run r v.pretty = .ok a :=
  run_of_decodes h (by simp [Value.pretty]) blank_nil .nothing

end AsmView.Json

/-
# What a command line asks for

The words of a command line fall into groups, and each group asks for one setting.  Words are
read as options exactly when they fall into groups whose settings are of different kinds and do
not contradict each other, and the options then record these settings and nothing else.  Since
this does not depend on where a setting stands, groups may change places, and options are read
back from their settings written in any order.

Seen as a map from kinds to settings (`get?`, `add`), options are read one group at a time: a
group is taken up where its kind is free (`readFrom_append`), and words that do not begin with a
group are not read (`exists_group_or_none`).
-/
import Mathlib.Data.List.Perm.Basic
import AsmView.Options
import AsmView.Proofs.Text.Digits

namespace AsmView.Options

open Text

/-! ## Settings and their spellings -/

/-- What a setting is about. -/
inductive Kind where
  | demo
  | noServer
  | program
  | endpoint
  | templates
  | logFile
  | dumpDemo
deriving DecidableEq

/-- One thing that is asked for. -/
inductive Setting where
  | demo
  | noServer
  | program (path : String)
  | endpoint (number : Nat)
  | templates (dir : String)
  | logFile (path : String)
  | dumpDemo (path : String)
deriving DecidableEq

def Setting.kind : Setting → Kind
  | demo => .demo
  | noServer => .noServer
  | program _ => .program
  | endpoint _ => .endpoint
  | templates _ => .templates
  | logFile _ => .logFile
  | dumpDemo _ => .dumpDemo

/-- The groups of words that ask for a setting.  A value is any word, also one that looks like an
option; only a path that does not look like one may stand alone. -/
inductive Spells : List String → Setting → Prop
  | demo : Spells ["--demo"] .demo
  | noServer : Spells ["--no-mcp"] .noServer
  | program (path : String) : Spells ["--program", path] (.program path)
  | word {path : String} (plain : path.toList.head? ≠ some '-') : Spells [path] (.program path)
  | endpoint {text : String} {n : Nat} (denotes : IsCount text.toList n) (small : n < 2 ^ 16) :
      Spells ["--mcp-http-port", text] (.endpoint n)
  | templates (dir : String) : Spells ["--templates", dir] (.templates dir)
  | logFile (path : String) : Spells ["--log-file", path] (.logFile path)
  | dumpDemo (path : String) : Spells ["--dump-demo", path] (.dumpDemo path)

theorem Spells.length_pos {group : List String} {s : Setting} (spelled : Spells group s) :
    0 < group.length := by
  cases spelled <;> exact Nat.succ_pos _

/-- Kinds of settings that contradict each other. -/
inductive Conflict : Kind → Kind → Prop
  | demo_program : Conflict .demo .program
  | noServer_endpoint : Conflict .noServer .endpoint
  | dumpDemo_program : Conflict .dumpDemo .program
  | dumpDemo_demo : Conflict .dumpDemo .demo

/-! ## Options as a map -/

/-- What options record. -/
def Holds (o : Options) : Setting → Prop
  | .demo => o.demo = true
  | .noServer => o.noServer = true
  | .program path => o.program? = some path
  | .endpoint n => o.endpoint? = some n
  | .templates dir => o.templates? = some dir
  | .logFile path => o.logFile? = some path
  | .dumpDemo path => o.dumpDemo? = some path

/-- The setting of a kind that options record. -/
def get? (o : Options) : Kind → Option Setting
  | .demo => if o.demo then some .demo else none
  | .noServer => if o.noServer then some .noServer else none
  | .program => o.program?.map .program
  | .endpoint => o.endpoint?.map .endpoint
  | .templates => o.templates?.map .templates
  | .logFile => o.logFile?.map .logFile
  | .dumpDemo => o.dumpDemo?.map .dumpDemo

/-- Options with a setting in the place of the one of its kind. -/
def add (o : Options) : Setting → Options
  | .demo => { o with demo := true }
  | .noServer => { o with noServer := true }
  | .program path => { o with program? := some path }
  | .endpoint n => { o with endpoint? := some n }
  | .templates dir => { o with templates? := some dir }
  | .logFile path => { o with logFile? := some path }
  | .dumpDemo path => { o with dumpDemo? := some path }

theorem get?_eq_some_iff {o : Options} {k : Kind} {s : Setting} :
    o.get? k = some s ↔ s.kind = k ∧ o.Holds s := by
  cases s <;> cases k <;> simp [get?, Setting.kind, Holds]

theorem holds_iff {o : Options} {s : Setting} : o.Holds s ↔ o.get? s.kind = some s := by
  simp only [get?_eq_some_iff, true_and]

theorem ext_get? {o o' : Options} (h : ∀ k, o.get? k = o'.get? k) : o = o' := by
  cases o
  cases o'
  have demo := h .demo
  have noServer := h .noServer
  have program := h .program
  have endpoint := h .endpoint
  have templates := h .templates
  have logFile := h .logFile
  have dumpDemo := h .dumpDemo
  simp only [get?] at *
  grind [Option.map_inj_right]

/-- Options are what they record. -/
theorem eq_of_holds {o o' : Options} (h : ∀ s, o.Holds s ↔ o'.Holds s) : o = o' := by
  apply ext_get?
  intro k
  apply Option.ext
  intro s
  rw [get?_eq_some_iff, get?_eq_some_iff, h]

theorem get?_empty (k : Kind) : ({} : Options).get? k = none := by
  cases k <;> rfl

theorem not_holds_empty (s : Setting) : ¬ ({} : Options).Holds s := by
  intro held
  rw [holds_iff, get?_empty] at held
  cases held

theorem get?_add (o : Options) (s : Setting) (k : Kind) :
    (o.add s).get? k = if k = s.kind then some s else o.get? k := by
  cases s <;> cases k <;> rfl

/-- A setting of a kind that is free is added to what is recorded. -/
theorem holds_add {o : Options} {s : Setting} (free : o.get? s.kind = none) (t : Setting) :
    (o.add s).Holds t ↔ t = s ∨ o.Holds t := by
  rw [holds_iff, holds_iff, get?_add]
  split
  case isTrue same => simp only [same, free, Option.some.injEq, reduceCtorEq, or_false, eq_comm]
  case isFalse other =>
    have differs : t ≠ s := fun same => other (congrArg Setting.kind same)
    simp only [differs, false_or]

/-! ## Reading group by group -/

/-- Takes up a setting unless there is one of its kind. -/
def take? (o : Options) (s : Setting) : Option Options :=
  if (o.get? s.kind).isSome then none else some (o.add s)

theorem readEndpoint_eq_some_iff {text : String} {n : Nat} :
    readEndpoint text = some n ↔ IsCount text.toList n ∧ n < 2 ^ 16 := by
  have below : 0 < endpointLimit := by decide
  change _ ↔ _ ∧ n < endpointLimit
  rw [← readCount_eq_ok_iff below, readEndpoint]
  cases readCount endpointLimit text.toList <;> simp [Except.toOption]

/-- A group in front is taken up, and reading goes on behind it. -/
theorem readFrom_append {group : List String} {s : Setting} (spelled : Spells group s)
    (o : Options) (rest : List String) :
    readFrom o (group ++ rest) = (o.take? s).bind fun o => readFrom o rest := by
  cases spelled with
  | demo =>
    rw [List.singleton_append, readFrom]
    cases h : o.demo <;> simp [take?, get?, Setting.kind, add, h]
  | noServer =>
    rw [List.singleton_append, readFrom]
    cases h : o.noServer <;> simp [take?, get?, Setting.kind, add, h]
  | program path =>
    rw [List.cons_append, List.singleton_append, readFrom]
    cases h : o.program? <;> simp [take?, get?, Setting.kind, add, withProgram?, h]
  | @word path plain =>
    -- the word is no option, since those all begin with a dash
    have other : ∀ name : String, path = name → name.toList.head? ≠ some '-' := by
      rintro _ rfl
      exact plain
    rw [List.singleton_append, readFrom, if_neg plain]
    · cases h : o.program? <;> simp [take?, get?, Setting.kind, add, withProgram?, h]
    all_goals
      intros
      exact other _ ‹path = _› (by decide)
  | endpoint denotes small =>
    rw [List.cons_append, List.singleton_append, readFrom,
      readEndpoint_eq_some_iff.mpr ⟨denotes, small⟩]
    cases h : o.endpoint? <;> simp [take?, get?, Setting.kind, add, h]
  | templates dir =>
    rw [List.cons_append, List.singleton_append, readFrom]
    cases h : o.templates? <;> simp [take?, get?, Setting.kind, add, h]
  | logFile path =>
    rw [List.cons_append, List.singleton_append, readFrom]
    cases h : o.logFile? <;> simp [take?, get?, Setting.kind, add, h]
  | dumpDemo path =>
    rw [List.cons_append, List.singleton_append, readFrom]
    cases h : o.dumpDemo? <;> simp [take?, get?, Setting.kind, add, h]

/-- What is read from groups is what taking up their settings one after the other gives. -/
theorem readFrom_flatten {groups : List (List String)} {ss : List Setting}
    (spelled : List.Forall₂ Spells groups ss) (o : Options) :
    readFrom o groups.flatten = ss.foldlM take? o := by
  induction spelled generalizing o with
  | nil => rfl
  | cons group _ ih =>
    rw [List.flatten_cons, readFrom_append group, List.foldlM_cons]
    exact Option.bind_congr fun o _ => ih o

/-- Words begin with a group, or they are not read. -/
theorem exists_group_or_none (o : Options) (word : String) (words : List String) :
    (∃ group s rest, Spells group s ∧ group ++ rest = word :: words) ∨
      readFrom o (word :: words) = none := by
  generalize heq : word :: words = ws
  unfold readFrom
  split
  case h_1 => cases heq
  case h_2 => exact .inl ⟨_, _, _, .demo, rfl⟩
  case h_3 => exact .inl ⟨_, _, _, .noServer, rfl⟩
  case h_4 => exact .inl ⟨_, _, _, .program _, rfl⟩
  case h_5 text rest =>
    cases read : readEndpoint text with
    | none => cases o.endpoint? <;> exact .inr rfl
    | some n =>
      obtain ⟨denotes, small⟩ := readEndpoint_eq_some_iff.mp read
      exact .inl ⟨_, _, _, .endpoint denotes small, rfl⟩
  case h_6 => exact .inl ⟨_, _, _, .templates _, rfl⟩
  case h_7 => exact .inl ⟨_, _, _, .logFile _, rfl⟩
  case h_8 => exact .inl ⟨_, _, _, .dumpDemo _, rfl⟩
  case h_9 =>
    -- an option without its value ends up here too, and begins with a dash
    split
    case isTrue => exact .inr rfl
    case isFalse plain => exact .inl ⟨_, _, _, .word plain, rfl⟩

/-- Words that are read fall into groups. -/
theorem exists_groups {o o' : Options} {ws : List String} (read : readFrom o ws = some o') :
    ∃ groups ss, List.Forall₂ Spells groups ss ∧ ws = groups.flatten := by
  induction length : ws.length using Nat.strongRecOn generalizing ws o with
  | ind n ih =>
    cases ws with
    | nil => exact ⟨[], [], .nil, rfl⟩
    | cons word words =>
      obtain ⟨group, s, rest, spelled, parts⟩ | none := exists_group_or_none o word words
      · rw [← parts, readFrom_append spelled] at read
        obtain ⟨next, -, read⟩ := Option.bind_eq_some_iff.mp read
        have shorter : rest.length < n := by
          have positive := spelled.length_pos
          have total := congrArg List.length parts
          rw [List.length_append] at total
          omega
        obtain ⟨groups, ss, all, rfl⟩ := ih _ shorter read rfl
        exact ⟨group :: groups, s :: ss, .cons spelled all, parts.symm⟩
      · rw [none] at read
        cases read

/-! ## Settings asked for together -/

/-- Settings are taken up together when their kinds are free and different, and they are then
recorded beside what was. -/
theorem foldlM_take?_eq_some_iff {o o' : Options} {ss : List Setting} :
    ss.foldlM take? o = some o' ↔ (ss.map Setting.kind).Nodup ∧
      (∀ s ∈ ss, o.get? s.kind = none) ∧ ∀ t, o'.Holds t ↔ t ∈ ss ∨ o.Holds t := by
  induction ss generalizing o with
  | nil =>
    have unchanged : o = o' ↔ ∀ t, o'.Holds t ↔ o.Holds t := by
      constructor
      · rintro rfl t
        exact .rfl
      · intro same
        apply eq_of_holds
        intro s
        exact (same s).symm
    simpa using unchanged
  | cons s ss ih =>
    rw [List.foldlM_cons, take?]
    cases held : o.get? s.kind with
    | some t => simp [held]
    | none =>
      have free : (∀ t ∈ ss, (o.add s).get? t.kind = none) ↔
          s.kind ∉ ss.map Setting.kind ∧ ∀ t ∈ ss, o.get? t.kind = none := by
        simp only [get?_add, List.mem_map, not_exists, not_and]
        grind
      have records : ∀ t, (t ∈ ss ∨ (o.add s).Holds t) ↔ t ∈ s :: ss ∨ o.Holds t := by
        intro t
        rw [holds_add held, List.mem_cons, or_left_comm, or_assoc]
      simp only [Option.isSome_none, Bool.false_eq_true, if_false, Option.bind_eq_bind,
        Option.bind_some, List.map_cons, List.nodup_cons, List.forall_mem_cons, held, true_and,
        ih, free, records]
      tauto

/-- Options contradict each other when two kinds of theirs do. -/
theorem conflicts_eq_true_iff {o : Options} :
    o.conflicts = true ↔ ∃ s t, o.Holds s ∧ o.Holds t ∧ Conflict s.kind t.kind := by
  simp only [conflicts, Bool.or_eq_true, Bool.and_eq_true, Option.isSome_iff_exists]
  constructor
  · rintro ((⟨demo, path, program⟩ | ⟨noServer, n, endpoint⟩) |
      ⟨⟨dump, dumpDemo⟩, ⟨path, program⟩ | demo⟩)
    · exact ⟨.demo, .program path, demo, program, .demo_program⟩
    · exact ⟨.noServer, .endpoint n, noServer, endpoint, .noServer_endpoint⟩
    · exact ⟨.dumpDemo dump, .program path, dumpDemo, program, .dumpDemo_program⟩
    · exact ⟨.dumpDemo dump, .demo, dumpDemo, demo, .dumpDemo_demo⟩
  · rintro ⟨s, t, one, other, conflict⟩
    cases s <;> cases t <;> cases conflict <;> simp_all [Holds]

/-- Settings ask for options: no two are of one kind or contradict each other, and the options
record them and nothing else. -/
structure Asks (ss : List Setting) (o : Options) : Prop where
  once : (ss.map Setting.kind).Nodup
  agree : ∀ s ∈ ss, ∀ t ∈ ss, ¬ Conflict s.kind t.kind
  records : ∀ s, o.Holds s ↔ s ∈ ss

theorem Asks.perm {ss ss' : List Setting} {o : Options} (asks : Asks ss o) (perm : ss.Perm ss') :
    Asks ss' o where
  once := (perm.map Setting.kind).nodup asks.once
  agree s hs t ht := asks.agree s (perm.mem_iff.mpr hs) t (perm.mem_iff.mpr ht)
  records s := (asks.records s).trans perm.mem_iff

/-- Groups are read as the options that their settings ask for. -/
theorem read?_flatten_iff {groups : List (List String)} {ss : List Setting}
    (spelled : List.Forall₂ Spells groups ss) {o : Options} :
    read? groups.flatten = some o ↔ Asks ss o := by
  rw [read?, readFrom_flatten spelled, Option.filter_eq_some_iff, foldlM_take?_eq_some_iff,
    Bool.not_eq_true', ← Bool.not_eq_true, conflicts_eq_true_iff]
  constructor
  · rintro ⟨⟨once, -, records⟩, agree⟩
    have held : ∀ s, o.Holds s ↔ s ∈ ss := by
      intro s
      rw [records, or_iff_left (not_holds_empty s)]
    refine ⟨once, ?_, held⟩
    intro s hs t ht conflict
    exact agree ⟨s, t, (held s).mpr hs, (held t).mpr ht, conflict⟩
  · rintro ⟨once, agree, records⟩
    refine ⟨⟨once, ?_, ?_⟩, ?_⟩
    · intro s _
      exact get?_empty s.kind
    · intro s
      rw [records, or_iff_left (not_holds_empty s)]
    · rintro ⟨s, t, one, other, conflict⟩
      exact agree s ((records s).mp one) t ((records t).mp other) conflict

/-! ## Options written as words -/

/-- The words that ask for a setting by the option of its kind. -/
def Setting.words : Setting → List String
  | demo => ["--demo"]
  | noServer => ["--no-mcp"]
  | program path => ["--program", path]
  | endpoint n => ["--mcp-http-port", decimalText n]
  | templates dir => ["--templates", dir]
  | logFile path => ["--log-file", path]
  | dumpDemo path => ["--dump-demo", path]

/-- Every kind of setting. -/
def Kind.all : List Kind :=
  [demo, noServer, program, endpoint, templates, logFile, dumpDemo]

theorem Kind.mem_all (k : Kind) : k ∈ Kind.all := by
  cases k <;> decide

/-- The settings that options record. -/
def settings (o : Options) : List Setting :=
  Kind.all.filterMap o.get?

theorem mem_settings {o : Options} {s : Setting} : s ∈ o.settings ↔ o.Holds s := by
  rw [settings, List.mem_filterMap]
  constructor
  · rintro ⟨k, -, held⟩
    exact (get?_eq_some_iff.mp held).2
  · intro held
    exact ⟨s.kind, s.kind.mem_all, holds_iff.mp held⟩

theorem kind_filterMap_get?_sublist (o : Options) (ks : List Kind) :
    ((ks.filterMap o.get?).map Setting.kind).Sublist ks := by
  induction ks with
  | nil => exact .slnil
  | cons k ks ih =>
    cases held : o.get? k with
    | none =>
      rw [List.filterMap_cons_none held]
      exact ih.cons k
    | some s =>
      rw [List.filterMap_cons_some held, List.map_cons, (get?_eq_some_iff.mp held).1]
      exact ih.cons_cons k

/-- Options that do not contradict themselves are asked for by what they record. -/
theorem asks_settings {o : Options}
    (agree : ∀ s t, o.Holds s → o.Holds t → ¬ Conflict s.kind t.kind) : Asks o.settings o where
  once := (kind_filterMap_get?_sublist o Kind.all).nodup (by decide)
  agree s hs t ht := agree s t (mem_settings.mp hs) (mem_settings.mp ht)
  records _ := mem_settings.symm

theorem spells_words {s : Setting} (small : ∀ n, s = .endpoint n → n < 2 ^ 16) :
    Spells s.words s := by
  cases s with
  | endpoint n =>
    have denotes : IsCount (decimalText n).toList n := by
      rw [decimalText, String.toList_ofList]
      exact .plain (isDecimal_decimal n)
    exact .endpoint denotes (small n rfl)
  | _ => constructor

theorem forall₂_spells_words {o : Options} (small : ∀ n, o.endpoint? = some n → n < 2 ^ 16)
    {ss : List Setting} (perm : ss.Perm o.settings) :
    List.Forall₂ Spells (ss.map Setting.words) ss := by
  rw [List.forall₂_map_left_iff, List.forall₂_same]
  intro s mem
  refine spells_words ?_
  rintro n rfl
  exact small n (mem_settings.mp (perm.mem_iff.mp mem))

/-! ## Command lines -/

/-- A command line is read as options exactly when it falls into groups whose settings ask for
them.  Its groups may stand in any order, and options that do not contradict themselves are read
back from their settings in any order and spelling. -/
theorem read?_iff_spelled :
    (∀ ws o, read? ws = some o ↔
      ∃ groups ss, List.Forall₂ Spells groups ss ∧ ws = groups.flatten ∧ Asks ss o) ∧
    (∀ groups groups' ss, List.Forall₂ Spells groups ss → List.Perm groups' groups →
      read? groups'.flatten = read? groups.flatten) ∧
    ∀ o : Options, (∀ n, o.endpoint? = some n → n < 2 ^ 16) →
      (∀ s t, o.Holds s → o.Holds t → ¬ Conflict s.kind t.kind) →
      ∀ ss, ss.Perm o.settings → read? (ss.flatMap Setting.words) = some o ∧
        ∀ groups, List.Forall₂ Spells groups ss → read? groups.flatten = some o := by
  refine ⟨?_, ?_, ?_⟩
  · intro ws o
    constructor
    · intro read
      obtain ⟨hnothing, -⟩ := Option.filter_eq_some_iff.mp read
      obtain ⟨groups, ss, spelled, rfl⟩ := exists_groups hnothing
      exact ⟨groups, ss, spelled, rfl, (read?_flatten_iff spelled).mp read⟩
    · rintro ⟨groups, ss, spelled, rfl, asks⟩
      exact (read?_flatten_iff spelled).mpr asks
  · intro groups groups' ss spelled perm
    obtain ⟨ss', spelled', perm'⟩ := List.perm_comp_forall₂ perm spelled
    apply Option.ext
    intro o
    rw [read?_flatten_iff spelled, read?_flatten_iff spelled']
    exact ⟨fun asks => asks.perm perm', fun asks => asks.perm perm'.symm⟩
  · intro o small agree ss perm
    have asks : Asks ss o := (asks_settings agree).perm perm.symm
    have written := forall₂_spells_words small perm
    refine ⟨(read?_flatten_iff written).mpr asks, ?_⟩
    intro groups spelled
    exact (read?_flatten_iff spelled).mpr asks

/-- Values that look like options, a number with a sign and a zero in front, and a path that stands
alone. -/
theorem read?_optionLike_values :
    read? ["--templates", "--demo", "--mcp-http-port", "+065535", "--program", "-x.json"] =
        some { endpoint? := some 65535, program? := some "-x.json", templates? := some "--demo" } ∧
      read? ["x.json", "--no-mcp"] = read? ["--no-mcp", "x.json"] := by
  constructor
  · let o : Options :=
      { endpoint? := some 65535, program? := some "-x.json", templates? := some "--demo" }
    have small : ∀ n, o.endpoint? = some n → n < 2 ^ 16 := by
      rintro n ⟨⟩
      decide
    have agree : ∀ s t, o.Holds s → o.Holds t → ¬ Conflict s.kind t.kind := by
      intro s t one other conflict
      have contradictory : o.conflicts = true :=
        conflicts_eq_true_iff.mpr ⟨s, t, one, other, conflict⟩
      cases contradictory
    have perm : [.templates "--demo", .endpoint 65535, .program "-x.json"].Perm o.settings := by
      decide
    have number : readEndpoint "+065535" = some 65535 := by decide +kernel
    obtain ⟨denotes, below⟩ := readEndpoint_eq_some_iff.mp number
    exact (read?_iff_spelled.2.2 o small agree _ perm).2
      [["--templates", "--demo"], ["--mcp-http-port", "+065535"], ["--program", "-x.json"]]
      (.cons (.templates _) (.cons (.endpoint denotes below) (.cons (.program _) .nil)))
  · exact read?_iff_spelled.2.1 [["--no-mcp"], ["x.json"]] [["x.json"], ["--no-mcp"]]
      [.noServer, .program "x.json"] (.cons .noServer (.cons (.word (by decide)) .nil)) (.swap ..)

end AsmView.Options

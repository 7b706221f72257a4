import Mathlib.Data.List.Basic
import Mathlib.Data.List.Induction
import TokenSeal.Proofs.Settings.Secret

/-!
# Which source a setting comes from

A field takes the value of the highest source that gives it one: arguments over the environment, the
environment over the settings file (`Sources.Selects`). As long as no source has two names that
differ in case only, that is one value or none, and what `Sources.select` finds. A load depends on
these values alone, field by field (`load_eq_ok_iff`, `load_eq_error_iff`), so what a lower source
says about a field changes nothing, and neither does any other name: `load_takes_highest_source`.
-/

namespace TokenSeal

/-- Whether two texts differ in nothing but the case of their letters, where these are those of
ASCII or have such a letter as their lower-case form. -/
def Text.SameUpToCase (t u : Text) : Prop :=
  t.map CodePoint.toLowerAscii = u.map CodePoint.toLowerAscii

instance (t u : Text) : Decidable (t.SameUpToCase u) :=
  inferInstanceAs (Decidable (_ = _))

/-! ### Tables with distinct names -/

namespace Entries

variable {α : Type}

theorem get?_eq_none_iff {es : Entries α} {name : Text} :
    es.get? name = none ↔ ∀ e ∈ es, e.1 ≠ name := by
  induction es with
  | nil => simp [get?]
  | cons e es ih =>
    obtain ⟨n, b⟩ := e
    rw [get?, List.forall_mem_cons]
    by_cases hn : n = name <;> simp [hn, ih]

/-- Where names differ, an entry is found by its name. -/
theorem get?_eq_some_iff {es : Entries α} (h : es.Pairwise fun e e' => e.1 ≠ e'.1) {name : Text}
    {a : α} : es.get? name = some a ↔ (name, a) ∈ es := by
  induction es with
  | nil => simp [get?]
  | cons e es ih =>
    obtain ⟨n, b⟩ := e
    obtain ⟨hhead, htail⟩ := List.pairwise_cons.1 h
    rw [get?, List.mem_cons, Prod.mk.injEq]
    by_cases hn : n = name
    · subst hn
      have hnot : (n, a) ∉ es := fun hmem => hhead _ hmem rfl
      simp [hnot, eq_comm]
    · rw [if_neg hn, ih htail]
      simp [Ne.symm hn]

/-- An entry with its name in lower case. -/
def lowered (e : Text × α) : Text × α := (e.1.map CodePoint.toLowerAscii, e.2)

/-- In lower case, the last entry of a name counts. -/
theorem get?_foldCase (es : Entries α) (name : Text) :
    (foldCase es).get? name = get? (es.reverse.map lowered) name := by
  induction es using List.reverseRecOn with
  | nil => rfl
  | append_singleton es e ih =>
    have hset : foldCase (es ++ [e]) = (foldCase es).set (lowered e).1 e.2 := by
      show (es ++ [e]).foldl _ [] = _
      rw [List.foldl_append]
      rfl
    rw [hset, get?_set, ih, List.reverse_concat, List.map_cons, lowered, get?]
    simp only [eq_comm]

/-- Where names differ in more than their case, folding it loses none. -/
theorem get?_foldCase_eq_some_iff {es : Entries α}
    (h : es.Pairwise fun e e' => ¬ e.1.SameUpToCase e'.1) {name : Text} {a : α} :
    es.foldCase.get? name = some a ↔
      ∃ n, (n, a) ∈ es ∧ n.map CodePoint.toLowerAscii = name := by
  have hdistinct : (es.reverse.map lowered).Pairwise fun e e' => e.1 ≠ e'.1 :=
    List.pairwise_map.2 (List.pairwise_reverse.2 (h.imp Ne.symm))
  rw [get?_foldCase, get?_eq_some_iff hdistinct]
  simp [lowered]

end Entries

namespace Settings

/-! ### The source of a value -/

/-- The name of the variable that gives a field, as it is usually written. -/
def Field.capitals : Field → String
  | .algorithm => "TOKENSIGN_ALGORITHM"
  | .secret => "TOKENSIGN_SECRET"
  | .logLevel => "TOKENSIGN_LOG_LEVEL"
  | .logJson => "TOKENSIGN_LOG_JSON"

/-- Whether a name is that of a field's variable, in any mixture of cases. -/
def Field.HasVariable (f : Field) (name : Text) : Prop :=
  name.SameUpToCase (Text.ofString f.capitals)

theorem Field.hasVariable_iff {f : Field} {name : Text} :
    f.HasVariable name ↔ name.map CodePoint.toLowerAscii = f.variableName := by
  have h : (Text.ofString f.capitals).map CodePoint.toLowerAscii = f.variableName := by
    cases f <;> decide
  rw [Field.HasVariable, Text.SameUpToCase, h]

namespace Sources

/-- What can give a field a value. -/
inductive Level
  | argument
  | environment
  | file

/-- The sources that count more. -/
def Level.above : Level → List Level
  | .argument => []
  | .environment => [.argument]
  | .file => [.argument, .environment]

theorem Level.forall_iff {p : Level → Prop} :
    (∀ level, p level) ↔ p .argument ∧ p .environment ∧ p .file :=
  ⟨fun h => ⟨h _, h _, h _⟩, fun h level => by cases level <;> simp [h]⟩

theorem Level.exists_iff {p : Level → Prop} :
    (∃ level, p level) ↔ p .argument ∨ p .environment ∨ p .file := by
  constructor
  · rintro ⟨_ | _ | _, h⟩ <;> simp [h]
  · rintro (h | h | h) <;> exact ⟨_, h⟩

/-- Whether a source gives a field a value. Null is a value and so is an empty variable, but a name
in the file may have no value. -/
def Gives (s : Sources) (f : Field) (v : Value) : Level → Prop
  | .argument => (Text.ofString f.name, v) ∈ s.arguments
  | .environment => ∃ t, (∃ name, (name, t) ∈ s.environment ∧ f.HasVariable name) ∧ .text t = v
  | .file => ∃ t, (∃ name, (name, some t) ∈ s.file ∧ f.HasVariable name) ∧ .text t = v

/-- Whether a field has its value from the highest source that gives it one, or has none since no
source does. -/
def Selects (s : Sources) (f : Field) : Option Value → Prop
  | some v => ∃ level, s.Gives f v level ∧ ∀ higher ∈ level.above, ∀ w, ¬ s.Gives f w higher
  | none => ∀ level w, ¬ s.Gives f w level

/-- Whether the names of each source are distinct, those of variables up to case. -/
structure Distinct (s : Sources) : Prop where
  arguments : s.arguments.Pairwise fun e e' => e.1 ≠ e'.1
  environment : s.environment.Pairwise fun e e' => ¬ e.1.SameUpToCase e'.1
  file : s.file.Pairwise fun e e' => ¬ e.1.SameUpToCase e'.1

/-- The value that a field takes from a source. -/
def value? (s : Sources) (f : Field) : Level → Option Value
  | .argument => s.argument? f
  | .environment => (s.inEnvironment? f).map .text
  | .file => (s.inFile? f).map .text

variable {s s' : Sources} {f : Field}

/-- In distinct sources, a field takes from each source what that gives it. -/
theorem value?_eq_some_iff (h : s.Distinct) {level : Level} {v : Value} :
    s.value? f level = some v ↔ s.Gives f v level := by
  cases level with
  | argument => exact Entries.get?_eq_some_iff h.arguments
  | environment =>
    simp only [value?, Gives, inEnvironment?, Option.map_eq_some_iff,
      Entries.get?_foldCase_eq_some_iff h.environment, Field.hasVariable_iff]
  | file =>
    simp only [value?, Gives, inFile?, Option.map_eq_some_iff, Option.join_eq_some_iff,
      Entries.get?_foldCase_eq_some_iff h.file, Field.hasVariable_iff]

/-- **Selection.** In distinct sources, the value of a field is the one that `select` chooses. -/
theorem select_eq_iff (h : s.Distinct) {v? : Option Value} :
    s.select f = v? ↔ s.Selects f v? := by
  have hselect : s.select f =
      (s.value? f .argument <|> s.value? f .environment <|> s.value? f .file) := rfl
  have hnone (level : Level) : (∀ w, ¬ s.value? f level = some w) ↔ s.value? f level = none :=
    Option.eq_none_iff_forall_ne_some.symm
  rw [hselect]
  cases v? with
  | none =>
    simp only [Selects, Level.forall_iff, ← value?_eq_some_iff h, hnone]
    cases s.value? f .argument <;> cases s.value? f .environment <;> simp
  | some v =>
    simp only [Selects, Level.exists_iff, Level.above, List.forall_mem_cons,
      ← value?_eq_some_iff h, hnone]
    cases s.value? f .argument <;> cases s.value? f .environment <;> simp

theorem Level.mem_above_trans {level higher highest : Level} (h : higher ∈ level.above)
    (h' : highest ∈ higher.above) : highest ∈ level.above := by
  cases level <;> cases higher <;> simp_all [Level.above]

/-- Whether sources differ from others below the selected values only: a source may give a field
something else, or nothing, where a higher one gives it a value. -/
def DifferBelow (s s' : Sources) : Prop :=
  ∀ f level, (∀ higher ∈ level.above, ∀ w, ¬ s.Gives f w higher) →
    ∀ v, s.Gives f v level ↔ s'.Gives f v level

/-- What is below the source that gives a field its value does not matter. -/
theorem Selects.of_differBelow (hbelow : s.DifferBelow s') {v? : Option Value}
    (h : s.Selects f v?) : s'.Selects f v? := by
  cases v? with
  | none =>
    intro level w hw
    have habove : ∀ higher ∈ level.above, ∀ w, ¬ s.Gives f w higher := fun higher _ => h higher
    exact h level w ((hbelow f level habove w).2 hw)
  | some v =>
    obtain ⟨level, hgives, habove⟩ := h
    refine ⟨level, (hbelow f level habove v).1 hgives, ?_⟩
    intro higher hhigher w hw
    -- what is above a higher source is above this one, too
    have hhighest : ∀ highest ∈ higher.above, ∀ w, ¬ s.Gives f w highest :=
      fun highest hmem => habove highest (Level.mem_above_trans hhigher hmem)
    exact habove higher hhigher w ((hbelow f higher hhighest w).2 hw)

theorem select_eq_of_differBelow (h : s.Distinct) (h' : s'.Distinct)
    (hbelow : s.DifferBelow s') (f : Field) : s.select f = s'.select f :=
  ((select_eq_iff h').2 (((select_eq_iff h).1 rfl).of_differBelow hbelow)).symm

end Sources

/-! ### Loading -/

/-- Why a check refuses a value, if it does. -/
def refusal? {α : Type} : Except Cause α → Option Cause
  | .ok _ => none
  | .error cause => some cause

/-- Why a field refuses a value, if it does. -/
def Field.refusal? (v : Value) : Field → Option Cause
  | .algorithm => Settings.refusal? (validAlgorithm v)
  | .secret => Settings.refusal? (validSecret v)
  | .logLevel => Settings.refusal? (validLevel v)
  | .logJson => Settings.refusal? (validBoolean v)

/-- The fields in the order in which they are reported. -/
def Field.inOrder : List Field := [.algorithm, .secret, .logLevel, .logJson]

/-- The order of reports has every field. -/
theorem Field.mem_inOrder (f : Field) : f ∈ inOrder := by
  cases f <;> decide

/-- The problem of a field with the value that it takes, if it takes one. -/
def Field.problem? (v? : Option Value) (f : Field) : Option Problem :=
  (v?.bind fun v => f.refusal? v).map (Problem.mk f)

/-- What a field becomes: its default if it takes no value, and otherwise the value as its check
gives it. -/
def Becomes {α : Type} (valid : Value → Except Cause α) (default : α) : Option Value → α → Prop
  | none, a => a = default
  | some v, a => valid v = .ok a

variable {s s' : Sources}

theorem field_eq_ok_iff {f : Field} {α : Type} {valid : Value → Except Cause α} {default a : α} :
    field s f valid default = .ok a ↔ Becomes valid default (s.select f) a := by
  unfold field
  cases s.select f with
  | none => simp [Becomes, eq_comm]
  | some v => rfl

/-- Settings are loaded iff every field has become something. -/
theorem load_eq_ok_iff {st : Settings} :
    load s = .ok st ↔
      Becomes validAlgorithm .hs256 (s.select .algorithm) st.algorithm ∧
      Becomes validSecret none (s.select .secret) st.secret ∧
      Becomes validLevel (Text.ofString "INFO") (s.select .logLevel) st.logLevel ∧
      Becomes validBoolean false (s.select .logJson) st.logJson := by
  obtain ⟨algorithm, secret, logLevel, logJson⟩ := st
  simp only [← field_eq_ok_iff]
  dsimp only [load]
  cases field s .algorithm validAlgorithm .hs256 <;>
    cases field s .secret validSecret none <;>
    cases field s .logLevel validLevel (Text.ofString "INFO") <;>
    cases field s .logJson validBoolean false <;>
    simp

theorem problem_field {f : Field} {α : Type} {valid : Value → Except Cause α} {default : α} :
    problem f (field s f valid default) =
      (((s.select f).bind fun v => refusal? (valid v)).map (Problem.mk f)).toList := by
  unfold field
  cases s.select f with
  | none => rfl
  | some v => cases h : valid v <;> simp [problem, refusal?, h]

/-- The problems are those of the fields, in order. -/
theorem load_eq_error_iff {problems : List Problem} :
    load s = .error problems ↔
      problems ≠ [] ∧ problems = Field.inOrder.filterMap fun f => f.problem? (s.select f) := by
  have hproblems : (Field.inOrder.filterMap fun f => f.problem? (s.select f)) =
      problem .algorithm (field s .algorithm validAlgorithm .hs256) ++
        problem .secret (field s .secret validSecret none) ++
        problem .logLevel (field s .logLevel validLevel (Text.ofString "INFO")) ++
        problem .logJson (field s .logJson validBoolean false) := by
    simp only [problem_field, List.filterMap_eq_flatMap_toList, Field.problem?, Field.inOrder,
      List.flatMap_cons, List.flatMap_nil, Field.refusal?, List.append_nil, List.append_assoc]
  rw [hproblems]
  dsimp only [load]
  cases field s .algorithm validAlgorithm .hs256 <;>
    cases field s .secret validSecret none <;>
    cases field s .logLevel validLevel (Text.ofString "INFO") <;>
    cases field s .logJson validBoolean false <;>
    grind [problem]

theorem exists_load_eq_ok_iff :
    (∃ st, load s = .ok st) ↔ ∀ f v, s.select f = some v → f.refusal? v = none := by
  have hnil : (Field.inOrder.filterMap fun f => f.problem? (s.select f)) = [] ↔
      ∀ f v, s.select f = some v → f.refusal? v = none := by
    simp [List.filterMap_eq_nil_iff, Field.mem_inOrder, Field.problem?]
  rw [← hnil]
  constructor
  · rintro ⟨st, hst⟩
    by_contra hproblems
    rw [load_eq_error_iff.2 ⟨hproblems, rfl⟩] at hst
    cases hst
  · intro hproblems
    cases hload : load s with
    | ok st => exact ⟨st, rfl⟩
    | error problems =>
      obtain ⟨hne, heq⟩ := load_eq_error_iff.1 hload
      exact absurd (heq.trans hproblems) hne

/-- A load depends on what is selected only. -/
theorem load_congr (h : ∀ f, s.select f = s'.select f) : load s = load s' := by
  unfold load
  simp only [field_congr (h _)]

/-- What the settings file of a system binds. -/
def System.bindings (system : System) : Entries (Option Text) :=
  match system.file with
  | none => []
  | some text => EnvFile.values system.environment (EnvFile.read text)

/-- Arguments whose names do not begin with an underscore leave the settings file on. -/
theorem System.load_of_arguments (system : System) {arguments : Entries Value}
    (h : ∀ e ∈ arguments, e.1.head? ≠ some '_') :
    system.load arguments =
      Settings.load { arguments, environment := system.environment, file := system.bindings } := by
  have hfile : arguments.get? fileArgument = none := by
    refine Entries.get?_eq_none_iff.2 fun e he hname => h e he ?_
    rw [hname]
    rfl
  unfold System.load System.sources System.bindings
  rw [hfile]
  cases system.file <;> rfl

/-- **Each field from its highest source.** In distinct sources every field has one selection, and a
load is made of these four. It succeeds iff no selected value is refused, a field without one having
its default, and otherwise it lists the fields that refuse theirs, in order. So loads are the same
where sources differ below the selected values only, even by values that would be refused, or under
names that are no field's. A load with arguments whose names have no underscore in front is one from
these arguments, the environment, and what the settings file binds. -/
theorem load_takes_highest_source :
    (∀ s : Sources, s.Distinct → ∃ chosen : Field → Option Value,
      (∀ f v?, s.Selects f v? ↔ chosen f = v?) ∧
      (∀ st, load s = .ok st ↔
        Becomes validAlgorithm .hs256 (chosen .algorithm) st.algorithm ∧
        Becomes validSecret none (chosen .secret) st.secret ∧
        Becomes validLevel (Text.ofString "INFO") (chosen .logLevel) st.logLevel ∧
        Becomes validBoolean false (chosen .logJson) st.logJson) ∧
      ((∃ st, load s = .ok st) ↔ ∀ f v, chosen f = some v → f.refusal? v = none) ∧
      ∀ problems, load s = .error problems ↔
        problems ≠ [] ∧ problems = Field.inOrder.filterMap fun f => f.problem? (chosen f)) ∧
    (∀ s s' : Sources, s.Distinct → s'.Distinct → s.DifferBelow s' → load s = load s') ∧
    (∀ (system : System) (arguments : Entries Value),
      (∀ e ∈ arguments, e.1.head? ≠ some '_') →
      system.load arguments =
        load { arguments, environment := system.environment, file := system.bindings }) := by
  refine ⟨?_, ?_, ?_⟩
  · intro s h
    refine ⟨s.select, ?_, ?_, exists_load_eq_ok_iff, ?_⟩
    · intro f v?
      exact (Sources.select_eq_iff h).symm
    · intro st
      exact load_eq_ok_iff
    · intro problems
      exact load_eq_error_iff
  · intro s s' h h' hbelow
    exact load_congr (Sources.select_eq_of_differBelow h h' hbelow)
  · intro system arguments h
    exact system.load_of_arguments h

/-- Sources that give three of the fields more than one value, and name the variable of the fourth
without one. -/
def overridden : Sources where
  arguments := [(Text.ofString "secret", .null), (Text.ofString "colour", .int 1)]
  environment :=
    [(Text.ofString "Tokensign_Secret", Text.ofString "k"),
      (Text.ofString "TOKENSIGN_ALGORITHM", Text.ofString "HS512"),
      (Text.ofString "TOKENSIGN_LOG_LEVEL", [])]
  file :=
    [(Text.ofString "tokensign_algorithm", some (Text.ofString "none")),
      (Text.ofString "TOKENSIGN_LOG_LEVEL", some (Text.ofString "DEBUG")),
      (Text.ofString "TOKENSIGN_LOG_JSON", none)]

/-- Null stands for no secret although there is a variable, the empty variable is a log level, and
without its invalid algorithm the file loads the same. On its own, it fails for that algorithm. -/
theorem load_takes_highest_source_overridden :
    load overridden =
      .ok { algorithm := .hs512, secret := none, logLevel := [], logJson := false } ∧
    load overridden = load { overridden with file := [] } ∧
    load { overridden with arguments := [], environment := [] } =
      .error [⟨.algorithm, .noAlgorithm⟩] := by
  have hdistinct : overridden.Distinct := ⟨by decide, by decide, by decide⟩
  have hbare : Sources.Distinct { overridden with file := [] } := ⟨by decide, by decide, by decide⟩
  have hfile : Sources.Distinct { overridden with arguments := [], environment := [] } :=
    ⟨by decide, by decide, by decide⟩
  obtain ⟨hresolves, hbelow, -⟩ := load_takes_highest_source
  refine ⟨?_, hbelow _ _ hdistinct hbare fun f level habove v => ?_, ?_⟩
  · obtain ⟨chosen, hchosen, hok, -⟩ := hresolves overridden hdistinct
    have hselect (f : Field) : chosen f = overridden.select f :=
      (hchosen f _).1 ((Sources.select_eq_iff hdistinct).1 rfl)
    simp only [hselect] at hok
    exact (hok _).2 ⟨rfl, rfl, rfl, rfl⟩
  · rw [← Sources.value?_eq_some_iff hdistinct, ← Sources.value?_eq_some_iff hbare]
    cases level with
    | file =>
      have hnone (higher : Sources.Level) (hhigher : higher ∈ Sources.Level.file.above) :
          overridden.value? f higher = none :=
        Option.eq_none_iff_forall_ne_some.2 fun w hw =>
          habove higher hhigher w ((Sources.value?_eq_some_iff hdistinct).1 hw)
      cases f with
      | secret => exact absurd (hnone .argument (.head _)) (Option.some_ne_none _)
      | logJson => rfl
      | _ => exact absurd (hnone .environment (.tail _ (.head _))) (Option.some_ne_none _)
    | _ => rfl
  · obtain ⟨chosen, hchosen, -, -, herror⟩ := hresolves _ hfile
    have hselect (f : Field) : chosen f = Sources.select _ f :=
      (hchosen f _).1 ((Sources.select_eq_iff hfile).1 rfl)
    simp only [hselect] at herror
    exact (herror _).2 ⟨List.cons_ne_nil _ _, rfl⟩

end Settings

end TokenSeal

import TokenSeal.Proofs.Session.Refinement
import TokenSeal.Proofs.Settings.Secret

/-!
# Sessions keep secrets

Two runs of the same steps whose recipes have different valid secrets (`Step.Alike`) cannot be told
apart except by the texts of signatures and by verdicts. What is left to see is the answer with
those masked (`Answer.masked`). The events of a run tell the verdicts, so they are masked with them;
but once the verdicts are the same, the events are too.

The verdicts of a run are a list of their own (`verdicts`), because answers do not hold all of them:
a failure that ends a block drops the results of the block but not what they logged. `SameView` is
what two performances have in common, from stores of one outline. Steps that are alike have the same
view (`Step.Alike.sameView`), and runs inherit it from their steps (`run_sameView`).
-/

namespace TokenSeal.Session

/-! ### Stores of one outline -/

namespace Store

/-- The outlines of all keys, and the names. -/
def outline (s : Store) : List (Algorithm × Bool) × Entries Nat := (s.keys.map Key.outline, s.names)

variable {s s' : Store}

/-- A name means no key in both stores, or keys of one outline under one number. -/
theorem find?_alike (h : s.outline = s'.outline) (name : Text) :
    (s.find? name = none ∧ s'.find? name = none) ∨
      ∃ n k k', s.find? name = some (n, k) ∧ s'.find? name = some (n, k') ∧
        k.outline = k'.outline := by
  obtain ⟨hkeys, hnames⟩ := Prod.mk.inj h
  unfold find?
  rw [hnames]
  cases s'.names.get? name with
  | none => exact .inl ⟨rfl, rfl⟩
  | some n =>
    have hn : (s.keys[n]?).map Key.outline = (s'.keys[n]?).map Key.outline := by
      rw [← List.getElem?_map, ← List.getElem?_map, hkeys]
    cases hk : s.keys[n]? with
    | none =>
      rw [hk] at hn
      exact .inl ⟨by simp [hk], by simp [Option.map_eq_none_iff.1 hn.symm]⟩
    | some k =>
      rw [hk] at hn
      obtain ⟨k', hk', hout⟩ := Option.map_eq_some_iff.1 hn.symm
      exact .inr ⟨n, k, k', by simp [hk], by simp [hk'], hout.symm⟩

theorem closed?_eq (h : s.outline = s'.outline) (name : Text) :
    s.closed? name = s'.closed? name := by
  unfold closed?
  rcases find?_alike h name with ⟨hs, hs'⟩ | ⟨n, k, k', hs, hs', hout⟩
  · rw [hs, hs']
  · rw [hs, hs']
    exact congrArg some (Key.closed_eq hout)

theorem outline_bind (h : s.outline = s'.outline) {k k' : Key} (hk : k.outline = k'.outline)
    (name : Text) : (s.bind name k).outline = (s'.bind name k').outline := by
  obtain ⟨hkeys, hnames⟩ := Prod.mk.inj h
  have hlength : s.keys.length = s'.keys.length := by simpa using congrArg List.length hkeys
  simp [outline, bind, hkeys, hnames, hk, hlength]

theorem outline_close (h : s.outline = s'.outline) (n : Nat) :
    (s.close n).outline = (s'.close n).outline := by
  have hclose (s : Store) : (s.close n).outline =
      (s.outline.1.modify n fun o => (o.1, true), s.outline.2) :=
    congrArg (·, s.names) (map_modify Key.outline_close s.keys n)
  rw [hclose, hclose, h]

end Store

/-! ### Steps that are alike -/

section

variable (system system' : Settings.System)

/-- Recipes that differ in nothing but valid secrets, given as they are or by the settings that are
loaded. -/
inductive Recipe.Alike : Recipe → Recipe → Prop
  | secret {raw raw' : Value} (h : raw.SecretsAlike raw') (hash : Value) :
    Alike (.secret raw hash) (.secret raw' hash)
  | algorithm (tag : Value) {raw raw' : Value} (h : raw.SecretsAlike raw') :
    Alike (.algorithm tag raw) (.algorithm tag raw')
  | settings {arguments arguments' : Entries Value}
    (h : FailAlike Settings.SecretsAlike (system.load arguments) (system'.load arguments')) :
    Alike (.settings arguments) (.settings arguments')

/-- Steps that differ in nothing but the secrets of their recipes. -/
inductive Step.Alike : Step → Step → Prop
  | build (name : Text) {recipe recipe' : Recipe} (h : recipe.Alike system system' recipe') :
    Alike (.build name recipe) (.build name recipe')
  | use (name : Text) (use : Use) : Alike (.use name use) (.use name use)
  | within (name : Text) (propagates : Bool) {body body' : List Step}
    (h : List.Forall₂ Alike body body') :
    Alike (.within name propagates body) (.within name propagates body')

end

variable {system system' : Settings.System}

/-- Recipes that are alike fail alike, or build keys of one outline. -/
theorem Recipe.Alike.build_alike {recipe recipe' : Recipe}
    (h : recipe.Alike system system' recipe') :
    FailAlike (fun k k' => k.outline = k'.outline) (recipe.build system)
      (recipe'.build system') := by
  cases h with
  | secret h hash => exact (Key.ofSecret_alike h hash).mapError _
  | algorithm tag h => exact (Key.ofAlgorithm_alike h tag).mapError _
  | @settings arguments arguments' h =>
    simp only [build]
    generalize system.load arguments = x, system'.load arguments' = x' at h
    cases h with
    | error problems => exact .error _
    | ok h => exact (Settings.ofSettings_alike h).mapError _

/-! ### What an observer is left to see -/

mutual

/-- A result with the texts of signatures masked, and also its verdicts and what they logged, unless
`verdicts` are known. -/
def Result.masked (verdicts : Bool) : Result → Result
  | .nothing => .nothing
  | .shown form => .shown form
  | .signature _ => .signature []
  | .verdict valid => .verdict (verdicts && valid)
  | .info a signatureLength closed => .info a signatureLength closed
  | .answers body => .answers (Answer.allMasked verdicts body)
  | .results body => .results (Result.allMasked verdicts body)

/-- An answer with its result masked. -/
def Answer.masked (verdicts : Bool) : Answer → Answer
  | .of (.ok result) closed journal =>
    .of (.ok (result.masked verdicts)) closed (if verdicts then journal else [])
  | .of (.error fault) closed journal =>
    .of (.error fault) closed (if verdicts then journal else [])

/-- Several results, each masked. -/
def Result.allMasked (verdicts : Bool) : List Result → List Result
  | [] => []
  | result :: results => result.masked verdicts :: Result.allMasked verdicts results

/-- Several answers, each masked. -/
def Answer.allMasked (verdicts : Bool) : List Answer → List Answer
  | [] => []
  | answer :: answers => answer.masked verdicts :: Answer.allMasked verdicts answers

end

/-! ### The verdicts of a run -/

/-- The verdict of a comparison, under the algorithm of the key, if it reaches one. -/
def reached (a : Algorithm) : Except Failure Bool → List (Algorithm × Bool)
  | .ok valid => [(a, valid)]
  | .error _ => []

/-- The verdict of a use. -/
def Use.verdicts (k : Key) : Use → List (Algorithm × Bool)
  | .verify header claims signature | .function (.verify header claims signature) =>
    reached k.algorithm (k.verify header claims signature []).1
  | .verifyBytes header claims signature | .function (.verifyBytes header claims signature) =>
    reached k.algorithm (k.verifyBytes header claims signature []).1
  | .sign .. | .function (.sign ..) | .close | .shown | .info => []

theorem Use.verdicts_function (k : Key) (operation : Operation) :
    (Use.function operation).verdicts k = operation.method.verdicts k := by
  cases operation <;> rfl

mutual

/-- The verdicts that performing a step reaches, in order, those inside of blocks too. -/
def Step.verdicts (system : Settings.System) (store : Store) : Step → List (Algorithm × Bool)
  | .build _ _ => []
  | .use name use =>
    match store.find? name with
    | none => []
    | some (_, k) => use.verdicts k
  | .within name propagates body =>
    match store.find? name with
    | none => []
    | some _ =>
      if propagates then verdictsUntilFault system store body else verdicts system store body

/-- The verdicts of a run, in order. -/
def verdicts (system : Settings.System) (store : Store) : List Step → List (Algorithm × Bool)
  | [] => []
  | step :: steps =>
    step.verdicts system store ++ verdicts system (perform system store step).store steps

/-- The verdicts of steps up to the first that fails. -/
def verdictsUntilFault (system : Settings.System) (store : Store) :
    List Step → List (Algorithm × Bool)
  | [] => []
  | step :: steps =>
    let p := perform system store step
    match p.outcome with
    | .error _ => step.verdicts system store
    | .ok _ => step.verdicts system store ++ verdictsUntilFault system p.store steps

end

/-! ### One step of two runs -/

/-- What two performances, with their verdicts, have in common. -/
structure SameView {α : Type} (masked : Bool → α → α) (p q : Performed α)
    (vs ws : List (Algorithm × Bool)) : Prop where
  store : p.store.outline = q.store.outline
  /-- The verdicts are as many, under the same algorithms. -/
  asked : vs.map Prod.fst = ws.map Prod.fst
  /-- Both fail for the same reason, or show the same. -/
  outcome : FailAlike (fun a b => masked false a = masked false b) p.outcome q.outcome
  /-- With the same verdicts, both log the same. -/
  journal : vs = ws → p.journal = q.journal
  /-- With the same verdicts, both show the same, verdicts and events included. -/
  known : vs = ws → FailAlike (fun a b => masked true a = masked true b) p.outcome q.outcome

/-- Performances without verdicts and events, with the same to see in their outcomes. -/
theorem SameView.silent {α : Type} {masked : Bool → α → α} {x y : Except Fault α} {s s' : Store}
    (hs : s.outline = s'.outline)
    (h : ∀ verdicts, FailAlike (fun a b => masked verdicts a = masked verdicts b) x y) :
    SameView masked ⟨x, [], s⟩ ⟨y, [], s'⟩ [] [] :=
  ⟨hs, rfl, h false, fun _ => rfl, fun _ => h true⟩

/-- A verdict and what it logs. -/
theorem sameView_ofVerdict {s s' : Store} (hs : s.outline = s'.outline) (a : Algorithm)
    {v v' : Except Failure Bool × Log.Journal} (h : FailAlike (fun _ _ => True) v.1 v'.1)
    (hv : v.2 = [] ++ Key.logged a v.1) (hv' : v'.2 = [] ++ Key.logged a v'.1) :
    SameView Result.masked (ofVerdict s v) (ofVerdict s' v') (reached a v.1) (reached a v'.1) := by
  obtain ⟨x, journal⟩ := v
  obtain ⟨x', journal'⟩ := v'
  obtain rfl : journal = [] ++ Key.logged a x := hv
  obtain rfl : journal' = [] ++ Key.logged a x' := hv'
  cases h with
  | error e => exact ⟨hs, rfl, .error _, fun _ => rfl, fun _ => .error _⟩
  | @ok valid valid' _ =>
    have hvalid : reached a (.ok valid) = reached a (.ok valid') → valid = valid' := by
      simp [reached]
    refine ⟨hs, rfl, .ok rfl, fun heq => ?_, fun heq => ?_⟩
    · rw [hvalid heq]
      rfl
    · rw [hvalid heq]
      exact .ok rfl

/-- Uses of two keys of one outline. -/
theorem Use.sameView {s s' : Store} (hs : s.outline = s'.outline) (n : Nat) {k k' : Key}
    (hk : k.outline = k'.outline) (use : Use) :
    SameView Result.masked (use.perform s n k) (use.perform s' n k') (use.verdicts k)
      (use.verdicts k') := by
  induction use using Use.induct with
  | sign header claims =>
    refine .silent hs fun _ => ((Key.sign_alike hk header claims).map fun _ _ _ => ?_).mapError _
    rfl
  | verify header claims signature =>
    have hv := k.verify_snd header claims signature []
    have hv' := k'.verify_snd header claims signature []
    simp only [Use.perform, Use.verdicts]
    rw [← Key.algorithm_eq hk] at hv' ⊢
    exact sameView_ofVerdict hs k.algorithm (Key.verify_alike hk header claims signature []) hv hv'
  | verifyBytes header claims signature =>
    have hv := k.verifyBytes_snd header claims signature []
    have hv' := k'.verifyBytes_snd header claims signature []
    simp only [Use.perform, Use.verdicts]
    rw [← Key.algorithm_eq hk] at hv' ⊢
    exact sameView_ofVerdict hs k.algorithm (Key.verifyBytes_alike hk header claims signature []) hv
      hv'
  | close => exact .silent (Store.outline_close hs n) fun _ => .ok rfl
  | shown =>
    refine .silent hs fun _ => .ok ?_
    rw [Key.shown_eq hk]
  | info =>
    refine .silent hs fun _ => .ok ?_
    rw [Key.algorithm_eq hk, Key.signatureLength_eq hk, Key.closed_eq hk]
  | function operation ih =>
    rw [Use.perform_function, Use.perform_function, Use.verdicts_function, Use.verdicts_function]
    exact ih

/-- Answers of outcomes with the same to see. -/
theorem Answer.masked_of {verdicts : Bool} {x y : Except Fault Result}
    (h : FailAlike (fun a b => a.masked verdicts = b.masked verdicts) x y) (closed : Option Bool)
    (journal journal' : Log.Journal) (hj : verdicts = true → journal = journal') :
    (Answer.of x closed journal).masked verdicts =
      (Answer.of y closed journal').masked verdicts := by
  have hjournal : (if verdicts then journal else []) = if verdicts then journal' else [] := by
    cases verdicts with
    | true => exact hj rfl
    | false => rfl
  cases h with
  | error fault => rw [masked, masked, hjournal]
  | ok h => rw [masked, masked, h, hjournal]

/-- The two steps are about one name, and their performances from stores of one outline have the
same view. -/
structure Step.SameView (system system' : Settings.System) (step step' : Step) : Prop where
  name : step.name = step'.name
  view : ∀ s s' : Store, s.outline = s'.outline →
    Session.SameView Result.masked (perform system s step) (perform system' s' step')
      (step.verdicts system s) (step'.verdicts system' s')

/-- Verdicts that come from two parts each are the same if both parts are. -/
theorem append_verdicts_inj {vs vs' ws ws' : List (Algorithm × Bool)}
    (h : vs.map Prod.fst = ws.map Prod.fst) (heq : vs ++ vs' = ws ++ ws') : vs = ws ∧ vs' = ws' :=
  List.append_inj heq (by simpa using congrArg List.length h)

/-- Runs inherit the view from their steps. -/
theorem run_sameView {steps steps' : List Step}
    (h : List.Forall₂ (Step.SameView system system') steps steps') {s s' : Store}
    (hs : s.outline = s'.outline) :
    SameView Answer.allMasked ⟨.ok (run system s steps).1, [], (run system s steps).2⟩
      ⟨.ok (run system' s' steps').1, [], (run system' s' steps').2⟩ (verdicts system s steps)
      (verdicts system' s' steps') := by
  induction h generalizing s s' with
  | nil => exact .silent hs fun _ => .ok rfl
  | @cons step step' steps steps' hstep _ ih =>
    have hp := hstep.view s s' hs
    have hq := ih hp.store
    have hclosed : (perform system s step).store.closed? step.name =
        (perform system' s' step').store.closed? step'.name := by
      rw [hstep.name, Store.closed?_eq hp.store]
    simp only [run, verdicts]
    refine ⟨hq.store, ?_, .ok ?_, fun _ => rfl, fun heq => .ok ?_⟩
    · rw [List.map_append, List.map_append, hp.asked, hq.asked]
    · simp only [Answer.allMasked]
      rw [Answer.masked_of hp.outcome _ _ _ (fun h => by cases h), hclosed, hq.outcome.of_ok]
    · obtain ⟨hhead, htail⟩ := append_verdicts_inj hp.asked heq
      simp only [Answer.allMasked]
      rw [Answer.masked_of (hp.known hhead) _ _ _ (fun _ => hp.journal hhead), hclosed,
        (hq.known htail).of_ok]

/-- Bodies of propagating blocks inherit the view from their steps. -/
theorem runUntilFault_sameView {steps steps' : List Step}
    (h : List.Forall₂ (Step.SameView system system') steps steps') {s s' : Store}
    (hs : s.outline = s'.outline) :
    SameView Result.allMasked (runUntilFault system s steps) (runUntilFault system' s' steps')
      (verdictsUntilFault system s steps) (verdictsUntilFault system' s' steps') := by
  induction h generalizing s s' with
  | nil => exact .silent hs fun _ => .ok rfl
  | @cons step step' steps steps' hstep _ ih =>
    have hp := hstep.view s s' hs
    have hq := ih hp.store
    simp only [runUntilFault, verdictsUntilFault]
    -- both bodies end here, or neither does
    rcases hp.outcome.shape with ⟨fault, hx, hy⟩ | ⟨result, result', hx, hy, hmasked⟩
    · simp only [hx, hy]
      exact ⟨hp.store, hp.asked, .error fault, hp.journal, fun _ => .error fault⟩
    · simp only [hx, hy]
      refine ⟨hq.store, ?_, hq.outcome.map fun _ _ h => ?_, fun heq => ?_, fun heq => ?_⟩
      · rw [List.map_append, List.map_append, hp.asked, hq.asked]
      · rw [Result.allMasked, Result.allMasked, hmasked, h]
      · obtain ⟨hhead, htail⟩ := append_verdicts_inj hp.asked heq
        rw [hp.journal hhead, hq.journal htail]
      · obtain ⟨hhead, htail⟩ := append_verdicts_inj hp.asked heq
        have hknown := hp.known hhead
        rw [hx, hy] at hknown
        refine (hq.known htail).map fun _ _ h => ?_
        rw [Result.allMasked, Result.allMasked, hknown.of_ok, h]

/-- Building has nothing to show but the outline of the key. -/
theorem Recipe.Alike.sameView {recipe recipe' : Recipe} (h : recipe.Alike system system' recipe')
    (name : Text) : Step.SameView system system' (.build name recipe) (.build name recipe') := by
  refine ⟨rfl, fun s s' hs => ?_⟩
  unfold perform
  rcases h.build_alike.shape with ⟨fault, hx, hy⟩ | ⟨k, k', hx, hy, hk⟩
  · rw [hx, hy]
    exact .silent hs fun _ => .error fault
  · rw [hx, hy]
    refine .silent (Store.outline_bind hs hk name) fun _ => .ok ?_
    rw [Key.shown_eq hk]

theorem sameView_use (name : Text) (use : Use) :
    Step.SameView system system' (.use name use) (.use name use) := by
  refine ⟨rfl, fun s s' hs => ?_⟩
  unfold perform Step.verdicts
  rcases Store.find?_alike hs name with ⟨hx, hy⟩ | ⟨n, k, k', hx, hy, hk⟩
  · rw [hx, hy]
    exact .silent hs fun _ => .error _
  · rw [hx, hy]
    exact use.sameView hs n hk

/-- Blocks inherit the view from the steps of their bodies. -/
theorem sameView_within (name : Text) (propagates : Bool) {body body' : List Step}
    (h : List.Forall₂ (Step.SameView system system') body body') :
    Step.SameView system system' (.within name propagates body)
      (.within name propagates body') := by
  refine ⟨rfl, fun s s' hs => ?_⟩
  unfold perform Step.verdicts
  rcases Store.find?_alike hs name with ⟨hx, hy⟩ | ⟨n, k, k', hx, hy, hk⟩
  · rw [hx, hy]
    exact .silent hs fun _ => .error _
  · rw [hx, hy]
    cases propagates with
    | true =>
      have hview := runUntilFault_sameView h hs
      simp only [if_true]
      exact ⟨Store.outline_close hview.store n, hview.asked,
        hview.outcome.map fun _ _ h => congrArg Result.results h, hview.journal,
        fun heq => (hview.known heq).map fun _ _ h => congrArg Result.results h⟩
    | false =>
      have hview := run_sameView h hs
      simp only [Bool.false_eq_true, if_false]
      exact ⟨Store.outline_close hview.store n, hview.asked,
        .ok (congrArg Result.answers hview.outcome.of_ok), fun _ => rfl,
        fun heq => .ok (congrArg Result.answers (hview.known heq).of_ok)⟩

/-- Steps that are alike have the same view, by induction over the nesting of blocks. -/
theorem Step.Alike.sameView {step step' : Step} (h : step.Alike system system' step') :
    step.SameView system system' step' := by
  induction step using Step.induct generalizing step' with
  | build name recipe =>
    cases h with
    | build _ h => exact h.sameView name
  | use name use =>
    cases h
    exact sameView_use name use
  | within name propagates body ih =>
    cases h with
    | @within _ _ _ body' h =>
      have hsteps : ∀ step ∈ body, ∀ step', step.Alike system system' step' →
          step.SameView system system' step' := fun step hstep _ => ih step hstep
      have hbody := (List.forall₂_and_left body body').2 ⟨hsteps, h⟩
      exact sameView_within name propagates (hbody.imp fun _ _ h => h.1 _ h.2)

/-- **Runs of steps that are alike have the same view.** -/
theorem run_sameView_of_alike {steps steps' : List Step}
    (h : List.Forall₂ (Step.Alike system system') steps steps') :
    SameView Answer.allMasked ⟨.ok (run system {} steps).1, [], (run system {} steps).2⟩
      ⟨.ok (run system' {} steps').1, [], (run system' {} steps').2⟩ (verdicts system {} steps)
      (verdicts system' {} steps') :=
  run_sameView (h.imp fun _ _ h => h.sameView) rfl

/-- Verdicts under the same algorithms are the same if they say the same. -/
theorem verdicts_eq {vs ws : List (Algorithm × Bool)} (h : vs.map Prod.fst = ws.map Prod.fst)
    (h' : vs.map Prod.snd = ws.map Prod.snd) : vs = ws := by
  rw [List.zip_of_prod h rfl, h', ← List.zip_of_prod rfl rfl]

/-- **Secrets do not show.** Steps that differ in nothing but valid secrets answer alike, from any
stores of one outline and so at every point of two runs, inside blocks too: all that they may differ
in is what signs, what compares, and what a comparison logs. Whole runs therefore give the same
answers when signatures, verdicts and events are masked, and when the verdicts of both are the same,
they give the same answers with all events, only signatures masked. An argument can give settings
any two valid secrets. What is logged of a mismatch depends on the algorithm alone, and settings are
shown without a secret that is not empty. -/
theorem secrets_do_not_show :
    (∀ (system system' : Settings.System) step step', Step.Alike system system' step step' →
      Step.SameView system system' step step') ∧
    (∀ (system system' : Settings.System) steps steps',
      List.Forall₂ (Step.Alike system system') steps steps' →
      Answer.allMasked false (run system {} steps).1 =
          Answer.allMasked false (run system' {} steps').1 ∧
        ((verdicts system {} steps).map Prod.snd = (verdicts system' {} steps').map Prod.snd →
          Answer.allMasked true (run system {} steps).1 =
            Answer.allMasked true (run system' {} steps').1)) ∧
    (∀ (system : Settings.System) (arguments : Entries Value) v v' t t',
      Settings.validSecret v = .ok (some t) → Settings.validSecret v' = .ok (some t') →
      (t.isScalar = true ∧ t ≠ []) → (t'.isScalar = true ∧ t' ≠ []) →
      Recipe.Alike system system (.settings (arguments.set Settings.secretArgument v))
        (.settings (arguments.set Settings.secretArgument v'))) ∧
    (∀ a, ∃ event, ∀ k : Key, k.algorithm = a → ∀ header claims signature journal,
      ((k.verify header claims signature journal).1 = .ok false →
        (k.verify header claims signature journal).2 = journal ++ [event]) ∧
      ((k.verifyBytes header claims signature journal).1 = .ok false →
        (k.verifyBytes header claims signature journal).2 = journal ++ [event])) ∧
    (∀ (s : Settings) t t', t ≠ [] → t' ≠ [] →
      { s with secret := some t }.shown = { s with secret := some t' }.shown) := by
  refine ⟨fun _ _ _ _ h => h.sameView, ?_, ?_, ?_, fun s t t' => s.shown_secret⟩
  · intro system system' steps steps' h
    have hview := run_sameView_of_alike h
    refine ⟨hview.outcome.of_ok, fun hvalid => ?_⟩
    exact (hview.known (verdicts_eq hview.asked hvalid)).of_ok
  · intro system arguments v v' t t' hv hv' ht ht'
    exact .settings (system.load_set_secret arguments hv hv' (Value.isSecret_text_iff.2 ht)
      (Value.isSecret_text_iff.2 ht'))
  · intro a
    refine ⟨Key.mismatch a, ?_⟩
    rintro k rfl header claims signature journal
    constructor
    · intro h
      rw [k.verify_snd, h]
      rfl
    · intro h
      rw [k.verifyBytes_snd, h]
      rfl

/-- Two runs with the secrets `k` and `l`, given as they are and then by settings. Both keys find an
empty signature wrong, so the runs log the same and differ in the signature alone. -/
theorem secrets_do_not_show_two_secrets :
    Answer.allMasked true (run {} {} [
        .build [] (.secret (.bytes .bytes [0x6B]) (.hashClass Algorithm.hs256.hashClass)),
        .within [] false [.use [] (.verify (.text []) (.text []) (.text [])), .use [] .shown],
        .use [] (.sign (.text []) (.text [])),
        .build [] (.settings (.set Settings.secretArgument (.text (Text.ofString "k")) []))]).1 =
      Answer.allMasked true (run {} {} [
        .build [] (.secret (.bytes .bytes [0x6C]) (.hashClass Algorithm.hs256.hashClass)),
        .within [] false [.use [] (.verify (.text []) (.text []) (.text [])), .use [] .shown],
        .use [] (.sign (.text []) (.text [])),
        .build [] (.settings (.set Settings.secretArgument (.text (Text.ofString "l")) []))]).1 ∧
      (∃ event,
        ((Key.ofBytes .hs256 [0x6B]).verify (.text []) (.text []) (.text []) []).2 = [event] ∧
        ((Key.ofBytes .hs256 [0x6C]).verify (.text (Text.ofString "h")) (.text (Text.ofString "c"))
          (.text (Text.ofString "AA")) []).2 = [event]) ∧
      ({ secret := some (Text.ofString "k") } : Settings).shown =
        ({ secret := some (Text.ofString "l") } : Settings).shown := by
  have hverify (b : UInt8) : (Key.ofBytes .hs256 [b]).verify (.text []) (.text []) (.text []) [] =
      (.ok false, [Key.mismatch .hs256]) :=
    Key.verify_ofBytes_of_length_ne .hs256 [b] rfl rfl rfl (by decide) []
  have hverdicts (b : UInt8) (t : Text) : (verdicts {} {} [
      .build [] (.secret (.bytes .bytes [b]) (.hashClass Algorithm.hs256.hashClass)),
      .within [] false [.use [] (.verify (.text []) (.text []) (.text [])), .use [] .shown],
      .use [] (.sign (.text []) (.text [])),
      .build [] (.settings (.set Settings.secretArgument (.text t) []))]).map Prod.snd =
        [false] := by
    show (Use.verdicts (Key.ofBytes .hs256 [b]) (.verify (.text []) (.text []) (.text []))).map
      Prod.snd = [false]
    rw [Use.verdicts, hverify]
    rfl
  obtain ⟨-, hruns, hsettings, hevent, hshown⟩ := secrets_do_not_show
  refine ⟨(hruns {} {} _ _ ?_).2 ((hverdicts _ _).trans (hverdicts _ _).symm), ?_,
    hshown {} _ _ (by decide) (by decide)⟩
  · have hsecret (b : UInt8) : (Value.bytes .bytes [b]).IsSecret :=
      Value.isSecret_bytes (by decide) (List.cons_ne_nil b [])
    have hload := hsettings {} [] (.text (Text.ofString "k")) (.text (Text.ofString "l")) _ _ rfl
      rfl (by decide) (by decide)
    refine .cons (.build _ (.secret (.valid (hsecret _) (hsecret _)) _)) (.cons (.within _ _ ?_)
      (.cons (.use _ _) (.cons (.build _ hload) .nil)))
    exact .cons (.use _ _) (.cons (.use _ _) .nil)
  · obtain ⟨event, hevent⟩ := hevent .hs256
    refine ⟨event, (hevent _ rfl _ _ _ []).1 ?_, (hevent _ rfl _ _ _ []).1 ?_⟩
    · rw [hverify]
    · have hdecode : Base64Url.decode (Text.ofString "AA") = .ok [0] := rfl
      rw [Key.verify_ofBytes_of_length_ne .hs256 [0x6C] (by decide) (by decide) hdecode (by decide)]

end TokenSeal.Session

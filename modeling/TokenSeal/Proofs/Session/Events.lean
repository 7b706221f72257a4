import TokenSeal.Proofs.Key.Outline
import TokenSeal.Proofs.Key.Precedence
import TokenSeal.Proofs.Log.Lines
import TokenSeal.Proofs.Session.Lifecycle

/-!
# The events of a run

A run makes calls, one after the other, at any depth of blocks (`calls`), and each call is handed
the journal that the calls before it have left (`record`). All that a call does to the journal is
that a verification which finds a signature wrong puts the mismatch behind it
(`Call.logs_or_silent`, `record_eq_append`). So the events that a run adds correspond, in order, to
its calls that found a signature wrong, and to nothing else (`forall₂_logs`).

Answers keep events where they can be seen: a call's with the call, those of a block that passes
its failures on with the block, those of other blocks with the answers of their bodies
(`allEvents_run`).
-/

namespace TokenSeal.Session

/-! ### The calls of a run -/

/-- A call that is made: a step on one key, and the store that it finds. -/
structure Call where
  store : Store
  step : Step
  isCall : step.isCall = true

/-- Whether an outcome is that of a verification that found its signature wrong. -/
def isWrong : Except Fault Result → Bool
  | .ok (.verdict false) => true
  | _ => false

section

variable (system : Settings.System)

/-- What making the call gives. -/
def Call.performed (c : Call) : Performed Result := perform system c.store c.step

/-- Whether the call is a verification that found its signature wrong. -/
def Call.foundWrong (c : Call) : Bool := isWrong (c.performed system).outcome

mutual

/-- The calls that performing a step makes, in order. A block on a name without a key makes none. -/
def Step.calls (store : Store) : Step → List Call
  | .build name recipe => [⟨store, .build name recipe, rfl⟩]
  | .use name use => [⟨store, .use name use, rfl⟩]
  | .within name propagates body =>
    match store.find? name with
    | none => []
    | some _ => if propagates then callsUntilFault store body else calls store body

/-- The calls of a run, in order. -/
def calls (store : Store) : List Step → List Call
  | [] => []
  | step :: steps => step.calls store ++ calls (perform system store step).store steps

/-- The calls of steps up to the first that fails. -/
def callsUntilFault (store : Store) : List Step → List Call
  | [] => []
  | step :: steps =>
    let p := perform system store step
    match p.outcome with
    | .error _ => step.calls store
    | .ok _ => step.calls store ++ callsUntilFault p.store steps

end

/-! ### The journal in the course of a run -/

/-- The journal after a use of a key that finds it as it is given. -/
def Use.record (k : Key) (journal : Log.Journal) : Use → Log.Journal
  | .verify header claims signature => (k.verify header claims signature journal).2
  | .verifyBytes header claims signature => (k.verifyBytes header claims signature journal).2
  | .function (.sign header claims) => (Interface.sign k.signer header claims journal).2
  | .function (.verify header claims signature) =>
    (Interface.verify k.verifier header claims signature journal).2
  | .function (.verifyBytes header claims signature) =>
    (Interface.verifyBytes k.verifier header claims signature journal).2
  | .sign .. | .close | .shown | .info => journal

theorem Use.record_function (k : Key) (journal : Log.Journal) (operation : Operation) :
    (Use.function operation).record k journal = operation.method.record k journal := by
  cases operation <;> rfl

mutual

/-- The journal after a step that finds it as it is given. -/
def Step.record (store : Store) (journal : Log.Journal) : Step → Log.Journal
  | .build _ _ => journal
  | .use name use =>
    match store.find? name with
    | none => journal
    | some (_, k) => use.record k journal
  | .within name propagates body =>
    match store.find? name with
    | none => journal
    | some _ =>
      if propagates then recordUntilFault store journal body else record store journal body

/-- The journal after a run that finds it as it is given. -/
def record (store : Store) (journal : Log.Journal) : List Step → Log.Journal
  | [] => journal
  | step :: steps => record (perform system store step).store (step.record store journal) steps

/-- The journal after steps up to the first that fails. -/
def recordUntilFault (store : Store) (journal : Log.Journal) : List Step → Log.Journal
  | [] => journal
  | step :: steps =>
    let p := perform system store step
    match p.outcome with
    | .error _ => step.record store journal
    | .ok _ => recordUntilFault p.store (step.record store journal) steps

end

/-- What some calls log, each for itself. -/
def journals (cs : List Call) : Log.Journal := cs.flatMap fun c => (c.performed system).journal

end

variable {system : Settings.System}

/-! ### What one call logs -/

/-- A verdict logs a mismatch iff it finds the signature wrong. -/
theorem journal_ofVerdict (store : Store) {a : Algorithm} {v : Except Failure Bool × Log.Journal}
    (h : v.2 = [] ++ Key.logged a v.1) :
    (ofVerdict store v).journal =
      if isWrong (ofVerdict store v).outcome then [Key.mismatch a] else [] := by
  obtain ⟨answer, journal⟩ := v
  refine Eq.trans h ?_
  match answer with
  | .error e => rfl
  | .ok true => rfl
  | .ok false => rfl

theorem isWrong_sign (answer : Except Failure Text) :
    isWrong ((answer.map Result.signature).mapError Fault.signing) = false := by
  cases answer <;> rfl

/-- A use of a key logs the mismatch of that key's algorithm if it finds a signature wrong. -/
theorem Use.journal_perform (store : Store) (n : Nat) (k : Key) (use : Use) :
    (use.perform store n k).journal =
      if isWrong (use.perform store n k).outcome then [Key.mismatch k.algorithm] else [] := by
  induction use using Use.induct with
  | verify header claims signature =>
    exact journal_ofVerdict store (k.verify_snd header claims signature [])
  | verifyBytes header claims signature =>
    exact journal_ofVerdict store (k.verifyBytes_snd header claims signature [])
  | sign header claims =>
    simp only [perform, isWrong_sign]
    rfl
  | function operation ih => rw [perform_function, ih]
  | _ => rfl

/-- What a verification puts behind the journal does not depend on what is in it. -/
theorem verify_snd_eq_append (k : Key) (header claims signature : Value) (journal : Log.Journal) :
    (k.verify header claims signature journal).2 =
      journal ++ (k.verify header claims signature []).2 := by
  have hanswer : (k.verify header claims signature journal).1 =
      (k.verify header claims signature []).1 := by
    simp only [Key.verify_fst, Key.compare_fst]
  rw [k.verify_snd, k.verify_snd, hanswer, List.nil_append]

theorem verifyBytes_snd_eq_append (k : Key) (header claims signature : Value)
    (journal : Log.Journal) :
    (k.verifyBytes header claims signature journal).2 =
      journal ++ (k.verifyBytes header claims signature []).2 := by
  have hanswer : (k.verifyBytes header claims signature journal).1 =
      (k.verifyBytes header claims signature []).1 := by
    unfold Key.verifyBytes
    cases signature.asBytes? with
    | none => rfl
    | some raw => simp only [Key.compare_fst]
  rw [k.verifyBytes_snd, k.verifyBytes_snd, hanswer, List.nil_append]

/-- In the course of a run, a use puts what it logs behind the journal. -/
theorem Use.record_eq_append (store : Store) (n : Nat) (k : Key) (use : Use)
    (journal : Log.Journal) :
    use.record k journal = journal ++ (use.perform store n k).journal := by
  induction use using Use.induct with
  | verify header claims signature => exact verify_snd_eq_append k header claims signature journal
  | verifyBytes header claims signature =>
    exact verifyBytes_snd_eq_append k header claims signature journal
  | function operation ih => rw [record_function, perform_function, ih]
  | _ => exact (List.append_nil journal).symm

/-- An event is the mismatch of the key that a call is about. -/
def Call.Logs (c : Call) (e : Log.Event) : Prop :=
  ∃ n k, c.store.find? c.step.name = some (n, k) ∧ e = Key.mismatch k.algorithm

/-- A call logs one event, the mismatch of its key, if it finds a signature wrong, and otherwise
nothing. -/
theorem Call.logs_or_silent (system : Settings.System) (c : Call) :
    (c.foundWrong system = true ∧ ∃ e, (c.performed system).journal = [e] ∧ c.Logs e) ∨
      (c.foundWrong system = false ∧ (c.performed system).journal = []) := by
  obtain ⟨store, step, hcall⟩ := c
  unfold foundWrong performed Logs
  cases step with
  | build name recipe =>
    refine .inr ?_
    simp only [perform]
    cases recipe.build system <;> exact ⟨rfl, rfl⟩
  | use name use =>
    simp only [perform, Step.name]
    cases hfind : store.find? name with
    | none => exact .inr ⟨rfl, rfl⟩
    | some found =>
      dsimp only
      rw [use.journal_perform]
      cases hwrong : isWrong (use.perform store found.1 found.2).outcome with
      | true => exact .inl ⟨rfl, _, rfl, found.1, found.2, rfl, rfl⟩
      | false => exact .inr ⟨rfl, rfl⟩
  | within name propagates body => cases hcall

/-- Uses that verify a signature, as text or as octets, by the key itself or by a function. -/
inductive Use.Verifies : Use → Prop
  | text (header claims signature : Value) : Verifies (.verify header claims signature)
  | octets (header claims signature : Value) : Verifies (.verifyBytes header claims signature)
  | function {operation : Operation} (h : Verifies operation.method) :
    Verifies (.function operation)

/-- A verdict is the outcome of a verification. -/
theorem Use.verifies_of_isWrong (store : Store) (n : Nat) (k : Key) {use : Use}
    (h : isWrong (use.perform store n k).outcome = true) : use.Verifies := by
  induction use using Use.induct with
  | sign header claims =>
    simp only [perform, isWrong_sign] at h
    cases h
  | verify header claims signature => exact .text header claims signature
  | verifyBytes header claims signature => exact .octets header claims signature
  | function operation ih =>
    rw [perform_function] at h
    exact .function (ih h)
  | close => cases h
  | shown => cases h
  | info => cases h

/-- Whether a call verifies a signature. -/
def Call.IsVerification (c : Call) : Prop := ∃ name use, c.step = .use name use ∧ use.Verifies

/-- Only verifications find a signature wrong. -/
theorem Call.isVerification_of_foundWrong {c : Call} (h : c.foundWrong system = true) :
    c.IsVerification := by
  obtain ⟨store, step, hcall⟩ := c
  unfold foundWrong performed at h
  cases step with
  | build name recipe =>
    simp only [perform] at h
    cases hbuild : recipe.build system <;> simp [hbuild, isWrong] at h
  | use name use =>
    simp only [perform] at h
    cases hfind : store.find? name with
    | none => simp [hfind, isWrong] at h
    | some found =>
      simp only [hfind] at h
      exact ⟨name, use, rfl, use.verifies_of_isWrong store found.1 found.2 h⟩
  | within name propagates body => cases hcall

/-! ### What a run logs -/

/-- From every store and journal, the step puts behind the journal what its calls log. -/
def Step.RecordsCalls (system : Settings.System) (step : Step) : Prop :=
  ∀ store journal, step.record system store journal =
    journal ++ journals system (step.calls system store)

/-- Runs inherit it from their steps. -/
theorem record_eq_append_of_steps {steps : List Step}
    (h : ∀ step ∈ steps, step.RecordsCalls system) (store : Store) (journal : Log.Journal) :
    record system store journal steps =
      journal ++ journals system (calls system store steps) := by
  induction steps generalizing store journal with
  | nil => exact (List.append_nil journal).symm
  | cons step steps ih =>
    obtain ⟨hstep, hsteps⟩ := List.forall_mem_cons.1 h
    rw [record, calls, ih hsteps, hstep store journal, journals, journals, journals,
      List.flatMap_append, List.append_assoc]

/-- Bodies of propagating blocks inherit it from the steps that are made. -/
theorem recordUntilFault_eq_append_of_steps {steps : List Step}
    (h : ∀ step ∈ steps, step.RecordsCalls system) (store : Store) (journal : Log.Journal) :
    recordUntilFault system store journal steps =
      journal ++ journals system (callsUntilFault system store steps) := by
  induction steps generalizing store journal with
  | nil => exact (List.append_nil journal).symm
  | cons step steps ih =>
    obtain ⟨hstep, hsteps⟩ := List.forall_mem_cons.1 h
    cases houtcome : (perform system store step).outcome with
    | error fault =>
      simp only [recordUntilFault, callsUntilFault, houtcome]
      exact hstep store journal
    | ok result =>
      simp only [recordUntilFault, callsUntilFault, houtcome]
      rw [ih hsteps, hstep store journal, journals, journals, journals, List.flatMap_append,
        List.append_assoc]

/-- Every step records its calls, by induction over the nesting of blocks. -/
theorem Step.recordsCalls (step : Step) : step.RecordsCalls system := by
  induction step using Step.induct with
  | build name recipe =>
    intro store journal
    simp only [Step.record, Step.calls, journals, List.flatMap_singleton, Call.performed, perform]
    cases recipe.build system <;> exact (List.append_nil journal).symm
  | use name use =>
    intro store journal
    simp only [Step.record, Step.calls, journals, List.flatMap_singleton, Call.performed, perform]
    cases store.find? name with
    | none => exact (List.append_nil journal).symm
    | some found => exact use.record_eq_append store found.1 found.2 journal
  | within name propagates body ih =>
    intro store journal
    unfold Step.record Step.calls
    cases store.find? name with
    | none => exact (List.append_nil journal).symm
    | some found =>
      cases propagates with
      | true => exact recordUntilFault_eq_append_of_steps ih store journal
      | false => exact record_eq_append_of_steps ih store journal

/-- **A run puts behind the journal what its calls log.** -/
theorem record_eq_append (store : Store) (journal : Log.Journal) (steps : List Step) :
    record system store journal steps = journal ++ journals system (calls system store steps) :=
  record_eq_append_of_steps (fun step _ => step.recordsCalls) store journal

/-- What calls log corresponds, in order, to those of them that find a signature wrong. -/
theorem forall₂_logs (system : Settings.System) (cs : List Call) :
    List.Forall₂ Call.Logs (cs.filter (Call.foundWrong system)) (journals system cs) := by
  induction cs with
  | nil => exact .nil
  | cons c cs ih =>
    rw [journals, List.flatMap_cons, ← journals]
    rcases c.logs_or_silent system with ⟨hwrong, e, hjournal, hlogs⟩ | ⟨hright, hjournal⟩
    · rw [List.filter_cons_of_pos hwrong, hjournal]
      exact .cons hlogs ih
    · rw [List.filter_cons_of_neg (by simp [hright]), hjournal]
      exact ih

/-! ### Where answers keep events -/

mutual

/-- The events that a result keeps: those of the answers of a containing block. -/
def Result.events : Result → Log.Journal
  | .answers body => Answer.allEvents body
  | .nothing | .shown _ | .signature _ | .verdict _ | .info .. | .results _ => []

/-- The events that an answer keeps, its own before those of its result. -/
def Answer.events : Answer → Log.Journal
  | .of (.ok result) _ journal => journal ++ result.events
  | .of (.error _) _ journal => journal

/-- The events that several answers keep. -/
def Answer.allEvents : List Answer → Log.Journal
  | [] => []
  | answer :: answers => answer.events ++ Answer.allEvents answers

end

/-- A step whose blocks, if it has any, all pass failures on. -/
inductive Step.PassesOn : Step → Prop
  | build (name : Text) (recipe : Recipe) : PassesOn (.build name recipe)
  | use (name : Text) (use : Use) : PassesOn (.use name use)
  | within (name : Text) {body : List Step} (h : ∀ step ∈ body, PassesOn step) :
    PassesOn (.within name true body)

/-- A step whose answer keeps all events, in order. A block that passes a failure on gives no
answers of its body, so it may hold no block that would keep events in them. -/
inductive Step.KeepsEvents : Step → Prop
  | build (name : Text) (recipe : Recipe) : KeepsEvents (.build name recipe)
  | use (name : Text) (use : Use) : KeepsEvents (.use name use)
  | propagating (name : Text) {body : List Step} (h : ∀ step ∈ body, step.PassesOn) :
    KeepsEvents (.within name true body)
  | containing (name : Text) {body : List Step} (h : ∀ step ∈ body, KeepsEvents step) :
    KeepsEvents (.within name false body)

theorem journal_runUntilFault_of_steps {steps : List Step}
    (h : ∀ step ∈ steps, ∀ store,
      (perform system store step).journal = journals system (step.calls system store))
    (store : Store) :
    (runUntilFault system store steps).journal =
      journals system (callsUntilFault system store steps) := by
  induction steps generalizing store with
  | nil => rfl
  | cons step steps ih =>
    obtain ⟨hstep, hsteps⟩ := List.forall_mem_cons.1 h
    cases houtcome : (perform system store step).outcome with
    | error fault =>
      simp only [runUntilFault, callsUntilFault, houtcome]
      exact hstep store
    | ok result =>
      simp only [runUntilFault, callsUntilFault, houtcome]
      rw [ih hsteps, hstep store, journals, journals, journals, List.flatMap_append]

/-- A step that passes failures on logs what its calls log. -/
theorem Step.PassesOn.journal_perform {step : Step} (h : step.PassesOn) (system : Settings.System)
    (store : Store) :
    (perform system store step).journal = journals system (step.calls system store) := by
  induction h generalizing store with
  | build name recipe => exact (List.flatMap_singleton ..).symm
  | use name use => exact (List.flatMap_singleton ..).symm
  | @within name body _ ih =>
    unfold perform Step.calls
    cases store.find? name with
    | none => rfl
    | some found => exact journal_runUntilFault_of_steps ih store

theorem Answer.events_of {outcome : Except Fault Result}
    (h : ∀ result, outcome = .ok result → result.events = []) (closed : Option Bool)
    (journal : Log.Journal) : (Answer.of outcome closed journal).events = journal := by
  cases outcome with
  | error fault => rw [Answer.events]
  | ok result => rw [Answer.events, h result rfl, List.append_nil]

/-- The result of a use keeps no events. -/
theorem Use.events_result (store : Store) (n : Nat) (k : Key) (use : Use) (result : Result)
    (h : (use.perform store n k).outcome = .ok result) : result.events = [] := by
  have hmap {α : Type} {f : α → Result} (hf : ∀ a, (f a).events = []) {x : Except Failure α}
      (hx : (x.map f).mapError Fault.signing = .ok result) : result.events = [] := by
    cases x with
    | error e => cases hx
    | ok a =>
      obtain rfl := Except.ok.inj hx
      exact hf a
  induction use using Use.induct with
  | sign header claims => exact hmap (fun _ => by rw [Result.events]) h
  | verify header claims signature => exact hmap (fun _ => by rw [Result.events]) h
  | verifyBytes header claims signature => exact hmap (fun _ => by rw [Result.events]) h
  | function operation ih =>
    rw [perform_function] at h
    exact ih h
  | _ =>
    obtain rfl := Except.ok.inj h
    rw [Result.events]

/-- The answer of a step keeps the events of its calls. -/
def Step.AnswersEvents (system : Settings.System) (step : Step) : Prop :=
  ∀ store closed,
    (Answer.of (perform system store step).outcome closed
      (perform system store step).journal).events =
    journals system (step.calls system store)

theorem allEvents_run_of_steps {steps : List Step}
    (h : ∀ step ∈ steps, step.AnswersEvents system) (store : Store) :
    Answer.allEvents (run system store steps).1 = journals system (calls system store steps) := by
  induction steps generalizing store with
  | nil => rw [run, Answer.allEvents]; rfl
  | cons step steps ih =>
    obtain ⟨hstep, hsteps⟩ := List.forall_mem_cons.1 h
    rw [run, calls, journals, List.flatMap_append, ← journals, ← journals, ← ih hsteps,
      ← hstep store]
    dsimp only
    rw [Answer.allEvents]

/-- By induction over the blocks of the step. -/
theorem Step.KeepsEvents.answersEvents {step : Step} (h : step.KeepsEvents) :
    step.AnswersEvents system := by
  induction h with
  | build name recipe =>
    intro store closed
    rw [Answer.events_of, Step.calls, journals, List.flatMap_singleton]
    · rfl
    · intro result hresult
      simp only [perform] at hresult
      cases hbuild : recipe.build system with
      | error fault => simp [hbuild] at hresult
      | ok k =>
        simp only [hbuild] at hresult
        obtain rfl := Except.ok.inj hresult
        rw [Result.events]
  | use name use =>
    intro store closed
    rw [Answer.events_of, Step.calls, journals, List.flatMap_singleton]
    · rfl
    · intro result hresult
      simp only [perform] at hresult
      cases hfind : store.find? name with
      | none => simp [hfind] at hresult
      | some found =>
        simp only [hfind] at hresult
        exact use.events_result store found.1 found.2 result hresult
  | @propagating name body hbody =>
    intro store closed
    have hjournal := (Step.PassesOn.within name hbody).journal_perform system store
    rw [Answer.events_of, hjournal]
    intro result hresult
    simp only [perform] at hresult
    cases hfind : store.find? name with
    | none => simp [hfind] at hresult
    | some found =>
      simp only [hfind, if_true] at hresult
      cases hbody : (runUntilFault system store body).outcome with
      | error fault => simp [hbody, Except.map] at hresult
      | ok results =>
        simp only [hbody] at hresult
        obtain rfl := Except.ok.inj hresult
        rw [Result.events]
  | @containing name body _ ih =>
    intro store closed
    unfold perform Step.calls
    cases store.find? name with
    | none => rw [Answer.events]; rfl
    | some found =>
      show (Answer.of (.ok (.answers (run system store body).1)) closed []).events = _
      rw [Answer.events, Result.events, List.nil_append, allEvents_run_of_steps ih store]
      rfl

/-- **Answers keep the events of a run.** -/
theorem allEvents_run {steps : List Step} (h : ∀ step ∈ steps, step.KeepsEvents) (store : Store) :
    Answer.allEvents (run system store steps).1 = record system store [] steps := by
  rw [record_eq_append, List.nil_append]
  exact allEvents_run_of_steps (fun step hstep => (h step hstep).answersEvents) store

/-! ### The events of a run -/

/-- Runs log mismatches only. -/
theorem mismatch_of_mem_record {store : Store} {steps : List Step} {e : Log.Event}
    (h : e ∈ record system store [] steps) : ∃ a, e = Key.mismatch a := by
  rw [record_eq_append, List.nil_append] at h
  obtain ⟨c, hc, he⟩ := List.mem_flatMap.1 h
  rcases c.logs_or_silent system with ⟨-, e', hjournal, hlogs⟩ | ⟨-, hjournal⟩
  · rw [hjournal, List.mem_singleton] at he
    obtain ⟨n, k, -, rfl⟩ := hlogs
    exact ⟨k.algorithm, he⟩
  · rw [hjournal] at he
    cases he

/-- **The events of a run are its mismatches.** A run puts the same events behind whatever is in the
journal, and these correspond, in order, to its calls that found a signature wrong: each of them is
a verification, of text or of octets, and logs one warning, whose only field is the name of the
algorithm of its key. Every other call logs nothing. A verification does so whichever way it is
called, and answers keep the events where the blocks of the run let them.

Once logging is set up for a level that is a known name in upper case, in either form and whenever
the events are logged, one line is written for each of these calls if the level lets warnings pass,
and otherwise none. -/
theorem events_are_the_mismatches (system : Settings.System) (store : Store)
    (steps : List Step) :
    (∀ journal, record system store journal steps = journal ++ record system store [] steps) ∧
    List.Forall₂ Call.Logs ((calls system store steps).filter (Call.foundWrong system))
      (record system store [] steps) ∧
    (∀ c : Call,
      (c.foundWrong system = true →
        c.IsVerification ∧ ∃ e, (c.performed system).journal = [e] ∧ c.Logs e) ∧
      (c.foundWrong system = false → (c.performed system).journal = [])) ∧
    (∀ a, Key.mismatch a =
      { logger := Key.logger
        severity := .warning
        message := Text.ofString "Signature verification failed"
        fields := [(Text.ofString "algorithm", .text (Text.ofString a.name))] }) ∧
    (∀ (k : Key) header claims signature journal,
      (k.verify header claims signature journal).2 =
        journal ++ Key.logged k.algorithm (k.verify header claims signature journal).1 ∧
      (k.verifyBytes header claims signature journal).2 =
        journal ++ Key.logged k.algorithm (k.verifyBytes header claims signature journal).1 ∧
      (Interface.verify k.verifier header claims signature journal).2 =
        journal ++ Key.logged k.algorithm
          ((Interface.verify k.verifier header claims signature journal).1.bind id) ∧
      (Interface.verifyBytes k.verifier header claims signature journal).2 =
        journal ++ Key.logged k.algorithm
          (Interface.verifyBytes k.verifier header claims signature journal).1) ∧
    ((∀ step ∈ steps, step.KeepsEvents) →
      Answer.allEvents (run system store steps).1 = record system store [] steps) ∧
    (∀ (level json : Value) (name : Text), ∀ l ∈ Log.levels, level.asText? = some name →
      name.toUpper = Text.ofString l.1 →
      ∃ setup, Log.Setup.ofValues level json = .ok setup ∧
        ∀ stamped : List (Log.Event × Log.Timestamp),
          stamped.map Prod.fst = record system store [] steps →
          Log.lineCount (Log.writtenAt setup stamped) =
            if l.2 ≤ Log.Severity.warning.rank then
              ((calls system store steps).filter (Call.foundWrong system)).length
            else 0) := by
  have hrecord (journal : Log.Journal) : record system store journal steps =
      journal ++ journals system (calls system store steps) := record_eq_append store journal steps
  have hlogs : List.Forall₂ Call.Logs
      ((calls system store steps).filter (Call.foundWrong system))
      (record system store [] steps) := by
    rw [hrecord, List.nil_append]
    exact forall₂_logs system _
  refine ⟨?_, hlogs, ?_, fun a => rfl, ?_, fun h => allEvents_run h store, ?_⟩
  · intro journal
    rw [hrecord, hrecord [], List.nil_append]
  · intro c
    rcases c.logs_or_silent system with ⟨hwrong, hone⟩ | ⟨hright, hnone⟩
    · refine ⟨fun _ => ⟨c.isVerification_of_foundWrong hwrong, hone⟩, fun hright => ?_⟩
      rw [hwrong] at hright
      cases hright
    · refine ⟨fun hwrong => ?_, fun _ => hnone⟩
      rw [hwrong] at hright
      cases hright
  · intro k header claims signature journal
    -- a function on the key is the key's own method
    exact ⟨k.verify_snd header claims signature journal,
      k.verifyBytes_snd header claims signature journal,
      k.verify_snd header claims signature journal,
      k.verifyBytes_snd header claims signature journal⟩
  · intro level json name l hl hlevel hname
    refine ⟨_, Log.ofValues_of_name hl hlevel hname, fun stamped hstamped => ?_⟩
    have hmismatch : ∀ s ∈ stamped, ∃ a, s.1 = Key.mismatch a := by
      intro s hs
      have hmem : s.1 ∈ record system store [] steps := hstamped ▸ List.mem_map_of_mem hs
      exact mismatch_of_mem_record hmem
    have hlength : stamped.length =
        ((calls system store steps).filter (Call.foundWrong system)).length := by
      rw [hlogs.length_eq, ← hstamped, List.length_map]
    rw [Log.lineCount_writtenAt _ hmismatch, hlength]

/-- Two keys, the second of which is used in a block and after it. Of four verifications, two find
their signature wrong, one is given no octets, and the last one asks a closed key. -/
def twoMismatches : List Step :=
  [.build [] (.secret (.bytes .bytes [0x6B]) (.hashClass Algorithm.hs256.hashClass)),
    .build (Text.ofString "b") (.algorithm (.algorithm .hs512) (.text (Text.ofString "k"))),
    .within (Text.ofString "b") false
      [.use (Text.ofString "b") (.verify (.text []) (.text []) (.text (Text.ofString "AAAA"))),
        .use [] (.verifyBytes (.text []) (.text []) .null),
        .use [] (.verifyBytes (.text []) (.text []) (.bytes .bytearray []))],
    .use (Text.ofString "b") (.verify (.text []) (.text []) (.text []))]

/-- Under the level `warning` two lines are written, under `Fatal` none. -/
theorem events_are_the_mismatches_two :
    Answer.allEvents (run {} {} twoMismatches).1 = record {} {} [] twoMismatches ∧
    (∃ setup, Log.Setup.ofValues (.text (Text.ofString "warning")) (.bool true) = .ok setup ∧
      ∀ t : Log.Timestamp, Log.lineCount (Command.Logging.written (some (setup, t.iso))
        (record {} {} [] twoMismatches)) = 2) ∧
    (∃ setup, Log.Setup.ofValues (.text (Text.ofString "Fatal")) .null = .ok setup ∧
      ∀ t : Log.Timestamp, Log.lineCount (Command.Logging.written (some (setup, t.iso))
        (record {} {} [] twoMismatches)) = 0) := by
  obtain ⟨-, -, -, -, -, hkeeps, hlines⟩ := events_are_the_mismatches {} {} twoMismatches
  have hwrong : ((calls {} {} twoMismatches).filter (Call.foundWrong {})).length = 2 := by
    decide +kernel
  have hevents (t : Log.Timestamp) :
      ((record {} {} [] twoMismatches).map fun e => (e, t)).map Prod.fst =
        record {} {} [] twoMismatches := by
    rw [List.map_map]
    exact List.map_id _
  refine ⟨hkeeps ?_, ?_, ?_⟩
  · simp only [twoMismatches, List.forall_mem_cons, List.not_mem_nil, false_implies, implies_true,
      and_true]
    refine ⟨.build _ _, .build _ _, .containing _ ?_, .use _ _⟩
    simp only [List.forall_mem_cons, List.not_mem_nil, false_implies, implies_true, and_true]
    exact ⟨.use _ _, .use _ _, .use _ _⟩
  · obtain ⟨setup, hsetup, hcount⟩ := hlines (.text (Text.ofString "warning")) (.bool true) _
      ("WARNING", 30) (by decide) rfl (by decide +kernel)
    refine ⟨setup, hsetup, fun t => ?_⟩
    rw [← Log.writtenAt_map, hcount _ (hevents t), hwrong]
    rfl
  · obtain ⟨setup, hsetup, hcount⟩ := hlines (.text (Text.ofString "Fatal")) .null _
      ("FATAL", 50) (by decide) rfl (by decide +kernel)
    refine ⟨setup, hsetup, fun t => ?_⟩
    rw [← Log.writtenAt_map, hcount _ (hevents t)]
    rfl

end TokenSeal.Session

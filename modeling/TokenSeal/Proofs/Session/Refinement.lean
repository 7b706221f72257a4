import TokenSeal.Proofs.Key.Signature
import TokenSeal.Proofs.Session.Ledger

/-!
# Sessions refine the ledger

A ledger determines a store: every record stands for the key of its origin, open or closed
(`Ledger.store`). Each operation of a session commutes with that reading, first building and using a
single key, then steps with the bodies of their blocks (`Step.refines`), and runs inherit it from
their steps (`run_store_of_refines`). What the ledger says of a run therefore holds of the keys.
-/

namespace TokenSeal.Session

/-! ### Reading a ledger as a store -/

/-- The open key of an origin. -/
def Origin.key (o : Origin) : Key := .ofBytes o.algorithm o.secret

/-- The key that a record stands for. -/
def Record.key (r : Record) : Key := if r.closed then r.origin.key.close else r.origin.key

/-- The store that a ledger stands for. -/
def Ledger.store (l : Ledger) : Store := ⟨l.records.map Record.key, l.names⟩

/-- A performed step read as one of the session. -/
def Ledger.Performed.toSession {α : Type} (p : Ledger.Performed α) : Session.Performed α :=
  ⟨p.outcome, p.journal, p.ledger.store⟩

/-! ### Building -/

/-- A key from a secret and a hash is the open key of its origin. -/
theorem ofSecret_eq_map_key (secret hash : Value) :
    Key.ofSecret secret hash =
      (Origin.ofValues hash.algorithmOfHash secret).map Origin.key := by
  unfold Key.ofSecret Origin.ofValues
  cases hash.algorithmOfHash with
  | error e => rfl
  | ok a => cases secret.secretBytes <;> rfl

/-- The way over the hash class leads back to the algorithm. -/
theorem ofSecret_hashClass (a : Algorithm) (secret : Value) :
    Key.ofSecret secret (.hashClass a.hashClass) =
      (Origin.ofValues (.ok a) secret).map Origin.key := by
  rw [ofSecret_eq_map_key, Value.algorithmOfHash_hashClass]

/-- A key from an algorithm's name is the open key of its origin. -/
theorem ofAlgorithm_eq_map_key (tag secret : Value) (limits : Limits) :
    Key.ofAlgorithm tag secret limits =
      (Origin.ofValues (tag.algorithmNamed limits) secret).map Origin.key := by
  unfold Key.ofAlgorithm
  cases tag.algorithmNamed limits with
  | error e => rfl
  | ok a => exact ofSecret_hashClass a secret

/-- Settings name their algorithm, and the name leads back to it. -/
theorem ofSettings_eq_map_key (loaded : Settings) {shared : Text}
    (h : loaded.secret = some shared) :
    Key.ofSettings loaded =
      (Origin.ofValues (.ok loaded.algorithm) (.text shared)).map Origin.key := by
  simp only [Key.ofSettings, h]
  rw [ofAlgorithm_eq_map_key, Value.algorithmNamed_name]

/-- A recipe builds the open key of its origin, and fails where it has none. -/
theorem Recipe.build_eq_map_key (system : Settings.System) (recipe : Recipe) :
    recipe.build system = (recipe.origin system).map Origin.key := by
  have lift : ∀ x : Except Failure Origin,
      (x.map Origin.key).mapError Fault.signing = (x.mapError Fault.signing).map Origin.key := by
    intro x
    cases x <;> rfl
  cases recipe with
  | secret raw hash =>
    simp only [build, origin]
    rw [ofSecret_eq_map_key, lift]
  | algorithm tag raw =>
    simp only [build, origin]
    rw [ofAlgorithm_eq_map_key, lift]
  | settings arguments =>
    simp only [build, origin]
    cases system.load arguments with
    | error problems => rfl
    | ok loaded =>
      dsimp only
      cases h : loaded.secret with
      | none =>
        simp only [Key.ofSettings, h]
        rfl
      | some shared => rw [ofSettings_eq_map_key loaded h, lift]

/-! ### Using one key -/

namespace Record

@[simp] theorem closed_key (r : Record) : r.key.closed = r.closed := by
  obtain ⟨o, closed⟩ := r
  cases closed <;> rfl

@[simp] theorem algorithm_key (r : Record) : r.key.algorithm = r.origin.algorithm := by
  obtain ⟨o, closed⟩ := r
  cases closed <;> rfl

/-- A key is shown as its record is. -/
theorem shown_key (r : Record) : r.key.shown = r.shown := by
  unfold Key.shown shown
  rw [closed_key, algorithm_key]

/-- Closing a key marks its record. -/
theorem close_key (r : Record) : r.key.close = ({ r with closed := true } : Record).key := by
  obtain ⟨o, closed⟩ := r
  cases closed <;> rfl

/-- The key that keeps a hash state signs what the record says. -/
theorem rawSignature_key (r : Record) (header claims : Value) :
    r.key.rawSignature header claims = r.code header claims := by
  obtain ⟨o, closed⟩ := r
  cases closed with
  | false => exact Key.rawSignature_ofBytes o.algorithm o.secret header claims
  | true => rfl

/-- A comparison gives the record's verdict and logs what the verdict says. -/
theorem ofVerdict_compare (r : Record) (header claims : Value) (raw : Bytes) (store : Store) :
    ofVerdict store (r.key.compare header claims raw []) =
      ⟨(r.verdict header claims raw).mapError .signing,
        r.journal (r.verdict header claims raw), store⟩ := by
  unfold Key.compare verdict
  rw [rawSignature_key, algorithm_key]
  cases r.code header claims with
  | error e => rfl
  | ok code =>
    -- the two outcomes of the comparison differ in what is logged
    by_cases hraw : raw = code
    · simp [hraw, ofVerdict, Except.map, Except.mapError, journal]
    · simp [hraw, ofVerdict, Except.map, Except.mapError, journal]

end Record

/-! ### Operations of the store -/

/-- A map commutes with a change at one place if it commutes with the change. -/
theorem map_modify {α β : Type} {f : α → β} {g : α → α} {h : β → β}
    (hfg : ∀ a, f (g a) = h (f a)) (l : List α) (n : Nat) :
    (l.modify n g).map f = (l.map f).modify n h := by
  apply List.ext_getElem?
  intro i
  rw [List.getElem?_map, List.getElem?_modify, List.getElem?_modify, List.getElem?_map]
  cases l[i]? with
  | none => simp
  | some a => by_cases hi : n = i <;> simp [hi, hfg]

namespace Ledger

/-- Names mean the same in the store and on the ledger. -/
theorem find?_store (l : Ledger) (name : Text) :
    l.store.find? name = (l.find? name).map fun found => (found.1, found.2.key) := by
  unfold Store.find? find? store
  cases l.names.get? name with
  | none => rfl
  | some n => simp [Function.comp_def]

theorem closed?_store (l : Ledger) (name : Text) : l.store.closed? name = l.closed? name := by
  rw [Store.closed?, find?_store, closed?, Option.map_map]
  congr 1
  funext found
  exact found.2.closed_key

theorem bind_store (l : Ledger) (name : Text) (o : Origin) :
    l.store.bind name o.key = (l.bind name o).store := by
  simp [Store.bind, store, bind, Record.key]

theorem close_store (l : Ledger) (n : Nat) : l.store.close n = (l.close n).store := by
  have hkeys : (l.records.modify n fun r => { r with closed := true }).map Record.key =
      (l.records.map Record.key).modify n Key.close :=
    map_modify (fun r => r.close_key.symm) l.records n
  unfold Store.close store close
  rw [hkeys]

/-- A use of a key answers, logs and leaves what the ledger says. -/
theorem perform_use (l : Ledger) (n : Nat) (r : Record) (use : Use) :
    use.perform l.store n r.key =
      ⟨(r.answer use).mapError .signing, r.journal (r.answer use), (l.afterUse n use).store⟩ := by
  induction use using Use.induct with
  | sign header claims =>
    simp only [Use.perform, Key.sign, Record.answer, r.rawSignature_key]
    cases r.code header claims <;> rfl
  | verify header claims signature =>
    simp only [Use.perform, Record.answer]
    cases hs : Base64Url.decodeValue signature with
    | error e =>
      rw [Key.verify_of_decodeValue_error hs]
      rfl
    | ok raw =>
      rw [Key.verify_of_decodeValue_ok hs]
      exact r.ofVerdict_compare header claims raw l.store
  | verifyBytes header claims signature =>
    simp only [Use.perform, Key.verifyBytes, Record.answer]
    cases signature.asBytes? with
    | none => rfl
    | some raw => exact r.ofVerdict_compare header claims raw l.store
  | close =>
    simp [Use.perform, Record.answer, Record.journal, afterUse, close_store, Except.mapError]
  | shown =>
    simp [Use.perform, Record.answer, Record.journal, afterUse, Record.shown_key, Except.mapError]
  | info =>
    simp [Use.perform, Record.answer, Record.journal, afterUse, Key.signatureLength,
      Except.mapError]
  | function operation ih => rw [Use.perform_function, r.answer_function, l.afterUse_function, ih]

end Ledger

/-! ### Steps, blocks and runs -/

/-- Induction over steps: a block may use the steps of its body. -/
theorem Step.induct {P : Step → Prop} (build : ∀ name recipe, P (.build name recipe))
    (use : ∀ name use, P (.use name use))
    (within : ∀ name propagates body, (∀ step ∈ body, P step) →
      P (.within name propagates body)) : ∀ step, P step
  | .build name recipe => build name recipe
  | .use name u => use name u
  | .within name propagates body =>
    within name propagates body fun step _ => Step.induct build use within step

variable (system : Settings.System)

/-- From every ledger, the step does to the store what it does to the ledger. -/
def Step.Refines (step : Step) : Prop :=
  ∀ l : Ledger, perform system l.store step = (l.perform system step).toSession

variable {system}

/-- Runs inherit the refinement from their steps. -/
theorem run_store_of_refines {steps : List Step} (h : ∀ step ∈ steps, step.Refines system)
    (l : Ledger) :
    run system l.store steps =
      ((l.run system steps).answers, (l.run system steps).ledger.store) := by
  induction steps generalizing l with
  | nil => rfl
  | cons step steps ih =>
    have hstep : perform system l.store step = (l.perform system step).toSession :=
      h step List.mem_cons_self l
    have hsteps := ih (fun s hs => h s (List.mem_cons_of_mem _ hs)) (l.perform system step).ledger
    simp only [run, Ledger.run, hstep, Ledger.Performed.toSession, hsteps, Ledger.closed?_store]

/-- Bodies of propagating blocks inherit the refinement from their steps. -/
theorem runUntilFault_store_of_refines {steps : List Step}
    (h : ∀ step ∈ steps, step.Refines system) (l : Ledger) :
    runUntilFault system l.store steps = (l.runUntilFault system steps).toSession := by
  induction steps generalizing l with
  | nil => rfl
  | cons step steps ih =>
    have hstep : perform system l.store step = (l.perform system step).toSession :=
      h step List.mem_cons_self l
    have hsteps := ih (fun s hs => h s (List.mem_cons_of_mem _ hs)) (l.perform system step).ledger
    unfold runUntilFault Ledger.runUntilFault
    rw [hstep]
    simp only [Ledger.Performed.toSession]
    -- both stop at the same step, since the outcomes are the same
    cases (l.perform system step).outcome with
    | error fault => rfl
    | ok result => simp only [hsteps, Ledger.Performed.toSession]

/-- Every step refines the ledger, by induction over the nesting of blocks. -/
theorem Step.refines (step : Step) : step.Refines system := by
  induction step using Step.induct with
  | build name recipe =>
    intro l
    unfold perform Ledger.perform
    rw [Recipe.build_eq_map_key]
    cases recipe.origin system with
    | error fault => rfl
    | ok o =>
      -- a new key is shown as the record of its origin, which is open
      show (⟨.ok (.shown o.key.shown), [], l.store.bind name o.key⟩ : Performed Result) =
        ⟨.ok (.shown (Record.shown ⟨o, false⟩)), [], (l.bind name o).store⟩
      rw [Ledger.bind_store, ← Record.shown_key]
      rfl
  | use name use =>
    intro l
    unfold perform Ledger.perform
    rw [Ledger.find?_store]
    cases l.find? name with
    | none => rfl
    | some found => exact Ledger.perform_use l found.1 found.2 use
  | within name propagates body ih =>
    intro l
    unfold perform Ledger.perform
    rw [Ledger.find?_store]
    cases l.find? name with
    | none => rfl
    | some found =>
      simp only [Option.map_some, run_store_of_refines ih, runUntilFault_store_of_refines ih]
      cases propagates with
      | true => simp [Ledger.Performed.toSession, Ledger.close_store]
      | false => simp [Ledger.Performed.toSession, Ledger.close_store]

end TokenSeal.Session

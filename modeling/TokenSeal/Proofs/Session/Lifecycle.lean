import TokenSeal.Proofs.Session.Refinement

/-!
# The life of a key in a session

What a run leaves of a ledger: every key keeps its origin, new keys are open, and the closed keys
are exactly those that were closed before and those that came to an end, by a call or by a block
that was left (`Ledger.Extends`). A step preserves this whatever fails inside it, so a run does, and
through the refinement the same holds of the keys of a session.
-/

namespace TokenSeal.Session

namespace Ledger

/-! ### What comes of a ledger -/

/-- Whether the key of a number is closed. -/
def closedAt (l : Ledger) (n : Nat) : Bool := l.records[n]?.any Record.closed

/-- What comes of a ledger by steps that bring about endings: every key keeps its origin, and the
closed keys are those closed before and those that came to an end. -/
structure Extends (l l' : Ledger) (es : List Ending) : Prop where
  origins : l.records.map Record.origin <+: l'.records.map Record.origin
  closedAt_iff : ∀ n, l'.closedAt n = true ↔
    l.closedAt n = true ∨ .closing n ∈ es ∨ .leaving n ∈ es

theorem Extends.refl (l : Ledger) : l.Extends l [] where
  origins := List.prefix_rfl
  closedAt_iff n := by simp

/-- Endings add up. -/
theorem Extends.trans {l m k : Ledger} {es fs : List Ending} (h : l.Extends m es)
    (h' : m.Extends k fs) : l.Extends k (es ++ fs) where
  origins := h.origins.trans h'.origins
  closedAt_iff n := by
    rw [h'.closedAt_iff, h.closedAt_iff, List.mem_append, List.mem_append]
    tauto

/-- A key stays on record, with its origin, and does not open again. -/
theorem Extends.getElem? {l l' : Ledger} {es : List Ending} (h : l.Extends l' es) {n : Nat}
    {r : Record} (hr : l.records[n]? = some r) :
    ∃ r', l'.records[n]? = some r' ∧ r'.origin = r.origin ∧
      (r.closed = true → r'.closed = true) := by
  obtain ⟨rest, hrest⟩ := h.origins
  have horigin : (l'.records.map Record.origin)[n]? = some r.origin := by
    rw [← hrest, List.getElem?_append_left (by simpa using (List.getElem?_eq_some_iff.1 hr).1),
      List.getElem?_map, hr]
    rfl
  rw [List.getElem?_map] at horigin
  obtain ⟨r', hr', ho⟩ := Option.map_eq_some_iff.1 horigin
  refine ⟨r', hr', ho, fun hclosed => ?_⟩
  have hat : l'.closedAt n = true := (h.closedAt_iff n).2 (.inl (by simp [closedAt, hr, hclosed]))
  simpa [closedAt, hr'] using hat

theorem Extends.length_le {l l' : Ledger} {es : List Ending} (h : l.Extends l' es) :
    l.records.length ≤ l'.records.length := by
  simpa using h.origins.length_le

/-- A new key is open and leaves the others alone. -/
theorem extends_bind (l : Ledger) (name : Text) (o : Origin) : l.Extends (l.bind name o) [] where
  origins := by simp [bind]
  closedAt_iff n := by
    unfold closedAt bind
    rw [List.getElem?_append]
    -- past the old records there is the new one, which is open, or nothing
    by_cases hn : n < l.records.length
    · simp [hn]
    · by_cases h0 : n - l.records.length = 0 <;> simp [hn, h0]

/-- Closing a key ends it and no other. -/
theorem extends_close (l : Ledger) {n : Nat} (hn : n < l.records.length) {e : Ending}
    (he : e = .closing n ∨ e = .leaving n) : l.Extends (l.close n) [e] where
  origins := by
    have hmap : (l.close n).records.map Record.origin = l.records.map Record.origin := by
      apply List.ext_getElem?
      intro i
      rw [close, List.getElem?_map, List.getElem?_map, List.getElem?_modify]
      cases l.records[i]? with
      | none => simp
      | some r => by_cases hi : n = i <;> simp [hi]
    exact ⟨[], by rw [List.append_nil, hmap]⟩
  closedAt_iff m := by
    have hclosed : (l.close n).closedAt m = true ↔ l.closedAt m = true ∨ n = m := by
      unfold closedAt close
      rw [List.getElem?_modify]
      by_cases hm : n = m
      · subst hm
        simp [List.getElem?_eq_getElem hn]
      · simp [hm]
    rw [hclosed, eq_comm (a := n)]
    rcases he with rfl | rfl <;> simp

/-- Closing a closed key changes nothing. -/
theorem close_of_closed (l : Ledger) {n : Nat} {r : Record} (hn : l.records[n]? = some r)
    (hr : r.closed = true) : l.close n = l := by
  have hrecords : (l.records.modify n fun r => { r with closed := true }) = l.records := by
    apply List.ext_getElem?
    intro i
    rw [List.getElem?_modify]
    by_cases hi : n = i
    · subst hi
      simp [hn, ← hr]
    · simp [hi]
  rw [close, hrecords]

/-- What a name means is on record. -/
theorem getElem?_of_find? {l : Ledger} {name : Text} {n : Nat} {r : Record}
    (h : l.find? name = some (n, r)) : l.records[n]? = some r := by
  unfold find? at h
  obtain ⟨m, -, hm⟩ := Option.bind_eq_some_iff.1 h
  obtain ⟨r', hr', heq⟩ := Option.map_eq_some_iff.1 hm
  cases heq
  exact hr'

theorem lt_of_find? {l : Ledger} {name : Text} {n : Nat} {r : Record}
    (h : l.find? name = some (n, r)) : n < l.records.length :=
  (List.getElem?_eq_some_iff.1 (getElem?_of_find? h)).1

/-! ### Steps and runs -/

/-- A use ends a key if it closes it, and otherwise leaves the ledger as it was. -/
theorem extends_afterUse (l : Ledger) {n : Nat} (hn : n < l.records.length) (use : Use) :
    l.Extends (l.afterUse n use) (use.endings n) := by
  cases use with
  | close => exact l.extends_close hn (.inl rfl)
  | _ => exact .refl l

variable (system : Settings.System)

/-- From every ledger, what comes of the step is what its endings say. -/
def StepExtends (step : Step) : Prop :=
  ∀ l : Ledger, l.Extends (l.perform system step).ledger (l.perform system step).endings

variable {system}

/-- Runs inherit it from their steps. -/
theorem extends_run_of_steps {steps : List Step} (h : ∀ step ∈ steps, StepExtends system step)
    (l : Ledger) : l.Extends (l.run system steps).ledger (l.run system steps).endings := by
  induction steps generalizing l with
  | nil => exact .refl l
  | cons step steps ih =>
    exact (h step List.mem_cons_self l).trans (ih (fun s hs => h s (List.mem_cons_of_mem _ hs)) _)

/-- Bodies of propagating blocks inherit it from the steps that are performed. -/
theorem extends_runUntilFault_of_steps {steps : List Step}
    (h : ∀ step ∈ steps, StepExtends system step) (l : Ledger) :
    l.Extends (l.runUntilFault system steps).ledger (l.runUntilFault system steps).endings := by
  induction steps generalizing l with
  | nil => exact .refl l
  | cons step steps ih =>
    have hstep := h step List.mem_cons_self l
    have hsteps := ih (fun s hs => h s (List.mem_cons_of_mem _ hs)) (l.perform system step).ledger
    unfold runUntilFault
    dsimp only
    cases (l.perform system step).outcome with
    | error fault =>
      -- the rest of the body is not run and ends nothing
      exact hstep
    | ok result => exact hstep.trans hsteps

/-- Leaving a block ends the key that was entered, after all that its body ended. -/
theorem Extends.leave {l l' : Ledger} {es : List Ending} (h : l.Extends l' es) {n : Nat}
    (hn : n < l.records.length) : l.Extends (l'.close n) (es ++ [.leaving n]) :=
  h.trans (l'.extends_close (Nat.lt_of_lt_of_le hn h.length_le) (.inr rfl))

/-- Every step extends the ledger by its endings, by induction over the nesting of blocks. -/
theorem extends_perform (step : Step) : StepExtends system step := by
  induction step using Step.induct with
  | build name recipe =>
    intro l
    unfold perform
    cases recipe.origin system with
    | error fault => exact .refl l
    | ok o => exact l.extends_bind name o
  | use name use =>
    intro l
    unfold perform
    cases hfind : l.find? name with
    | none => exact .refl l
    | some found => exact l.extends_afterUse (lt_of_find? hfind) use
  | within name propagates body ih =>
    intro l
    unfold perform
    cases hfind : l.find? name with
    | none => exact .refl l
    | some found =>
      -- the key is left by its number, whatever the body did to the name
      have hfound := lt_of_find? hfind
      cases propagates with
      | true => exact (extends_runUntilFault_of_steps ih l).leave hfound
      | false => exact (extends_run_of_steps ih l).leave hfound

/-- **Every run extends the ledger by its endings.** -/
theorem extends_run (steps : List Step) (l : Ledger) :
    l.Extends (l.run system steps).ledger (l.run system steps).endings :=
  extends_run_of_steps (fun step _ => extends_perform step) l

end Ledger

/-! ### What a key answers -/

/-- The code of a header and claims without surrogates. -/
def Origin.mac (o : Origin) (header claims : Text) : Bytes :=
  Hmac.mac o.algorithm.hash o.secret
    (header.flatMap CodePoint.utf8 ++ SigningInput.separator :: claims.flatMap CodePoint.utf8)

/-- An open key has the code of every header and claims without surrogates. -/
theorem Record.code_of_open {r : Record} (hr : r.closed = false) {h c : Text}
    (hh : h.isScalar = true) (hc : c.isScalar = true) :
    r.code (.text h) (.text c) = .ok (r.origin.mac h c) := by
  simp [code, hr, Origin.code, SigningInput.build_text hh hc, Except.map, Origin.mac]

/-- A closed key has none. -/
theorem Record.code_of_closed {r : Record} (hr : r.closed = true) (header claims : Value) :
    r.code header claims = .error .keyClosed := by
  simp [code, hr]

theorem Record.verdict_of_open {r : Record} (hr : r.closed = false) {h c : Text}
    (hh : h.isScalar = true) (hc : c.isScalar = true) (raw : Bytes) :
    r.verdict (.text h) (.text c) raw = .ok (.verdict (decide (raw = r.origin.mac h c))) := by
  rw [verdict, code_of_open hr hh hc]
  rfl

theorem Record.journal_verdict (r : Record) (valid : Bool) :
    r.journal (.ok (.verdict valid)) =
      if valid = true then [] else [Key.mismatch r.origin.algorithm] := by
  cases valid <;> rfl

/-- Whether a use needs the secret of the key. -/
def Use.needsSecret : Use → Bool
  | .sign .. | .verify .. | .verifyBytes .. | .function _ => true
  | .close | .shown | .info => false

theorem Operation.needsSecret_method (operation : Operation) :
    operation.method.needsSecret = true := by
  cases operation <;> rfl

/-- A closed key answers no use that needs its secret. -/
theorem Record.answer_of_closed {r : Record} (hr : r.closed = true) {use : Use}
    (hu : use.needsSecret = true) : ∃ e, r.answer use = .error e := by
  induction use using Use.induct with
  | sign header claims =>
    exact ⟨.keyClosed, by simp [answer, code_of_closed hr, Except.map]⟩
  | verify header claims signature =>
    -- a signature that cannot be read is refused before the key is asked
    simp only [answer]
    cases Base64Url.decodeValue signature with
    | error e => exact ⟨e, rfl⟩
    | ok raw => exact ⟨.keyClosed, by simp [verdict, code_of_closed hr, Except.map]⟩
  | verifyBytes header claims signature =>
    -- a value that holds no octets is refused before the key is asked, too
    simp only [answer]
    cases signature.asBytes? with
    | none => exact ⟨_, rfl⟩
    | some raw => exact ⟨.keyClosed, by simp [verdict, code_of_closed hr, Except.map]⟩
  | close => cases hu
  | shown => cases hu
  | info => cases hu
  | function operation ih =>
    rw [r.answer_function]
    exact ih operation.needsSecret_method

/-- A use of a name does what the record of its key says. -/
theorem perform_use_of_find? {l : Ledger} {name : Text} {n : Nat} {r : Record}
    (h : l.find? name = some (n, r)) (system : Settings.System) (use : Use) :
    perform system l.store (.use name use) =
      ⟨(r.answer use).mapError .signing, r.journal (r.answer use), (l.afterUse n use).store⟩ := by
  unfold perform
  rw [Ledger.find?_store, h]
  exact l.perform_use n r use

/-- How a session serves a name whose key is on record, whatever came before and whatever other
keys there are. -/
structure Serves (system : Settings.System) (l : Ledger) (name : Text) (r : Record) : Prop where
  /-- An open key signs with the code under its secret. -/
  sign : r.closed = false → ∀ h c : Text, h.isScalar = true → c.isScalar = true →
    perform system l.store (.use name (.sign (.text h) (.text c))) =
      ⟨.ok (.signature (Base64Url.encode (r.origin.mac h c))), [], l.store⟩
  /-- An open key compares a signature that can be read with the code under its secret. -/
  verify : r.closed = false → ∀ (h c t : Text) (raw : Bytes), h.isScalar = true →
    c.isScalar = true → Base64Url.decode t = .ok raw →
    perform system l.store (.use name (.verify (.text h) (.text c) (.text t))) =
      ⟨.ok (.verdict (decide (raw = r.origin.mac h c))),
        if raw = r.origin.mac h c then [] else [Key.mismatch r.origin.algorithm], l.store⟩
  /-- An open key compares octets with the code under its secret. -/
  verifyBytes : r.closed = false → ∀ (h c : Text) (kind : BytesKind) (raw : Bytes),
    h.isScalar = true → c.isScalar = true →
    perform system l.store (.use name (.verifyBytes (.text h) (.text c) (.bytes kind raw))) =
      ⟨.ok (.verdict (decide (raw = r.origin.mac h c))),
        if raw = r.origin.mac h c then [] else [Key.mismatch r.origin.algorithm], l.store⟩
  /-- A closed key gives no value where its secret is needed. -/
  refuse : r.closed = true → ∀ use : Use, use.needsSecret = true →
    ∃ fault, (perform system l.store (.use name use)).outcome = .error fault
  /-- A function does what the key does when it is asked itself. -/
  function : ∀ operation : Operation,
    perform system l.store (.use name (.function operation)) =
      perform system l.store (.use name operation.method)
  /-- Closing a closed key changes nothing. -/
  close : r.closed = true → perform system l.store (.use name .close) = ⟨.ok .nothing, [], l.store⟩

/-- **Every name on record is served.** -/
theorem serves_of_find? {l : Ledger} {name : Text} {n : Nat} {r : Record}
    (h : l.find? name = some (n, r)) (system : Settings.System) : Serves system l name r where
  sign hr h' c hh hc := by
    rw [perform_use_of_find? h]
    simp only [Record.answer, r.code_of_open hr hh hc]
    rfl
  verify hr h' c t raw hh hc ht := by
    have hs : Base64Url.decodeValue (.text t) = .ok raw := ht
    rw [perform_use_of_find? h]
    simp only [Record.answer, hs, r.verdict_of_open hr hh hc, Record.journal_verdict,
      decide_eq_true_eq]
    rfl
  verifyBytes hr h' c kind raw hh hc := by
    rw [perform_use_of_find? h]
    simp only [Record.answer, Value.asBytes?, r.verdict_of_open hr hh hc, Record.journal_verdict,
      decide_eq_true_eq]
    rfl
  refuse hr use hu := by
    obtain ⟨e, he⟩ := r.answer_of_closed hr hu
    rw [perform_use_of_find? h, he]
    exact ⟨.signing e, rfl⟩
  function operation := by
    rw [perform_use_of_find? h, perform_use_of_find? h, r.answer_function, l.afterUse_function]
  close hr := by
    rw [perform_use_of_find? h]
    simp only [Record.answer, Ledger.afterUse, l.close_of_closed (Ledger.getElem?_of_find? h) hr]
    rfl

/-! ### The session and the ledger -/

/-- A call is one step on one key; a block is a step that holds others. -/
def Step.isCall : Step → Bool
  | .build .. | .use .. => true
  | .within .. => false

/-- A call that fails leaves every key and every name as they were, and logs nothing. -/
theorem unchanged_of_call_error {system : Settings.System} {l : Ledger} {step : Step}
    {fault : Fault} (hcall : step.isCall = true)
    (h : (l.perform system step).outcome = .error fault) :
    (l.perform system step).ledger = l ∧ (l.perform system step).journal = [] := by
  cases step with
  | build name recipe =>
    unfold Ledger.perform at h ⊢
    cases ho : recipe.origin system with
    | error fault => exact ⟨rfl, rfl⟩
    | ok o => simp [ho] at h
  | use name use =>
    unfold Ledger.perform at h ⊢
    cases hf : l.find? name with
    | none => exact ⟨rfl, rfl⟩
    | some found =>
      simp only [hf] at h ⊢
      cases ha : found.2.answer use with
      | ok result => simp [ha, Except.mapError] at h
      | error e =>
        refine ⟨?_, rfl⟩
        cases use with
        -- the one use that leaves a mark never fails
        | close => cases ha
        | _ => rfl
  | within name propagates body => cases hcall

/-- **Runs of a session are runs of the ledger.** -/
theorem run_store (system : Settings.System) (l : Ledger) (steps : List Step) :
    run system l.store steps =
      ((l.run system steps).answers, (l.run system steps).ledger.store) :=
  run_store_of_refines (fun step _ => step.refines) l

/-- In the store of a ledger, a key is closed iff its record is. -/
theorem closed_iff_closedAt {l : Ledger} {n : Nat} {k : Key} (h : l.store.keys[n]? = some k) :
    k.closed = true ↔ l.closedAt n = true := by
  rw [Ledger.store, List.getElem?_map] at h
  obtain ⟨r, hr, rfl⟩ := Option.map_eq_some_iff.1 h
  simp [Ledger.closedAt, hr]

/-- Of a store that steps led to, the closed keys are those closed before and those that ended. -/
theorem closed_iff_of_extends {l l' : Ledger} {es : List Ending} (h : l.Extends l' es) {n : Nat}
    {k : Key} (hk : l'.store.keys[n]? = some k) :
    k.closed = true ↔ l.closedAt n = true ∨ .closing n ∈ es ∨ .leaving n ∈ es := by
  rw [closed_iff_closedAt hk, h.closedAt_iff]

/-- What a run makes of a key: nothing, or the same key closed. -/
theorem getElem?_run (system : Settings.System) (l : Ledger) (steps : List Step) {n : Nat} {k : Key}
    (h : l.store.keys[n]? = some k) :
    ∃ k', (run system l.store steps).2.keys[n]? = some k' ∧ (k' = k ∨ k' = k.close) := by
  rw [Ledger.store, List.getElem?_map] at h
  obtain ⟨⟨o, closed⟩, hr, rfl⟩ := Option.map_eq_some_iff.1 h
  have hext : l.Extends (l.run system steps).ledger (l.run system steps).endings :=
    Ledger.extends_run steps l
  obtain ⟨⟨o', closed'⟩, hr', ho, hclosed⟩ := hext.getElem? hr
  refine ⟨Record.key ⟨o', closed'⟩, ?_, ?_⟩
  · rw [run_store]
    show (List.map Record.key _)[n]? = _
    rw [List.getElem?_map, hr']
    rfl
  · obtain rfl : o' = o := ho
    cases closed with
    | true =>
      obtain rfl : closed' = true := hclosed rfl
      exact .inl rfl
    | false =>
      cases closed' with
      | true => exact .inr (Record.close_key ⟨o', false⟩).symm
      | false => exact .inl rfl

/-- **Sessions refine the ledger.** Runs answer and end as the ledger does, and so does every step
from the store of any ledger, which is every store that a run can reach, inside blocks too. A key on
record signs and compares with the code under its own secret, as its record alone tells. It is
closed exactly if a call closed it or a block that had entered it was left, after a run and after
each step of it at any depth; a run changes keys in no other way, and nothing opens a closed one. A
call that fails changes nothing. -/
theorem session_refines_ledger (system : Settings.System) :
    (∀ steps, run system {} steps =
      ((Ledger.run system {} steps).answers, (Ledger.run system {} steps).ledger.store)) ∧
    (∀ (l : Ledger) step, perform system l.store step = (l.perform system step).toSession) ∧
    (∀ (l : Ledger) name n r, l.find? name = some (n, r) → Serves system l name r) ∧
    (∀ (l l' : Ledger) name name' n n' r use,
      l.find? name = some (n, r) → l'.find? name' = some (n', r) →
      (perform system l.store (.use name use)).outcome =
          (perform system l'.store (.use name' use)).outcome ∧
        (perform system l.store (.use name use)).journal =
          (perform system l'.store (.use name' use)).journal) ∧
    (∀ steps (n : Nat) (k : Key), (run system {} steps).2.keys[n]? = some k →
      (k.closed = true ↔ .closing n ∈ (Ledger.run system {} steps).endings ∨
        .leaving n ∈ (Ledger.run system {} steps).endings)) ∧
    (∀ (l : Ledger) step (n : Nat) (k : Key),
      (perform system l.store step).store.keys[n]? = some k →
      (k.closed = true ↔ l.closedAt n = true ∨ .closing n ∈ (l.perform system step).endings ∨
        .leaving n ∈ (l.perform system step).endings)) ∧
    (∀ (l : Ledger) steps (n : Nat) (k : Key), l.store.keys[n]? = some k →
      ∃ k', (run system l.store steps).2.keys[n]? = some k' ∧ (k' = k ∨ k' = k.close)) ∧
    (∀ k : Key, k.closed = true → k.close = k) ∧
    (∀ (l : Ledger) step fault, step.isCall = true →
      (perform system l.store step).outcome = .error fault →
      (perform system l.store step).store = l.store ∧
        (perform system l.store step).journal = []) := by
  have hempty : ∀ steps, run system {} steps =
      ((Ledger.run system {} steps).answers, (Ledger.run system {} steps).ledger.store) :=
    run_store system {}
  refine ⟨hempty, fun l step => step.refines l, fun l name n r h => serves_of_find? h system, ?_,
    ?_, ?_, fun l steps n k => getElem?_run system l steps, fun k => Key.close_eq_self, ?_⟩
  · intro l l' name name' n n' r use h h'
    rw [perform_use_of_find? h, perform_use_of_find? h']
    exact ⟨rfl, rfl⟩
  · intro steps n k hk
    rw [hempty] at hk
    rw [closed_iff_of_extends (Ledger.extends_run steps {}) hk]
    -- the empty ledger has no key that could be closed from the start
    simp [Ledger.closedAt]
  · intro l step n k hk
    rw [step.refines l] at hk
    exact closed_iff_of_extends (Ledger.extends_perform step l) hk
  · intro l step fault hcall h
    rw [step.refines l] at h ⊢
    obtain ⟨hledger, hjournal⟩ := unchanged_of_call_error hcall h
    exact ⟨congrArg Ledger.store hledger, hjournal⟩

/-- A block that a failing signature ends closes the key it entered, although its name was given to
another key in between. -/
theorem session_refines_ledger_failing_block :
    ∀ k, (run {} {} [
        .build [] (.secret (.bytes .bytes [0x6B]) (.hashClass Algorithm.hs256.hashClass)),
        .within [] true [
          .build [] (.secret (.bytes .bytes [0x6C]) (.hashClass Algorithm.hs512.hashClass)),
          .use [] (.sign .null .null)]]).2.keys[0]? = some k → k.closed = true := by
  intro k hk
  obtain ⟨-, -, -, -, hclosed, -⟩ := session_refines_ledger {}
  exact (hclosed _ _ _ hk).2 (.inr (by decide +kernel))

end TokenSeal.Session

import Mathlib.Data.List.Induction
import TokenSeal.Proofs.Key.Precedence
import TokenSeal.Settings.Cache

/-!
# Cached settings, told by the history of a run

What the cache holds can be told without the cache, from the steps so far. The settings in use are
those of the first load that succeeded among the uses since the cache was last cleared (`InUse`); if
all of these failed (`AllFailed`), there are none, and the next use loads afresh. One of the two
holds of every history, and it is what the cache knows (`Cache.Knows`), which each step keeps.
Changes of the system matter only through the moment at which a load took place, and settings that
lack a secret are kept like any others: `Cache.uses_find_first_load`.
-/

namespace TokenSeal.Settings

open Cache (Step)

/-! ### The system along a run -/

/-- The system after a step. Using the settings and clearing the cache leave it as it is. -/
def System.after (system : System) : Step → System
  | .setVariable name value => { system with environment := system.environment.set name value }
  | .unsetVariable name => { system with environment := system.environment.erase name }
  | .replaceFile text => { system with file := text }
  | .clear | .get | .sign .. => system

/-- The system after all steps. -/
def System.afterAll (system : System) (steps : List Step) : System := steps.foldl after system

namespace Cache

variable {system : System}

/-! ### Which settings are in use -/

/-- Whether a step uses the settings. -/
def Step.usesSettings : Step → Bool
  | .get | .sign .. => true
  | .setVariable .. | .unsetVariable .. | .replaceFile .. | .clear => false

/-- Since the cache was last cleared, every use would have failed to load. -/
def AllFailed (system : System) (history : List Step) : Prop :=
  ∀ before use after, history = before ++ use :: after → use.usesSettings = true →
    .clear ∉ after → ∃ problems, (system.afterAll before).load = .error problems

/-- The settings of the first load that succeeded since the cache was last cleared: a use loads
them, no step after it clears the cache, and the uses before it failed. -/
def InUse (system : System) (history : List Step) (s : Settings) : Prop :=
  ∃ before use after, history = before ++ use :: after ∧ use.usesSettings = true ∧
    .clear ∉ after ∧ (system.afterAll before).load = .ok s ∧ AllFailed system before

/-- A history with one step more is cut before that step or before an earlier one. -/
theorem concat_eq_append_cons_iff {α : Type} {l before after : List α} {a x : α} :
    l ++ [a] = before ++ x :: after ↔
      (before = l ∧ x = a ∧ after = []) ∨
        ∃ after', l = before ++ x :: after' ∧ after = after' ++ [a] := by
  constructor
  · intro h
    rcases List.eq_nil_or_concat after with rfl | ⟨after, b, hconcat⟩
    · obtain ⟨hbefore, hx⟩ := List.append_inj' h rfl
      exact .inl ⟨hbefore.symm, (List.cons.inj hx).1.symm, rfl⟩
    · rw [List.concat_eq_append] at hconcat
      subst hconcat
      rw [← List.cons_append, ← List.append_assoc] at h
      obtain ⟨hl, hb⟩ := List.append_inj' h rfl
      exact .inr ⟨after, hl, by rw [hb]⟩
  · rintro (⟨rfl, rfl, rfl⟩ | ⟨after', rfl, rfl⟩)
    · rfl
    · simp

theorem allFailed_nil (system : System) : AllFailed system [] := by
  intro before use after h
  simp at h

theorem not_inUse_nil (system : System) (s : Settings) : ¬ InUse system [] s := by
  rintro ⟨before, use, after, h, -⟩
  simp at h

/-- With one step more, all uses have failed if it clears the cache, or if they had before and the
step is not a use that succeeds. -/
theorem allFailed_concat {history : List Step} {step : Step} :
    AllFailed system (history ++ [step]) ↔
      step = .clear ∨ AllFailed system history ∧
        (step.usesSettings = true →
          ∃ problems, (system.afterAll history).load = .error problems) := by
  constructor
  · intro h
    by_cases hclear : step = .clear
    · exact .inl hclear
    · refine .inr ⟨fun before use after hcut huse hafter => ?_, fun huse => ?_⟩
      · refine h before use (after ++ [step]) ?_ huse ?_
        · exact concat_eq_append_cons_iff.2 (.inr ⟨after, hcut, rfl⟩)
        · simpa [hafter] using Ne.symm hclear
      · exact h history step [] rfl huse List.not_mem_nil
  · intro h before use after hcut huse hafter
    rcases concat_eq_append_cons_iff.1 hcut with ⟨rfl, rfl, rfl⟩ | ⟨after', hcut', rfl⟩
    · rcases h with rfl | ⟨-, hload⟩
      · cases huse
      · exact hload huse
    · rw [List.mem_append, List.mem_singleton, not_or] at hafter
      rcases h with rfl | ⟨hall, -⟩
      · exact absurd rfl hafter.2
      · exact hall before use after' hcut' huse hafter.1

/-- With one step more, settings are in use if they were before and the step does not clear the
cache, or if all uses had failed and the step is a use that loads them. -/
theorem inUse_concat {history : List Step} {step : Step} {s : Settings} :
    InUse system (history ++ [step]) s ↔
      (step ≠ .clear ∧ InUse system history s) ∨
        (step.usesSettings = true ∧ AllFailed system history ∧
          (system.afterAll history).load = .ok s) := by
  constructor
  · rintro ⟨before, use, after, hcut, huse, hafter, hload, hall⟩
    rcases concat_eq_append_cons_iff.1 hcut with ⟨rfl, rfl, rfl⟩ | ⟨after', hcut', rfl⟩
    · exact .inr ⟨huse, hall, hload⟩
    · rw [List.mem_append, List.mem_singleton, not_or] at hafter
      exact .inl ⟨Ne.symm hafter.2, before, use, after', hcut', huse, hafter.1, hload, hall⟩
  · rintro (⟨hclear, before, use, after, rfl, huse, hafter, hload, hall⟩ | ⟨huse, hall, hload⟩)
    · refine ⟨before, use, after ++ [step], by simp, huse, ?_, hload, hall⟩
      simpa [hafter] using Ne.symm hclear
    · exact ⟨history, step, [], rfl, huse, List.not_mem_nil, hload, hall⟩

/-- Settings stay in use until the cache is cleared. -/
theorem InUse.append {history : List Step} {s : Settings} (h : InUse system history s)
    {more : List Step} (hmore : .clear ∉ more) : InUse system (history ++ more) s := by
  obtain ⟨before, use, after, rfl, huse, hafter, hload, hall⟩ := h
  refine ⟨before, use, after ++ more, by simp, huse, ?_, hload, hall⟩
  rw [List.mem_append]
  exact not_or.2 ⟨hafter, hmore⟩

/-- Steps that are no uses cannot change that all uses have failed. -/
theorem AllFailed.append {history : List Step} (h : AllFailed system history) {more : List Step}
    (hmore : ∀ step ∈ more, step.usesSettings = false) : AllFailed system (history ++ more) := by
  induction more using List.reverseRecOn with
  | nil => rwa [List.append_nil]
  | append_singleton more step ih =>
    rw [← List.append_assoc]
    refine allFailed_concat.2 (.inr ⟨ih fun step' h' => hmore step' ?_, fun huse => ?_⟩)
    · exact List.mem_append_left _ h'
    · rw [hmore step (by simp)] at huse
      cases huse

/-! ### The cache along a run -/

/-- What a step answers with the settings that it finds, or with the problems of a load. -/
def Step.answer (found : Except (List Problem) Settings) : Step → Except Fault Result
  | .get => (found.map .settings).mapError .settings
  | .sign header claims =>
    match found with
    | .error problems => .error (.settings problems)
    | .ok s =>
      (((Key.ofSettings s).bind fun k => k.sign header claims).map .signature).mapError .signing
  | .setVariable .. | .unsetVariable .. | .replaceFile .. | .clear => .ok .nothing

theorem Step.answer_error {step : Step} (h : step.usesSettings = true) (problems : List Problem) :
    step.answer (.error problems) = .error (.settings problems) := by
  cases step <;> first | rfl | cases h

/-- A use answers with the settings in use, and leaves the cache as looking them up does. -/
theorem perform_of_use (c : Cache) {step : Step} (h : step.usesSettings = true) :
    c.perform step = (step.answer c.current.1, c.current.2) := by
  cases step with
  | get =>
    unfold perform
    rcases c.current with ⟨s | problems, c'⟩ <;> rfl
  | sign header claims =>
    unfold perform
    rcases c.current with ⟨s | problems, c'⟩ <;> rfl
  | _ => cases h

theorem perform_fst_of_not_use (c : Cache) {step : Step} (h : step.usesSettings = false) :
    (c.perform step).1 = .ok .nothing := by
  cases step <;> first | rfl | cases h

/-- A change of the system leaves the loaded settings alone. -/
theorem perform_of_change (c : Cache) {step : Step} (huse : step.usesSettings = false)
    (hclear : step ≠ .clear) :
    c.perform step = (.ok .nothing, { c with system := c.system.after step }) := by
  cases step with
  | get => cases huse
  | sign header claims => cases huse
  | clear => exact absurd rfl hclear
  | _ => rfl

theorem Step.ne_clear_of_usesSettings {step : Step} (h : step.usesSettings = true) :
    step ≠ .clear := by
  rintro rfl
  cases h

/-- A history in two parts. -/
theorem run_append (c : Cache) (steps more : List Step) :
    c.run (steps ++ more) =
      ((c.run steps).1 ++ ((c.run steps).2.run more).1, ((c.run steps).2.run more).2) := by
  induction steps generalizing c with
  | nil => rfl
  | cons step steps ih =>
    simp only [List.cons_append, run, ih]

/-- What a run answers to one of its steps is what the step answers after those before it. -/
theorem getElem?_run (c : Cache) {steps : List Step} {i : Nat} {step : Step}
    (h : steps[i]? = some step) :
    (c.run steps).1[i]? = some ((c.run (steps.take i)).2.perform step).1 := by
  induction steps generalizing c i with
  | nil => cases h
  | cons first steps ih =>
    cases i with
    | zero =>
      cases h
      rfl
    | succ i => exact ih (c.perform first).2 h

/-- What a cache knows of a history: the system as it is now, and the settings in use, if any. -/
structure Knows (c : Cache) (system : System) (history : List Step) : Prop where
  system_eq : c.system = system.afterAll history
  loaded_eq_some_iff : ∀ s, c.loaded = some s ↔ InUse system history s
  loaded_eq_none_iff : c.loaded = none ↔ AllFailed system history

/-- Before the first step, the cache knows its system and has no settings in use. -/
theorem knows_start (system : System) : Knows { system := system } system [] where
  system_eq := rfl
  loaded_eq_some_iff s := by simp [not_inUse_nil]
  loaded_eq_none_iff := by simp [allFailed_nil]

theorem afterAll_concat (system : System) (history : List Step) (step : Step) :
    system.afterAll (history ++ [step]) = (system.afterAll history).after step := by
  show (history ++ [step]).foldl System.after system = _
  rw [List.foldl_append]
  rfl

/-- A use keeps what is known: it finds the settings in use, or makes them those that it loads. -/
theorem Knows.perform_use {c : Cache} {history : List Step} (h : Knows c system history)
    {step : Step} (huse : step.usesSettings = true) :
    Knows (c.perform step).2 system (history ++ [step]) := by
  have hclear := step.ne_clear_of_usesSettings huse
  have hafter : c.system.after step = c.system := by
    cases step <;> first | rfl | cases huse
  rw [c.perform_of_use huse]
  refine ⟨?_, fun s => ?_, ?_⟩
  · rw [afterAll_concat, ← h.system_eq, hafter]
    unfold current
    split
    · rfl
    · split <;> rfl
  · rw [inUse_concat, ← h.loaded_eq_some_iff, ← h.loaded_eq_none_iff, ← h.system_eq]
    unfold current
    cases hloaded : c.loaded with
    | some t => simp [hloaded, hclear]
    | none => cases c.system.load <;> simp [hloaded, hclear, huse]
  · rw [allFailed_concat, ← h.loaded_eq_none_iff, ← h.system_eq]
    unfold current
    cases hloaded : c.loaded with
    | some t => simp [hloaded, hclear]
    | none => cases c.system.load <;> simp [hloaded, hclear, huse]

/-- A change keeps what is known: what is in use stays in use, whatever the system is now. -/
theorem Knows.perform_change {c : Cache} {history : List Step} (h : Knows c system history)
    {step : Step} (huse : step.usesSettings = false) (hclear : step ≠ .clear) :
    Knows (c.perform step).2 system (history ++ [step]) := by
  rw [c.perform_of_change huse hclear]
  refine ⟨?_, fun s => ?_, ?_⟩
  · rw [afterAll_concat, ← h.system_eq]
  · simp [inUse_concat, huse, hclear, h.loaded_eq_some_iff]
  · simp [allFailed_concat, huse, hclear, h.loaded_eq_none_iff]

/-- Clearing forgets what was loaded. -/
theorem Knows.perform_clear {c : Cache} {history : List Step} (h : Knows c system history) :
    Knows (c.perform .clear).2 system (history ++ [.clear]) where
  system_eq := by
    rw [afterAll_concat, ← h.system_eq]
    rfl
  loaded_eq_some_iff s := by simp [Cache.perform, inUse_concat, Step.usesSettings]
  loaded_eq_none_iff := by simp [Cache.perform, allFailed_concat]

/-- **A step keeps what is known.** -/
theorem Knows.perform {c : Cache} {history : List Step} (h : Knows c system history)
    (step : Step) : Knows (c.perform step).2 system (history ++ [step]) := by
  by_cases hclear : step = .clear
  · subst hclear
    exact h.perform_clear
  · cases huse : step.usesSettings with
    | true => exact h.perform_use huse
    | false => exact h.perform_change huse hclear

/-- **A run keeps what is known**, so the cache is told by the history. -/
theorem knows_run (system : System) (history : List Step) :
    Knows (run { system := system } history).2 system history := by
  induction history using List.reverseRecOn with
  | nil => exact knows_start system
  | append_singleton history step ih =>
    rw [run_append]
    exact ih.perform step

/-- Only one load can be the first. -/
theorem InUse.unique {history : List Step} {s' : Settings} (h : InUse system history s)
    (h' : InUse system history s') : s = s' := by
  have hknows := knows_run system history
  exact Option.some.inj
    (((hknows.loaded_eq_some_iff s).2 h).symm.trans ((hknows.loaded_eq_some_iff s').2 h'))

/-- Settings in use were loaded once. -/
theorem InUse.not_allFailed {history : List Step} (h : InUse system history s) :
    ¬ AllFailed system history := by
  intro hall
  have hknows := knows_run system history
  have hnone := hknows.loaded_eq_none_iff.2 hall
  rw [(hknows.loaded_eq_some_iff s).2 h] at hnone
  cases hnone

/-! ### Answers along a run -/

/-- Looking the settings up gives what is loaded then, or the failure of a load. -/
theorem current_fst (c : Cache) :
    c.current.1 =
      match c.current.2.loaded with
      | some s => .ok s
      | none => c.system.load := by
  unfold current
  cases hloaded : c.loaded with
  | some s => simp [hloaded]
  | none => cases c.system.load <;> simp [hloaded]

theorem current_fst_of_loaded_eq_none {c : Cache} (h : c.loaded = none) :
    c.current.1 = c.system.load := by
  unfold current
  rw [h]
  cases c.system.load <;> rfl

variable {steps : List Step} {i j : Nat} {use : Step} {s : Settings}

theorem take_succ_of_getElem? (h : steps[i]? = some use) :
    steps.take (i + 1) = steps.take i ++ [use] := by
  rw [List.take_add_one, h]
  rfl

/-- What a run that starts with nothing loaded answers to its steps. -/
def answers (system : System) (steps : List Step) : List (Except Fault Result) :=
  (run { system := system } steps).1

/-- A use in a run answers with the settings in use once it is done. -/
theorem answers_of_inUse (h : steps[i]? = some use) (huse : use.usesSettings = true)
    (hs : InUse system (steps.take (i + 1)) s) :
    (answers system steps)[i]? = some (use.answer (.ok s)) := by
  have hknows := (knows_run system (steps.take i)).perform_use huse
  rw [← take_succ_of_getElem? h, perform_of_use _ huse] at hknows
  rw [answers, getElem?_run _ h, perform_of_use _ huse, current_fst,
    (hknows.loaded_eq_some_iff s).2 hs]

/-- A use in a run answers with a fresh load as long as all before it have failed. -/
theorem answers_of_allFailed (h : steps[i]? = some use) (huse : use.usesSettings = true)
    (hfailed : AllFailed system (steps.take i)) :
    (answers system steps)[i]? = some (use.answer (system.afterAll (steps.take i)).load) := by
  have hknows := knows_run system (steps.take i)
  rw [answers, getElem?_run _ h, perform_of_use _ huse,
    current_fst_of_loaded_eq_none (hknows.loaded_eq_none_iff.2 hfailed), hknows.system_eq]

/-- Either settings are in use, or all uses have failed. -/
theorem exists_inUse_or_allFailed (system : System) (history : List Step) :
    (∃ s, InUse system history s) ∨ AllFailed system history := by
  have hknows := knows_run system history
  cases hloaded : (run { system := system } history).2.loaded with
  | some s => exact .inl ⟨s, (hknows.loaded_eq_some_iff s).1 hloaded⟩
  | none => exact .inr (hknows.loaded_eq_none_iff.1 hloaded)

/-- A use after which all uses have failed is one that has just failed to load. -/
theorem answers_of_allFailed_succ (h : steps[i]? = some use) (huse : use.usesSettings = true)
    (hfailed : AllFailed system (steps.take (i + 1))) :
    ∃ problems, (system.afterAll (steps.take i)).load = .error problems ∧
      (answers system steps)[i]? = some (.error (.settings problems)) := by
  rw [take_succ_of_getElem? h, allFailed_concat] at hfailed
  obtain ⟨hbefore, hload⟩ := hfailed.resolve_left (use.ne_clear_of_usesSettings huse)
  obtain ⟨problems, hproblems⟩ := hload huse
  refine ⟨problems, hproblems, ?_⟩
  rw [answers_of_allFailed h huse hbefore, hproblems, use.answer_error huse]

/-- The steps of a run after the step at `i` and before the step at `j`. -/
def between (steps : List Step) (i j : Nat) : List Step := (steps.take j).drop (i + 1)

theorem take_eq_append_between (h : i < j) :
    steps.take j = steps.take (i + 1) ++ between steps i j := by
  have htake : (steps.take j).take (i + 1) = steps.take (i + 1) := by
    rw [List.take_take, Nat.min_eq_left h]
  rw [between, ← htake, List.take_append_drop]

/-- Settings that are in use after a step are those that a later use finds, as long as the cache is
not cleared in between. -/
theorem answers_of_between (hs : InUse system (steps.take (i + 1)) s) (hij : i < j)
    (hclear : .clear ∉ between steps i j) (h : steps[j]? = some use)
    (huse : use.usesSettings = true) :
    (answers system steps)[j]? = some (use.answer (.ok s)) := by
  refine answers_of_inUse h huse ?_
  rw [take_succ_of_getElem? h, take_eq_append_between hij]
  refine (hs.append hclear).append ?_
  simpa using (use.ne_clear_of_usesSettings huse).symm

end Cache

/-! ### Keys of the settings in use -/

/-- Whether settings have no secret, or an empty one. -/
def LacksSecret (s : Settings) : Prop := s.secret = none ∨ s.secret = some []

end TokenSeal.Settings

namespace TokenSeal.Key

open Settings (LacksSecret)

/-- Settings without a secret make no key. -/
theorem exists_ofSettings_eq_error {s : Settings} (h : LacksSecret s) :
    ∃ e, ofSettings s = .error e ∧ e.errorClass? = some .keyInitialization := by
  rcases h with h | h
  · exact ⟨.secretMissing, by rw [ofSettings, h], rfl⟩
  · exact ⟨.secretEmpty, by rw [ofSettings_of_secret h]; rfl, rfl⟩

/-- A key made of settings refuses to sign for the sake of a segment only, so an error of keys means
that the settings lack a secret. -/
theorem lacksSecret_of_sign {s : Settings} {header claims : Value} {e : Failure}
    (h : ((ofSettings s).bind fun k => k.sign header claims) = .error e)
    (he : e.errorClass? = some .keyInitialization) : LacksSecret s := by
  cases hs : s.secret with
  | none => exact .inl hs
  | some t =>
    rw [ofSettings_of_secret hs] at h
    by_contra hlacks
    have hne : t ≠ [] := by
      rintro rfl
      exact hlacks (.inr hs)
    cases hrun : Utf8.firstSurrogateRun t with
    | some run =>
      rw [Value.secretBytes_text_of_surrogates hrun] at h
      cases h
      cases he
    | none =>
      rw [Value.secretBytes_text (Utf8.firstSurrogateRun_eq_none_iff.1 hrun) hne] at h
      -- the key is open, so what is wrong is one of the segments
      obtain ⟨check, hmem, hcheck⟩ :=
        (((answersBy_sign _ header claims).error_iff e).1 h).exists_mem
      simp only [signingChecks, List.mem_cons, List.not_mem_nil, or_false] at hmem
      rcases hmem with rfl | rfl | rfl
      · exact absurd hcheck.1 Bool.false_ne_true
      · rcases segmentFault_cases hcheck with ⟨-, -, rfl⟩ | ⟨-, rfl⟩ <;> cases he
      · rcases segmentFault_cases hcheck with ⟨-, -, rfl⟩ | ⟨-, rfl⟩ <;> cases he

end TokenSeal.Key

namespace TokenSeal.Settings.Cache

variable {system : System} {steps : List Step} {i : Nat} {s : Settings}

theorem answer_sign_eq_error_iff {header claims : Value} {fault : Fault} :
    (Step.sign header claims).answer (.ok s) = .error fault ↔
      ∃ e, ((Key.ofSettings s).bind fun k => k.sign header claims) = .error e ∧
        fault = .signing e := by
  simp only [Step.answer]
  cases (Key.ofSettings s).bind fun k => k.sign header claims with
  | ok t => exact ⟨nofun, nofun⟩
  | error e => exact ⟨fun h => ⟨e, rfl, (Except.error.inj h).symm⟩, by rintro ⟨_, ⟨⟩, rfl⟩; rfl⟩

/-- A key that cannot be made fails all signing alike. -/
theorem answer_sign_of_ofSettings {e : Failure} (h : Key.ofSettings s = .error e)
    (header claims : Value) :
    (Step.sign header claims).answer (.ok s) = .error (.signing e) :=
  answer_sign_eq_error_iff.2 ⟨e, by rw [h]; rfl, rfl⟩

/-- Once there are settings, an error of keys means that they lack a secret, and then all signing
fails with it. -/
theorem answer_sign_of_keyInitialization {header claims : Value} {e : Failure}
    (h : (Step.sign header claims).answer (.ok s) = .error (.signing e))
    (he : e.errorClass? = some .keyInitialization) :
    LacksSecret s ∧ ∀ header claims,
      (Step.sign header claims).answer (.ok s) = .error (.signing e) := by
  obtain ⟨e, hsign, ⟨⟩⟩ := answer_sign_eq_error_iff.1 h
  have hlacks := Key.lacksSecret_of_sign hsign he
  obtain ⟨e', hkey, -⟩ := Key.exists_ofSettings_eq_error hlacks
  rw [hkey] at hsign
  cases hsign
  exact ⟨hlacks, answer_sign_of_ofSettings hkey⟩

/-- With settings, the answer is no failure to load them. -/
theorem answer_ok_ne_settings (use : Step) (problems : List Problem) :
    use.answer (.ok s) ≠ .error (.settings problems) := by
  intro h
  cases use with
  | sign header claims =>
    obtain ⟨e, -, ⟨⟩⟩ := answer_sign_eq_error_iff.1 h
  | _ => cases h

/-- A load that fails leaves nothing loaded. -/
theorem allFailed_of_answers {use : Step} {problems : List Problem} (h : steps[i]? = some use)
    (hanswer : (answers system steps)[i]? = some (.error (.settings problems))) :
    AllFailed system (steps.take (i + 1)) := by
  refine (exists_inUse_or_allFailed system _).resolve_left ?_
  rintro ⟨s, hs⟩
  cases huse : use.usesSettings with
  | true =>
    rw [answers_of_inUse h huse hs, Option.some.injEq] at hanswer
    exact answer_ok_ne_settings use problems hanswer
  | false =>
    rw [answers, getElem?_run _ h, perform_fst_of_not_use _ huse, Option.some.injEq] at hanswer
    cases hanswer

/-- **Uses find the first load that succeeded.** Whatever the system is at first and however it
changes, a use answers with the settings in use, or, where all uses since the cache was last cleared
have failed, with the problems of a fresh load; there are never both, nor two settings in use. A
load that fails is not kept, so the next use loads from the system as it is then. A load that
succeeds is kept even if signing then fails for want of a secret: until the cache is cleared the
settings stay without one, and signing goes on to fail with the same error. -/
theorem uses_find_first_load (system : System) (steps : List Step) :
    (∀ i use, steps[i]? = some use → use.usesSettings = true →
      (∃ s, InUse system (steps.take (i + 1)) s ∧
        (answers system steps)[i]? = some (use.answer (.ok s))) ∨
      (AllFailed system (steps.take (i + 1)) ∧
        ∃ problems, (system.afterAll (steps.take i)).load = .error problems ∧
          (answers system steps)[i]? = some (.error (.settings problems)))) ∧
    (∀ history s, InUse system history s → ¬ AllFailed system history ∧
      ∀ s', InUse system history s' → s = s') ∧
    (∀ i j use use' problems, i < j → steps[i]? = some use → steps[j]? = some use' →
      use'.usesSettings = true → (∀ step ∈ between steps i j, step.usesSettings = false) →
      (answers system steps)[i]? = some (.error (.settings problems)) →
      (answers system steps)[j]? =
        some (use'.answer (system.afterAll (steps.take j)).load)) ∧
    (∀ i header claims e, steps[i]? = some (.sign header claims) →
      (answers system steps)[i]? = some (.error (.signing e)) →
      e.errorClass? = some .keyInitialization →
      ∃ s, InUse system (steps.take (i + 1)) s ∧ LacksSecret s ∧
        ∀ j, i < j → .clear ∉ between steps i j →
          (steps[j]? = some .get → (answers system steps)[j]? = some (.ok (.settings s))) ∧
          ∀ header' claims', steps[j]? = some (.sign header' claims') →
            (answers system steps)[j]? = some (.error (.signing e))) ∧
    (∀ i header claims s, steps[i]? = some (.sign header claims) →
      InUse system (steps.take (i + 1)) s → LacksSecret s →
      ∃ e, e.errorClass? = some .keyInitialization ∧
        (answers system steps)[i]? = some (.error (.signing e))) := by
  refine ⟨?_, ?_, ?_, ?_, ?_⟩
  · intro i use h huse
    rcases exists_inUse_or_allFailed system (steps.take (i + 1)) with ⟨s, hs⟩ | hfailed
    · exact .inl ⟨s, hs, answers_of_inUse h huse hs⟩
    · exact .inr ⟨hfailed, answers_of_allFailed_succ h huse hfailed⟩
  · intro history s hs
    exact ⟨hs.not_allFailed, fun s' hs' => hs.unique hs'⟩
  · intro i j use use' problems hij h h' huse' hbetween hanswer
    refine answers_of_allFailed h' huse' ?_
    rw [take_eq_append_between hij]
    exact (allFailed_of_answers h hanswer).append hbetween
  · intro i header claims e h hanswer he
    rcases exists_inUse_or_allFailed system (steps.take (i + 1)) with ⟨s, hs⟩ | hfailed
    · rw [answers_of_inUse h rfl hs, Option.some.injEq] at hanswer
      obtain ⟨hlacks, hsign⟩ := answer_sign_of_keyInitialization hanswer he
      refine ⟨s, hs, hlacks, fun j hij hclear => ⟨?_, ?_⟩⟩
      · intro h'
        exact answers_of_between hs hij hclear h' rfl
      · intro header' claims' h'
        rw [answers_of_between hs hij hclear h' rfl, hsign header' claims']
    · obtain ⟨problems, -, hproblems⟩ := answers_of_allFailed_succ h rfl hfailed
      rw [hproblems] at hanswer
      cases hanswer
  · intro i header claims s h hs hlacks
    obtain ⟨e, hkey, he⟩ := Key.exists_ofSettings_eq_error hlacks
    refine ⟨e, he, ?_⟩
    rw [answers_of_inUse h rfl hs, answer_sign_of_ofSettings hkey]

/-- A run that repairs an algorithm that is not known, then lacks a secret, and finds the secret
only after the cache is cleared. -/
def repairs : List Step :=
  [.setVariable (Text.ofString "TOKENSIGN_ALGORITHM") (Text.ofString "none"),
    .get,
    .setVariable (Text.ofString "TOKENSIGN_ALGORITHM") (Text.ofString "HS384"),
    .sign (.text []) .null,
    .setVariable (Text.ofString "TOKENSIGN_SECRET") (Text.ofString "k"),
    .sign (.text []) (.text []),
    .clear,
    .get]

/-- The failed load is not kept, so the first attempt to sign loads HS384; as that has no secret,
the second fails as well, although there is one by then. -/
theorem uses_find_first_load_repairs :
    (answers {} repairs)[3]? = some (.error (.signing .secretMissing)) ∧
    (answers {} repairs)[5]? = some (.error (.signing .secretMissing)) ∧
    (answers {} repairs)[7]? =
      some (.ok (.settings { algorithm := .hs384, secret := some (Text.ofString "k") })) := by
  obtain ⟨-, -, hfresh, hlacking, -⟩ := uses_find_first_load {} repairs
  have hfirst : (answers {} repairs)[1]? = some (.error (.settings [⟨.algorithm, .noAlgorithm⟩])) :=
    rfl
  have hsign : (answers {} repairs)[3]? = some (.error (.signing .secretMissing)) :=
    hfresh 1 3 .get (.sign (.text []) .null) _ (by decide) rfl rfl rfl (by decide) hfirst
  obtain ⟨s, -, -, hlater⟩ := hlacking 3 _ _ _ rfl hsign rfl
  exact ⟨hsign, (hlater 5 (by decide) (by simp [between, repairs])).2 _ _ rfl, rfl⟩

end TokenSeal.Settings.Cache

import TokenSeal.Key.Parts
import TokenSeal.Proofs.Key.EquivalentSecrets
import TokenSeal.Proofs.Session.Lifecycle

/-!
# Ways to build a key

A secret text under an algorithm makes one key, and there are several recipes for it
(`Recipe.Makes`): from the text or its octets, with the hash class or an instance of it, by the
algorithm's name or the member itself, or from settings. Programs that differ in the recipes of such
keys only, at any depth, perform alike step by step (`Step.Rebuilt.performAlike`), so their runs are
the same. Once built, the key is the same key for the rest of the run, open or closed
(`exists_getElem?_of_makes`).
-/

namespace TokenSeal.Session

/-! ### Recipes of one key -/

/-- The recipes that make the key of a secret text under an algorithm. -/
inductive Recipe.Makes (system : Settings.System) (a : Algorithm) (t : Text) : Recipe → Prop
  | hashClass {raw : Value} (h : raw.Holds (t.flatMap CodePoint.utf8)) :
    Makes system a t (.secret raw (.hashClass a.hashClass))
  | hash {raw : Value} (h : raw.Holds (t.flatMap CodePoint.utf8)) :
    Makes system a t (.secret raw (.hash a.hashClass))
  | name {raw : Value} (h : raw.Holds (t.flatMap CodePoint.utf8)) :
    Makes system a t (.algorithm (.text (Text.ofString a.name)) raw)
  | member {raw : Value} (h : raw.Holds (t.flatMap CodePoint.utf8)) :
    Makes system a t (.algorithm (.algorithm a) raw)
  | settings {arguments : Entries Value} {loaded : Settings}
    (hload : system.load arguments = .ok loaded) (halgorithm : loaded.algorithm = a)
    (hsecret : loaded.secret = some t) : Makes system a t (.settings arguments)

/-- A secret in settings makes a key if it is not empty and has no surrogates. -/
theorem ofSettings_eq_ok {st : Settings} {t : Text} (h : st.secret = some t)
    (hs : t.isScalar = true) (hne : t ≠ []) :
    Key.ofSettings st = .ok (.ofBytes st.algorithm (t.flatMap CodePoint.utf8)) := by
  rw [Key.ofSettings_of_secret h, Value.secretBytes_text hs hne]
  rfl

variable {system : Settings.System} {a : Algorithm} {t : Text}

/-- All of them make the one key. -/
theorem Recipe.Makes.build_eq {r : Recipe} (h : r.Makes system a t) (hs : t.isScalar = true)
    (hne : t ≠ []) : r.build system = .ok (.ofBytes a (t.flatMap CodePoint.utf8)) := by
  have hoctets : t.flatMap CodePoint.utf8 ≠ [] := Text.flatMap_utf8_ne_nil hne
  have hnamed {tag raw : Value} (htag : tag.algorithmNamed = .ok a)
      (hraw : raw.Holds (t.flatMap CodePoint.utf8)) :
      Key.ofAlgorithm tag raw = .ok (.ofBytes a (t.flatMap CodePoint.utf8)) := by
    rw [Key.ofAlgorithm_of_named htag, Value.secretBytes_of_holds hraw hoctets]
    rfl
  cases h with
  | hashClass hraw =>
    rw [build, Key.ofSecret_of_holds hraw hoctets (Value.algorithmOfHash_hashClass a)]
    rfl
  | hash hraw =>
    rw [build, Key.ofSecret_of_holds hraw hoctets (Value.algorithmOfHash_eq_ok_iff.2 rfl)]
    rfl
  | name hraw =>
    rw [build, hnamed (Value.algorithmNamed_name a) hraw]
    rfl
  | member hraw =>
    rw [build, hnamed (Value.algorithmNamed_eq_ok_iff.2 rfl) hraw]
    rfl
  | settings hload halgorithm hsecret =>
    subst halgorithm
    simp only [build, hload, ofSettings_eq_ok hsecret hs hne]
    rfl

/-! ### Programs that differ in recipes -/

section

variable (system : Settings.System)

/-- Recipes that are the same, or make the same key. -/
inductive Recipe.Rebuilt : Recipe → Recipe → Prop
  | same (r : Recipe) : Rebuilt r r
  | otherWay {a : Algorithm} {t : Text} {r r' : Recipe} (hs : t.isScalar = true) (hne : t ≠ [])
    (h : r.Makes system a t) (h' : r'.Makes system a t) : Rebuilt r r'

/-- Steps that differ in nothing but the ways in which they build their keys. -/
inductive Step.Rebuilt : Step → Step → Prop
  | build (name : Text) {r r' : Recipe} (h : r.Rebuilt system r') :
    Rebuilt (.build name r) (.build name r')
  | use (name : Text) (use : Use) : Rebuilt (.use name use) (.use name use)
  | within (name : Text) (propagates : Bool) {body body' : List Step}
    (h : List.Forall₂ Rebuilt body body') :
    Rebuilt (.within name propagates body) (.within name propagates body')

/-- Steps that are about one name and perform alike from every store. -/
structure Step.PerformAlike (step step' : Step) : Prop where
  name : step.name = step'.name
  perform : ∀ store, perform system store step = perform system store step'

end

/-- Rebuilt recipes build the same key. -/
theorem Recipe.Rebuilt.build_eq {r r' : Recipe} (h : r.Rebuilt system r') :
    r.build system = r'.build system := by
  cases h with
  | same => rfl
  | otherWay hs hne h h' => rw [h.build_eq hs hne, h'.build_eq hs hne]

/-- Runs inherit it from their steps. -/
theorem run_eq_of_performAlike {steps steps' : List Step}
    (h : List.Forall₂ (Step.PerformAlike system) steps steps') (store : Store) :
    run system store steps = run system store steps' := by
  induction h generalizing store with
  | nil => rfl
  | cons hstep _ ih => simp only [run, hstep.perform, hstep.name, ih]

/-- Bodies of propagating blocks inherit it from their steps. -/
theorem runUntilFault_eq_of_performAlike {steps steps' : List Step}
    (h : List.Forall₂ (Step.PerformAlike system) steps steps') (store : Store) :
    runUntilFault system store steps = runUntilFault system store steps' := by
  induction h generalizing store with
  | nil => rfl
  | cons hstep _ ih => simp only [runUntilFault, hstep.perform, ih]

/-- Rebuilt steps perform alike, by induction over the nesting of blocks. -/
theorem Step.Rebuilt.performAlike {step step' : Step} (h : step.Rebuilt system step') :
    step.PerformAlike system step' := by
  induction step using Step.induct generalizing step' with
  | build name r =>
    cases h with
    | build _ h =>
      refine ⟨rfl, fun store => ?_⟩
      simp only [Session.perform, h.build_eq]
  | use name use =>
    cases h
    exact ⟨rfl, fun _ => rfl⟩
  | within name propagates body ih =>
    cases h with
    | @within _ _ _ body' h =>
      have hsteps : ∀ step ∈ body, ∀ step', step.Rebuilt system step' →
          step.PerformAlike system step' := fun step hstep _ => ih step hstep
      have hbody : List.Forall₂ (Step.PerformAlike system) body body' :=
        ((List.forall₂_and_left body body').2 ⟨hsteps, h⟩).imp fun _ _ h => h.1 _ h.2
      refine ⟨rfl, fun store => ?_⟩
      simp only [Session.perform, run_eq_of_performAlike hbody,
        runUntilFault_eq_of_performAlike hbody]

/-! ### A built key in a run -/

/-- A run in two parts. -/
theorem run_append (system : Settings.System) (store : Store) (steps steps' : List Step) :
    run system store (steps ++ steps') =
      ((run system store steps).1 ++ (run system (run system store steps).2 steps').1,
        (run system (run system store steps).2 steps').2) := by
  induction steps generalizing store with
  | nil => rfl
  | cons step steps ih => simp only [List.cons_append, run, ih]

/-- The key that a recipe makes has the next number, and is still there after the run, as it was
built or closed. -/
theorem exists_getElem?_of_makes {r : Recipe} (h : r.Makes system a t) (hs : t.isScalar = true)
    (hne : t ≠ []) (before after : List Step) (name : Text) :
    ∃ k, (run system {} (before ++ .build name r :: after)).2.keys[
        (run system {} before).2.keys.length]? = some k ∧
      (k = .ofBytes a (t.flatMap CodePoint.utf8) ∨
        k = (Key.ofBytes a (t.flatMap CodePoint.utf8)).close) := by
  have hbefore : (run system {} before).2 = (Ledger.run system {} before).ledger.store :=
    congrArg Prod.snd (run_store system {} before)
  rw [run_append, hbefore]
  generalize (Ledger.run system {} before).ledger = l
  have hbuild : (perform system l.store (.build name r)).store =
      (l.bind name ⟨a, t.flatMap CodePoint.utf8⟩).store := by
    simp only [perform, h.build_eq hs hne]
    exact l.bind_store name ⟨a, t.flatMap CodePoint.utf8⟩
  have hkey : (l.bind name ⟨a, t.flatMap CodePoint.utf8⟩).store.keys[l.store.keys.length]? =
      some (.ofBytes a (t.flatMap CodePoint.utf8)) := by
    rw [← Ledger.bind_store]
    exact List.getElem?_concat_length
  simp only [run, hbuild]
  exact getElem?_run system _ after hkey

/-- **All ways to build a key agree.** A secret text without surrogates that is not empty makes one
key under an algorithm, whichever recipe it is built by, and so do settings with that algorithm and
secret. Programs that differ only in the recipes of such keys give the same answers at every step,
from any store. A built key stays that key to the end of a run, open or closed.

The tag, the class, the size of signatures and the hash of an algorithm are those of one row of
three, and a key that is put together from the parts as they are found has those of one row: what is
built that way are the parts of the key, which belong together and answer as the key does. -/
theorem ways_to_build_agree (system : Settings.System) :
    (∀ (a : Algorithm) (t : Text), t.isScalar = true → t ≠ [] →
      ∀ r : Recipe, r.Makes system a t →
        r.build system = .ok (.ofBytes a (t.flatMap CodePoint.utf8))) ∧
    (∀ (st : Settings) t, st.secret = some t → t.isScalar = true → t ≠ [] →
      Key.ofSettings st = .ok (.ofBytes st.algorithm (t.flatMap CodePoint.utf8))) ∧
    (∀ steps steps', List.Forall₂ (Step.Rebuilt system) steps steps' →
      ∀ store, run system store steps = run system store steps') ∧
    (∀ (a : Algorithm) (t : Text), t.isScalar = true → t ≠ [] →
      ∀ r : Recipe, r.Makes system a t → ∀ before after name,
        ∃ k, (run system {} (before ++ .build name r :: after)).2.keys[
            (run system {} before).2.keys.length]? = some k ∧
          (k = .ofBytes a (t.flatMap CodePoint.utf8) ∨
            k = (Key.ofBytes a (t.flatMap CodePoint.utf8)).close)) ∧
    (∀ a : Algorithm, (a.name, a.hashClass, a.signatureLength, a.hash) ∈
      [("HS256", .standard "SHA256", 32, .sha256), ("HS384", .standard "SHA384", 48, .sha384),
        ("HS512", .standard "SHA512", 64, .sha512)]) ∧
    (∀ secret hash,
      Key.Parts.ofSecret secret hash =
        ((Key.ofSecret secret hash).map Key.parts).mapError .failure) ∧
    (∀ tag secret limits,
      Key.Parts.ofAlgorithm tag secret limits =
        ((Key.ofAlgorithm tag secret limits).map Key.parts).mapError .failure) ∧
    (∀ st, Key.Parts.ofSettings st =
      ((Key.ofSettings st).map Key.parts).mapError .failure) ∧
    (∀ k : Key, k.parts.BelongTogether ∧ k.parts.close = k.close.parts ∧
      k.parts.closed = k.closed ∧ k.parts.shown = k.shown ∧
      k.parts.rawSignature = k.rawSignature ∧ k.parts.compare = k.compare) := by
  refine ⟨?_, ?_, ?_, ?_, ?_, Key.Parts.ofSecret_eq, Key.Parts.ofAlgorithm_eq,
    Key.Parts.ofSettings_eq, ?_⟩
  · intro a t hs hne r h
    exact h.build_eq hs hne
  · intro st t h hs hne
    exact ofSettings_eq_ok h hs hne
  · intro steps steps' h store
    exact run_eq_of_performAlike (h.imp fun _ _ h => h.performAlike) store
  · intro a t hs hne r h before after name
    exact exists_getElem?_of_makes h hs hne before after name
  · intro a
    cases a with
    | hs256 => exact .head _
    | hs384 => exact .tail _ (.head _)
    | hs512 => exact .tail _ (.tail _ (.head _))
  · intro k
    refine ⟨k.parts_belongTogether, k.parts_close, k.parts_closed, k.parts_shown, ?_, ?_⟩
    · funext header claims
      exact k.parts_rawSignature header claims
    · funext header claims raw journal
      exact k.parts_compare header claims raw journal

/-- A system whose environment has an algorithm and a secret that is not ASCII. -/
def configured : Settings.System where
  environment :=
    [(Text.ofString "TOKENSIGN_ALGORITHM", Text.ofString "HS384"),
      (Text.ofString "TOKENSIGN_SECRET", Text.ofString "\u00E9")]

/-- The two octets of a letter make the key that the settings make, in front of a block and inside
it, and every other way makes it too. -/
theorem ways_to_build_agree_configured :
    run configured {}
        [.build [] (.settings []),
          .within [] true [.build [] (.algorithm (.algorithm .hs384) (.text [0xE9])),
            .use [] (.sign .null .null)]] =
      run configured {}
        [.build [] (.secret (.bytes .bytes [0xC3, 0xA9]) (.hash Algorithm.hs384.hashClass)),
          .within [] true
            [.build [] (.secret (.bytes .bytearray [0xC3, 0xA9])
              (.hashClass Algorithm.hs384.hashClass)),
            .use [] (.sign .null .null)]] ∧
    Recipe.build configured (.settings []) = .ok (.ofBytes .hs384 [0xC3, 0xA9]) ∧
    Key.ofSettings { algorithm := .hs384, secret := some [0xE9] } =
      .ok (.ofBytes .hs384 [0xC3, 0xA9]) ∧
    ∃ k, (run configured {} [.build [] (.settings []), .use [] .close]).2.keys[0]? = some k ∧
      (k = .ofBytes .hs384 [0xC3, 0xA9] ∨ k = (Key.ofBytes .hs384 [0xC3, 0xA9]).close) := by
  obtain ⟨hbuild, hsettings, hrun, hkeeps, -⟩ := ways_to_build_agree configured
  have hs : Text.isScalar [0xE9] = true := by decide
  have hne : ([0xE9] : Text) ≠ [] := List.cons_ne_nil _ _
  have hoctets : ([0xE9] : Text).flatMap CodePoint.utf8 = [0xC3, 0xA9] := by decide
  have hload : configured.load = .ok { algorithm := .hs384, secret := some [0xE9] } := rfl
  have hmakes : Recipe.Makes configured .hs384 [0xE9] (.settings []) := .settings hload rfl rfl
  rw [← hoctets]
  refine ⟨hrun _ _ ?_ {}, hbuild _ _ hs hne _ hmakes,
    hsettings { algorithm := .hs384, secret := some [0xE9] } _ rfl hs hne,
    hkeeps _ _ hs hne _ hmakes [] [.use [] .close] []⟩
  have htext : (Value.text [0xE9]).Holds (([0xE9] : Text).flatMap CodePoint.utf8) := .text rfl hs
  refine .cons (.build [] (.otherWay hs hne hmakes (.hash (.bytes _))))
    (.cons (.within [] true ?_) .nil)
  exact .cons (.build [] (.otherWay hs hne (.member htext) (.hashClass (.bytearray _))))
    (.cons (.use [] _) .nil)

end TokenSeal.Session

import TokenSeal.Fault
import TokenSeal.Key
import TokenSeal.Settings.Load

/-!
# Sessions over named keys

A session is a list of steps over keys that have names. Building a key under a name gives the name a
new key; what fails leaves the name as it was. A `within` step enters a key, runs a body and leaves
the key, which closes it: the key that was entered, even if its name means another one by then. In a
containing block the failures of the body stay among its answers; in a propagating block the first
of them ends the body and becomes the answer of the block. Either way the key is closed. A key is
asked to sign or to compare by itself or through the functions of `Interface`.

Keys live in a `Store` under numbers that are never used again, and names refer to numbers.
-/

namespace TokenSeal.Session

/-- A way to build a key. -/
inductive Recipe
  | secret (secret hash : Value)
  | algorithm (algorithm secret : Value)
  /-- From settings that are loaded with these arguments. -/
  | settings (arguments : Entries Value)

/-- What a function of `Interface` is called for. -/
inductive Operation
  | sign (header claims : Value)
  | verify (header claims signature : Value)
  | verifyBytes (header claims signature : Value)

/-- A use of one key. -/
inductive Use
  | sign (header claims : Value)
  | verify (header claims signature : Value)
  | verifyBytes (header claims signature : Value)
  | close
  | shown
  | info
  /-- An operation by the function of that name, which is given the key. -/
  | function (operation : Operation)

/-- The use that asks the key itself for an operation. -/
def Operation.method : Operation → Use
  | .sign header claims => .sign header claims
  | .verify header claims signature => .verify header claims signature
  | .verifyBytes header claims signature => .verifyBytes header claims signature

/-- A property of uses, where a function inherits it from the use that asks the key itself. -/
theorem Use.induct {P : Use → Prop} (sign : ∀ header claims, P (.sign header claims))
    (verify : ∀ header claims signature, P (.verify header claims signature))
    (verifyBytes : ∀ header claims signature, P (.verifyBytes header claims signature))
    (close : P .close) (shown : P .shown) (info : P .info)
    (function : ∀ operation, P operation.method → P (.function operation)) : ∀ use, P use
  | .sign header claims => sign header claims
  | .verify header claims signature => verify header claims signature
  | .verifyBytes header claims signature => verifyBytes header claims signature
  | .close => close
  | .shown => shown
  | .info => info
  | .function (.sign header claims) => function _ (sign header claims)
  | .function (.verify header claims signature) => function _ (verify header claims signature)
  | .function (.verifyBytes header claims signature) =>
    function _ (verifyBytes header claims signature)

/-- A step, on the key of a name. -/
inductive Step
  | build (name : Text) (recipe : Recipe)
  | use (name : Text) (use : Use)
  | within (name : Text) (propagates : Bool) (body : List Step)
  deriving Inhabited

/-- The name of the key that a step is about. -/
def Step.name : Step → Text
  | .build name _ | .use name _ | .within name _ _ => name

mutual

/-- What a step gives. -/
inductive Result
  | nothing
  | shown (form : String)
  | signature (text : Text)
  | verdict (valid : Bool)
  | info (algorithm : Algorithm) (signatureLength : Nat) (closed : Bool)
  /-- All answers of a containing block. -/
  | answers (body : List Answer)
  /-- The results of a propagating block that no failure ended. -/
  | results (body : List Result)

/-- A step's outcome, whether its key is closed after it, and the events that it logged. -/
inductive Answer
  | of (outcome : Except Fault Result) (closed : Option Bool) (journal : Log.Journal)

end

/-! ### The store -/

/-- All keys built so far, by number, and the names that refer to them. -/
structure Store where
  keys : List Key := []
  names : Entries Nat := []

namespace Store

/-- The key that a name refers to, with its number. -/
def find? (s : Store) (name : Text) : Option (Nat × Key) :=
  (s.names.get? name).bind fun number => (s.keys[number]?).map fun k => (number, k)

/-- Whether the key that a name refers to is closed. -/
def closed? (s : Store) (name : Text) : Option Bool :=
  (s.find? name).map fun found => found.2.closed

/-- A new key under a name. -/
def bind (s : Store) (name : Text) (k : Key) : Store :=
  ⟨s.keys ++ [k], s.names.set name s.keys.length⟩

/-- The store with one key closed. -/
def close (s : Store) (n : Nat) : Store := { s with keys := s.keys.modify n Key.close }

end Store

/-! ### Running -/

/-- The key that a recipe builds. -/
def Recipe.build (system : Settings.System) : Recipe → Except Fault Key
  | .secret raw hash => (Key.ofSecret raw hash).mapError .signing
  | .algorithm tag raw => (Key.ofAlgorithm tag raw).mapError .signing
  | .settings arguments =>
    match system.load arguments with
    | .error problems => .error (.settings problems)
    | .ok loaded => (Key.ofSettings loaded).mapError .signing

/-- What performing a step gives: its outcome, the events that it logged, the store after it. -/
structure Performed (α : Type) where
  outcome : Except Fault α
  journal : Log.Journal
  store : Store

/-- A verification's outcome as a step's. -/
def ofVerdict (store : Store) (v : Except Failure Bool × Log.Journal) : Performed Result :=
  ⟨(v.1.map .verdict).mapError .signing, v.2, store⟩

/-- What a use of a key gives. -/
def Use.perform (store : Store) (number : Nat) (k : Key) : Use → Performed Result
  | .sign header claims => ⟨((k.sign header claims).map .signature).mapError .signing, [], store⟩
  | .verify header claims signature => ofVerdict store (k.verify header claims signature [])
  | .verifyBytes header claims signature =>
    ofVerdict store (k.verifyBytes header claims signature [])
  | .close => ⟨.ok .nothing, [], store.close number⟩
  | .shown => ⟨.ok (.shown k.shown), [], store⟩
  | .info => ⟨.ok (.info k.algorithm k.signatureLength k.closed), [], store⟩
  | .function (.sign header claims) =>
    let (answer, journal) := Interface.sign k.signer header claims []
    ⟨(answer.map .signature).mapError .signing, journal, store⟩
  | .function (.verify header claims signature) =>
    let (answer, journal) := Interface.verify k.verifier header claims signature []
    ofVerdict store (answer.bind id, journal)
  | .function (.verifyBytes header claims signature) =>
    ofVerdict store (Interface.verifyBytes k.verifier header claims signature [])

/-- A function does what the key does by itself. -/
theorem Use.perform_function (store : Store) (number : Nat) (k : Key) (operation : Operation) :
    (Use.function operation).perform store number k = operation.method.perform store number k := by
  cases operation <;> rfl

mutual

/-- Performs a step. -/
def perform (system : Settings.System) (store : Store) : Step → Performed Result
  | .build name recipe =>
    match recipe.build system with
    | .error fault => ⟨.error fault, [], store⟩
    | .ok k => ⟨.ok (.shown k.shown), [], store.bind name k⟩
  | .use name use =>
    match store.find? name with
    | none => ⟨.error (.unboundName name), [], store⟩
    | some (number, k) => use.perform store number k
  | .within name propagates body =>
    match store.find? name with
    | none => ⟨.error (.unboundName name), [], store⟩
    | some (number, _) =>
      if propagates then
        let p := runUntilFault system store body
        ⟨p.outcome.map .results, p.journal, p.store.close number⟩
      else
        let (answers, store) := run system store body
        ⟨.ok (.answers answers), [], store.close number⟩

/-- Performs all steps and answers each. -/
def run (system : Settings.System) (store : Store) : List Step → List Answer × Store
  | [] => ([], store)
  | step :: steps =>
    let p := perform system store step
    let (answers, store) := run system p.store steps
    (.of p.outcome (p.store.closed? step.name) p.journal :: answers, store)

/-- Performs steps up to the first that fails. -/
def runUntilFault (system : Settings.System) (store : Store) :
    List Step → Performed (List Result)
  | [] => ⟨.ok [], [], store⟩
  | step :: steps =>
    let p := perform system store step
    match p.outcome with
    | .error fault => ⟨.error fault, p.journal, p.store⟩
    | .ok result =>
      let q := runUntilFault system p.store steps
      ⟨q.outcome.map (result :: ·), p.journal ++ q.journal, q.store⟩

end

end TokenSeal.Session

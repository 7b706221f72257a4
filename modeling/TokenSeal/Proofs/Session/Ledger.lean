import TokenSeal.Session

/-!
# The ledger of a session

The reference for sessions. A ledger keeps of each key what it was built from, which never changes,
and whether it is closed; it has no state of a hash anywhere. What a use of a key answers is a
function of that record alone (`Record.answer`): a signature is the code in one piece under the
record's secret, and what is logged is read off the answer (`Record.journal`). A run of the ledger
also lists how keys ended: a call that closed one, or a block that entered one and was left.
-/

namespace TokenSeal.Session

/-! ### What a key was built from -/

/-- The algorithm and the secret of a key. -/
structure Origin where
  algorithm : Algorithm
  secret : Bytes

namespace Origin

/-- An origin from an algorithm, which is looked up first, and a secret. -/
def ofValues (algorithm : Except Failure Algorithm) (secret : Value) : Except Failure Origin :=
  match algorithm with
  | .error e => .error e
  | .ok a => secret.secretBytes.map fun octets => ⟨a, octets⟩

/-- The code of a header and claims. -/
def code (o : Origin) (header claims : Value) : Except Failure Bytes :=
  (SigningInput.build header claims).map (Hmac.mac o.algorithm.hash o.secret)

end Origin

/-- What the key of a recipe is built from. -/
def Recipe.origin (system : Settings.System) : Recipe → Except Fault Origin
  | .secret raw hash => (Origin.ofValues hash.algorithmOfHash raw).mapError .signing
  | .algorithm tag raw => (Origin.ofValues tag.algorithmNamed raw).mapError .signing
  | .settings arguments =>
    match system.load arguments with
    | .error problems => .error (.settings problems)
    | .ok loaded =>
      match loaded.secret with
      | none => .error (.signing .secretMissing)
      | some shared => (Origin.ofValues (.ok loaded.algorithm) (.text shared)).mapError .signing

/-! ### What a key answers -/

/-- A key on the ledger. -/
structure Record where
  origin : Origin
  closed : Bool

namespace Record

/-- The code of a header and claims, while the key is open. -/
def code (r : Record) (header claims : Value) : Except Failure Bytes :=
  if r.closed then .error .keyClosed else r.origin.code header claims

/-- Whether octets are the code of a header and claims. -/
def verdict (r : Record) (header claims : Value) (raw : Bytes) : Except Failure Result :=
  (r.code header claims).map fun code => .verdict (decide (raw = code))

/-- The record shown by its algorithm and whether it is open. -/
def shown (r : Record) : String :=
  "HmacKey(algorithm=" ++ r.origin.algorithm.name ++ ", " ++
    (if r.closed then "closed" else "open") ++ ")"

/-- What a use of the key answers, whether the key itself or a function is called. -/
def answer (r : Record) : Use → Except Failure Result
  | .sign header claims | .function (.sign header claims) =>
    (r.code header claims).map fun code => .signature (Base64Url.encode code)
  | .verify header claims signature | .function (.verify header claims signature) =>
    match Base64Url.decodeValue signature with
    | .error e => .error e
    | .ok raw => r.verdict header claims raw
  | .verifyBytes header claims signature | .function (.verifyBytes header claims signature) =>
    match signature.asBytes? with
    | none => .error (.signatureNotBytes signature.typeName)
    | some raw => r.verdict header claims raw
  | .close => .ok .nothing
  | .shown => .ok (.shown r.shown)
  | .info => .ok (.info r.origin.algorithm r.origin.algorithm.signatureLength r.closed)

/-- A function is answered like the method that it calls. -/
theorem answer_function (r : Record) (operation : Operation) :
    r.answer (.function operation) = r.answer operation.method := by
  cases operation <;> rfl

/-- What an answer of the key logs: a mismatch, and nothing else. -/
def journal (r : Record) : Except Failure Result → Log.Journal
  | .ok (.verdict false) => [Key.mismatch r.origin.algorithm]
  | _ => []

end Record

/-! ### Runs -/

/-- How a key came to its end. -/
inductive Ending
  /-- A call closed the key of this number. -/
  | closing (number : Nat)
  /-- A block that had entered the key of this number was left. -/
  | leaving (number : Nat)
  deriving DecidableEq

/-- The endings that a use of the key of a number brings about. -/
def Use.endings (number : Nat) : Use → List Ending
  | .close => [.closing number]
  | _ => []

/-- The records of all keys built so far, by number, and the names that refer to them. -/
structure Ledger where
  records : List Record := []
  names : Entries Nat := []

namespace Ledger

/-- The record that a name refers to, with its number. -/
def find? (l : Ledger) (name : Text) : Option (Nat × Record) :=
  (l.names.get? name).bind fun number => (l.records[number]?).map fun r => (number, r)

/-- Whether the key that a name refers to is closed. -/
def closed? (l : Ledger) (name : Text) : Option Bool :=
  (l.find? name).map fun found => found.2.closed

/-- A new open key under a name. -/
def bind (l : Ledger) (name : Text) (o : Origin) : Ledger :=
  ⟨l.records ++ [⟨o, false⟩], l.names.set name l.records.length⟩

/-- The ledger with one key marked as closed. -/
def close (l : Ledger) (n : Nat) : Ledger :=
  { l with records := l.records.modify n fun r => { r with closed := true } }

/-- The ledger after a use of the key of a number: only closing leaves a mark. -/
def afterUse (l : Ledger) (n : Nat) : Use → Ledger
  | .close => l.close n
  | _ => l

theorem afterUse_function (l : Ledger) (n : Nat) (operation : Operation) :
    l.afterUse n (.function operation) = l.afterUse n operation.method := by
  cases operation <;> rfl

/-- What a step comes to on the ledger. -/
structure Performed (α : Type) where
  outcome : Except Fault α
  journal : Log.Journal
  endings : List Ending
  ledger : Ledger

/-- What a sequence of steps comes to on the ledger. -/
structure Ran where
  answers : List Answer
  endings : List Ending
  ledger : Ledger

mutual

/-- Performs a step. -/
def perform (system : Settings.System) (l : Ledger) : Step → Performed Result
  | .build name recipe =>
    match recipe.origin system with
    | .error fault => ⟨.error fault, [], [], l⟩
    | .ok o => ⟨.ok (.shown (Record.shown ⟨o, false⟩)), [], [], l.bind name o⟩
  | .use name use =>
    match l.find? name with
    | none => ⟨.error (.unboundName name), [], [], l⟩
    | some (number, r) =>
      ⟨(r.answer use).mapError .signing, r.journal (r.answer use), use.endings number,
        l.afterUse number use⟩
  | .within name propagates body =>
    match l.find? name with
    | none => ⟨.error (.unboundName name), [], [], l⟩
    | some (number, _) =>
      if propagates then
        let p := runUntilFault system l body
        ⟨p.outcome.map .results, p.journal, p.endings ++ [.leaving number], p.ledger.close number⟩
      else
        let p := run system l body
        ⟨.ok (.answers p.answers), [], p.endings ++ [.leaving number], p.ledger.close number⟩

/-- Performs all steps and answers each. -/
def run (system : Settings.System) (l : Ledger) : List Step → Ran
  | [] => ⟨[], [], l⟩
  | step :: steps =>
    let p := perform system l step
    let q := run system p.ledger steps
    ⟨.of p.outcome (p.ledger.closed? step.name) p.journal :: q.answers, p.endings ++ q.endings,
      q.ledger⟩

/-- Performs steps up to the first that fails. -/
def runUntilFault (system : Settings.System) (l : Ledger) : List Step → Performed (List Result)
  | [] => ⟨.ok [], [], [], l⟩
  | step :: steps =>
    let p := perform system l step
    match p.outcome with
    | .error fault => ⟨.error fault, p.journal, p.endings, p.ledger⟩
    | .ok result =>
      let q := runUntilFault system p.ledger steps
      ⟨q.outcome.map (result :: ·), p.journal ++ q.journal, p.endings ++ q.endings, q.ledger⟩

end

end Ledger

end TokenSeal.Session

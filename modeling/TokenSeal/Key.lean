import TokenSeal.Hmac
import TokenSeal.Log.Event
import TokenSeal.Settings.Basic
import TokenSeal.SigningInput
import TokenSeal.Verifier

/-!
# Signing keys

A key binds a secret to one algorithm. It is keyed once: it holds the HMAC state that has taken the
secret and nothing else, and each signature continues a copy of that state, so no call leaves a
trace in the key. A closed key has no state any more and refuses to sign or to compare.

Every way to build a key comes down to `Key.ofSecret`, which checks the hash class before the
secret. Comparing a signature that does not match is an answer, not a failure, and is the only thing
that a key logs.
-/

namespace TokenSeal

/-- A secret bound to an algorithm. -/
structure Key where
  algorithm : Algorithm
  /-- The keyed state, until the key is closed. -/
  state : Option (Hmac.Keyed algorithm.hash)

/-- The class that a value names as its hash: itself if it is a class, else the class that it is an
instance of. -/
def Value.hashClassOf : Value → HashClass
  | .hashClass h => h
  | .hash h => h
  | .builtinClass name => ⟨"builtins", name⟩
  | v => ⟨"builtins", v.typeName⟩

/-- The algorithm that a value names. What names none is shown in the message, if the platform shows
it. -/
def Value.algorithmNamed (v : Value) (limits : Limits := {}) : Except Failure Algorithm :=
  match v.asText?.bind Algorithm.ofName? with
  | some a => .ok a
  | none =>
    match v.shownWithin limits with
    | .ok shown => .error (.unsupportedAlgorithm shown)
    | .error obstacle => .error (.nameNotShown obstacle)

/-- The algorithm registered for a value's hash class. -/
def Value.algorithmOfHash (v : Value) : Except Failure Algorithm :=
  match Algorithm.ofHashClass? v.hashClassOf with
  | some a => .ok a
  | none => .error (.unregisteredHash v.hashClassOf.name)

/-- The octets of a secret: those of a text in UTF-8, or those given. There has to be one. -/
def Value.secretBytes (v : Value) : Except Failure Bytes :=
  match secret with
  | .ok [] => .error .secretEmpty
  | r => r
where
  /-- The octets, however many. -/
  secret : Except Failure Bytes :=
    match v.asText?, v with
    | some t, _ =>
      match Utf8.encode t with
      | .ok bs => .ok bs
      | .error run => .error (.secretNotScalar run)
    | none, .bytes .memoryview _ => .error (.secretNotBytes v.typeName)
    | none, .bytes _ content => .ok content
    | none, _ => .error (.secretNotBytes v.typeName)

namespace Key

/-! ### Construction -/

/-- The open key of secret octets. -/
def ofBytes (a : Algorithm) (secret : Bytes) : Key := ⟨a, some (.ofKey a.hash secret)⟩

/-- The hash class of a key for which none is given. -/
def defaultHash : Value := .hashClass Algorithm.hs256.hashClass

/-- A key from a secret and a hash class or an instance of one. -/
def ofSecret (secret : Value) (hash : Value := defaultHash) : Except Failure Key :=
  match hash.algorithmOfHash with
  | .error e => .error e
  | .ok a => secret.secretBytes.map (ofBytes a)

/-- A key from an algorithm's name and a secret. -/
def ofAlgorithm (algorithm secret : Value) (limits : Limits := {}) : Except Failure Key :=
  match algorithm.algorithmNamed limits with
  | .error e => .error e
  | .ok a => ofSecret secret (.hashClass a.hashClass)

/-- A key from the configured algorithm and secret. -/
def ofSettings (s : Settings) : Except Failure Key :=
  match s.secret with
  | none => .error .secretMissing
  | some secret => ofAlgorithm (.text (Text.ofString s.algorithm.name)) (.text secret)

/-! ### Life -/

/-- Whether the key has been closed. -/
def closed (k : Key) : Bool := k.state.isNone

/-- The key without its state. -/
def close (k : Key) : Key := { k with state := none }

/-- Octets in the key's raw signatures. -/
def signatureLength (k : Key) : Nat := k.algorithm.signatureLength

/-- The key shown by its algorithm and whether it is open. -/
def shown (k : Key) : String :=
  "HmacKey(algorithm=" ++ k.algorithm.name ++ ", " ++ (if k.closed then "closed" else "open") ++ ")"

/-! ### Signing and comparing -/

/-- The raw signature of a header and claims. -/
def rawSignature (k : Key) (header claims : Value) : Except Failure Bytes :=
  match k.state with
  | none => .error .keyClosed
  | some state => (SigningInput.build header claims).map fun m => (state.update m).finish

/-- The signature of a header and claims as text. -/
def sign (k : Key) (header claims : Value) : Except Failure Text :=
  (k.rawSignature header claims).map Base64Url.encode

/-- The logger that keys log through. -/
def logger : Text := Text.ofString "tokensign.signing.hmac_key"

/-- The event of a signature that did not match. Its only field is the algorithm. -/
def mismatch (a : Algorithm) : Log.Event where
  logger := logger
  severity := .warning
  message := Text.ofString "Signature verification failed"
  fields := [(Text.ofString "algorithm", .text (Text.ofString a.name))]

/-- Compares octets with the raw signature; the lengths may differ. A mismatch is logged. -/
def compare (k : Key) (header claims : Value) (raw : Bytes) (journal : Log.Journal) :
    Except Failure Bool × Log.Journal :=
  match k.rawSignature header claims with
  | .error e => (.error e, journal)
  | .ok expected =>
    if raw = expected then (.ok true, journal)
    else (.ok false, journal ++ [mismatch k.algorithm])

/-- Compares a raw signature, which has to be a container of octets. -/
def verifyBytes (k : Key) (header claims signature : Value) (journal : Log.Journal) :
    Except Failure Bool × Log.Journal :=
  match signature.asBytes? with
  | none => (.error (.signatureNotBytes signature.typeName), journal)
  | some raw => k.compare header claims raw journal

/-- The key as a verifier. -/
def verifier (k : Key) : Verifier Log.Journal (Except Failure Bool) := ⟨k.verifyBytes⟩

/-- Compares signature text. -/
def verify (k : Key) (header claims signature : Value) (journal : Log.Journal) :
    Except Failure Bool × Log.Journal :=
  let (answer, journal) := k.verifier.verify header claims signature journal
  (answer.bind id, journal)

/-- The key as a signer. -/
def signer (k : Key) : Signer Log.Journal (Except Failure Text) :=
  ⟨fun header claims journal => (k.sign header claims, journal)⟩

/-- A raw signature as it is offered: a value, or a view that has been released. A released view is
a container of octets like any other as long as nobody asks for the octets. -/
inductive Offered
  | value (v : Value)
  | released

/-- Compares a raw signature as it is offered. The octets are asked for last. -/
def verifyOffered (k : Key) (header claims : Value) (journal : Log.Journal) :
    Offered → Except Failure Bool × Log.Journal
  | .value signature => k.verifyBytes header claims signature journal
  | .released =>
    match k.rawSignature header claims with
    | .error e => (.error e, journal)
    | .ok _ => (.error .signatureReleased, journal)

end Key

end TokenSeal

import TokenSeal.Key

/-!
# Keys over a platform's keyed hash

Taking a secret into a keyed hash is a step that a platform may do, and a platform may refuse. What
it objects to is reported as a fault of the key, anything else that it raises goes through. The
three ways to build a key are given here over any such step (`Key.construct`,
`Key.constructNamed`, `Key.constructConfigured`); over the hash of this library they are the
constructors of `Key`.
-/

namespace TokenSeal

/-- How a platform refuses a secret. -/
inductive Refusal
  /-- It objects to the secret, and says why. -/
  | objection (reason : String)
  /-- It fails in some other way. -/
  | breakdown

/-- A platform's keyed hash: the state that secret octets leave in an algorithm's hash. -/
abbrev Keying := (a : Algorithm) → Bytes → Except Refusal (Hmac.Keyed a.hash)

namespace Keying

/-- The keyed hash of this library. It takes any octets. -/
def own : Keying := fun a secret => .ok (.ofKey a.hash secret)

/-- A platform that takes every secret with an octet in it. -/
def Total (keying : Keying) : Prop :=
  ∀ a secret, secret ≠ [] → ∃ state, keying a secret = .ok state

/-- The hash of this library takes every secret. -/
theorem own_total : own.Total := fun a secret _ => ⟨.ofKey a.hash secret, rfl⟩

end Keying

namespace Key

variable (keying : Keying)

/-- The key of secret octets, if the platform takes them. -/
def keyedBy (a : Algorithm) (octets : Bytes) : Except Raised Key :=
  match keying a octets with
  | .ok state => .ok ⟨a, some state⟩
  | .error (.objection reason) =>
    .error (.reported .keyInitialization ("Cannot initialize HMAC key: " ++ reason))
  | .error .breakdown => .error .escaped

/-- A key from a secret and a hash class or an instance of one. -/
def construct (secret : Value) (hash : Value := defaultHash) : Except Raised Key := do
  let a ← hash.algorithmOfHash.mapError .failure
  let octets ← secret.secretBytes.mapError .failure
  keyedBy keying a octets

/-- A key from an algorithm's name and a secret. -/
def constructNamed (algorithm secret : Value) (limits : Limits := {}) : Except Raised Key := do
  let a ← (algorithm.algorithmNamed limits).mapError .failure
  construct keying secret (.hashClass a.hashClass)

/-- A key from the configured algorithm and secret. -/
def constructConfigured (s : Settings) : Except Raised Key :=
  match s.secret with
  | none => .error (.failure .secretMissing)
  | some secret => constructNamed keying (.text (Text.ofString s.algorithm.name)) (.text secret)

/-! ### Over the hash of this library -/

/-- Over the hash of this library, the guarded construction is the plain one. -/
theorem construct_own (secret hash : Value) :
    construct .own secret hash = (ofSecret secret hash).mapError .failure := by
  unfold construct ofSecret
  cases hash.algorithmOfHash with
  | error e => rfl
  | ok a => cases secret.secretBytes <;> rfl

theorem constructNamed_own (algorithm secret : Value) (limits : Limits) :
    constructNamed .own algorithm secret limits =
      (ofAlgorithm algorithm secret limits).mapError .failure := by
  unfold constructNamed ofAlgorithm
  cases algorithm.algorithmNamed limits with
  | error e => rfl
  | ok a => exact construct_own secret _

theorem constructConfigured_own (s : Settings) :
    constructConfigured .own s = (ofSettings s).mapError .failure := by
  unfold constructConfigured ofSettings
  cases s.secret with
  | none => rfl
  | some secret => exact constructNamed_own _ _ _

end Key

end TokenSeal

import TokenSeal.Key

/-!
# Keys in parts

What a key needs comes from different places. The tag is looked up for the hash class, the class
gives the size of signatures and the hash that takes the secret, and a tag that is given leads to
its class over the same registry, read backwards. `Key` keeps the tag and takes the rest to be what
belongs to it. Here each part is kept as it was found (`Key.Parts`), and what comes of it is the key
in every case: the parts of the keys that can be built belong together, and each operation on parts
is the operation on the key.
-/

namespace TokenSeal

/-- The hash that instances of a class compute, for the three that a key may have. -/
def HashClass.sha2? (c : HashClass) : Option Sha2 :=
  if c = .standard "SHA256" then some .sha256
  else if c = .standard "SHA384" then some .sha384
  else if c = .standard "SHA512" then some .sha512
  else none

/-! ### The registry -/

/-- The hash classes that have a tag, each with its own. -/
def registry : List (HashClass × Algorithm) :=
  [(.standard "SHA256", .hs256), (.standard "SHA384", .hs384), (.standard "SHA512", .hs512)]

/-- The tag that is registered for a class. -/
def registeredTag? (c : HashClass) : Option Algorithm := registry.lookup c

/-- The class that a tag is registered for. -/
def registeredClass? (a : Algorithm) : Option HashClass := (registry.map Prod.swap).lookup a

/-- A tag leads to its class. -/
theorem registeredClass?_eq (a : Algorithm) : registeredClass? a = some a.hashClass := by
  cases a <;> rfl

/-- A class has the tag whose class it is. -/
theorem registeredTag?_eq (c : HashClass) : registeredTag? c = Algorithm.ofHashClass? c := by
  cases hc : Algorithm.ofHashClass? c with
  | some a =>
    rw [Algorithm.ofHashClass?_eq_some_iff.1 hc]
    cases a <;> rfl
  | none =>
    have hregistry : ∀ entry ∈ registry, entry.1 = entry.2.hashClass := by decide
    rw [registeredTag?, List.lookup_eq_none_iff]
    intro entry hentry
    rw [bne_iff_ne]
    intro heq
    rw [heq, hregistry entry hentry, Algorithm.ofHashClass?_hashClass] at hc
    cases hc

/-- The class of a tag computes the hash of the tag. -/
theorem HashClass.sha2?_hashClass (a : Algorithm) : a.hashClass.sha2? = some a.hash := by
  cases a <;> rfl

namespace Key

/-- A key as it is put together. -/
structure Parts where
  tag : Algorithm
  hashClass : HashClass
  /-- The keyed state of some hash, until the key is closed. -/
  state : Option (Σ h : Sha2, Hmac.Keyed h)

namespace Parts

/-! ### Construction -/

/-- A key from a secret and a hash class or an instance of one. The tag is looked up for the class,
and the class gives the hash that takes the secret. -/
def ofSecret (secret : Value) (hash : Value := defaultHash) : Except Raised Parts :=
  match registeredTag? hash.hashClassOf, secret.secretBytes, hash.hashClassOf.sha2? with
  | none, _, _ => .error (.failure (.unregisteredHash hash.hashClassOf.name))
  | some _, .error e, _ => .error (.failure e)
  | some _, .ok _, none => .error .escaped
  | some tag, .ok octets, some h => .ok ⟨tag, hash.hashClassOf, some ⟨h, .ofKey h octets⟩⟩

/-- A key from an algorithm's name and a secret. The class is looked up for the tag. -/
def ofAlgorithm (algorithm secret : Value) (limits : Limits := {}) : Except Raised Parts :=
  match algorithm.algorithmNamed limits with
  | .error e => .error (.failure e)
  | .ok tag =>
    match registeredClass? tag with
    | none => .error .escaped
    | some c => ofSecret secret (.hashClass c)

/-- A key from the configured algorithm and secret. -/
def ofSettings (s : Settings) : Except Raised Parts :=
  match s.secret with
  | none => .error (.failure .secretMissing)
  | some secret => ofAlgorithm (.text (Text.ofString s.algorithm.name)) (.text secret)

/-! ### Operations -/

/-- Octets in the key's raw signatures, as its class has it. -/
def signatureLength? (p : Parts) : Option Nat := p.hashClass.sha2?.map Sha2.digestSize

/-- Whether the key has been closed. -/
def closed (p : Parts) : Bool := p.state.isNone

/-- The key without its state. -/
def close (p : Parts) : Parts := { p with state := none }

/-- The key shown by its tag and whether it is open. -/
def shown (p : Parts) : String :=
  "HmacKey(algorithm=" ++ p.tag.name ++ ", " ++ (if p.closed then "closed" else "open") ++ ")"

/-- The raw signature of a header and claims, by the hash of the state. -/
def rawSignature (p : Parts) (header claims : Value) : Except Failure Bytes :=
  match p.state with
  | none => .error .keyClosed
  | some ⟨_, state⟩ => (SigningInput.build header claims).map fun m => (state.update m).finish

/-- Compares octets with the raw signature. A mismatch is logged under the tag. -/
def compare (p : Parts) (header claims : Value) (raw : Bytes) (journal : Log.Journal) :
    Except Failure Bool × Log.Journal :=
  match p.rawSignature header claims with
  | .error e => (.error e, journal)
  | .ok expected =>
    if raw = expected then (.ok true, journal) else (.ok false, journal ++ [mismatch p.tag])

/-- Whether the class, the size of signatures and the hash are all those of the tag. -/
structure BelongTogether (p : Parts) : Prop where
  hashClass : p.hashClass = p.tag.hashClass
  signatureLength? : p.signatureLength? = some p.tag.signatureLength
  hash : ∀ h state, p.state = some ⟨h, state⟩ → h = p.tag.hash

end Parts

/-! ### The parts of a key -/

/-- The parts of a key: what belongs to its tag, and its state. -/
def parts (k : Key) : Parts :=
  ⟨k.algorithm, k.algorithm.hashClass, k.state.map fun state => ⟨k.algorithm.hash, state⟩⟩

theorem parts_tag (k : Key) : k.parts.tag = k.algorithm := rfl

/-- The parts of a key are all those of its one algorithm. -/
theorem parts_belongTogether (k : Key) : k.parts.BelongTogether where
  hashClass := rfl
  signatureLength? := by
    show Option.map _ k.algorithm.hashClass.sha2? = _
    rw [HashClass.sha2?_hashClass]
    rfl
  hash h state hstate := by
    obtain ⟨_, -, heq⟩ := Option.map_eq_some_iff.1 hstate
    cases heq
    rfl

/-- **Parts are put together as keys are built.** A class that computes no hash of ours and a tag
without a class do not come up. -/
theorem Parts.ofSecret_eq (secret hash : Value) :
    Parts.ofSecret secret hash = ((Key.ofSecret secret hash).map parts).mapError .failure := by
  unfold Parts.ofSecret Key.ofSecret Value.algorithmOfHash
  rw [registeredTag?_eq]
  cases htag : Algorithm.ofHashClass? hash.hashClassOf with
  | none => rfl
  | some a =>
    rw [Algorithm.ofHashClass?_eq_some_iff.1 htag, HashClass.sha2?_hashClass]
    cases secret.secretBytes <;> rfl

/-- Every algorithm has a class, so the lookup never comes up with none. -/
theorem Parts.ofAlgorithm_eq (algorithm secret : Value) (limits : Limits) :
    Parts.ofAlgorithm algorithm secret limits =
      ((Key.ofAlgorithm algorithm secret limits).map parts).mapError .failure := by
  unfold Parts.ofAlgorithm Key.ofAlgorithm
  cases algorithm.algorithmNamed limits with
  | error e => rfl
  | ok a =>
    simp only [registeredClass?_eq]
    exact Parts.ofSecret_eq secret _

/-- Settings name an algorithm, so they come down to `Parts.ofAlgorithm_eq`. -/
theorem Parts.ofSettings_eq (s : Settings) :
    Parts.ofSettings s = ((Key.ofSettings s).map parts).mapError .failure := by
  unfold Parts.ofSettings Key.ofSettings
  cases s.secret with
  | none => rfl
  | some secret => exact Parts.ofAlgorithm_eq _ _ _

/-! ### Each operation -/

theorem parts_closed (k : Key) : k.parts.closed = k.closed := by
  simp [Parts.closed, closed, parts]

theorem parts_close (k : Key) : k.parts.close = k.close.parts := rfl

theorem parts_shown (k : Key) : k.parts.shown = k.shown := by
  unfold Parts.shown shown
  rw [parts_closed, parts_tag]

/-- The hash of the parts computes the same signature, since it is the algorithm's. -/
theorem parts_rawSignature (k : Key) (header claims : Value) :
    k.parts.rawSignature header claims = k.rawSignature header claims := by
  unfold Parts.rawSignature rawSignature parts
  cases k.state <;> rfl

theorem parts_compare (k : Key) (header claims : Value) (raw : Bytes) (journal : Log.Journal) :
    k.parts.compare header claims raw journal = k.compare header claims raw journal := by
  rw [Parts.compare, parts_rawSignature]
  rfl

end Key

end TokenSeal

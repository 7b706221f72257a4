import Mathlib.Algebra.Ring.Int.Defs
import TokenSeal.Key.Keying
import TokenSeal.Proofs.Key.EquivalentSecrets
import TokenSeal.Proofs.Key.Precedence

/-!
# Which fault of a construction is reported

A key is built from a secret and a hash, from an algorithm's name and a secret, or from settings,
and each way comes down to the ones before it. So the checks of each are a list (`Check`), and the
lists are put together as the calls are: the hash or the name comes first, whatever the secret is,
and a secret is looked at in the order of `secretChecks`. A name that is refused is shown in the
message, and what a platform does not show fails for that instead (`NameFault`). Behind all checks a
platform does the keying. It is asked for non-empty secrets only, and if it takes all of these, then
what it might have objected to is never reported and nothing that it raises gets through
(`RaisesBy`).
-/

namespace TokenSeal

/-! ### The checks -/

/-- The class of a hash has to be one of three. -/
def HashFault (v : Value) : Check := fun e =>
  v.hashClassOf ∉ [HashClass.standard "SHA256", .standard "SHA384", .standard "SHA512"] ∧
    e = .unregisteredHash v.hashClassOf.name

/-- A name has to be one of three texts. Anything else is refused in a message that shows it, or
else for what keeps it from being shown. -/
def NameFault (limits : Limits) (v : Value) : Check := fun e =>
  v.asText? ∉ ["HS256", "HS384", "HS512"].map (fun tag => some (Text.ofString tag)) ∧
    ((∃ form, v.shownWithin limits = .ok form ∧ e = .unsupportedAlgorithm form) ∨
      ∃ obstacle, v.shownWithin limits = .error obstacle ∧ e = .nameNotShown obstacle)

/-- A text that is a secret has to be without surrogates. -/
def SecretTextFault (v : Value) : Check := fun e =>
  ∃ t run, v.asText? = some t ∧ Utf8.firstSurrogateRun t = some run ∧ e = .secretNotScalar run

/-- A secret has to be a text or one of two containers of octets. -/
def SecretTypeFault (v : Value) : Check := fun e =>
  (v.asText? = none ∧ ∀ octets, v ≠ .bytes .bytes octets ∧ v ≠ .bytes .bytearray octets) ∧
    e = .secretNotBytes v.typeName

/-- A secret must not be empty. -/
def SecretEmptyFault (v : Value) : Check := fun e =>
  (v = .text [] ∨ v = .bytes .bytes [] ∨ v = .bytes .bytearray []) ∧ e = .secretEmpty

/-- What a secret has to pass, in this order. -/
abbrev secretChecks (v : Value) : List Check :=
  [SecretTextFault v, SecretTypeFault v, SecretEmptyFault v]

/-- Settings have to have a secret, which is without surrogates and not empty. -/
def SettingsFault (s : Settings) : Check := fun e =>
  (s.secret = none ∧ e = .secretMissing) ∨ (s.secret = some [] ∧ e = .secretEmpty) ∨
    ∃ t run, s.secret = some t ∧ Utf8.firstSurrogateRun t = some run ∧ e = .secretNotScalar run

/-- The fault of a text is that it holds a surrogate. -/
theorem exists_secretTextFault_iff (v : Value) :
    (∃ e, SecretTextFault v e) ↔ ∃ t, v.asText? = some t ∧ ∃ c ∈ t, c.isSurrogate = true := by
  simp only [SecretTextFault, ← Utf8.exists_firstSurrogateRun_iff]
  constructor
  · rintro ⟨-, t, run, ht, hrun, -⟩
    exact ⟨t, ht, run, hrun⟩
  · rintro ⟨t, ht, run, hrun⟩
    exact ⟨_, t, run, ht, hrun, rfl⟩

/-- A call that has one reason to fail answers by the check for it. -/
theorem AnswersBy.of_only_failure {α : Type} {x : Except Failure α} {p : Prop} {d : Failure}
    (hok : (∃ a, x = .ok a) ↔ p) (herror : ∀ e, x = .error e → e = d) :
    AnswersBy [fun e => ¬ p ∧ e = d] x := by
  refine .of_error_iff fun e => ?_
  rw [firstFault_singleton, ← hok]
  cases x with
  | error c => simp [herror c rfl, eq_comm]
  | ok a => simp

theorem answersBy_algorithmOfHash (v : Value) : AnswersBy [HashFault v] v.algorithmOfHash := by
  have hok : (∃ a, v.algorithmOfHash = .ok a) ↔
      v.hashClassOf ∈ Algorithm.all.map Algorithm.hashClass := by
    simp only [Value.algorithmOfHash_eq_ok_iff, List.mem_map, Algorithm.mem_all, true_and]
    exact exists_congr fun a => eq_comm
  refine .of_only_failure hok fun e h => ?_
  unfold Value.algorithmOfHash at h
  split at h
  · cases h
  · cases h
    rfl

theorem answersBy_algorithmNamed (limits : Limits) (v : Value) :
    AnswersBy [NameFault limits v] (v.algorithmNamed limits) := by
  have hok : (∃ a, v.algorithmNamed limits = .ok a) ↔
      v.asText? ∈ Algorithm.all.map fun a => some (Text.ofString a.name) := by
    simp only [Value.algorithmNamed_eq_ok_iff, List.mem_map, Algorithm.mem_all, true_and]
    exact exists_congr fun a => eq_comm
  refine .of_error_iff fun e => ?_
  rw [firstFault_singleton]
  show _ ↔ v.asText? ∉ Algorithm.all.map (fun a => some (Text.ofString a.name)) ∧ _
  rw [← hok]
  unfold Value.algorithmNamed
  cases v.asText?.bind Algorithm.ofName? with
  | some a => simp
  | none => cases v.shownWithin limits <;> simp [eq_comm]

/-- A text is shown on every platform. -/
theorem Value.exists_shownWithin_of_asText {v : Value} {t : Text} (h : v.asText? = some t)
    (limits : Limits) : ∃ form, v.shownWithin limits = .ok form := by
  cases v with
  | text t => exact ⟨_, rfl⟩
  | algorithm a => exact ⟨_, rfl⟩
  | _ => cases h

/-- What a name is refused as. -/
theorem kind_of_nameFault {limits : Limits} {v : Value} {e : Failure} (h : NameFault limits v e) :
    (∃ form, v.shownWithin limits = .ok form ∧ e.kind = .signing .unsupportedAlgorithm ∧
        e.message = "Unsupported algorithm: " ++ form) ∨
      ∃ obstacle, v.shownWithin limits = .error obstacle ∧ e.message = obstacle.message ∧
        e.kind = if obstacle = .tooDeep then .recursion else .value := by
  obtain ⟨-, ⟨form, hform, rfl⟩ | ⟨obstacle, hobstacle, rfl⟩⟩ := h
  · exact .inl ⟨form, hform, rfl, rfl⟩
  · refine .inr ⟨obstacle, hobstacle, rfl, ?_⟩
    cases obstacle <;> rfl

/-! ### Secrets -/

/-- The octets of a secret, before it is asked whether there are any. -/
theorem answersBy_secret (v : Value) :
    AnswersBy [SecretTextFault v, SecretTypeFault v] (Value.secretBytes.secret v) := by
  refine .of_error_iff fun e => ?_
  rw [firstFault_cons, firstFault_singleton]
  -- of the two checks a text can fail the first only, and any other value the second only
  cases ht : v.asText? with
  | some t =>
    simp only [Value.secretBytes.secret, SecretTextFault, SecretTypeFault, Utf8.encode, ht]
    cases hrun : Utf8.firstSurrogateRun t with
    | none => simp [hrun]
    | some run => simp [hrun, eq_comm]
  | none =>
    have hpass : ∀ e, ¬ SecretTextFault v e := by simp [SecretTextFault, ht]
    simp only [hpass, not_false_eq_true, implies_true, false_or, true_and]
    cases v with
    | text t => cases ht
    | algorithm a => cases ht
    | bytes kind content =>
      cases kind <;> simp [Value.secretBytes.secret, SecretTypeFault, ht, eq_comm]
    | _ => simp [Value.secretBytes.secret, SecretTypeFault, ht, eq_comm]

/-- The values that give octets are those that hold some. -/
theorem Value.secret_eq_ok_iff {v : Value} {octets : Bytes} :
    secretBytes.secret v = .ok octets ↔ v.Holds octets := by
  refine ⟨fun h => ?_, secret_of_holds⟩
  cases ht : v.asText? with
  | some t =>
    simp only [secretBytes.secret, Utf8.encode, ht] at h
    cases hrun : Utf8.firstSurrogateRun t with
    | some run => simp [hrun] at h
    | none =>
      simp only [hrun, Except.ok.injEq] at h
      exact h ▸ .text ht (Utf8.firstSurrogateRun_eq_none_iff.1 hrun)
  | none =>
    cases v with
    | text t => cases ht
    | algorithm a => cases ht
    | bytes kind content =>
      cases kind with
      | bytes => cases h; exact .bytes octets
      | bytearray => cases h; exact .bytearray octets
      | memoryview => cases h
    | _ => cases h

theorem Value.asText?_eq_some_nil_iff {v : Value} : v.asText? = some [] ↔ v = .text [] := by
  cases v with
  | text t => simp [asText?]
  | algorithm a =>
    have hname : Text.ofString a.name ≠ [] := by cases a <;> decide
    simp [asText?, hname]
  | _ => simp [asText?]

/-- A value that holds no octets is empty. -/
theorem Value.holds_nil_iff {v : Value} :
    v.Holds [] ↔ v = .text [] ∨ v = .bytes .bytes [] ∨ v = .bytes .bytearray [] := by
  constructor
  · intro h
    generalize hoctets : ([] : Bytes) = octets at h
    cases h with
    | bytes => simp [← hoctets]
    | bytearray => simp [← hoctets]
    | @text _ t ht hs =>
      cases t with
      | nil => exact .inl (asText?_eq_some_nil_iff.1 ht)
      | cons c t => simp [CodePoint.utf8_ne_nil] at hoctets
  · rintro (rfl | rfl | rfl)
    · exact .text (t := []) rfl rfl
    · exact .bytes []
    · exact .bytearray []

/-- A secret is asked for octets, and the octets are counted. -/
theorem answersBy_secretBytes (v : Value) : AnswersBy (secretChecks v) v.secretBytes := by
  have hbind : v.secretBytes = (Value.secretBytes.secret v).bind fun octets =>
      if octets = [] then .error .secretEmpty else .ok octets := by
    unfold Value.secretBytes
    cases Value.secretBytes.secret v with
    | error e => rfl
    | ok octets => cases octets <;> simp [Except.bind]
  rw [hbind]
  show AnswersBy ([SecretTextFault v, SecretTypeFault v] ++ [SecretEmptyFault v]) _
  refine (answersBy_secret v).bind fun octets hoctets => .of_error_iff fun e => ?_
  have hempty : octets = [] ↔ v = .text [] ∨ v = .bytes .bytes [] ∨ v = .bytes .bytearray [] := by
    rw [← Value.holds_nil_iff, ← Value.secret_eq_ok_iff, hoctets, Except.ok.injEq]
  rw [firstFault_singleton, SecretEmptyFault, ← hempty]
  by_cases hnil : octets = []
  · simp [hnil, eq_comm]
  · simp [hnil]

/-- A secret is what holds octets, of which there is at least one. -/
theorem Value.secretBytes_eq_ok_iff {v : Value} {octets : Bytes} :
    v.secretBytes = .ok octets ↔ v.Holds octets ∧ octets ≠ [] := by
  constructor
  · intro h
    have hne := secretBytes_ne_nil h
    refine ⟨secret_eq_ok_iff.1 ?_, hne⟩
    unfold secretBytes at h
    split at h
    · cases h
    · exact h
  · rintro ⟨h, hne⟩
    exact secretBytes_of_holds h hne

/-- The checks of a secret that is a text. -/
theorem firstFault_secretChecks_text {t : Text} {e : Failure} :
    FirstFault (secretChecks (.text t)) e ↔
      (t = [] ∧ e = .secretEmpty) ∨
        ∃ run, Utf8.firstSurrogateRun t = some run ∧ e = .secretNotScalar run := by
  rw [firstFault_cons, firstFault_cons, firstFault_singleton]
  cases hrun : Utf8.firstSurrogateRun t with
  | none => simp [SecretTextFault, SecretTypeFault, SecretEmptyFault, Value.asText?, hrun]
  | some run =>
    have hne : t ≠ [] := by
      rintro rfl
      cases hrun
    simp [SecretTextFault, SecretTypeFault, SecretEmptyFault, Value.asText?, hrun, hne]

/-! ### Constructions over a platform -/

/-- A construction over a platform answers by checks: what fails is the first fault in the list, and
the platform itself is heard of in no way. -/
structure RaisesBy {α : Type} (checks : List Check) (made : Except Raised α) : Prop where
  failure_iff : ∀ e, made = .error (.failure e) ↔ FirstFault checks e
  not_reported : ∀ kind message, made ≠ .error (.reported kind message)
  not_escaped : made ≠ .error .escaped

namespace RaisesBy

variable {α β : Type} {checks checks' : List Check}

/-- It gives a value iff all checks pass. -/
theorem ok_iff {made : Except Raised α} (h : RaisesBy checks made) :
    (∃ a, made = .ok a) ↔ ∀ check ∈ checks, ∀ e, ¬ check e := by
  have hnone : (∀ check ∈ checks, ∀ e, ¬ check e) ↔ ¬ ∃ e, FirstFault checks e := by
    rw [exists_firstFault_iff]
    push Not
    rfl
  simp only [hnone, ← h.failure_iff]
  match made, h with
  | .ok a, _ => simp
  | .error (.failure e), _ => simp
  | .error (.reported kind message), h => exact absurd rfl (h.not_reported kind message)
  | .error .escaped, h => exact absurd rfl h.not_escaped

/-- What is made regardless has no checks. -/
theorem of_ok {made : Except Raised α} {a : α} (h : made = .ok a) : RaisesBy [] made := by
  subst h
  exact ⟨fun e => ⟨nofun, fun h => absurd h (firstFault_nil e)⟩, nofun, nofun⟩

/-- A call that the platform has no part in, and one more behind it. -/
theorem bind {x : Except Failure α} (hx : AnswersBy checks x) {f : α → Except Raised β}
    (hf : ∀ a, x = .ok a → RaisesBy checks' (f a)) :
    RaisesBy (checks ++ checks') (x.mapError .failure >>= f) := by
  cases x with
  | error d =>
    refine ⟨fun e => ?_, nofun, nofun⟩
    rw [firstFault_append, ← hx.error_iff, ← hx.ok_iff]
    show Except.error (Raised.failure d) = .error (.failure e) ↔ _
    simp
  | ok a =>
    obtain ⟨hfailure, hreported, hescaped⟩ := hf a rfl
    refine ⟨fun e => ?_, hreported, hescaped⟩
    rw [firstFault_append, ← hx.error_iff, ← hx.ok_iff, ← hfailure]
    show f a = _ ↔ _
    simp

end RaisesBy

/-- Two steps in a row are made iff both are. -/
theorem mapError_bind_eq_ok_iff {α β : Type} {x : Except Failure α} {f : α → Except Raised β}
    {b : β} : (x.mapError .failure >>= f) = .ok b ↔ ∃ a, x = .ok a ∧ f a = .ok b := by
  cases x with
  | error e =>
    constructor
    · intro h
      cases h
    · rintro ⟨a, h, -⟩
      cases h
  | ok a =>
    constructor
    · intro h
      exact ⟨a, rfl, h⟩
    · rintro ⟨a, h, hf⟩
      cases h
      exact hf

/-- A power of ten has one digit more than its exponent says. -/
theorem Value.lt_digitCount_pow {d e : Nat} (hd : 0 < d) (h : d ≤ e) :
    d < Value.digitCount (10 ^ e) := by
  have hpow : 10 ^ d ≤ ((10 : Int) ^ e).natAbs := by
    rw [Int.natAbs_pow]
    exact Nat.pow_le_pow_right (by decide) h
  by_contra hle
  have hlt := (Nat.length_toDigits_le_iff (by decide) hd).1 (Nat.not_lt.1 hle)
  exact absurd hpow (Nat.not_le.2 hlt)

namespace Key

variable {keying : Keying} {secret hash : Value}

/-- What is left of a construction once its algorithm is known. -/
theorem raisesBy_keyedBy (hkeying : keying.Total) (a : Algorithm) (secret : Value) :
    RaisesBy (secretChecks secret) (secret.secretBytes.mapError .failure >>= keyedBy keying a) := by
  rw [← List.append_nil (secretChecks secret)]
  refine .bind (answersBy_secretBytes secret) fun octets hoctets => ?_
  obtain ⟨state, hstate⟩ := hkeying a octets (Value.secretBytes_ne_nil hoctets)
  exact .of_ok (a := ⟨a, some state⟩) (by rw [keyedBy, hstate])

theorem raisesBy_construct (hkeying : keying.Total) (secret hash : Value) :
    RaisesBy (HashFault hash :: secretChecks secret) (construct keying secret hash) :=
  .bind (answersBy_algorithmOfHash hash) fun a _ => raisesBy_keyedBy hkeying a secret

/-- The hash class of an algorithm passes its check. -/
theorem construct_hashClass (keying : Keying) (a : Algorithm) (secret : Value) :
    construct keying secret (.hashClass a.hashClass) =
      secret.secretBytes.mapError .failure >>= keyedBy keying a := by
  rw [construct, Value.algorithmOfHash_hashClass]
  rfl

/-- The checks of a name go before those of the secret. -/
theorem raisesBy_constructNamed (hkeying : keying.Total) (limits : Limits)
    (algorithm secret : Value) :
    RaisesBy (NameFault limits algorithm :: secretChecks secret)
      (constructNamed keying algorithm secret limits) := by
  refine .bind (answersBy_algorithmNamed limits algorithm) fun a _ => ?_
  rw [construct_hashClass]
  exact raisesBy_keyedBy hkeying a secret

/-- The name of a configured algorithm passes its check. -/
theorem constructConfigured_of_secret (keying : Keying) {s : Settings} {t : Text}
    (h : s.secret = some t) :
    constructConfigured keying s =
      (Value.text t).secretBytes.mapError .failure >>= keyedBy keying s.algorithm := by
  rw [constructConfigured, h]
  show constructNamed _ _ _ = _
  rw [constructNamed, Value.algorithmNamed_name]
  exact construct_hashClass keying s.algorithm (.text t)

/-- Settings have one check of their own, for the name that they give is always one of three. -/
theorem raisesBy_constructConfigured (hkeying : keying.Total) (s : Settings) :
    RaisesBy [SettingsFault s] (constructConfigured keying s) := by
  cases h : s.secret with
  | none =>
    rw [constructConfigured, h]
    refine ⟨fun e => ?_, nofun, nofun⟩
    simp [firstFault_singleton, SettingsFault, h, eq_comm]
  | some t =>
    rw [constructConfigured_of_secret keying h]
    obtain ⟨hfailure, hreported, hescaped⟩ := raisesBy_keyedBy hkeying s.algorithm (.text t)
    refine ⟨fun e => ?_, hreported, hescaped⟩
    rw [hfailure, firstFault_secretChecks_text, firstFault_singleton]
    simp [SettingsFault, h]

/-! ### What is built -/

/-- A key of an algorithm and a secret, in the state that the platform gives for the octets of that
secret. -/
def MadeFrom (keying : Keying) (a : Algorithm) (secret : Value) (k : Key) : Prop :=
  ∃ octets state, secret.Holds octets ∧ octets ≠ [] ∧ keying a octets = .ok state ∧
    k = ⟨a, some state⟩

theorem MadeFrom.algorithm_eq {a : Algorithm} {k : Key} (h : MadeFrom keying a secret k) :
    k.algorithm = a := by
  obtain ⟨octets, state, -, -, -, rfl⟩ := h
  rfl

/-- Such a key is open. -/
theorem MadeFrom.closed_eq {a : Algorithm} {k : Key} (h : MadeFrom keying a secret k) :
    k.closed = false := by
  obtain ⟨octets, state, -, -, -, rfl⟩ := h
  rfl

/-- A key is made with whatever state the platform makes. -/
theorem keyedBy_eq_ok_iff {a : Algorithm} {octets : Bytes} {k : Key} :
    keyedBy keying a octets = .ok k ↔
      ∃ state, keying a octets = .ok state ∧ k = ⟨a, some state⟩ := by
  unfold keyedBy
  split
  · next state h => simp [h, eq_comm]
  · next reason h => simp [h]
  · next h => simp [h]

theorem bind_keyedBy_eq_ok_iff {a : Algorithm} {k : Key} :
    (secret.secretBytes.mapError .failure >>= keyedBy keying a) = .ok k ↔
      MadeFrom keying a secret k := by
  simp only [mapError_bind_eq_ok_iff, Value.secretBytes_eq_ok_iff, keyedBy_eq_ok_iff, MadeFrom,
    and_assoc, exists_and_left]

theorem construct_eq_ok_iff {k : Key} :
    construct keying secret hash = .ok k ↔
      ∃ a : Algorithm, hash.hashClassOf = a.hashClass ∧ MadeFrom keying a secret k := by
  rw [construct, mapError_bind_eq_ok_iff]
  simp only [bind_keyedBy_eq_ok_iff, Value.algorithmOfHash_eq_ok_iff]

theorem constructNamed_eq_ok_iff {limits : Limits} {algorithm : Value} {k : Key} :
    constructNamed keying algorithm secret limits = .ok k ↔
      ∃ a : Algorithm, algorithm.asText? = some (Text.ofString a.name) ∧
        MadeFrom keying a secret k := by
  rw [constructNamed, mapError_bind_eq_ok_iff]
  simp only [construct_hashClass, bind_keyedBy_eq_ok_iff, Value.algorithmNamed_eq_ok_iff]

theorem constructConfigured_eq_ok_iff {s : Settings} {k : Key} :
    constructConfigured keying s = .ok k ↔
      ∃ t, s.secret = some t ∧ MadeFrom keying s.algorithm (.text t) k := by
  cases h : s.secret with
  | none => simp [constructConfigured, h]
  | some t => simp [constructConfigured_of_secret keying h, bind_keyedBy_eq_ok_iff]

/-- **Which fault of a construction is reported.** A platform that takes every secret with an octet
in it is given, with any limits of what it shows, and any values at all. A key from a secret and a
hash fails first if the hash is of no registered class, whatever the secret is; then if the secret
is a text with surrogates, then if it is neither a text nor bytes nor a bytearray, then if it is
empty. A key from an algorithm's name fails first if that is none of the three names, and then by
the same checks of the secret. Settings always name an algorithm, so they fail by their secret only.
Without a fault there is an open key of that algorithm and the secret's octets, and nothing that the
platform could object to or raise is ever seen.

The hash and the name are refused as unsupported algorithms, but for a name that the message cannot
show, which no text is: one with a number of too many digits in it or parts that lie too deep. The
secret is refused as a fault of the key, but for a text with surrogates, whose error is the
platform's and says where they are. A view of octets is no secret, although it is a raw
signature. -/
theorem constructions_answer_by_first_fault (keying : Keying) (hkeying : keying.Total) :
    (∀ secret hash : Value,
      RaisesBy [HashFault hash, SecretTextFault secret, SecretTypeFault secret,
          SecretEmptyFault secret] (construct keying secret hash) ∧
        ∀ k, construct keying secret hash = .ok k ↔
          ∃ a : Algorithm, hash.hashClassOf = a.hashClass ∧ MadeFrom keying a secret k) ∧
    (∀ (limits : Limits) (algorithm secret : Value),
      RaisesBy [NameFault limits algorithm, SecretTextFault secret, SecretTypeFault secret,
          SecretEmptyFault secret] (constructNamed keying algorithm secret limits) ∧
        ∀ k, constructNamed keying algorithm secret limits = .ok k ↔
          ∃ a : Algorithm, algorithm.asText? = some (Text.ofString a.name) ∧
            MadeFrom keying a secret k) ∧
    (∀ s : Settings,
      RaisesBy [SettingsFault s] (constructConfigured keying s) ∧
        ∀ k, constructConfigured keying s = .ok k ↔
          ∃ t, s.secret = some t ∧ MadeFrom keying s.algorithm (.text t) k) ∧
    (∀ a secret k, MadeFrom keying a secret k → k.algorithm = a ∧ k.closed = false) ∧
    (∀ v e, HashFault v e → e.kind = .signing .unsupportedAlgorithm) ∧
    (∀ limits v e, NameFault limits v e →
      (∃ form, v.shownWithin limits = .ok form ∧ e.kind = .signing .unsupportedAlgorithm ∧
          e.message = "Unsupported algorithm: " ++ form) ∨
        ∃ obstacle, v.shownWithin limits = .error obstacle ∧ e.message = obstacle.message ∧
          e.kind = if obstacle = .tooDeep then .recursion else .value) ∧
    (∀ (limits : Limits) (v : Value), (∃ form, v.shownWithin limits = .ok form) ↔
      ∀ part ∈ v.parts 0, part.1 ≤ limits.depth ∧
        ∀ n, part.2 = .int n → limits.digits = 0 ∨ Value.digitCount n ≤ limits.digits) ∧
    (∀ (limits : Limits) (v : Value) t, v.asText? = some t →
      ∃ form, v.shownWithin limits = .ok form) ∧
    (∀ v e, SecretTypeFault v e ∨ SecretEmptyFault v e → e.kind = .signing .keyInitialization) ∧
    (∀ v e, SecretTextFault v e → e.kind = .unicodeEncode ∧
      ∃ t run, v.asText? = some t ∧ Utf8.firstSurrogateRun t = some run ∧
        e.message = Failure.unencodable run) ∧
    (∀ v, (∃ e, SecretTextFault v e) ↔ ∃ t, v.asText? = some t ∧ ∃ c ∈ t, c.isSurrogate = true) ∧
    (∀ s e, SettingsFault s e → e.kind ≠ .signing .unsupportedAlgorithm ∧
      (e.kind = .signing .keyInitialization ↔ s.secret = none ∨ s.secret = some [])) ∧
    (∀ content, SecretTypeFault (.bytes .memoryview content) (.secretNotBytes "memoryview") ∧
      ∀ e, ¬ SignatureBytesFault (.bytes .memoryview content) e) ∧
    (∀ secret hash, construct .own secret hash = (ofSecret secret hash).mapError .failure) ∧
    (∀ limits algorithm secret, constructNamed .own algorithm secret limits =
      (ofAlgorithm algorithm secret limits).mapError .failure) ∧
    ∀ s, constructConfigured .own s = (ofSettings s).mapError .failure := by
  refine ⟨?_, ?_, ?_, ?_, ?_, fun _ _ _ => kind_of_nameFault, ?_, ?_, ?_, ?_,
    exists_secretTextFault_iff, ?_, ?_, construct_own, ?_, constructConfigured_own⟩
  · intro secret hash
    exact ⟨raisesBy_construct hkeying secret hash, fun k => construct_eq_ok_iff⟩
  · intro limits algorithm secret
    exact ⟨raisesBy_constructNamed hkeying limits algorithm secret,
      fun k => constructNamed_eq_ok_iff⟩
  · intro s
    exact ⟨raisesBy_constructConfigured hkeying s, fun k => constructConfigured_eq_ok_iff⟩
  · intro a secret k h
    exact ⟨h.algorithm_eq, h.closed_eq⟩
  · rintro v e ⟨-, rfl⟩
    rfl
  · intro limits v
    simp only [Value.shownWithin_eq_ok_iff, exists_and_left, exists_eq, and_true]
  · intro limits v t h
    exact Value.exists_shownWithin_of_asText h limits
  · rintro v e (⟨-, rfl⟩ | ⟨-, rfl⟩) <;> rfl
  · rintro v e ⟨t, run, ht, hrun, rfl⟩
    exact ⟨rfl, t, run, ht, hrun, rfl⟩
  · rintro s e (⟨hs, rfl⟩ | ⟨hs, rfl⟩ | ⟨t, run, hs, hrun, rfl⟩)
    · exact ⟨nofun, by simp [hs, Failure.kind]⟩
    · exact ⟨nofun, by simp [hs, Failure.kind]⟩
    · have hne : t ≠ [] := by
        rintro rfl
        cases hrun
      exact ⟨nofun, by simp [hs, hne, Failure.kind]⟩
  · intro content
    refine ⟨⟨⟨rfl, fun octets => ⟨nofun, nofun⟩⟩, rfl⟩, ?_⟩
    rintro e ⟨h, -⟩
    cases h
  · intro limits algorithm secret
    exact constructNamed_own algorithm secret limits

/-- A name that is none of the three need not be refused as an unsupported algorithm: a number of
5001 digits is not shown. -/
theorem constructNamed_long_number :
    constructNamed .own (.int (10 ^ 5000)) (.text (Text.ofString "k")) =
        .error (.failure (.nameNotShown (.tooManyDigits 4300))) ∧
      (Failure.nameNotShown (.tooManyDigits 4300)).kind = .value ∧
      (Failure.nameNotShown (.tooManyDigits 4300)).errorClass? = none := by
  have hshown : (Value.int (10 ^ 5000)).shownWithin {} = .error (.tooManyDigits 4300) :=
    Value.shownWithin_int_of_lt (by decide) (Value.lt_digitCount_pow (by decide) (by decide))
  refine ⟨?_, rfl, rfl⟩
  rw [constructNamed, Value.algorithmNamed, hshown]
  rfl

/-- Over the hash of this library: a class derived from a registered one is refused although the
secret holds a surrogate, an empty view for its type and not for being empty, a name in small
letters before a secret that is null, and a configured secret for being empty. A zero octet and an
instance of a registered class make an open key. -/
theorem constructions_answer_by_first_fault_two_faults :
    construct .own (.text [0xD800]) (.hashClass ⟨"app", "SHA256"⟩) =
      .error (.failure (.unregisteredHash "SHA256")) ∧
    construct .own (.bytes .memoryview []) (.hash Algorithm.hs512.hashClass) =
      .error (.failure (.secretNotBytes "memoryview")) ∧
    constructNamed .own (.text (Text.ofString "hs256")) .null =
      .error (.failure (.unsupportedAlgorithm "'hs256'")) ∧
    constructConfigured .own { secret := some [] } = .error (.failure .secretEmpty) ∧
    ∃ k, construct .own (.bytes .bytearray [0]) (.hash Algorithm.hs512.hashClass) = .ok k ∧
      k.closed = false := by
  obtain ⟨hdirect, hnamed, hconfigured, hmade, -⟩ :=
    constructions_answer_by_first_fault .own Keying.own_total
  have hregistered : ∀ e, ¬ HashFault (.hash Algorithm.hs512.hashClass) e := by
    rintro e ⟨h, -⟩
    exact h (by decide)
  refine ⟨?_, ?_, ?_, ?_, ?_⟩
  · exact ((hdirect _ _).1.failure_iff _).2 (.here ⟨by decide, rfl⟩)
  · have htext : ∀ e, ¬ SecretTextFault (.bytes .memoryview []) e := by
      rintro e ⟨t, run, ht, -⟩
      cases ht
    exact ((hdirect _ _).1.failure_iff _).2
      (.later hregistered (.later htext (.here ⟨⟨rfl, fun octets => ⟨nofun, nofun⟩⟩, rfl⟩)))
  · exact ((hnamed {} _ _).1.failure_iff _).2
      (.here ⟨by decide, .inl ⟨_, rfl, by decide +kernel⟩⟩)
  · exact ((hconfigured _).1.failure_iff _).2 (.here (.inr (.inl ⟨rfl, rfl⟩)))
  · have hk : MadeFrom .own .hs512 (.bytes .bytearray [0])
        ⟨.hs512, some (.ofKey Algorithm.hs512.hash [0])⟩ :=
      ⟨[0], _, .bytearray [0], List.cons_ne_nil _ _, rfl, rfl⟩
    exact ⟨_, ((hdirect _ _).2 _).2 ⟨.hs512, rfl, hk⟩, (hmade _ _ _ hk).2⟩

end Key

end TokenSeal

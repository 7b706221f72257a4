import TokenSeal.Proofs.Key.Outline
import TokenSeal.Settings.Load

/-!
# Settings that differ in their secret

Two settings may differ in nothing but valid secrets (`Settings.SecretsAlike`). Then they are shown
alike, and they build keys of one outline. A load with another valid secret among its arguments
gives such settings, or fails alike (`Settings.System.load_set_secret`): each field is chosen and
validated on its own.
-/

namespace TokenSeal

/-! ### Valid secrets -/

/-- Whether a value is a valid secret. -/
def Value.IsSecret (v : Value) : Prop := ∃ octets, v.secretBytes = .ok octets

/-- The texts that are valid secrets are those without surrogates that are not empty. -/
theorem Value.isSecret_text_iff {t : Text} :
    (Value.text t).IsSecret ↔ t.isScalar = true ∧ t ≠ [] := by
  constructor
  · rintro ⟨octets, h⟩
    cases hrun : Utf8.firstSurrogateRun t with
    | some run =>
      rw [secretBytes_text_of_surrogates hrun] at h
      cases h
    | none =>
      refine ⟨Utf8.firstSurrogateRun_eq_none_iff.1 hrun, ?_⟩
      rintro rfl
      cases h
  · rintro ⟨hs, hne⟩
    exact ⟨_, secretBytes_text hs hne⟩

/-- Octets are a valid secret if there are any. -/
theorem Value.isSecret_bytes {kind : BytesKind} (hkind : kind ≠ .memoryview) {octets : Bytes}
    (hne : octets ≠ []) : (Value.bytes kind octets).IsSecret := by
  obtain ⟨b, bs, rfl⟩ := List.exists_cons_of_ne_nil hne
  refine ⟨b :: bs, ?_⟩
  cases kind with
  | memoryview => exact absurd rfl hkind
  | bytes => rfl
  | bytearray => rfl

/-- Two secrets of which no more is known than that both are valid, or that they are the same. -/
inductive Value.SecretsAlike : Value → Value → Prop
  | same (v : Value) : SecretsAlike v v
  | valid {v v' : Value} (h : v.IsSecret) (h' : v'.IsSecret) : SecretsAlike v v'

/-- Secrets that are alike are refused alike. -/
theorem Value.SecretsAlike.secretBytes {v v' : Value} (h : SecretsAlike v v') :
    FailAlike (fun _ _ => True) v.secretBytes v'.secretBytes := by
  cases h with
  | same => exact .refl (fun _ => trivial) _
  | valid h h' =>
    obtain ⟨octets, h⟩ := h
    obtain ⟨octets', h'⟩ := h'
    rw [h, h']
    exact .ok trivial

/-! ### Keys of such secrets -/

namespace Key

variable {raw raw' : Value}

/-- Secrets that are alike make keys of one outline. -/
theorem ofSecret_alike (h : raw.SecretsAlike raw') (hash : Value) :
    FailAlike (fun k k' => k.outline = k'.outline) (ofSecret raw hash) (ofSecret raw' hash) := by
  unfold ofSecret
  cases hash.algorithmOfHash with
  | error e => exact .error e
  | ok a => exact h.secretBytes.map fun _ _ _ => rfl

theorem ofAlgorithm_alike (h : raw.SecretsAlike raw') (tag : Value) :
    FailAlike (fun k k' => k.outline = k'.outline) (ofAlgorithm tag raw)
      (ofAlgorithm tag raw') := by
  unfold ofAlgorithm
  cases tag.algorithmNamed with
  | error e => exact .error e
  | ok a => exact ofSecret_alike h _

end Key

namespace Settings

/-- Two settings that differ in nothing but valid secrets. -/
inductive SecretsAlike : Settings → Settings → Prop
  | same (s : Settings) : SecretsAlike s s
  | valid (s : Settings) {t t' : Text} (h : (Value.text t).IsSecret)
    (h' : (Value.text t').IsSecret) :
    SecretsAlike { s with secret := some t } { s with secret := some t' }

theorem ofSettings_alike {s s' : Settings} (h : SecretsAlike s s') :
    FailAlike (fun k k' => k.outline = k'.outline) (Key.ofSettings s) (Key.ofSettings s') := by
  cases h with
  | same => exact .refl (R := fun k k' : Key => k.outline = k'.outline) (fun _ => rfl) _
  | valid s h h' => exact Key.ofAlgorithm_alike (.valid h h') _

/-- Settings are shown without a secret that is not empty. -/
theorem shown_secret (s : Settings) {t t' : Text} (ht : t ≠ []) (ht' : t' ≠ []) :
    { s with secret := some t }.shown = { s with secret := some t' }.shown := by
  obtain ⟨c, cs, rfl⟩ := List.exists_cons_of_ne_nil ht
  obtain ⟨c', cs', rfl⟩ := List.exists_cons_of_ne_nil ht'
  rfl

/-! ### Loading with another secret -/

theorem field_congr {s s' : Sources} {f : Field} (h : s.select f = s'.select f) {α : Type}
    (valid : Value → Except Cause α) (default : α) :
    field s f valid default = field s' f valid default := by
  unfold field
  rw [h]

/-- Sources that choose valid secrets, and the same for all other fields, load alike. -/
theorem load_alike {s s' : Sources} (hother : ∀ f, f ≠ .secret → s.select f = s'.select f)
    {t t' : Text} (h : (Value.text t).IsSecret) (h' : (Value.text t').IsSecret)
    (hs : field s .secret validSecret none = .ok (some t))
    (hs' : field s' .secret validSecret none = .ok (some t')) :
    FailAlike SecretsAlike (load s) (load s') := by
  unfold load
  rw [hs, hs', field_congr (hother .algorithm (by decide)),
    field_congr (hother .logLevel (by decide)), field_congr (hother .logJson (by decide))]
  -- a load fails by the three other fields alone
  cases field s' .algorithm validAlgorithm .hs256 with
  | error e => exact .error _
  | ok algorithm =>
    cases field s' .logLevel validLevel ({} : Settings).logLevel with
    | error e => exact .error _
    | ok logLevel =>
      cases field s' .logJson validBoolean false with
      | error e => exact .error _
      | ok logJson => exact .ok (.valid { algorithm, logLevel, logJson } h h')

/-- The argument that gives the secret. -/
def secretArgument : Text := Text.ofString Field.secret.name

/-- Loads with the same arguments but for two valid secrets are alike. -/
theorem System.load_set_secret (system : System) (arguments : Entries Value) {v v' : Value}
    {t t' : Text} (hv : validSecret v = .ok (some t)) (hv' : validSecret v' = .ok (some t'))
    (h : (Value.text t).IsSecret) (h' : (Value.text t').IsSecret) :
    FailAlike SecretsAlike (system.load (arguments.set secretArgument v))
      (system.load (arguments.set secretArgument v')) := by
  have hfile : fileArgument ≠ secretArgument := by decide
  have hselect (v : Value) : field (system.sources (arguments.set secretArgument v)) .secret
      validSecret none = validSecret v := by
    simp [field, Sources.select, Sources.argument?, System.sources, secretArgument,
      Entries.get?_set]
  refine load_alike (fun f hf => ?_) h h' ((hselect v).trans hv) ((hselect v').trans hv')
  have hname : Text.ofString f.name ≠ secretArgument := by
    cases f with
    | secret => exact absurd rfl hf
    | _ => decide
  simp [Sources.select, Sources.argument?, Sources.inEnvironment?, Sources.inFile?, System.sources,
    Entries.get?_set, hname, hfile]

end Settings

end TokenSeal

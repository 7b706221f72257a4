import TokenSeal.Proofs.EnvFile.Quoting
import TokenSeal.Proofs.Settings.Resolution

/-!
# A secret from the settings file

Any secret can be put into a settings file, as a value between quotes: what the file binds is what
was quoted (`EnvFile.values_read_quotedBinding`). Where neither an argument nor a variable gives a
secret, a load takes it from the file and is otherwise the load without the file
(`load_secretFile`). The key of the loaded settings is then the key of the secret itself.
-/

namespace TokenSeal

namespace Entries

variable {α : Type}

/-- In lower case, a name has no value iff no entry's name becomes it. -/
theorem get?_foldCase_eq_none_iff {es : Entries α} {name : Text} :
    es.foldCase.get? name = none ↔ ∀ e ∈ es, e.1.map CodePoint.toLowerAscii ≠ name := by
  rw [get?_foldCase, get?_eq_none_iff]
  simp only [List.forall_mem_map, List.mem_reverse, lowered]

end Entries

namespace Settings

/-! ### The file -/

/-- The text of a settings file that binds the secret to a value between quotes. -/
def secretFile (quote : Char) (s : List Char) : List Char :=
  EnvFile.quotedBinding Field.secret.capitals.toList quote s

/-- The variable of the secret can be written as a bare name. -/
theorem plainName_secret : EnvFile.PlainName Field.secret.capitals.toList where
  chars := List.all_eq_true.1 (by decide)
  head := ⟨_, _, rfl, by decide⟩

/-- What such a file gives a field: the secret its value, and any other field none. -/
theorem inFile?_secretFile {s : Sources} {t : Text}
    (hfile : s.file = [(Text.ofString Field.secret.capitals, some t)]) (f : Field) :
    s.inFile? f = if f = .secret then some t else none := by
  unfold Sources.inFile?
  rw [hfile]
  cases f <;> rfl

/-- Whether neither an argument nor a variable gives a secret. -/
structure Sources.NoSecret (s : Sources) : Prop where
  arguments : ∀ e ∈ s.arguments, e.1 ≠ secretArgument
  environment : ∀ e ∈ s.environment, ¬ Field.secret.HasVariable e.1

/-- Where nothing else gives a secret, the file's is selected. -/
theorem Sources.NoSecret.select_eq {s : Sources} (h : s.NoSecret) :
    s.select .secret = (s.inFile? .secret).map .text := by
  have hargument : s.argument? .secret = none := Entries.get?_eq_none_iff.2 h.arguments
  have hvariable : s.inEnvironment? .secret = none := by
    refine Entries.get?_foldCase_eq_none_iff.2 fun e he hname => ?_
    exact h.environment e he (Field.hasVariable_iff.2 hname)
  rw [Sources.select, hargument, hvariable]
  rfl

/-- A load with such a file is the load without it, but for the secret. -/
theorem load_secretFile {s : Sources} (h : s.NoSecret) {t : Text}
    (hfile : s.file = [(Text.ofString Field.secret.capitals, some t)]) {st : Settings}
    (hload : load { s with file := [] } = .ok st) :
    st.secret = none ∧ load s = .ok { st with secret := some t } := by
  have hbare : Sources.NoSecret { s with file := [] } := ⟨h.arguments, h.environment⟩
  have hsecret : s.select .secret = some (.text t) := by
    rw [h.select_eq, inFile?_secretFile hfile]
    rfl
  have hother (f : Field) (hf : f ≠ .secret) :
      s.select f = Sources.select { s with file := [] } f := by
    unfold Sources.select
    rw [inFile?_secretFile hfile, if_neg hf]
    rfl
  obtain ⟨halgorithm, hnone, hlevel, hjson⟩ := load_eq_ok_iff.1 hload
  rw [hbare.select_eq] at hnone
  refine ⟨hnone, load_eq_ok_iff.2 ⟨?_, ?_, ?_, ?_⟩⟩
  · rw [hother .algorithm (by decide)]
    exact halgorithm
  · rw [hsecret]
    exact rfl
  · rw [hother .logLevel (by decide)]
    exact hlevel
  · rw [hother .logJson (by decide)]
    exact hjson

/-! ### Any secret -/

/-- **Any secret can be configured.** A secret without carriage returns that opens no reference is
quoted and bound in a settings file of one line, and neither an argument nor a variable gives a
secret. The arguments and the environment give no other field a value that is refused. Then a load
succeeds, and it is the load without the file, but for the secret, which is the one that was
quoted. The key of the loaded settings is that of the secret itself under the configured algorithm,
and signs everything with the code under the octets of the secret; only the empty secret makes no
key. -/
theorem load_quoted_secret {system : System} {arguments : Entries Value} {quote : Char}
    {s lineEnd : List Char} (hquote : quote = '\'' ∨ quote = '"') (hreturn : '\r' ∉ s)
    (hreference : ¬ ['$', '{'] <:+: s) (hend : lineEnd = [] ∨ lineEnd = ['\n'])
    (hfile : system.file = some (secretFile quote s ++ lineEnd))
    (harguments : ∀ e ∈ arguments, e.1 ≠ secretArgument ∧ e.1.head? ≠ some '_')
    (henvironment : ∀ e ∈ system.environment, ¬ Field.secret.HasVariable e.1)
    (hvalid : ∀ f, f ≠ .secret → ∀ v,
      Sources.select ⟨arguments, system.environment, []⟩ f = some v → f.refusal? v = none) :
    ∃ loaded, system.load arguments = .ok loaded ∧
      loaded.secret = some (Text.ofChars s) ∧
      { system with file := none }.load arguments = .ok { loaded with secret := none } ∧
      (s = [] → Key.ofSettings loaded = .error .secretEmpty) ∧
      (s ≠ [] → ∃ k, Key.ofSettings loaded = .ok k ∧
        Key.ofSecret (.text (Text.ofChars s)) (.hashClass loaded.algorithm.hashClass) = .ok k ∧
        ∀ header claims, k.sign header claims = (SigningInput.build header claims).map fun m =>
          Base64Url.encode (Hmac.mac loaded.algorithm.hash
            ((Text.ofChars s).flatMap CodePoint.utf8) m)) := by
  have hnames : ∀ e ∈ arguments, e.1.head? ≠ some '_' := fun e he => (harguments e he).2
  have hbindings : system.bindings =
      [(Text.ofString Field.secret.capitals, some (Text.ofChars s))] := by
    rw [System.bindings, hfile]
    exact EnvFile.values_read_quotedBinding system.environment plainName_secret hquote hend hreturn
      hreference
  have hno : Sources.NoSecret ⟨arguments, system.environment, system.bindings⟩ :=
    ⟨fun e he => (harguments e he).1, henvironment⟩
  -- without the file no field is refused, since the secret has no value then
  obtain ⟨st, hst⟩ : ∃ st, Settings.load ⟨arguments, system.environment, []⟩ = .ok st := by
    refine exists_load_eq_ok_iff.2 fun f v hv => ?_
    by_cases hf : f = .secret
    · have hbare : Sources.NoSecret ⟨arguments, system.environment, []⟩ :=
        ⟨hno.arguments, hno.environment⟩
      rw [hf, hbare.select_eq] at hv
      cases hv
    · exact hvalid f hf v hv
  obtain ⟨hnone, hload⟩ := load_secretFile hno hbindings hst
  refine ⟨{ st with secret := some (Text.ofChars s) }, ?_, rfl, ?_, ?_, ?_⟩
  · rw [system.load_of_arguments hnames, hload]
  · rw [System.load_of_arguments _ hnames]
    show Settings.load ⟨arguments, system.environment, []⟩ = _
    rw [hst, ← hnone]
  · rintro rfl
    rw [Key.ofSettings_of_secret rfl]
    rfl
  · intro hne
    have hscalar : (Text.ofChars s).isScalar = true := Text.isScalar_ofChars s
    have hoctets : (Value.text (Text.ofChars s)).secretBytes =
        .ok ((Text.ofChars s).flatMap CodePoint.utf8) :=
      Value.secretBytes_text hscalar (mt List.map_eq_nil_iff.1 hne)
    refine ⟨.ofBytes st.algorithm ((Text.ofChars s).flatMap CodePoint.utf8), ?_, ?_,
      Key.sign_ofBytes _ _⟩
    · rw [Key.ofSettings_of_secret rfl, hoctets]
      rfl
    · exact Key.ofSecret_eq_ok_iff.2
        ⟨st.algorithm, _, Value.algorithmOfHash_hashClass _, hoctets, rfl⟩

/-- A secret of two lines with a comment sign, an equals sign and both quotes. It ends in two
backslashes. -/
def awkwardSecret : List Char := "it's #1\n= \"k\" \\'\\\\".toList

/-- A system with that secret in its settings file and an algorithm in its environment. -/
def awkward : System where
  environment := [(Text.ofString "Tokensign_Algorithm", Text.ofString "HS512")]
  file := some (secretFile '\'' awkwardSecret ++ ['\n'])

/-- Every backslash and every quote of the kind around the secret is doubled or escaped, and the
secret is loaded as it is. -/
theorem load_quoted_secret_awkward :
    awkward.file = some "TOKENSIGN_SECRET='it\\'s #1\n= \"k\" \\\\\\'\\\\\\\\'\n".toList ∧
      ∃ loaded, awkward.load = .ok loaded ∧ loaded.algorithm = .hs512 ∧
        loaded.secret = some (Text.ofChars awkwardSecret) ∧
        Key.ofSettings loaded =
          .ok (.ofBytes .hs512 ((Text.ofChars awkwardSecret).flatMap CodePoint.utf8)) := by
  refine ⟨by decide, ?_⟩
  obtain ⟨loaded, hload, hsecret, hbare, -, hkey⟩ :=
    @load_quoted_secret awkward [] '\'' awkwardSecret ['\n'] (.inl rfl) (by decide) (by decide)
      (.inr rfl) rfl (by simp)
      (List.forall_mem_singleton.2 (mt Field.hasVariable_iff.1 (by decide))) (by
        intro f hf v hv
        cases f with
        | secret => exact absurd rfl hf
        | algorithm =>
          obtain rfl := Option.some.inj (show some (Value.text (Text.ofString "HS512")) = _ from hv)
          rfl
        | _ => cases hv)
  have halgorithm : loaded.algorithm = .hs512 := by
    have hsettings : System.load { awkward with file := none } [] = .ok { algorithm := .hs512 } :=
      rfl
    rw [hbare] at hsettings
    injection hsettings with h
    exact congrArg Settings.algorithm h
  refine ⟨loaded, hload, halgorithm, hsecret, ?_⟩
  obtain ⟨k, hk, hsame, -⟩ := hkey (by decide)
  rw [hk, ← hsame, halgorithm]
  rfl

end Settings

end TokenSeal

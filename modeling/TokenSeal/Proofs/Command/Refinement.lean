import TokenSeal.Proofs.Command.Demand
import TokenSeal.Proofs.Key.Precedence
import TokenSeal.Proofs.Key.Verification

/-!
# Commands do what keys do

A command works with the key of an algorithm and a secret: those of its options, or else those of
the settings (`Request.algorithmIn`, `Request.secretIn`). Which key that is, and when there is none,
is said once (`buildKey_of_noSecret`, `buildKey_of_isScalar`, `buildKey_of_surrogates`); what a
command leaves behind is then a reading of what the key answers (`ReportsSignature`,
`ReportsVerdict`). A text given on the command line can fail in no other way than by a signing
error, so with such a key nothing escapes.
-/

namespace TokenSeal

/-! ### Texts on a stream -/

theorem CodePoint.exists_toChar? {c : CodePoint} (h : c.isSurrogate = false) :
    ∃ ch, c.toChar? = some ch ∧ CodePoint.ofChar ch = c := by
  have hvalid : c.val.isValidChar := by
    have hc := c.isLt
    simp only [isSurrogate, Bool.and_eq_false_iff, decide_eq_false_iff_not] at h
    simp only [Nat.isValidChar]
    omega
  exact ⟨Char.ofNatAux c.val hvalid, by rw [toChar?, dif_pos hvalid], rfl⟩

theorem Text.ofString_append (s t : String) :
    Text.ofString (s ++ t) = Text.ofString s ++ Text.ofString t := by
  simp [Text.ofString, Text.ofChars]

/-- A text without surrogates is shown as it is. -/
theorem Quoted.ofString_visible {t : Text} (h : t.isScalar = true) :
    Text.ofString (Quoted.visible t) = t := by
  rw [Text.ofString, visible, String.toList_ofList, Text.ofChars]
  induction t with
  | nil => rfl
  | cons c t ih =>
    simp only [Text.isScalar, List.all_cons, Bool.and_eq_true, Bool.not_eq_true'] at h
    obtain ⟨ch, hch, hc⟩ := CodePoint.exists_toChar? h.1
    rw [List.flatMap_cons, List.map_append, ih h.2, hch]
    simp [hc]

/-- Encodings are ASCII, so printing them loses nothing. -/
theorem Base64Url.isScalar_encode (bs : Bytes) : (Base64Url.encode bs).isScalar = true := by
  have halphabet : Base64Url.alphabet.isScalar = true := Text.isScalar_ofChars _
  rw [Text.isScalar, List.all_eq_true] at halphabet ⊢
  exact fun c hc => halphabet c ((Base64Url.wellFormed_encode bs).letters c hc)

namespace Command

/-! ### The key of a command -/

/-- The algorithm of the options, or else of the settings. -/
def Request.algorithmIn (r : Request) (s : Settings) : Algorithm := r.algorithm.getD s.algorithm

/-- The secret of the options, even an empty one, or else of the settings. -/
def Request.secretIn (r : Request) (s : Settings) : Option Text := r.secret <|> s.secret

section BuildKey

variable {s : Settings} {r : Request} {secret : Text}

/-- No secret and an empty one are reported alike. -/
theorem buildKey_of_noSecret (h : r.secretIn s = none ∨ r.secretIn s = some []) :
    buildKey (.ofSettings s) r = .error .noSecret := by
  unfold Request.secretIn at h
  unfold buildKey Context.ofSettings
  rcases h with h | h <;> simp [h]

theorem buildKey_eq_ofAlgorithm (h : r.secretIn s = some secret) (hne : secret ≠ []) :
    buildKey (.ofSettings s) r =
      (Key.ofAlgorithm (.text (Text.ofString (r.algorithmIn s).name)) (.text secret)).mapError
        .ofFailure := by
  obtain ⟨c, secret, rfl⟩ := List.exists_cons_of_ne_nil hne
  unfold Request.secretIn at h
  unfold buildKey Context.ofSettings Request.algorithmIn
  cases r.algorithm <;> simp [h]

/-- A secret that can be encoded makes the key of the algorithm that the request comes to. -/
theorem buildKey_of_isScalar (h : r.secretIn s = some secret) (hne : secret ≠ [])
    (hs : secret.isScalar = true) :
    buildKey (.ofSettings s) r =
      .ok (.ofBytes (r.algorithmIn s) (secret.flatMap CodePoint.utf8)) := by
  rw [buildKey_eq_ofAlgorithm h hne, Key.ofAlgorithm_name, Value.secretBytes_text hs hne]
  rfl

/-- A secret with surrogates fails in a way that no command reports. -/
theorem buildKey_of_surrogates {run : SurrogateRun} (h : r.secretIn s = some secret)
    (hrun : Utf8.firstSurrogateRun secret = some run) :
    buildKey (.ofSettings s) r =
      .error { status := 1, escaped := some (.signing (.secretNotScalar run)) } := by
  have hne : secret ≠ [] := by
    rintro rfl
    cases hrun
  rw [buildKey_eq_ofAlgorithm h hne, Key.ofAlgorithm_name,
    Value.secretBytes_text_of_surrogates hrun]
  rfl

end BuildKey

/-! ### What the commands leave behind -/

/-- The library's own errors are reported with status 2. -/
theorem Outcome.ofFailure_of_errorClass? {f : Failure} {d : ErrorClass}
    (h : f.errorClass? = some d) :
    Outcome.ofFailure f = { status := 2, stdout := Screen.paragraph ("Error: " ++ f.message) } := by
  simp [Outcome.ofFailure, h]

/-- The message about a segment fits on a line. -/
theorem paragraph_segment (segment : Segment) :
    Screen.paragraph ("Error: " ++ (Failure.segmentNotScalar segment).message) =
      "Error: " ++ segment.name ++ " is not valid UTF-8 text\n" := by
  cases segment <;> decide +kernel

/-- The verdict fits on one line. -/
theorem paragraph_valid (a : Algorithm) :
    Screen.paragraph ("✓ Signature is valid (" ++ a.name ++ ")") =
      "✓ Signature is valid (" ++ a.name ++ ")\n" := by
  cases a <;> decide +kernel

/-- The verdict fits on one line. -/
theorem paragraph_invalid (a : Algorithm) :
    Screen.paragraph ("✗ Signature is invalid (" ++ a.name ++ ")") =
      "✗ Signature is invalid (" ++ a.name ++ ")\n" := by
  cases a <;> decide +kernel

/-- The code point that ends a line. -/
def newline : CodePoint := CodePoint.ofChar '\n'

/-- What a signing command leaves behind that works with a key: the key's signature of texts that it
can sign, alone on one line, and else no signature but the name of a segment. -/
structure ReportsSignature (k : Key) (r : Request) (o : Outcome) : Prop where
  printed : r.header.isScalar = true → r.claims.isScalar = true →
    ∃ signature, k.sign (.text r.header) (.text r.claims) = .ok signature ∧
      newline ∉ signature ∧ o.status = 0 ∧ Text.ofString o.stdout = signature ++ [newline]
  refused : ¬ (r.header.isScalar = true ∧ r.claims.isScalar = true) →
    ∃ segment : Segment, k.sign (.text r.header) (.text r.claims) =
        .error (.segmentNotScalar segment) ∧
      o.status = 2 ∧ o.stdout = "Error: " ++ segment.name ++ " is not valid UTF-8 text\n"
  silent : o.stderr = ""
  contained : o.escaped = none

/-- What a verifying command leaves behind that works with a key of an algorithm, where the key
gives an answer: a status for each kind of answer, and for each verdict a line that names the
algorithm. -/
structure ReportsVerdict (a : Algorithm) (answer : Except Failure Bool) (o : Outcome) : Prop where
  status_zero : o.status = 0 ↔ answer = .ok true
  status_one : o.status = 1 ↔ answer = .ok false
  status_two : o.status = 2 ↔ ∃ e d, answer = .error e ∧ e.errorClass? = some d
  valid : answer = .ok true → o.stdout = "✓ Signature is valid (" ++ a.name ++ ")\n"
  invalid : answer = .ok false → o.stdout = "✗ Signature is invalid (" ++ a.name ++ ")\n"
  contained : o.escaped = none

theorem reportsSignature_sign {c : Context} {r : Request} {a : Algorithm} {secret : Bytes}
    (h : buildKey c r = .ok (.ofBytes a secret)) :
    ReportsSignature (.ofBytes a secret) r (sign c r) := by
  have hraw := Key.rawSignature_ofBytes a secret (.text r.header) (.text r.claims)
  by_cases hs : r.header.isScalar = true ∧ r.claims.isScalar = true
  · rw [SigningInput.build_text hs.1 hs.2] at hraw
    have hsign := Key.sign_of_rawSignature hraw
    simp only [sign, h, hsign]
    refine ⟨fun _ _ => ⟨_, hsign, ?_, rfl, ?_⟩, fun hns => absurd hs hns, rfl, rfl⟩
    · intro hmem
      exact absurd ((Base64Url.wellFormed_encode _).letters _ hmem) (by decide)
    · rw [Text.ofString_append, Quoted.ofString_visible (Base64Url.isScalar_encode _)]
      rfl
  · obtain ⟨segment, hsegment⟩ := SigningInput.exists_build_text_eq_error hs
    have hsign : (Key.ofBytes a secret).sign (.text r.header) (.text r.claims) =
        .error (.segmentNotScalar segment) := by
      rw [Key.sign, hraw, hsegment]
      rfl
    simp only [sign, h, hsign]
    rw [Outcome.ofFailure_of_errorClass? (d := .encoding) rfl, paragraph_segment]
    exact ⟨fun hh hc => absurd ⟨hh, hc⟩ hs, fun _ => ⟨segment, hsign, rfl, rfl⟩, rfl, rfl⟩

theorem reportsVerdict_verify {c : Context} {v : Verification} {k : Key}
    (logging : Logging) (h : buildKey c v.toRequest = .ok k) :
    ReportsVerdict k.algorithm
      (k.verify (.text v.header) (.text v.claims) (.text v.signature) []).1
      (verify c logging v) := by
  unfold verify
  rw [h]
  dsimp only
  rcases hverify : k.verify (.text v.header) (.text v.claims) (.text v.signature) [] with
    ⟨answer, journal⟩
  cases answer with
  | error e =>
    obtain ⟨d, hd⟩ := Key.errorClass?_of_verify (congrArg Prod.fst hverify)
    dsimp only
    rw [Outcome.ofFailure_of_errorClass? hd]
    exact ⟨by simp, by simp, by simp [hd], by simp, by simp, rfl⟩
  | ok valid =>
    cases valid with
    | true =>
      have hvalid := paragraph_valid k.algorithm
      exact ⟨by simp, by simp, by simp, fun _ => hvalid, by simp, rfl⟩
    | false =>
      have hinvalid := paragraph_invalid k.algorithm
      exact ⟨by simp, by simp, by simp, by simp, fun _ => hinvalid, rfl⟩

/-- **Commands do what keys do.** In the context of any settings, let a command take its algorithm
and its secret from its options or else from the settings. Without a secret, or with an empty one,
its status is 2. With a secret that can be encoded there is a key of that algorithm and secret; the
signing command prints that key's signature, and the verifying command reports that key's answer,
whatever the signature text looks like. So what the one prints, the other finds valid. Lines are
those of 80 columns, and standard output takes them: an output that cannot encode the check marks of
a verdict is not considered, nor are completions or variables of the interpreter. -/
theorem commands_do_what_keys_do (s : Settings) (logging : Logging) :
    (∀ (r : Request) arguments,
      (r.AskedBy arguments ∨ ∃ signature, Verification.AskedBy ⟨r, signature⟩ arguments) →
      (r.secretIn s = none ∨ r.secretIn s = some []) →
        (invoke (.ok (.ofSettings s)) logging arguments).status = 2) ∧
    ∀ (r : Request) secret, r.secretIn s = some secret → secret ≠ [] → secret.isScalar = true →
      ∃ k, Key.ofAlgorithm (.text (Text.ofString (r.algorithmIn s).name)) (.text secret) = .ok k ∧
        (∀ arguments, r.AskedBy arguments →
          ReportsSignature k r (invoke (.ok (.ofSettings s)) logging arguments)) ∧
        (∀ signature arguments, Verification.AskedBy ⟨r, signature⟩ arguments →
          ReportsVerdict (r.algorithmIn s)
            (k.verify (.text r.header) (.text r.claims) (.text signature) []).1
            (invoke (.ok (.ofSettings s)) logging arguments)) ∧
        (∀ signature arguments arguments', r.AskedBy arguments →
          (invoke (.ok (.ofSettings s)) logging arguments).status = 0 →
          Text.ofString (invoke (.ok (.ofSettings s)) logging arguments).stdout =
            signature ++ [newline] →
          Verification.AskedBy ⟨r, signature⟩ arguments' →
            (invoke (.ok (.ofSettings s)) logging arguments').status = 0) := by
  refine ⟨fun r arguments hasked hsecret => ?_, fun r secret hsecret hne hscalar => ?_⟩
  · have hkey := buildKey_of_noSecret hsecret
    rw [invoke_eq_fulfil]
    rcases hasked with hasked | ⟨signature, hasked⟩
    · rw [hasked.demand_eq]
      simp [Demand.fulfil, sign, hkey, Outcome.noSecret]
    · rw [hasked.demand_eq]
      simp [Demand.fulfil, verify, hkey, Outcome.noSecret]
  · have hkey := buildKey_of_isScalar hsecret hne hscalar
    have hsigns : ∀ arguments, r.AskedBy arguments →
        ReportsSignature (.ofBytes (r.algorithmIn s) (secret.flatMap CodePoint.utf8)) r
          (invoke (.ok (.ofSettings s)) logging arguments) := by
      intro arguments hasked
      rw [invoke_eq_fulfil, hasked.demand_eq]
      exact reportsSignature_sign hkey
    have hverifies : ∀ signature arguments, Verification.AskedBy ⟨r, signature⟩ arguments →
        ReportsVerdict (r.algorithmIn s)
          ((Key.ofBytes (r.algorithmIn s) (secret.flatMap CodePoint.utf8)).verify (.text r.header)
            (.text r.claims) (.text signature) []).1
          (invoke (.ok (.ofSettings s)) logging arguments) := by
      intro signature arguments hasked
      rw [invoke_eq_fulfil, hasked.demand_eq]
      exact reportsVerdict_verify (v := ⟨r, signature⟩) _ hkey
    refine ⟨_, ?_, hsigns, hverifies, ?_⟩
    · rw [Key.ofAlgorithm_name, Value.secretBytes_text hscalar hne]
      rfl
    · intro signature arguments arguments' hasked hzero hprinted hasked'
      have hreport := hsigns arguments hasked
      -- a status of 0 means that there was something to sign
      have hs : r.header.isScalar = true ∧ r.claims.isScalar = true := by
        by_contra hs
        obtain ⟨segment, -, htwo, -⟩ := hreport.refused hs
        rw [hzero] at htwo
        cases htwo
      obtain ⟨own, hsign, -, -, hown⟩ := hreport.printed hs.1 hs.2
      obtain rfl : own = signature := List.append_cancel_right (hown.symm.trans hprinted)
      rw [(hverifies own arguments' hasked').status_zero, Key.verify_of_sign hsign]

/-- An empty secret option does not fall back on the configured secret; a signature text that begins
with a hyphen is read as one, and an algorithm from the options is named in the verdict. -/
theorem commands_do_what_keys_do_hyphen :
    (invoke (.ok (.ofSettings { secret := some (Text.ofString "k") })) none
      ([Text.ofString "sign", Text.ofString "-H", Text.ofString "h", Text.ofString "--claims=c",
        Text.ofString "--secret", []])).status = 2 ∧
    ∃ k, Key.ofAlgorithm (.text (Text.ofString "HS512")) (.text (Text.ofString "k")) = .ok k ∧
      ReportsVerdict .hs512
        (k.verify (.text (Text.ofString "h")) (.text (Text.ofString "c"))
          (.text (Text.ofString "-s")) []).1
        (invoke (.ok (.ofSettings { secret := some (Text.ofString "k") })) none
          ([Text.ofString "verify", Text.ofString "-s", Text.ofString "-s", Text.ofString "-Hh",
            Text.ofString "--claims", Text.ofString "c", Text.ofString "--alg=HS512"])) := by
  obtain ⟨hnone, hsome⟩ := commands_do_what_keys_do { secret := some (Text.ofString "k") } none
  refine ⟨hnone ⟨Text.ofString "h", Text.ofString "c", none, some []⟩ _ (.inl ⟨_, _, rfl,
    .cons (o := .header) (.letter rfl) (.cons (o := .claims) .nameAttached
      (.cons (o := .secret) .name .nil)), by decide, ⟨rfl, rfl, rfl, rfl⟩⟩) (.inr rfl), ?_⟩
  obtain ⟨k, hk, -, hverify, -⟩ := hsome ⟨Text.ofString "h", Text.ofString "c", some .hs512, none⟩
    (Text.ofString "k") rfl (by decide) (by decide)
  exact ⟨k, hk, hverify _ _ ⟨_, _, rfl,
    .cons (o := .signature) (.letter rfl) (.cons (o := .header) (.letterAttached rfl (by decide))
      (.cons (o := .claims) .name (.cons (o := .algorithm) .nameAttached .nil))),
    by decide, ⟨rfl, rfl, rfl, rfl⟩, rfl⟩⟩

end Command

end TokenSeal

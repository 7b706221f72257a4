import TokenSeal.Proofs.Command.Refinement

/-!
# What the exit status says

A status of 1 is meant for a signature that is well formed and wrong. Two faults share it, because
nothing reports them and they escape: a configured log level that is none, and a secret with
surrogates. Everything else that keeps a command from its work ends with 2. The theorem gives the
whole meaning of each status (`exit_status_means`), first for a demand in the context of settings
(`fulfil_means`), where the cases are those of the key that the command works with
(`buildKey_cases`), and then for the program.
-/

namespace TokenSeal.Command

/-! ### What can become of a demand -/

/-- The key that a request works with: of the algorithm and the secret that it finds. -/
def Request.KeyIn (r : Request) (s : Settings) (k : Key) : Prop :=
  ∃ secret, r.secretIn s = some secret ∧
    Key.ofAlgorithm (.text (Text.ofString (r.algorithmIn s).name)) (.text secret) = .ok k

/-- The secret that a request finds cannot be encoded. -/
def Request.Unencodable (r : Request) (s : Settings) : Prop :=
  ∃ secret, r.secretIn s = some secret ∧ secret.isScalar = false

namespace Demand

variable (s : Settings)

/-- What is asked for is given: help, a table, a signature, or that a signature is valid. -/
inductive Granted : Demand → Prop
  | groupHelp : Granted .groupHelp
  | commandHelp (command : Subcommand) : Granted (.commandHelp command)
  | algorithms : Granted .algorithms
  | sign {r : Request} {k : Key} {signature : Text} (key : r.KeyIn s k)
    (signed : k.sign (.text r.header) (.text r.claims) = .ok signature) : Granted (.sign r)
  | verify {v : Verification} {k : Key} (key : v.toRequest.KeyIn s k)
    (valid : (k.verify (.text v.header) (.text v.claims) (.text v.signature) []).1 = .ok true) :
    Granted (.verify v)

/-- A verification had its key, read the signature text, and found other octets than the code. -/
inductive Mismatched : Demand → Prop
  | verify {v : Verification} {k : Key} {raw expected : Bytes} (key : v.toRequest.KeyIn s k)
    (read : Base64Url.decode v.signature = .ok raw)
    (code : k.rawSignature (.text v.header) (.text v.claims) = .ok expected)
    (differs : raw ≠ expected) : Mismatched (.verify v)

/-- The request that a demand makes of a key, if it makes one. -/
def request? : Demand → Option Request
  | .sign r => some r
  | .verify v => some v.toRequest
  | _ => none

end Demand

/-- What an outcome's status says, of what there is to say: what was asked for is given, a signature
did not match, something escaped. -/
structure Outcome.Means (granted mismatched escaping : Prop) (o : Outcome) : Prop where
  zero : o.status = 0 ↔ granted
  one : o.status = 1 ↔ mismatched ∨ escaping
  two : o.status = 2 ↔ ¬ granted ∧ ¬ mismatched ∧ ¬ escaping
  escaped : o.escaped ≠ none ↔ escaping

namespace Outcome.Means

variable {p q e : Prop} {o : Outcome}

/-- Meanings may be replaced by equivalent ones. -/
theorem congr {p' q' e' : Prop} (h : o.Means p q e) (hp : p ↔ p') (hq : q ↔ q') (he : e ↔ e') :
    o.Means p' q' e' where
  zero := h.zero.trans hp
  one := h.one.trans (or_congr hq he)
  two := h.two.trans (and_congr (not_congr hp) (and_congr (not_congr hq) (not_congr he)))
  escaped := h.escaped.trans he

/-- What was asked for is given. -/
theorem of_zero (hstatus : o.status = 0) (hescaped : o.escaped = none) (hp : p) (hq : ¬ q)
    (he : ¬ e) : o.Means p q e where
  zero := by simp [hstatus, hp]
  one := by simp [hstatus, hq, he]
  two := by simp [hstatus, hp]
  escaped := by simp [hescaped, he]

/-- A signature did not match. -/
theorem of_one (hstatus : o.status = 1) (hescaped : o.escaped = none) (hp : ¬ p) (hq : q)
    (he : ¬ e) : o.Means p q e where
  zero := by simp [hstatus, hp]
  one := by simp [hstatus, hq]
  two := by simp [hstatus, hq]
  escaped := by simp [hescaped, he]

/-- A failure that the program reports itself. -/
theorem of_two (hstatus : o.status = 2) (hescaped : o.escaped = none) (hp : ¬ p) (hq : ¬ q)
    (he : ¬ e) : o.Means p q e where
  zero := by simp [hstatus, hp]
  one := by simp [hstatus, hq, he]
  two := by simp [hstatus, hp, hq, he]
  escaped := by simp [hescaped, he]

/-- A fault that nothing reports. -/
theorem of_escape (hstatus : o.status = 1) (hescaped : o.escaped ≠ none) (hp : ¬ p) (he : e) :
    o.Means p q e where
  zero := by simp [hstatus, hp]
  one := by simp [hstatus, he]
  two := by simp [hstatus, he]
  escaped := by simp [hescaped, he]

end Outcome.Means

/-! ### Signing and verifying -/

section Key

variable {s : Settings} {r : Request}

/-- With or without a key: there is no secret, or it has surrogates, or there is a key. -/
theorem buildKey_cases (s : Settings) (r : Request) :
    ((r.secretIn s = none ∨ r.secretIn s = some []) ∧
      buildKey (.ofSettings s) r = .error .noSecret) ∨
    (∃ secret run, r.secretIn s = some secret ∧ secret.isScalar = false ∧
      buildKey (.ofSettings s) r =
        .error { status := 1, escaped := some (.signing (.secretNotScalar run)) }) ∨
    ∃ secret octets, r.secretIn s = some secret ∧ secret.isScalar = true ∧
      buildKey (.ofSettings s) r = .ok (.ofBytes (r.algorithmIn s) octets) := by
  cases hsecret : r.secretIn s with
  | none => exact .inl ⟨.inl rfl, buildKey_of_noSecret (.inl hsecret)⟩
  | some secret =>
    by_cases hne : secret = []
    · subst hne
      exact .inl ⟨.inr rfl, buildKey_of_noSecret (.inr hsecret)⟩
    · cases hrun : Utf8.firstSurrogateRun secret with
      | none =>
        have hscalar := Utf8.firstSurrogateRun_eq_none_iff.1 hrun
        exact .inr (.inr ⟨secret, _, rfl, hscalar, buildKey_of_isScalar hsecret hne hscalar⟩)
      | some run =>
        have hscalar : secret.isScalar = false := by
          rw [Bool.eq_false_iff, ne_eq, ← Utf8.firstSurrogateRun_eq_none_iff, hrun]
          exact nofun
        exact .inr (.inl ⟨secret, run, rfl, hscalar, buildKey_of_surrogates hsecret hrun⟩)

/-- The key that a request works with is the one that its command builds. -/
theorem keyIn_iff_buildKey {k : Key} : r.KeyIn s k ↔ buildKey (.ofSettings s) r = .ok k := by
  constructor
  · rintro ⟨secret, hsecret, hk⟩
    have hne : secret ≠ [] := by
      rintro rfl
      rw [Key.ofAlgorithm_name] at hk
      cases hk
    rw [buildKey_eq_ofAlgorithm hsecret hne, hk]
    rfl
  · intro hk
    rcases buildKey_cases s r with ⟨-, h⟩ | ⟨secret, run, -, -, h⟩ | ⟨secret, octets, hsecret, -, -⟩
    · rw [h] at hk
      cases hk
    · rw [h] at hk
      cases hk
    · refine ⟨secret, hsecret, ?_⟩
      have hne : secret ≠ [] := by
        rintro rfl
        rw [buildKey_of_noSecret (.inr hsecret)] at hk
        cases hk
      rw [buildKey_eq_ofAlgorithm hsecret hne] at hk
      cases hof : Key.ofAlgorithm (.text (Text.ofString (r.algorithmIn s).name)) (.text secret) with
      | ok k' =>
        rw [hof] at hk
        exact congrArg Except.ok (Except.ok.inj hk)
      | error e =>
        rw [hof] at hk
        cases hk

end Key

/-- A comparison says no if there is something to compare and it differs. -/
theorem verify_eq_ok_false_iff {k : Key} {header claims : Value} {t : Text} :
    (k.verify header claims (.text t) []).1 = .ok false ↔
      ∃ raw expected, Base64Url.decode t = .ok raw ∧
        k.rawSignature header claims = .ok expected ∧ raw ≠ expected := by
  cases ht : Base64Url.decode t with
  | error e => simp [Key.verify_of_decode_error ht]
  | ok raw =>
    rw [Key.verify_of_decode_ok ht]
    cases hraw : k.rawSignature header claims with
    | error e => simp [Key.compare_of_rawSignature_error hraw]
    | ok expected => simp [Key.compare_of_rawSignature hraw]

variable {s : Settings} {r : Request}

/-- A request without a key ends the command; with a key it is the key's answer that counts. -/
theorem means_of_buildKey {granted mismatched : Prop} {o : Outcome}
    (herror : ∀ e, buildKey (.ofSettings s) r = .error e → o = e)
    (hok : ∀ octets, buildKey (.ofSettings s) r = .ok (.ofBytes (r.algorithmIn s) octets) →
      o.Means granted mismatched False)
    (hgranted : granted → ∃ k, r.KeyIn s k) (hmismatched : mismatched → ∃ k, r.KeyIn s k) :
    o.Means granted mismatched (r.Unencodable s) := by
  have nokey : ∀ e, buildKey (.ofSettings s) r = .error e → ¬ ∃ k, r.KeyIn s k := by
    rintro e he ⟨k, hk⟩
    rw [keyIn_iff_buildKey, he] at hk
    cases hk
  rcases buildKey_cases s r with ⟨hsecret, hkey⟩ | ⟨secret, run, hsecret, hscalar, hkey⟩ |
    ⟨secret, octets, hsecret, hscalar, hkey⟩
  · have hunencodable : ¬ r.Unencodable s := by
      rintro ⟨secret, hfound, hsurrogates⟩
      rcases hsecret with h | h <;> rw [h] at hfound <;> cases hfound
      cases hsurrogates
    rw [herror _ hkey]
    exact .of_two rfl rfl (mt hgranted (nokey _ hkey)) (mt hmismatched (nokey _ hkey)) hunencodable
  · rw [herror _ hkey]
    exact .of_escape rfl (by simp) (mt hgranted (nokey _ hkey)) ⟨secret, hsecret, hscalar⟩
  · have hunencodable : ¬ r.Unencodable s := by
      rintro ⟨secret', hfound, hsurrogates⟩
      obtain rfl : secret = secret' := Option.some.inj (hsecret.symm.trans hfound)
      rw [hscalar] at hsurrogates
      cases hsurrogates
    exact (hok octets hkey).congr .rfl .rfl (iff_of_false id hunencodable)

theorem sign_means (s : Settings) (r : Request) :
    (sign (.ofSettings s) r).Means ((Demand.sign r).Granted s) ((Demand.sign r).Mismatched s)
      (r.Unencodable s) := by
  refine means_of_buildKey (fun e he => by rw [sign, he]) (fun octets hkey => ?_) ?_ nofun
  · have hreport := reportsSignature_sign hkey
    have hmismatch : ¬ (Demand.sign r).Mismatched s := nofun
    by_cases hs : r.header.isScalar = true ∧ r.claims.isScalar = true
    · obtain ⟨signature, hsign, -, hzero, -⟩ := hreport.printed hs.1 hs.2
      have hgranted : (Demand.sign r).Granted s := .sign (keyIn_iff_buildKey.2 hkey) hsign
      exact .of_zero hzero hreport.contained hgranted hmismatch id
    · obtain ⟨segment, hsign, htwo, -⟩ := hreport.refused hs
      refine .of_two htwo hreport.contained ?_ hmismatch id
      intro hgranted
      cases hgranted with
      | sign key signed =>
        rw [keyIn_iff_buildKey, hkey] at key
        cases key
        rw [hsign] at signed
        cases signed
  · intro hgranted
    cases hgranted with
    | sign key signed => exact ⟨_, key⟩

theorem verify_means (s : Settings) (logging : Logging) (v : Verification) :
    (verify (.ofSettings s) logging v).Means ((Demand.verify v).Granted s)
      ((Demand.verify v).Mismatched s) (v.toRequest.Unencodable s) := by
  refine means_of_buildKey (fun e he => by rw [verify, he]) (fun octets hkey => ?_) ?_ ?_
  · have hreport := reportsVerdict_verify logging hkey
    have hgranted : (Demand.verify v).Granted s ↔ ((Key.ofBytes (v.algorithmIn s) octets).verify
        (.text v.header) (.text v.claims) (.text v.signature) []).1 = .ok true := by
      constructor
      · intro h
        cases h with
        | verify key valid =>
          rw [keyIn_iff_buildKey, hkey] at key
          cases key
          exact valid
      · exact fun valid => .verify (keyIn_iff_buildKey.2 hkey) valid
    have hmismatched : (Demand.verify v).Mismatched s ↔
        ((Key.ofBytes (v.algorithmIn s) octets).verify (.text v.header) (.text v.claims)
          (.text v.signature) []).1 = .ok false := by
      rw [verify_eq_ok_false_iff]
      constructor
      · intro h
        cases h with
        | verify key read code differs =>
          rw [keyIn_iff_buildKey, hkey] at key
          cases key
          exact ⟨_, _, read, code, differs⟩
      · rintro ⟨raw, expected, read, code, differs⟩
        exact .verify (keyIn_iff_buildKey.2 hkey) read code differs
    cases hanswer : ((Key.ofBytes (v.algorithmIn s) octets).verify (.text v.header)
        (.text v.claims) (.text v.signature) []).1 with
    | error e =>
      obtain ⟨d, hd⟩ := Key.errorClass?_of_verify hanswer
      refine .of_two (hreport.status_two.2 ⟨e, d, hanswer, hd⟩) hreport.contained ?_ ?_ id
      · rw [hgranted, hanswer]
        rintro ⟨⟩
      · rw [hmismatched, hanswer]
        rintro ⟨⟩
    | ok valid =>
      cases valid with
      | true =>
        refine .of_zero (hreport.status_zero.2 hanswer) hreport.contained (hgranted.2 hanswer) ?_ id
        rw [hmismatched, hanswer]
        rintro ⟨⟩
      | false =>
        refine .of_one (hreport.status_one.2 hanswer) hreport.contained ?_
          (hmismatched.2 hanswer) id
        rw [hgranted, hanswer]
        rintro ⟨⟩
  · intro hgranted
    cases hgranted with
    | verify key valid => exact ⟨_, key⟩
  · intro hmismatched
    cases hmismatched with
    | verify key read code differs => exact ⟨_, key⟩

/-! ### The program -/

/-- The status of a demand, by the cases of what is demanded. -/
theorem fulfil_means (s : Settings) (logging : Logging) (d : Demand) :
    (d.fulfil (.ofSettings s) logging).Means (d.Granted s) (d.Mismatched s)
      (∃ r, d.request? = some r ∧ r.Unencodable s) := by
  have norequest : ∀ d : Demand, d.request? = none →
      ¬ ∃ r, d.request? = some r ∧ r.Unencodable s := by
    rintro d hd ⟨r, hr, -⟩
    rw [hd] at hr
    cases hr
  have request : ∀ (d : Demand) (r : Request), d.request? = some r →
      (r.Unencodable s ↔ ∃ r, d.request? = some r ∧ r.Unencodable s) := by
    intro d r hd
    simp [hd]
  cases d with
  | nothing => exact .of_two rfl rfl nofun nofun (norequest .nothing rfl)
  | refused e => exact .of_two rfl rfl nofun nofun (norequest (.refused e) rfl)
  | groupHelp => exact .of_zero rfl rfl .groupHelp nofun (norequest .groupHelp rfl)
  | commandHelp command =>
    exact .of_zero rfl rfl (.commandHelp command) nofun (norequest (.commandHelp command) rfl)
  | algorithms => exact .of_zero rfl rfl .algorithms nofun (norequest .algorithms rfl)
  | sign r => exact (sign_means s r).congr .rfl .rfl (request (.sign r) r rfl)
  | verify v =>
    exact (verify_means s logging v).congr .rfl .rfl (request (.verify v) v.toRequest rfl)

/-- The program comes to its commands with these settings. -/
def Configured (system : Settings.System) (s : Settings) : Prop :=
  system.load = .ok s ∧ ∃ least, Log.threshold s.logLevel = .ok least

/-- The settings are valid, but what they name for a log level is none. -/
def LevelUnknown (system : Settings.System) : Prop :=
  ∃ s e, system.load = .ok s ∧ Log.threshold s.logLevel = .error e

/-- **What the exit status says.** The status of the program is 0 iff what is asked for is given. It
is 1 iff the settings are valid and a verification had its key, read the signature text and found
other octets than the code, or iff something escapes, which only an unknown log level and a secret
with surrogates do. All else, whether settings, arguments, the secret, a segment or the signature
text is at fault, ends with 2.

This is the status that the commands end with where `start` describes the surroundings: standard
output takes all that is printed, no completion is asked for, and the interpreter runs as it does by
default. -/
theorem exit_status_means (system : Settings.System) (time : String) (arguments : List Text) :
    (start system time arguments).Means
      (∃ s, Configured system s ∧ (demand arguments).Granted s)
      (∃ s, Configured system s ∧ (demand arguments).Mismatched s)
      (LevelUnknown system ∨ ∃ s r, Configured system s ∧ (demand arguments).request? = some r ∧
        r.Unencodable s) := by
  cases hload : system.load with
  | error ps =>
    have hnone : ∀ s, ¬ Configured system s := by
      rintro s ⟨hs, -⟩
      rw [hload] at hs
      cases hs
    have hstart : start system time arguments = .ofProblems ps := by rw [start, hload]
    rw [hstart]
    refine .of_two rfl rfl ?_ ?_ ?_
    · exact fun ⟨s, hs, _⟩ => hnone s hs
    · exact fun ⟨s, hs, _⟩ => hnone s hs
    · rintro (⟨s, e, hs, -⟩ | ⟨s, r, hs, -⟩)
      · rw [hload] at hs
        cases hs
      · exact hnone s hs
  | ok s =>
    cases hlevel : Log.threshold s.logLevel with
    | error e =>
      have hnone : ∀ s, ¬ Configured system s := by
        rintro s' ⟨hs, least, hleast⟩
        rw [hload] at hs
        cases hs
        rw [hlevel] at hleast
        cases hleast
      have hstart : start system time arguments = { status := 1, escaped := some (.level e) } := by
        rw [start, hload]
        simp [Log.Setup.ofLevel, hlevel, Except.map]
      rw [hstart]
      exact .of_escape rfl (by simp) (fun ⟨s, hs, _⟩ => hnone s hs) (.inl ⟨s, e, hload, hlevel⟩)
    | ok least =>
      have hconfigured : ∀ s', Configured system s' ↔ s' = s := by
        intro s'
        constructor
        · rintro ⟨hs, -⟩
          exact (Except.ok.inj (hload.symm.trans hs)).symm
        · rintro rfl
          exact ⟨hload, least, hlevel⟩
      have hknown : ¬ LevelUnknown system := by
        rintro ⟨s', e, hs, he⟩
        rw [hload] at hs
        cases hs
        rw [hlevel] at he
        cases he
      have hstart : start system time arguments = (demand arguments).fulfil (.ofSettings s)
          (some (⟨least, s.logJson⟩, time)) := by
        rw [start, hload]
        simp [Log.Setup.ofLevel, hlevel, Except.map, invoke_eq_fulfil]
      rw [hstart]
      exact (fulfil_means s _ (demand arguments)).congr (by simp [hconfigured])
        (by simp [hconfigured]) (by simp [hconfigured, hknown])

/-- A secret with a surrogate and a log level of no known name each end with the status 1, and no
signature was there to mismatch. -/
theorem exit_status_one_without_mismatch :
    (start {} "" [Text.ofString "verify", Text.ofString "-H", Text.ofString "h", Text.ofString "-c",
      Text.ofString "c", Text.ofString "-s", Text.ofString "AA", Text.ofString "-k",
      [0xDCFF]]).status = 1 ∧
    (∀ s, ¬ (demand [Text.ofString "verify", Text.ofString "-H", Text.ofString "h",
      Text.ofString "-c", Text.ofString "c", Text.ofString "-s", Text.ofString "AA",
      Text.ofString "-k", [0xDCFF]]).Mismatched s) ∧
    (start { environment := [(Text.ofString "TOKENSIGN_LOG_LEVEL", Text.ofString "verbose")] } ""
      [Text.ofString "algorithms"]).status = 1 ∧
    ∀ s, ¬ (demand [Text.ofString "algorithms"]).Mismatched s := by
  refine ⟨by decide +kernel, fun s h => ?_, by decide +kernel, fun s h => ?_⟩
  · have hdemand : demand [Text.ofString "verify", Text.ofString "-H", Text.ofString "h",
        Text.ofString "-c", Text.ofString "c", Text.ofString "-s", Text.ofString "AA",
        Text.ofString "-k", [0xDCFF]] =
        .verify ⟨⟨Text.ofString "h", Text.ofString "c", none, some [0xDCFF]⟩,
          Text.ofString "AA"⟩ := by rfl
    rw [hdemand] at h
    cases h with
    | verify key read code differs =>
      -- there is no key of that secret
      obtain ⟨secret, hsecret, hkey⟩ := key
      cases hsecret
      rw [Key.ofAlgorithm_name] at hkey
      cases hkey
  · have hdemand : demand [Text.ofString "algorithms"] = .algorithms := by rfl
    rw [hdemand] at h
    cases h

end TokenSeal.Command

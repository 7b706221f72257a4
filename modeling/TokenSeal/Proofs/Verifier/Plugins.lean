import TokenSeal.Proofs.Base64Url.Padding
import TokenSeal.Proofs.Base64Url.SpareBits
import TokenSeal.Proofs.Key.Signature

/-!
# What reaches a plug-in

A plug-in brings a comparison of its own; the rule for signature text is not its own. Seen from the
plug-in, all that there is of a text is what the text stands for: one call per text that can be
read, and none for the others. To say so, a verifier is run with a record of its calls (`recorded`),
which changes nothing else. One verification makes one call or none (`recorded_verify_of_ok`,
`recorded_verify_of_error`), so a row of verifications makes the calls of its readable texts, in
order (`recorded_verifyAll`).

A plug-in that signs with the text of what it then finds right, and finds nothing else right, is
thereby sound (`Plugin.SignsWhatItAccepts`). The library's keys are such plug-ins.
-/

namespace TokenSeal

namespace Base64Url

/-- Whether a value is text that the decoder accepts. -/
def IsSignatureText (v : Value) : Prop := ∃ t, v.asText? = some t ∧ WellFormed t

/-- A text and a member of a text enumeration are decoded alike. -/
theorem decodeValue_of_asText {v : Value} {t : Text} (h : v.asText? = some t) :
    decodeValue v = decode t := by
  rw [decodeValue, h]

/-- What is no such text is an encoding error, whether it is of another type or cannot be read. -/
theorem exists_decodeValue_eq_error {v : Value} (h : ¬ IsSignatureText v) :
    ∃ e, decodeValue v = .error e ∧ e.errorClass? = some .encoding := by
  cases hv : decodeValue v with
  | ok raw => exact absurd (exists_decodeValue_eq_ok_iff.1 ⟨raw, hv⟩) h
  | error e => exact ⟨e, rfl, (decodeValue_eq_error_iff.1 hv).errorClass?⟩

end Base64Url

open Base64Url (IsSignatureText WellFormed AgreeAbove decode encode decodeValue spareBits)

namespace Verifier

variable {σ ρ ε : Type}

/-! ### Calls -/

/-- A call of a comparison. -/
structure Call where
  header : Value
  claims : Value
  /-- What is compared, octets if the call comes from signature text. -/
  signature : Value

/-- A verifier that compares as another one does and keeps a record of its calls. -/
def recorded (v : Verifier σ ρ) : Verifier (σ × List Call) ρ where
  verifyBytes header claims signature s :=
    let (answer, state) := v.verifyBytes header claims signature s.1
    (answer, state, s.2 ++ [⟨header, claims, signature⟩])

section

variable (v : Verifier σ ρ) (header claims : Value) {signature : Value} (state : σ)
  (calls : List Call)

/-- A text that is read is compared once, and the call is recorded as it was made. -/
theorem recorded_verify_of_ok {raw : Bytes} (h : decodeValue signature = .ok raw) :
    v.recorded.verify header claims signature (state, calls) =
      (.ok (v.compare header claims raw state).1,
        (v.compare header claims raw state).2, calls ++ [⟨header, claims, .bytes .bytes raw⟩]) :=
  verify_of_ok h

/-- A text that is refused is compared never. -/
theorem recorded_verify_of_error {e : Failure} (h : decodeValue signature = .error e) :
    v.recorded.verify header claims signature (state, calls) = (.error e, state, calls) :=
  verify_of_error h

end

/-- What a verification asks for. -/
structure Request where
  header : Value
  claims : Value
  signature : Value

/-- The call that a request leads to, if its signature can be read. -/
def Request.call? (r : Request) : Option Call :=
  match decodeValue r.signature with
  | .ok raw => some ⟨r.header, r.claims, .bytes .bytes raw⟩
  | .error _ => none

/-- Verifies requests one after the other. -/
def verifyAll (v : Verifier σ ρ) : List Request → σ → List (Except Failure ρ) × σ
  | [], state => ([], state)
  | r :: rs, state =>
    let (answer, state) := v.verify r.header r.claims r.signature state
    let (answers, state) := v.verifyAll rs state
    (answer :: answers, state)

/-- One verification, recorded: the answer and the state are the verifier's own, and the record has
grown by the call of the request, if there is one. -/
theorem recorded_verify (v : Verifier σ ρ) (r : Request) (state : σ) (calls : List Call) :
    v.recorded.verify r.header r.claims r.signature (state, calls) =
      ((v.verify r.header r.claims r.signature state).1,
        (v.verify r.header r.claims r.signature state).2, calls ++ r.call?.toList) := by
  cases h : decodeValue r.signature with
  | ok raw =>
    rw [recorded_verify_of_ok v _ _ _ _ h, verify_of_ok h, Request.call?, h]
    rfl
  | error e =>
    rw [recorded_verify_of_error v _ _ _ _ h, verify_of_error h, Request.call?, h]
    simp

/-- A row of verifications, recorded: the calls are those of the readable requests, in order. -/
theorem recorded_verifyAll (v : Verifier σ ρ) (rs : List Request) (state : σ)
    (calls : List Call) :
    v.recorded.verifyAll rs (state, calls) =
      ((v.verifyAll rs state).1, (v.verifyAll rs state).2,
        calls ++ rs.filterMap Request.call?) := by
  induction rs generalizing state calls with
  | nil => simp [verifyAll]
  | cons r rs ih =>
    simp only [verifyAll, recorded_verify, ih]
    cases hcall : r.call? <;> simp [hcall]

/-! ### What a plug-in cannot see -/

/-- The verifier that answers with what it is asked to compare. -/
def echo : Verifier Unit Value where
  verifyBytes _ _ signature state := (signature, state)

/-- Readable texts are verified alike by every verifier iff they stand for the same octets. -/
theorem forall_verify_eq_iff {t u : Text} (ht : WellFormed t) (hu : WellFormed u) :
    (∀ (σ ρ : Type) (v : Verifier σ ρ) (header claims : Value) (state : σ),
      v.verify header claims (.text t) state = v.verify header claims (.text u) state) ↔
    decode t = decode u := by
  obtain ⟨raw, hraw⟩ := Base64Url.exists_decode_eq_ok_iff.2 ht
  obtain ⟨raw', hraw'⟩ := Base64Url.exists_decode_eq_ok_iff.2 hu
  have hvt : decodeValue (.text t) = .ok raw := hraw
  have hvu : decodeValue (.text u) = .ok raw' := hraw'
  constructor
  · intro h
    have hecho := congrArg Prod.fst (h Unit Value echo .null .null ())
    rw [verify_of_ok hvt, verify_of_ok hvu] at hecho
    have hbytes : Value.bytes .bytes raw = .bytes .bytes raw' := Except.ok.inj hecho
    rw [hraw, hraw', (Value.bytes.inj hbytes).2]
  · intro h σ ρ v header claims state
    rw [hraw, hraw'] at h
    rw [verify_of_ok hvt, verify_of_ok hvu, Except.ok.inj h]

/-! ### Plug-ins that sign -/

/-- A verifier whose answers are verdicts or errors of its own, and which signs as well. -/
structure Plugin (σ ε : Type) extends Verifier σ (Except ε Bool), Signer σ (Except ε Text)

namespace Plugin

/-- Whether a plug-in, in a state, finds one raw signature of a header and claims right and all
others wrong. -/
def Expects (p : Plugin σ ε) (header claims : Value) (raw : Bytes) (state : σ) : Prop :=
  ∀ other, (p.compare header claims other state).1 = .ok (decide (other = raw))

/-- Whether each signature of a plug-in is the text of what the plug-in expects from then on. -/
def SignsWhatItAccepts (p : Plugin σ ε) : Prop :=
  ∀ header claims state signature state',
    p.sign header claims state = (.ok signature, state') →
      ∃ raw, signature = encode raw ∧ p.Expects header claims raw state'

/-- A plug-in that expects one raw signature finds a readable text right iff it stands for that. -/
theorem Expects.verify_fst {p : Plugin σ ε} {header claims signature : Value} {raw other : Bytes}
    {state : σ} (h : p.Expects header claims raw state) (hs : decodeValue signature = .ok other) :
    (p.verify header claims signature state).1 = .ok (.ok (decide (other = raw))) := by
  rw [verify_of_ok hs, h other]

end Plugin

end Verifier

/-! ### Keys as plug-ins -/

namespace Key

/-- A key as a plug-in: its state is the journal. -/
def plugin (k : Key) : Verifier.Plugin Log.Journal Failure where
  toVerifier := k.verifier
  toSigner := k.signer

/-- Every key signs what it accepts, and a closed one does not sign. -/
theorem plugin_signsWhatItAccepts (k : Key) : k.plugin.SignsWhatItAccepts := by
  intro header claims journal signature journal' h
  cases hraw : k.rawSignature header claims with
  | error e =>
    have hsign : k.sign header claims = .error e := by rw [sign, hraw]; rfl
    have hfst : k.sign header claims = .ok signature := congrArg Prod.fst h
    rw [hsign] at hfst
    cases hfst
  | ok raw =>
    have hfst : k.sign header claims = .ok signature := congrArg Prod.fst h
    rw [sign_of_rawSignature hraw] at hfst
    refine ⟨raw, (Except.ok.inj hfst).symm, fun other => ?_⟩
    exact congrArg Prod.fst (compare_of_rawSignature hraw other journal')

end Key

namespace Verifier

/-! ### Every plug-in -/

/-- **Every plug-in is verified through the decoder, and soundly.** For any comparison with any
state and answers, and any values for header, claims and signature:

* A signature text that can be read makes one call, with the header and the claims as they came and
  what the text stands for; answer and state are those of that call. Anything else is an encoding
  error, makes no call and leaves the state alone.
* A row of verifications makes the calls of those that can be read, in order, and gives the same
  answers whether its calls are recorded or not.
* No plug-in tells apart texts that stand for the same octets, which are those that agree up to
  spare bits, and some plug-in tells apart all others.
* A plug-in that signs what it accepts finds its own signatures right and, without an error, every
  readable text wrong that stands for anything else.
* All that is said of a verifier holds of the functions of `Interface` on it. -/
theorem verify_sound_for_every_plugin :
    (∀ (σ ρ : Type) (v : Verifier σ ρ) (header claims signature : Value) (state : σ)
      (calls : List Call),
      (∀ t, signature.asText? = some t → WellFormed t → ∃ raw, decode t = .ok raw ∧
        v.verify header claims signature state =
          (.ok (v.compare header claims raw state).1, (v.compare header claims raw state).2) ∧
        v.recorded.verify header claims signature (state, calls) =
          (.ok (v.compare header claims raw state).1,
            (v.compare header claims raw state).2,
            calls ++ [⟨header, claims, .bytes .bytes raw⟩])) ∧
      (¬ IsSignatureText signature → ∃ e, e.errorClass? = some .encoding ∧
        v.verify header claims signature state = (.error e, state) ∧
        v.recorded.verify header claims signature (state, calls) = (.error e, state, calls))) ∧
    (∀ (σ ρ : Type) (v : Verifier σ ρ) (rs : List Request) (state : σ),
      v.recorded.verifyAll rs (state, []) =
        ((v.verifyAll rs state).1, (v.verifyAll rs state).2, rs.filterMap Request.call?)) ∧
    (∀ t u, WellFormed t → WellFormed u →
      ((∀ (σ ρ : Type) (v : Verifier σ ρ) (header claims : Value) (state : σ),
        v.verify header claims (.text t) state = v.verify header claims (.text u) state) ↔
          decode t = decode u) ∧
      (decode t = decode u ↔ AgreeAbove (spareBits t.length) t u)) ∧
    (∀ (σ ε : Type) (p : Plugin σ ε), p.SignsWhatItAccepts →
      ∀ header claims state signature state',
        p.sign header claims state = (.ok signature, state') →
        (p.verify header claims (.text signature) state').1 = .ok (.ok true) ∧
        ∀ v t, v.asText? = some t → WellFormed t → decode t ≠ decode signature →
          (p.verify header claims v state').1 = .ok (.ok false)) ∧
    (∀ (σ ρ : Type) (v : Verifier σ ρ) (header claims signature : Value) (state : σ),
      Interface.verify v header claims signature state =
          v.verify header claims signature state ∧
        Interface.verifyBytes v header claims signature state =
          v.verifyBytes header claims signature state) := by
  refine ⟨?_, ?_, ?_, ?_, fun _ _ _ _ _ _ _ => ⟨rfl, rfl⟩⟩
  · intro σ ρ v header claims signature state calls
    refine ⟨fun t ht hwell => ?_, fun h => ?_⟩
    · obtain ⟨raw, hraw⟩ := Base64Url.exists_decode_eq_ok_iff.2 hwell
      have hsignature : decodeValue signature = .ok raw := by
        rw [Base64Url.decodeValue_of_asText ht, hraw]
      exact ⟨raw, hraw, verify_of_ok hsignature, recorded_verify_of_ok v _ _ _ _ hsignature⟩
    · obtain ⟨e, he, hclass⟩ := Base64Url.exists_decodeValue_eq_error h
      exact ⟨e, hclass, verify_of_error he, recorded_verify_of_error v _ _ _ _ he⟩
  · intro σ ρ v rs state
    exact recorded_verifyAll v rs state []
  · intro t u ht hu
    refine ⟨forall_verify_eq_iff ht hu, ?_⟩
    obtain ⟨raw, hraw⟩ := Base64Url.exists_decode_eq_ok_iff.2 ht
    obtain ⟨raw', hraw'⟩ := Base64Url.exists_decode_eq_ok_iff.2 hu
    rw [← Base64Url.eq_iff_agreeAbove hraw hraw', hraw, hraw', Except.ok.injEq]
  · intro σ ε p hp header claims state signature state' hsign
    obtain ⟨raw, rfl, hexpects⟩ := hp header claims state signature state' hsign
    have hraw := Base64Url.decode_encode raw
    refine ⟨?_, fun v t hv hwell hne => ?_⟩
    · rw [hexpects.verify_fst (show decodeValue (.text (encode raw)) = .ok raw from hraw),
        decide_eq_true rfl]
    · obtain ⟨other, hother⟩ := Base64Url.exists_decode_eq_ok_iff.2 hwell
      have hdiffers : other ≠ raw := by
        rintro rfl
        exact hne (hother.trans hraw.symm)
      rw [hexpects.verify_fst (Base64Url.decodeValue_of_asText hv ▸ hother),
        decide_eq_false hdiffers]

/-- `AAE` and `AAF` stand for the same two octets, so the second is compared as the first is, and a
single letter is not compared at all. A key finds its own signature right and the empty one
wrong. -/
theorem verify_sound_for_every_plugin_key :
    echo.recorded.verify (.int 7) .null (.text (Text.ofString "AAF")) ((), []) =
      (.ok (.bytes .bytes [0, 1]), (), [⟨.int 7, .null, .bytes .bytes [0, 1]⟩]) ∧
    (∃ e, e.errorClass? = some .encoding ∧
      echo.recorded.verify (.int 7) .null (.text (Text.ofString "A")) ((), []) =
        (.error e, (), [])) ∧
    (∀ (σ ρ : Type) (v : Verifier σ ρ) (header claims : Value) (state : σ),
      v.verify header claims (.text (Text.ofString "AAE")) state =
        v.verify header claims (.text (Text.ofString "AAF")) state) ∧
    ∃ signature : Text,
      ((Key.ofBytes .hs256 [0x6B]).plugin.verify (.text []) (.text []) (.text signature) []).1 =
        .ok (.ok true) ∧
      ((Key.ofBytes .hs256 [0x6B]).plugin.verify (.text []) (.text []) (.text []) []).1 =
        .ok (.ok false) := by
  obtain ⟨hcall, -, halike, hsound, -⟩ := verify_sound_for_every_plugin
  have hAAE : decode (Text.ofString "AAE") = .ok [0, 1] := by decide +kernel
  have hAAF : decode (Text.ofString "AAF") = .ok [0, 1] := by decide +kernel
  have hwell := Base64Url.exists_decode_eq_ok_iff.1 ⟨_, hAAF⟩
  refine ⟨?_, ?_, ?_, ?_⟩
  · obtain ⟨raw, hraw, -, hverify⟩ :=
      (hcall Unit Value echo (.int 7) .null (.text (Text.ofString "AAF")) () []).1 _ rfl hwell
    obtain rfl := Except.ok.inj (hAAF.symm.trans hraw)
    exact hverify
  · obtain ⟨e, hclass, -, hverify⟩ :=
      (hcall Unit Value echo (.int 7) .null (.text (Text.ofString "A")) () []).2 (by
        rintro ⟨t, ht, hwell⟩
        obtain rfl := Option.some.inj ht
        exact hwell.length_ne rfl)
    exact ⟨e, hclass, hverify⟩
  · exact (halike _ _ (Base64Url.exists_decode_eq_ok_iff.1 ⟨_, hAAE⟩) hwell).1.2
      (hAAE.trans hAAF.symm)
  · obtain ⟨raw, hraw, hlength⟩ : ∃ raw, (Key.ofBytes .hs256 [0x6B]).rawSignature (.text [])
        (.text []) = .ok raw ∧ raw.length = 32 := by
      rw [Key.rawSignature_ofBytes, SigningInput.build_text rfl rfl]
      exact ⟨_, rfl, Hmac.length_mac _ _ _⟩
    have hsign : (Key.ofBytes .hs256 [0x6B]).plugin.sign (.text []) (.text []) [] =
        (.ok (encode raw), []) :=
      congrArg (·, []) (Key.sign_of_rawSignature hraw)
    obtain ⟨hown, hother⟩ :=
      hsound _ _ _ (Key.plugin_signsWhatItAccepts _) _ _ _ _ _ hsign
    refine ⟨encode raw, hown, hother _ [] rfl ⟨by simp, by simp⟩ fun h => ?_⟩
    rw [Base64Url.decode_encode] at h
    obtain rfl : [] = raw := Except.ok.inj h
    cases hlength

end Verifier

end TokenSeal

import TokenSeal.Base64Url

/-!
# Signers and verifiers

Anything that can sign is a signer, and anything that can compare raw signatures is a verifier. The
library's keys are one kind of both; a plug-in may be another, with a state and answers of its own.
All kinds of verifiers share one rule for signature text: the text is decoded first, a text that is
not well formed never reaches the comparison, and the comparison gets the header and the claims as
they came. Whoever has a signer or a verifier may also call the functions of `Interface` on it.
-/

namespace TokenSeal

/-- What signs a header and claims, with a state `σ` and answers `ρ`. -/
structure Signer (σ ρ : Type) where
  sign : (header claims : Value) → σ → ρ × σ

/-- A comparison of raw signatures with a state `σ` and answers `ρ`. -/
structure Verifier (σ ρ : Type) where
  /-- Compares a raw signature, or what is given for one, with that of a header and claims. -/
  verifyBytes : (header claims signature : Value) → σ → ρ × σ

namespace Verifier

variable {σ ρ : Type}

/-- The comparison of octets. -/
def compare (v : Verifier σ ρ) (header claims : Value) (raw : Bytes) (state : σ) : ρ × σ :=
  v.verifyBytes header claims (.bytes .bytes raw) state

/-- Compares signature text: the answer of the comparison on the decoded text. -/
def verify (v : Verifier σ ρ) (header claims signature : Value) (state : σ) :
    Except Failure ρ × σ :=
  match Base64Url.decodeValue signature with
  | .error e => (.error e, state)
  | .ok raw =>
    let (answer, state) := v.compare header claims raw state
    (.ok answer, state)

/-- A text that is not well formed never reaches the comparison. -/
theorem verify_of_error {v : Verifier σ ρ} {header claims signature : Value} {state : σ}
    {e : Failure} (h : Base64Url.decodeValue signature = .error e) :
    v.verify header claims signature state = (.error e, state) := by
  simp [verify, h]

/-- A well formed text is compared by its octets. -/
theorem verify_of_ok {v : Verifier σ ρ} {header claims signature : Value} {state : σ}
    {raw : Bytes} (h : Base64Url.decodeValue signature = .ok raw) :
    v.verify header claims signature state =
      (.ok (v.compare header claims raw state).1, (v.compare header claims raw state).2) := by
  simp [verify, h]

end Verifier

/-! ### The functions of the interfaces -/

namespace Interface

variable {σ ρ : Type}

/-- Signs with a signer. -/
def sign (signer : Signer σ ρ) (header claims : Value) (state : σ) : ρ × σ :=
  signer.sign header claims state

/-- Verifies signature text with a verifier. -/
def verify (verifier : Verifier σ ρ) (header claims signature : Value) (state : σ) :
    Except Failure ρ × σ :=
  verifier.verify header claims signature state

/-- Verifies a raw signature with a verifier. -/
def verifyBytes (verifier : Verifier σ ρ) (header claims signature : Value) (state : σ) : ρ × σ :=
  verifier.verifyBytes header claims signature state

end Interface

end TokenSeal

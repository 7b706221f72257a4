import TokenSeal.Proofs.Key.Signature

/-!
# What a key shows

The outline of a key is its algorithm and whether it is closed. Only the octets of a signature and
the verdict of a comparison take more of a key than that: two keys of one outline are shown alike
and fail at the same calls for the same reason (`Key.sign_alike`, `Key.verify_alike`,
`Key.verifyBytes_alike`), and what a comparison logs follows from the algorithm and the verdict
(`Key.verify_snd`, `Key.verifyBytes_snd`). Nothing here looks into the code that signs, so it holds
whatever that code computes.
-/

namespace TokenSeal

/-! ### Failing alike -/

/-- Two answers fail alike if both fail for the same reason, or neither fails and their values are
related. -/
inductive FailAlike {ε α : Type} (R : α → α → Prop) : Except ε α → Except ε α → Prop
  | error (e : ε) : FailAlike R (.error e) (.error e)
  | ok {a b : α} (h : R a b) : FailAlike R (.ok a) (.ok b)

namespace FailAlike

variable {ε ε' α β : Type} {R : α → α → Prop} {S : β → β → Prop} {x y : Except ε α}

theorem map (h : FailAlike R x y) {f g : α → β} (hfg : ∀ a b, R a b → S (f a) (g b)) :
    FailAlike S (x.map f) (y.map g) := by
  cases h with
  | error e => exact .error e
  | ok h => exact .ok (hfg _ _ h)

theorem mapError (h : FailAlike R x y) (f : ε → ε') :
    FailAlike R (x.mapError f) (y.mapError f) := by
  cases h with
  | error e => exact .error (f e)
  | ok h => exact .ok h

/-- Two calls that fail alike either fail for one reason or both give something. -/
theorem shape (h : FailAlike R x y) :
    (∃ e, x = .error e ∧ y = .error e) ∨ ∃ a b, x = .ok a ∧ y = .ok b ∧ R a b := by
  cases h with
  | error e => exact .inl ⟨e, rfl, rfl⟩
  | @ok a b h => exact .inr ⟨a, b, rfl, rfl, h⟩

theorem of_ok {a b : α} (h : FailAlike R (.ok a : Except ε α) (.ok b)) : R a b := by
  cases h with
  | ok h => exact h

theorem refl (hR : ∀ a, R a a) (x : Except ε α) : FailAlike R x x := by
  cases x with
  | error e => exact .error e
  | ok a => exact .ok (hR a)

end FailAlike

namespace Key

/-! ### Outlines -/

/-- The algorithm of a key and whether it is closed. -/
def outline (k : Key) : Algorithm × Bool := (k.algorithm, k.closed)

theorem outline_close (k : Key) : k.close.outline = (k.outline.1, true) := rfl

variable {k k' : Key}

theorem algorithm_eq (h : k.outline = k'.outline) : k.algorithm = k'.algorithm :=
  congrArg Prod.fst h

theorem closed_eq (h : k.outline = k'.outline) : k.closed = k'.closed := congrArg Prod.snd h

theorem shown_eq (h : k.outline = k'.outline) : k.shown = k'.shown := by
  unfold shown
  rw [algorithm_eq h, closed_eq h]

theorem signatureLength_eq (h : k.outline = k'.outline) :
    k.signatureLength = k'.signatureLength :=
  congrArg Algorithm.signatureLength (algorithm_eq h)

/-! ### Calls that need the secret -/

/-- A key refuses to sign because it is closed, or because of the header and claims. -/
theorem rawSignature_alike (h : k.outline = k'.outline) (header claims : Value) :
    FailAlike (fun _ _ => True) (k.rawSignature header claims) (k'.rawSignature header claims) := by
  have hclosed := closed_eq h
  unfold closed at hclosed
  unfold rawSignature
  cases hs : k.state with
  | none =>
    rw [hs] at hclosed
    rw [Option.isNone_iff_eq_none.1 hclosed.symm]
    exact .error _
  | some state =>
    cases hs' : k'.state with
    | none => simp [hs, hs'] at hclosed
    | some state' =>
      have hbuild : FailAlike (fun _ _ => True) (SigningInput.build header claims)
          (SigningInput.build header claims) := .refl (fun _ => trivial) _
      exact hbuild.map fun _ _ _ => trivial

/-- Whether a key signs, and why not, does not depend on its secret. -/
theorem sign_alike (h : k.outline = k'.outline) (header claims : Value) :
    FailAlike (fun _ _ => True) (k.sign header claims) (k'.sign header claims) :=
  (rawSignature_alike h header claims).map fun _ _ _ => trivial

/-- Whether a comparison comes to a verdict does not depend on the secret, though the verdict
does. -/
theorem compare_alike (h : k.outline = k'.outline) (header claims : Value) (raw : Bytes)
    (journal : Log.Journal) :
    FailAlike (fun _ _ => True) (k.compare header claims raw journal).1
      (k'.compare header claims raw journal).1 := by
  rcases (rawSignature_alike h header claims).shape with ⟨e, hk, hk'⟩ | ⟨r, r', hk, hk', -⟩
  · rw [compare_of_rawSignature_error hk, compare_of_rawSignature_error hk']
    exact .error e
  · rw [compare_of_rawSignature hk, compare_of_rawSignature hk']
    exact .ok trivial

theorem verify_alike (h : k.outline = k'.outline) (header claims signature : Value)
    (journal : Log.Journal) :
    FailAlike (fun _ _ => True) (k.verify header claims signature journal).1
      (k'.verify header claims signature journal).1 := by
  cases hs : Base64Url.decodeValue signature with
  | error e =>
    rw [verify_of_decodeValue_error hs, verify_of_decodeValue_error hs]
    exact .error e
  | ok raw =>
    rw [verify_of_decodeValue_ok hs, verify_of_decodeValue_ok hs]
    exact compare_alike h header claims raw journal

theorem verifyBytes_alike (h : k.outline = k'.outline) (header claims signature : Value)
    (journal : Log.Journal) :
    FailAlike (fun _ _ => True) (k.verifyBytes header claims signature journal).1
      (k'.verifyBytes header claims signature journal).1 := by
  unfold verifyBytes
  cases signature.asBytes? with
  | none => exact .error _
  | some raw => exact compare_alike h header claims raw journal

/-! ### What a comparison logs -/

/-- What a comparison under an algorithm logs: the mismatch, where its answer is one. -/
def logged (a : Algorithm) : Except Failure Bool → Log.Journal
  | .ok false => [mismatch a]
  | .ok true | .error _ => []

/-- A comparison logs what its answer says. -/
theorem compare_snd (k : Key) (header claims : Value) (raw : Bytes) (journal : Log.Journal) :
    (k.compare header claims raw journal).2 =
      journal ++ logged k.algorithm (k.compare header claims raw journal).1 := by
  cases hk : k.rawSignature header claims with
  | error e =>
    rw [compare_of_rawSignature_error hk]
    exact (List.append_nil journal).symm
  | ok r =>
    rw [compare_of_rawSignature hk]
    by_cases hr : raw = r
    · simp [hr, logged]
    · simp [hr, logged]

/-- Reading the text of a signature logs nothing by itself. -/
theorem verify_snd (k : Key) (header claims signature : Value) (journal : Log.Journal) :
    (k.verify header claims signature journal).2 =
      journal ++ logged k.algorithm (k.verify header claims signature journal).1 := by
  cases hs : Base64Url.decodeValue signature with
  | error e =>
    rw [verify_of_decodeValue_error hs]
    exact (List.append_nil journal).symm
  | ok raw =>
    rw [verify_of_decodeValue_ok hs]
    exact k.compare_snd header claims raw journal

theorem verifyBytes_snd (k : Key) (header claims signature : Value) (journal : Log.Journal) :
    (k.verifyBytes header claims signature journal).2 =
      journal ++ logged k.algorithm (k.verifyBytes header claims signature journal).1 := by
  unfold verifyBytes
  cases signature.asBytes? with
  | none => exact (List.append_nil journal).symm
  | some raw => exact k.compare_snd header claims raw journal

end Key

end TokenSeal

import TokenSeal.Proofs.Key.Signature

/-!
# Which fault is reported

A call of a key looks at its arguments and at the key in a fixed order and is answered by the first
thing that is wrong. A check is what it refuses with (`Check`), a call's checks are a list, and
`AnswersBy` says that a call fails with the first fault in its list and gives a value iff there is
none. Calls that run one after the other put their lists one behind the other (`AnswersBy.bind`), so
each list is read off the parts that a call is made of: text is decoded before the key is asked, the
key is asked before the segments are looked at, and the header comes before the claims.
-/

namespace TokenSeal

/-! ### Checks in order -/

/-- A check, by the failures that it refuses with. It passes if there are none. -/
abbrev Check := Failure → Prop

/-- A failure is the first fault of some checks: one of them refuses with it, and all before that
one pass. -/
inductive FirstFault : List Check → Failure → Prop
  | here {check : Check} {checks : List Check} {e : Failure} (h : check e) :
    FirstFault (check :: checks) e
  | later {check : Check} {checks : List Check} {e : Failure} (hpass : ∀ e, ¬ check e)
    (h : FirstFault checks e) : FirstFault (check :: checks) e

theorem firstFault_nil (e : Failure) : ¬ FirstFault [] e := nofun

/-- A fault is the first if its check finds it, or if that check finds none and it is the first of
the rest. -/
theorem firstFault_cons {check : Check} {checks : List Check} {e : Failure} :
    FirstFault (check :: checks) e ↔ check e ∨ (∀ e, ¬ check e) ∧ FirstFault checks e := by
  constructor
  · intro h
    cases h with
    | here h => exact .inl h
    | later hpass h => exact .inr ⟨hpass, h⟩
  · rintro (h | ⟨hpass, h⟩)
    · exact .here h
    · exact .later hpass h

theorem firstFault_singleton {check : Check} {e : Failure} : FirstFault [check] e ↔ check e := by
  simp [firstFault_cons, firstFault_nil]

/-- The first fault is what one of the checks refuses with. -/
theorem FirstFault.exists_mem {checks : List Check} {e : Failure} (h : FirstFault checks e) :
    ∃ check ∈ checks, check e := by
  induction h with
  | here h => exact ⟨_, List.mem_cons_self, h⟩
  | later hpass h ih =>
    obtain ⟨check, hmem, hcheck⟩ := ih
    exact ⟨check, List.mem_cons_of_mem _ hmem, hcheck⟩

/-- The first fault of checks in a row comes from the first ones, or all of these pass. -/
theorem firstFault_append {checks checks' : List Check} {e : Failure} :
    FirstFault (checks ++ checks') e ↔
      FirstFault checks e ∨ (∀ check ∈ checks, ∀ e, ¬ check e) ∧ FirstFault checks' e := by
  induction checks with
  | nil => simp [firstFault_nil]
  | cons check checks ih =>
    rw [List.cons_append, firstFault_cons, firstFault_cons, ih]
    simp only [List.mem_cons, forall_eq_or_imp]
    tauto

/-- Some check fails iff there is a first one. -/
theorem exists_firstFault_iff {checks : List Check} :
    (∃ e, FirstFault checks e) ↔ ∃ check ∈ checks, ∃ e, check e := by
  induction checks with
  | nil => simp [firstFault_nil]
  | cons check checks ih =>
    simp only [List.mem_cons, exists_eq_or_imp, ← ih]
    constructor
    · rintro ⟨e, h⟩
      rcases firstFault_cons.1 h with h | ⟨-, h⟩
      · exact .inl ⟨e, h⟩
      · exact .inr ⟨e, h⟩
    · rintro (⟨e, h⟩ | ⟨e, h⟩)
      · exact ⟨e, .here h⟩
      · by_cases hcheck : ∃ e, check e
        · obtain ⟨e', h'⟩ := hcheck
          exact ⟨e', .here h'⟩
        · exact ⟨e, .later (not_exists.1 hcheck) h⟩

/-- A call answers by checks: it fails with the first fault, and gives a value iff all pass. -/
structure AnswersBy {α : Type} (checks : List Check) (answer : Except Failure α) : Prop where
  error_iff : ∀ e, answer = .error e ↔ FirstFault checks e
  ok_iff : (∃ a, answer = .ok a) ↔ ∀ check ∈ checks, ∀ e, ¬ check e

namespace AnswersBy

variable {α β : Type} {checks checks' : List Check} {x : Except Failure α}

/-- What a call fails with determines when it succeeds. -/
theorem of_error_iff (h : ∀ e, x = .error e ↔ FirstFault checks e) : AnswersBy checks x where
  error_iff := h
  ok_iff := by
    have herror : (∃ e, x = .error e) ↔ ∃ check ∈ checks, ∃ e, check e := by
      simp only [h, exists_firstFault_iff]
    have hnone : (∀ check ∈ checks, ∀ e, ¬ check e) ↔ ¬ ∃ check ∈ checks, ∃ e, check e := by
      push Not
      rfl
    rw [hnone, ← herror]
    cases x with
    | error e => simp
    | ok a => simp

/-- Two calls in a row answer by the checks of both. -/
theorem bind (hx : AnswersBy checks x) {f : α → Except Failure β}
    (hf : ∀ a, x = .ok a → AnswersBy checks' (f a)) : AnswersBy (checks ++ checks') (x.bind f) := by
  refine of_error_iff fun e => ?_
  rw [firstFault_append, ← hx.error_iff, ← hx.ok_iff]
  cases x with
  | error d => simp [Except.bind]
  | ok a => simp [Except.bind, (hf a rfl).error_iff]

/-- Checks are about failures, so a function of the value keeps them. -/
theorem map (hx : AnswersBy checks x) (f : α → β) : AnswersBy checks (x.map f) := by
  refine of_error_iff fun e => ?_
  rw [← hx.error_iff]
  cases x with
  | error d => simp [Except.map]
  | ok a => simp [Except.map]

/-- A check that passes can stand in front. -/
theorem of_pass (hx : AnswersBy checks x) {check : Check} (hpass : ∀ e, ¬ check e) :
    AnswersBy (check :: checks) x := by
  refine of_error_iff fun e => ?_
  rw [firstFault_cons, hx.error_iff]
  simp [hpass]

/-- A check that passes can stand behind. -/
theorem concat_pass (hx : AnswersBy checks x) {check : Check} (hpass : ∀ e, ¬ check e) :
    AnswersBy (checks ++ [check]) x := by
  refine of_error_iff fun e => ?_
  rw [firstFault_append, firstFault_singleton, hx.error_iff]
  simp [hpass]

/-- A check that fails decides, whatever comes behind it. -/
theorem of_refusal {check : Check} {e : Failure} (h : ∀ d, check d ↔ d = e) :
    AnswersBy (check :: checks) (.error e : Except Failure α) := by
  refine of_error_iff fun d => ?_
  simp [firstFault_cons, h, eq_comm]

end AnswersBy

/-! ### The checks of a key's calls -/

/-- A signature text has to be a text over the alphabet of a length that octets can have. -/
def SignatureTextFault (v : Value) : Check := fun e =>
  match v.asText? with
  | none => e = .signatureNotText v.typeName
  | some t =>
    ((∃ c ∈ t, c ∉ Base64Url.alphabet) ∧ e = .foreignCharacter) ∨
      ((∀ c ∈ t, c ∈ Base64Url.alphabet) ∧ t.length % 4 = 1 ∧ e = .impossibleLength)

/-- A raw signature has to be a container of octets. -/
def SignatureBytesFault (v : Value) : Check := fun e =>
  v.asBytes? = none ∧ e = .signatureNotBytes v.typeName

/-- What is offered for a raw signature has to be a container of octets. A released view is one. -/
def OfferedTypeFault : Key.Offered → Check
  | .value v => SignatureBytesFault v
  | .released => fun _ => False

/-- What is offered for a raw signature has to have octets. -/
def OfferedReleasedFault (offered : Key.Offered) : Check := fun e =>
  offered = .released ∧ e = .signatureReleased

/-- A key has to be open. -/
def ClosedFault (k : Key) : Check := fun e => k.closed = true ∧ e = .keyClosed

/-- A segment has to be a text without surrogates, or the class of texts. -/
def SegmentFault (segment : Segment) (v : Value) : Check := fun e =>
  match v.asText? with
  | none => v ≠ .textClass ∧ e = .segmentNotText v.owner
  | some t => (∃ c ∈ t, c.isSurrogate = true) ∧ e = .segmentNotScalar segment

theorem answersBy_decodeValue (v : Value) :
    AnswersBy [SignatureTextFault v] (Base64Url.decodeValue v) := by
  refine .of_error_iff fun e => ?_
  rw [firstFault_singleton, Base64Url.decodeValue, SignatureTextFault]
  cases v.asText? with
  | none => simp [eq_comm]
  | some t => exact Base64Url.decode_eq_error_iff

/-- The class of texts stands for the name of the encoding. -/
theorem SigningInput.ofSegment_textClass (segment : Segment) :
    ofSegment segment .textClass = ofSegment segment (.text (Text.ofString "utf-8")) :=
  rfl

theorem answersBy_ofSegment (segment : Segment) (v : Value) :
    AnswersBy [SegmentFault segment v] (SigningInput.ofSegment segment v) := by
  refine .of_error_iff fun e => ?_
  rw [firstFault_singleton, SegmentFault]
  cases ht : v.asText? with
  | none =>
    by_cases hclass : v = .textClass
    · -- the one value that is no text and is encoded all the same
      have hutf8 : ∃ octets, SigningInput.ofSegment segment .textClass = .ok octets := ⟨_, rfl⟩
      obtain ⟨octets, hoctets⟩ := hutf8
      simp [hclass, hoctets]
    · simp [SigningInput.ofSegment, Value.encodedText?_eq_none_iff.2 ⟨ht, hclass⟩, hclass, eq_comm]
  | some t =>
    simp only [SigningInput.ofSegment, Value.encodedText?_of_asText ht,
      ← Utf8.exists_firstSurrogateRun_iff, Utf8.encode]
    cases Utf8.firstSurrogateRun t with
    | none => simp
    | some run => simp [eq_comm]

/-- The header is looked at before the claims. -/
theorem answersBy_build (header claims : Value) :
    AnswersBy [SegmentFault .header header, SegmentFault .claims claims]
      (SigningInput.build header claims) := by
  have hbind : SigningInput.build header claims =
      (SigningInput.ofSegment .header header).bind fun h =>
        (SigningInput.ofSegment .claims claims).map fun c => h ++ SigningInput.separator :: c := by
    unfold SigningInput.build
    cases SigningInput.ofSegment .header header with
    | error e => rfl
    | ok h => cases SigningInput.ofSegment .claims claims <;> rfl
  rw [hbind]
  exact (answersBy_ofSegment .header header).bind fun _ _ =>
    (answersBy_ofSegment .claims claims).map _

namespace Key

variable (k : Key) (header claims signature : Value)

/-- What stands between a key and a raw signature: the key is asked before the segments. -/
def signingChecks : List Check :=
  [ClosedFault k, SegmentFault .header header, SegmentFault .claims claims]

/-- The key is asked before the header, and the header before the claims. -/
theorem answersBy_rawSignature :
    AnswersBy (signingChecks k header claims) (k.rawSignature header claims) := by
  unfold rawSignature signingChecks
  cases hs : k.state with
  | none => exact .of_refusal fun e => by simp [ClosedFault, closed, hs]
  | some state =>
    exact ((answersBy_build header claims).map _).of_pass (by simp [ClosedFault, closed, hs])

/-- A comparison needs no more than the raw signature. -/
theorem compare_fst (raw : Bytes) (journal : Log.Journal) :
    (k.compare header claims raw journal).1 =
      (k.rawSignature header claims).map fun expected => decide (raw = expected) := by
  cases hraw : k.rawSignature header claims with
  | error e => rw [compare_of_rawSignature_error hraw]; rfl
  | ok expected => rw [compare_of_rawSignature hraw]; rfl

/-- The answer on text is the comparison's on the decoded text. -/
theorem verify_fst (journal : Log.Journal) :
    (k.verify header claims signature journal).1 =
      (Base64Url.decodeValue signature).bind fun raw =>
        (k.compare header claims raw journal).1 := by
  cases hs : Base64Url.decodeValue signature with
  | error e => rw [verify_of_decodeValue_error hs]; rfl
  | ok raw => rw [verify_of_decodeValue_ok hs]; rfl

theorem answersBy_compare (raw : Bytes) (journal : Log.Journal) :
    AnswersBy (signingChecks k header claims) (k.compare header claims raw journal).1 := by
  rw [compare_fst]
  exact (k.answersBy_rawSignature header claims).map _

theorem answersBy_sign : AnswersBy (signingChecks k header claims) (k.sign header claims) :=
  (k.answersBy_rawSignature header claims).map _

/-- The signature is read before the key is asked. -/
theorem answersBy_verify (journal : Log.Journal) :
    AnswersBy (SignatureTextFault signature :: signingChecks k header claims)
      (k.verify header claims signature journal).1 := by
  rw [verify_fst]
  exact (answersBy_decodeValue signature).bind fun raw _ =>
    k.answersBy_compare header claims raw journal

/-- The container is looked at before the key is asked. -/
theorem answersBy_verifyBytes (journal : Log.Journal) :
    AnswersBy (SignatureBytesFault signature :: signingChecks k header claims)
      (k.verifyBytes header claims signature journal).1 := by
  unfold verifyBytes
  cases hs : signature.asBytes? with
  | none => exact .of_refusal fun e => by simp [SignatureBytesFault, hs]
  | some raw =>
    have hpass : ∀ e, ¬ SignatureBytesFault signature e := by simp [SignatureBytesFault, hs]
    exact (k.answersBy_compare header claims raw journal).of_pass hpass

/-- A released view is refused by its own check, behind all others. -/
theorem answersBy_verifyOffered (offered : Offered) (journal : Log.Journal) :
    AnswersBy (OfferedTypeFault offered ::
        (signingChecks k header claims ++ [OfferedReleasedFault offered]))
      (k.verifyOffered header claims journal offered).1 := by
  cases offered with
  | value signature =>
    have hpass : ∀ e, ¬ OfferedReleasedFault (.value signature) e := by simp [OfferedReleasedFault]
    exact (k.answersBy_verifyBytes header claims signature journal).concat_pass hpass
  | released =>
    have hbind : (k.verifyOffered header claims journal .released).1 =
        (k.rawSignature header claims).bind fun _ => .error .signatureReleased := by
      unfold verifyOffered
      cases k.rawSignature header claims <;> rfl
    have hpass : ∀ e, ¬ OfferedTypeFault .released e := by simp [OfferedTypeFault]
    rw [hbind]
    refine .of_pass ((k.answersBy_rawSignature header claims).bind fun _ _ => ?_) hpass
    exact .of_refusal fun e => by simp [OfferedReleasedFault]

/-! ### What the checks refuse with -/

theorem kind_of_signatureTextFault {v : Value} {e : Failure} (h : SignatureTextFault v e) :
    e.kind = .signing .encoding := by
  unfold SignatureTextFault at h
  split at h
  · rw [h]; rfl
  · rcases h with ⟨-, rfl⟩ | ⟨-, -, rfl⟩ <;> rfl

theorem kind_of_closedFault {e : Failure} (h : ClosedFault k e) :
    e.kind = .signing .keyInitialization := by
  obtain ⟨-, rfl⟩ := h
  rfl

/-- A segment that cannot be encoded at all is a fault of another kind than one with surrogates,
which is reported by its name. -/
theorem segmentFault_cases {segment : Segment} {v : Value} {e : Failure}
    (h : SegmentFault segment v e) :
    (v.asText? = none ∧ v ≠ .textClass ∧ e = .segmentNotText v.owner) ∨
      (∃ t, v.asText? = some t ∧ ∃ c ∈ t, c.isSurrogate = true) ∧
        e = .segmentNotScalar segment := by
  unfold SegmentFault at h
  split at h
  · next hv => exact .inl ⟨hv, h⟩
  · next t hv => exact .inr ⟨⟨t, hv, h.1⟩, h.2⟩

/-- A text that stands for a segment can be refused by an encoding error only. -/
theorem errorClass?_of_segmentFault_text {segment : Segment} {t : Text} {e : Failure}
    (h : SegmentFault segment (.text t) e) : e.errorClass? = some .encoding := by
  rcases segmentFault_cases h with ⟨hnone, -⟩ | ⟨-, rfl⟩
  · cases hnone
  · rfl

/-- A verification of texts fails by signing errors only. -/
theorem errorClass?_of_verify {k : Key} {h c t : Text} {journal : Log.Journal} {e : Failure}
    (he : (k.verify (.text h) (.text c) (.text t) journal).1 = .error e) :
    ∃ d, e.errorClass? = some d := by
  obtain ⟨check, hmem, hcheck⟩ := (((k.answersBy_verify _ _ _ journal).error_iff e).1 he).exists_mem
  simp only [signingChecks, List.mem_cons, List.not_mem_nil, or_false] at hmem
  rcases hmem with rfl | rfl | rfl | rfl
  · exact ⟨_, Failure.errorClass?_eq_some_iff.2 (kind_of_signatureTextFault hcheck)⟩
  · exact ⟨_, Failure.errorClass?_eq_some_iff.2 (k.kind_of_closedFault hcheck)⟩
  · exact ⟨_, errorClass?_of_segmentFault_text hcheck⟩
  · exact ⟨_, errorClass?_of_segmentFault_text hcheck⟩

/-- **Which fault is reported.** Whatever the arguments are, and whether the key is open or closed,
signature text is checked first, then whether the key is open, then the header, then the claims; the
call fails with the first fault and gives its value, a verdict, iff there is none. A raw signature
is only checked for being a container of octets, and signing has no signature to check. A bad
signature is an encoding error and a closed key an error of keys. A segment is an encoding error
that names the segment if it is a text with surrogates, and a missing member if it is neither a text
nor the class of texts; that class is as good as the text `utf-8`. A view that has been released is
a container of octets, and that it has none any more is found behind everything else. -/
theorem calls_answer_by_first_fault :
    (∀ (k : Key) (header claims signature : Value) (offered : Offered) (journal : Log.Journal),
      AnswersBy [SignatureTextFault signature, ClosedFault k, SegmentFault .header header,
          SegmentFault .claims claims] (k.verify header claims signature journal).1 ∧
        AnswersBy [OfferedTypeFault offered, ClosedFault k, SegmentFault .header header,
          SegmentFault .claims claims, OfferedReleasedFault offered]
          (k.verifyOffered header claims journal offered).1 ∧
        AnswersBy [SignatureBytesFault signature, ClosedFault k, SegmentFault .header header,
          SegmentFault .claims claims] (k.verifyBytes header claims signature journal).1 ∧
        AnswersBy [ClosedFault k, SegmentFault .header header, SegmentFault .claims claims]
          (k.sign header claims)) ∧
    (∀ v e, SignatureTextFault v e → e.kind = .signing .encoding) ∧
    (∀ offered e, OfferedTypeFault offered e → e.kind = .signing .encoding) ∧
    (∀ k e, ClosedFault k e → e.kind = .signing .keyInitialization) ∧
    (∀ segment v e, SegmentFault segment v e →
      (v.asText? = none ∧ v ≠ .textClass ∧ e.kind = .attribute ∧
          e.message = Failure.missingMember v.owner "encode") ∨
        (v.asText? ≠ none ∧ e.kind = .signing .encoding ∧
          e.message = segment.name ++ " is not valid UTF-8 text")) ∧
    (∀ offered e, OfferedReleasedFault offered e → e.kind = .value) ∧
    (∀ segment, SigningInput.ofSegment segment .textClass =
      SigningInput.ofSegment segment (.text (Text.ofString "utf-8"))) := by
  refine ⟨?_, ?_, ?_, ?_, ?_, ?_, SigningInput.ofSegment_textClass⟩
  · intro k header claims signature offered journal
    exact ⟨k.answersBy_verify header claims signature journal,
      k.answersBy_verifyOffered header claims offered journal,
      k.answersBy_verifyBytes header claims signature journal, k.answersBy_sign header claims⟩
  · intro v e h
    exact kind_of_signatureTextFault h
  · rintro (v | _) e h
    · rw [h.2]
      rfl
    · cases h
  · intro k e h
    exact k.kind_of_closedFault h
  · intro segment v e h
    rcases segmentFault_cases h with ⟨hv, hclass, rfl⟩ | ⟨⟨t, hv, -⟩, rfl⟩
    · exact .inl ⟨hv, hclass, rfl, rfl⟩
    · exact .inr ⟨by simp [hv], rfl, rfl⟩
  · rintro offered e ⟨-, rfl⟩
    rfl

/-- A header that is no text need not be a fault: the class of texts is signed like a text. -/
theorem sign_class_of_texts :
    Value.textClass.asText? = none ∧ (ofBytes .hs256 [0x6B]).closed = false ∧
      ∃ signature, (ofBytes .hs256 [0x6B]).sign .textClass (.text (Text.ofString "c")) =
        .ok signature :=
  ⟨rfl, rfl, _, rfl⟩

/-- A closed key refuses a signature of one letter for its length, although the header is null, and
one of two letters for being closed. An open key refuses a header that is null before claims that
hold a surrogate, and such claims by their name, also where the octets of the signature are gone.
With nothing wrong there is a verdict. -/
theorem calls_answer_by_first_fault_null_header :
    ((ofBytes .hs256 [0x6B]).close.verify .null .null (.text (Text.ofString "A")) []).1 =
      .error .impossibleLength ∧
    ((ofBytes .hs256 [0x6B]).close.verify .null .null (.text (Text.ofString "AA")) []).1 =
      .error .keyClosed ∧
    ((ofBytes .hs256 [0x6B]).verify .null (.text [0xD800]) (.text (Text.ofString "AA")) []).1 =
      .error (.segmentNotText "'NoneType' object") ∧
    ((ofBytes .hs256 [0x6B]).verifyOffered (.text []) (.text [0xD800]) [] .released).1 =
      .error (.segmentNotScalar .claims) ∧
    (ofBytes .hs256 [0x6B]).sign (.text []) (.text [0xD800]) =
      .error (.segmentNotScalar .claims) ∧
    ∃ valid, ((ofBytes .hs256 [0x6B]).verifyBytes (.text []) .textClass
      (.bytes .memoryview []) []).1 = .ok valid := by
  obtain ⟨hcalls, -⟩ := calls_answer_by_first_fault
  have hletters (n : Nat) : ∀ c ∈ List.replicate n (Base64Url.letter 0), c ∈ Base64Url.alphabet :=
    fun c hc => Base64Url.mem_alphabet_iff.2 ⟨0, (List.eq_of_mem_replicate hc).symm⟩
  have hsignature : ∀ e, ¬ SignatureTextFault (.text (Text.ofString "AA")) e := by
    rintro e (⟨⟨c, hc, hforeign⟩, -⟩ | ⟨-, hl, -⟩)
    · exact hforeign (hletters 2 c hc)
    · cases hl
  have hopen : ∀ e, ¬ ClosedFault (ofBytes .hs256 [0x6B]) e := by
    rintro e ⟨h, -⟩
    cases h
  have hempty (segment : Segment) : ∀ e, ¬ SegmentFault segment (.text []) e := by
    rintro e ⟨⟨c, hc, -⟩, -⟩
    cases hc
  have hsurrogate : SegmentFault .claims (.text [0xD800]) (.segmentNotScalar .claims) :=
    ⟨⟨0xD800, by simp, by decide⟩, rfl⟩
  refine ⟨?_, ?_, ?_, ?_, ?_, ?_⟩
  · exact ((hcalls _ _ _ _ .released _).1.error_iff _).2 (.here (.inr ⟨hletters 1, rfl, rfl⟩))
  · exact ((hcalls _ _ _ _ .released _).1.error_iff _).2 (.later hsignature (.here ⟨rfl, rfl⟩))
  · exact ((hcalls _ _ _ _ .released _).1.error_iff _).2
      (.later hsignature (.later hopen (.here ⟨nofun, rfl⟩)))
  · exact ((hcalls _ _ _ .null .released []).2.1.error_iff _).2
      (.later nofun (.later hopen (.later (hempty .header) (.here hsurrogate))))
  · exact ((hcalls _ _ _ .null .released []).2.2.2.error_iff _).2
      (.later hopen (.later (hempty .header) (.here hsurrogate)))
  · refine (hcalls _ _ _ _ .released _).2.2.1.ok_iff.2 fun check hcheck => ?_
    simp only [List.mem_cons, List.not_mem_nil, or_false] at hcheck
    rcases hcheck with rfl | rfl | rfl | rfl
    · rintro e ⟨h, -⟩
      cases h
    · exact hopen
    · exact hempty .header
    · rintro e ⟨h, -⟩
      exact h rfl

end Key

end TokenSeal

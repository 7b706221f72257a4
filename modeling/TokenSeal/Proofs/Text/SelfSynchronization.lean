import TokenSeal.Text.Utf8.RoundTrip

/-!
# ASCII octets in UTF-8

An octet below 0x80 stands for itself wherever it occurs in an encoding: the octets of a longer
group are all 0x80 or above (`CodePoint.mem_utf8_iff`). An encoding may therefore be cut at such an
octet, and both pieces are encodings (`flatMap_utf8_eq_append_cons_iff`). That is an induction over
the text whose step is one code point, which is either the octet alone or has no part in it.
-/

namespace TokenSeal

namespace CodePoint

/-- An octet of 0x80 or more, written as a sum. -/
theorem not_lt_of_lead {lead low : Nat} (h : 0x80 ≤ lead) (hsum : lead + low < 0x100) {b : UInt8}
    (hb : b < 0x80) : b ≠ .ofNat (lead + low) := by
  rintro rfl
  rw [UInt8.lt_iff_toNat_lt, UInt8.toNat_ofNat_of_lt' hsum] at hb
  have hlt : lead + low < 0x80 := hb
  omega

/-- The encoding of a code point has an octet below 0x80 only if it is that octet. -/
theorem mem_utf8_iff {c : CodePoint} {b : UInt8} (hb : b < 0x80) :
    b ∈ c.utf8 ↔ c.val = b.toNat := by
  have hc := c.isLt
  have hb' : b.toNat < 0x80 := hb
  unfold utf8
  split
  · next h =>
    rw [List.mem_singleton]
    constructor
    · rintro rfl
      exact (UInt8.toNat_ofNat_of_lt' (Nat.lt_trans h (by decide))).symm
    · intro hv
      rw [hv, UInt8.ofNat_toNat]
  · next h1 =>
    -- in a longer group every octet has its highest bit set
    have hne : c.val ≠ b.toNat := by omega
    split
    · simp only [List.mem_cons, List.not_mem_nil, or_false, hne, iff_false, not_or]
      exact ⟨not_lt_of_lead (by omega) (by omega) hb, not_lt_of_lead (by omega) (by omega) hb⟩
    · split
      · simp only [List.mem_cons, List.not_mem_nil, or_false, hne, iff_false, not_or]
        exact ⟨not_lt_of_lead (by omega) (by omega) hb, not_lt_of_lead (by omega) (by omega) hb,
          not_lt_of_lead (by omega) (by omega) hb⟩
      · simp only [List.mem_cons, List.not_mem_nil, or_false, hne, iff_false, not_or]
        exact ⟨not_lt_of_lead (by omega) (by omega) hb, not_lt_of_lead (by omega) (by omega) hb,
          not_lt_of_lead (by omega) (by omega) hb, not_lt_of_lead (by omega) (by omega) hb⟩

/-- The code point of an octet below 0x80 is encoded as that octet. -/
theorem utf8_eq_singleton {c : CodePoint} {b : UInt8} (hb : b < 0x80) (h : c.val = b.toNat) :
    c.utf8 = [b] := by
  have hc : c.val < 0x80 := h ▸ hb
  rw [utf8, if_pos hc, h, UInt8.ofNat_toNat]

end CodePoint

namespace Utf8

variable {c : CodePoint} {b : UInt8}

/-- An encoding is cut at an octet below 0x80 exactly where the text is cut at its code point. -/
theorem flatMap_utf8_eq_append_cons_iff (hb : b < 0x80) (hc : c.val = b.toNat) {t : Text}
    {front back : Bytes} :
    t.flatMap CodePoint.utf8 = front ++ b :: back ↔
      ∃ u v, t = u ++ c :: v ∧ u.flatMap CodePoint.utf8 = front ∧
        v.flatMap CodePoint.utf8 = back := by
  constructor
  · intro h
    induction t generalizing front with
    | nil => simp at h
    | cons d t ih =>
      rw [List.flatMap_cons, List.append_eq_append_iff] at h
      rcases h with ⟨rest, rfl, hrest⟩ | ⟨rest, hd, hrest⟩
      · -- the cut is behind the first code point
        obtain ⟨u, v, rfl, rfl, rfl⟩ := ih hrest
        exact ⟨d :: u, v, rfl, rfl, rfl⟩
      · cases rest with
        | nil =>
          -- the cut is right behind the first code point
          rw [List.append_nil] at hd
          have hnil : t.flatMap CodePoint.utf8 = [] ++ b :: back := hrest.symm
          obtain ⟨u, v, rfl, hu, rfl⟩ := ih hnil
          exact ⟨d :: u, v, rfl, by rw [List.flatMap_cons, hu, List.append_nil, hd], rfl⟩
        | cons x rest =>
          -- the octet belongs to the first code point, which then is that octet
          obtain ⟨rfl, hback⟩ := List.cons.inj hrest
          have hmem : b ∈ d.utf8 := by simp [hd]
          have hval : d.val = b.toNat := (CodePoint.mem_utf8_iff hb).1 hmem
          have hsingle : [b] = front ++ b :: rest := by
            rw [← CodePoint.utf8_eq_singleton hb hval, hd]
          obtain ⟨rfl, rfl⟩ : front = [] ∧ rest = [] := by
            cases front with
            | nil => simpa using hsingle
            | cons y ys => simp at hsingle
          exact ⟨[], t, by rw [Fin.ext (hval.trans hc.symm)]; rfl, rfl, hback.symm⟩
  · rintro ⟨u, v, rfl, rfl, rfl⟩
    rw [List.flatMap_append, List.flatMap_cons, CodePoint.utf8_eq_singleton hb hc]
    rfl

end Utf8

end TokenSeal

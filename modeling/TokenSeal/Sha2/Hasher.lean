import TokenSeal.Sha2.Basic

/-!
# Hashing in parts

A `Hasher` takes a message in parts of any size and gives its digest at the end. It holds the
chaining value of the blocks that are complete, the octets of the block that is not, and the count
of all octets so far. Hashers are values: going on from one leaves it as it was, so a hasher that
has taken a common beginning can be kept and continued many times. What a hasher holds is told by
the message alone (`Absorbed`): one more octet keeps that so, hence so does any part, and where a
message is cut does not matter, `finish_update_start`.
-/

namespace TokenSeal

/-- A message on its way through a hash. -/
structure Hasher (h : Sha2) where
  /-- The chaining value after the complete blocks. -/
  chain : Sha2.State (8 * h.wordSize)
  /-- The octets after the complete blocks. -/
  pending : Bytes
  /-- How many octets came in all. -/
  total : Nat
  /-- A complete block does not wait. -/
  pending_lt : pending.length < h.blockSize

namespace Hasher

variable {h : Sha2}

/-- A hasher before the first octet. -/
def start (h : Sha2) : Hasher h := ⟨h.initial, [], 0, h.blockSize_pos⟩

/-- One more octet: a block that it completes goes through the compression function. -/
def push (s : Hasher h) (b : UInt8) : Hasher h :=
  if full : s.pending.length + 1 = h.blockSize then
    ⟨h.compress s.chain (s.pending ++ [b]), [], s.total + 1, h.blockSize_pos⟩
  else
    ⟨s.chain, s.pending ++ [b], s.total + 1, by
      have := s.pending_lt
      rw [List.length_append, List.length_singleton]
      omega⟩

/-- One more part of the message. -/
def update (s : Hasher h) (part : Bytes) : Hasher h := part.foldl push s

/-- The digest of all parts so far. -/
def finish (s : Hasher h) : Bytes := h.output (s.update (h.padding s.total)).chain

@[simp] theorem length_finish (s : Hasher h) : s.finish.length = h.digestSize :=
  h.length_output _

/-! ### What a hasher holds -/

/-- A hasher that has absorbed a message, whatever the parts were that it came in. -/
structure Absorbed (s : Hasher h) (m : Bytes) : Prop where
  /-- The complete blocks are compressed, in order. -/
  chain_eq : s.chain =
    (Sha2.parts h.blockSize (m.length / h.blockSize) m).foldl h.compress h.initial
  /-- What comes after them waits. -/
  pending_eq : s.pending = m.drop (m.length / h.blockSize * h.blockSize)
  /-- Every octet is counted. -/
  total_eq : s.total = m.length

/-- A new hasher has absorbed nothing. -/
theorem absorbed_start : (start h).Absorbed [] := by
  refine ⟨?_, List.drop_nil.symm, rfl⟩
  rw [List.length_nil, Nat.zero_div]
  rfl

namespace Absorbed

variable {s : Hasher h} {m : Bytes}

/-- As many octets wait as the message has past a multiple of the block size. -/
theorem length_pending (hs : s.Absorbed m) : s.pending.length = m.length % h.blockSize := by
  rw [hs.pending_eq, List.length_drop, Nat.mul_comm, ← Nat.mod_eq_sub_mul_div]

/-- One octet more: it waits with the others, or completes their block. -/
theorem push (hs : s.Absorbed m) (b : UInt8) : (s.push b).Absorbed (m ++ [b]) := by
  have hle : m.length / h.blockSize * h.blockSize ≤ m.length := Nat.div_mul_le_self _ _
  have hwait : (m ++ [b]).drop (m.length / h.blockSize * h.blockSize) = s.pending ++ [b] := by
    rw [List.drop_append_of_le_length hle, ← hs.pending_eq]
  have hlen : (m ++ [b]).length = s.pending.length + 1 + m.length / h.blockSize * h.blockSize := by
    rw [hs.length_pending, List.length_append, List.length_singleton]
    have := Nat.mod_add_div' m.length h.blockSize
    omega
  have hblocks : (m ++ [b]).length / h.blockSize =
      (s.pending.length + 1) / h.blockSize + m.length / h.blockSize := by
    rw [hlen, Nat.add_mul_div_right _ _ h.blockSize_pos]
  have htotal : s.total + 1 = (m ++ [b]).length := by
    rw [hs.total_eq, List.length_append, List.length_singleton]
  by_cases full : s.pending.length + 1 = h.blockSize
  · have hcount : (m ++ [b]).length / h.blockSize = m.length / h.blockSize + 1 := by
      rw [hblocks, full, Nat.div_self h.blockSize_pos, Nat.add_comm]
    have hblock : (s.pending ++ [b]).take h.blockSize = s.pending ++ [b] := by
      rw [List.take_of_length_le]
      simp [full]
    unfold Hasher.push
    rw [dif_pos full]
    refine ⟨?_, ?_, htotal⟩
    · rw [hcount, Sha2.parts_add, Sha2.parts_append hle, hwait, List.foldl_append, ← hs.chain_eq]
      show _ = h.compress s.chain _
      rw [hblock]
    · rw [hcount, Nat.succ_mul, ← List.drop_drop, hwait, List.drop_of_length_le]
      simp [full]
  · have hcount : (m ++ [b]).length / h.blockSize = m.length / h.blockSize := by
      have := s.pending_lt
      rw [hblocks, Nat.div_eq_of_lt (by omega), Nat.zero_add]
    unfold Hasher.push
    rw [dif_neg full]
    refine ⟨?_, ?_, htotal⟩
    · rw [hcount, Sha2.parts_append hle, ← hs.chain_eq]
    · rw [hcount, hwait]

/-- A part is absorbed behind what has been. -/
theorem update (hs : s.Absorbed m) (part : Bytes) : (s.update part).Absorbed (m ++ part) := by
  induction part generalizing s m with
  | nil => rwa [List.append_nil]
  | cons b part ih =>
    rw [List.append_cons]
    exact ih (hs.push b)

/-- What a hasher gives at the end depends on the message alone. -/
theorem finish_eq (hs : s.Absorbed m) : s.finish = h.digest m := by
  have hpadded := (hs.update (h.padding m.length)).chain_eq
  rw [finish, hs.total_eq, hpadded]
  rfl

end Absorbed

/-- A message that is hashed in parts has the digest of the whole. -/
theorem finish_update_start (m : Bytes) : ((start h).update m).finish = h.digest m :=
  (absorbed_start.update m).finish_eq

end Hasher

end TokenSeal

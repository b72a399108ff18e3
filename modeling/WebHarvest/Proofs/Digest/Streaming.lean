import WebHarvest.Digest.Content

/-! A digest computed over bytes as they arrive is the digest of the whole message, however the
message was cut up.
-/

namespace WebHarvest

namespace Digest.BlockHash.Running

variable {hash : BlockHash}

/-- A running computation between two bytes: fewer bytes are held than make a block, and their
number is known.
-/
structure IsPending (run : Running hash) : Prop where
  counted : run.held = run.pending.length
  short : run.held < blockSize

/-- With nothing held a computation is between two bytes. -/
theorem isPending_of_held_zero (state : hash.State) (total : Nat)
    : IsPending (⟨state, [], 0, total⟩ : Running hash) :=
  ⟨rfl, Nat.zero_lt_succ 63⟩

/-- The state after more bytes is that of absorbing all whole blocks among the held bytes and the
new ones, by induction on the new ones. The byte that fills a block starts over with nothing held.
-/
theorem state_update (run : Running hash) (pending : run.IsPending) (bytes : Bytes)
    : (run.update bytes).state
      = hash.absorb run.state ((run.held + bytes.length) / blockSize)
          (run.pending.reverse ++ bytes) := by
  induction bytes generalizing run with
  | nil =>
      have none : run.held / blockSize = 0 := Nat.div_eq_of_lt pending.short
      simp only [update, List.foldl_nil, List.length_nil, Nat.add_zero, none, absorb]
  | cons byte rest ih =>
      have counted := pending.counted
      have short := pending.short
      change ((run.push byte).update rest).state = _
      by_cases room : run.held + 1 < blockSize
      · have pushed : run.push byte
            = ⟨run.state, byte :: run.pending, run.held + 1, run.total + 1⟩ := by
          simp only [push, room, if_true]
        rw [pushed, ih _ ⟨by simp [counted], room⟩]
        simp only [List.reverse_cons, List.append_assoc, List.singleton_append, List.length_cons]
        congr 2
        omega
      · have pushed : run.push byte
            = ⟨hash.compress run.state (byte :: run.pending).reverse, [], 0, run.total + 1⟩ := by
          simp only [push, room, if_false]
        have full : (byte :: run.pending).reverse.length = blockSize := by
          simp only [List.length_reverse, List.length_cons]
          omega
        have blocks : (run.held + (byte :: rest).length) / blockSize
            = (0 + rest.length) / blockSize + 1 := by
          simp only [List.length_cons, blockSize] at *
          omega
        have whole : run.pending.reverse ++ byte :: rest
            = (byte :: run.pending).reverse ++ rest := by
          simp
        rw [pushed, ih _ (isPending_of_held_zero _ _), blocks, whole, absorb, List.take_left' full,
          List.drop_left' full]
        rfl

/-- Every byte is counted, by induction on the bytes. -/
theorem total_update (run : Running hash) (bytes : Bytes)
    : (run.update bytes).total = run.total + bytes.length := by
  induction bytes generalizing run with
  | nil => rfl
  | cons byte rest ih =>
      have pushed : (run.push byte).total = run.total + 1 := by
        unfold push
        split <;> rfl
      change ((run.push byte).update rest).total = _
      rw [ih, pushed, List.length_cons]
      omega

/-- The digest of a message taken byte by byte is its digest in one go: padding is taken like the
message itself.
-/
theorem finish_update_begin (message : Bytes)
    : (hash.begin.update message).finish = hash.digest message := by
  have total : (hash.begin.update message).total = message.length := by
    rw [total_update]
    exact Nat.zero_add _
  have state (bytes : Bytes)
      : (hash.begin.update bytes).state
        = hash.absorb hash.start (bytes.length / blockSize) bytes := by
    simpa [begin] using state_update _ (isPending_of_held_zero hash.start 0) bytes
  simp only [finish, digest, total, ← update_append, state]

end Digest.BlockHash.Running

namespace Hasher

/-- A hasher that takes bytes in two portions takes them in one. -/
@[simp]
theorem update_update (hasher : Hasher) (first second : Bytes)
    : (hasher.update first).update second = hasher.update (first ++ second) := by
  simp only [update, Digest.BlockHash.Running.update_append]

/-- A hasher that takes nothing stays as it is. -/
@[simp]
theorem update_nil (hasher : Hasher) : hasher.update [] = hasher :=
  rfl

/-- A hasher gives the digest of all bytes that it has taken. -/
@[simp]
theorem finish_update_start (algorithm : DigestAlgorithm) (message : Bytes)
    : ((Hasher.start algorithm).update message).finish = algorithm.digest message := by
  simp only [start, update, finish, DigestAlgorithm.digest,
    Digest.BlockHash.Running.finish_update_begin]

end Hasher

end WebHarvest

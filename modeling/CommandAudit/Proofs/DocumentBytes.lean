import CommandAudit.Proofs.LineEnds
import CommandAudit.Yaml.Data

/-!
# Documents that are not encoded in UTF-8

The first piece of a document is longer than any document of less than `2 * pieceSize` bytes. So if
the bytes of such a document are no text, this is found before anything of it is read
(`Source.ofBytes_of_ill_formed`), and it is the error of the document (`parse_of_ill_formed`).
-/

namespace CommandAudit

open Utf8State

/-- A byte that is not found to be faulty yields at most one character. -/
theorem Utf8State.length_step_le {state : Utf8State} {b : Nat} (h : none ∉ (state.step b).2) :
    (state.step b).2.length ≤ 1 := by
  have hstart : (start b).2.length ≤ 1 := by
    unfold start
    split <;> simp
  cases state with
  | ready => exact hstart
  | inside bits more low high =>
    unfold step at h ⊢
    dsimp only at h ⊢
    split
    · split <;> simp
    · next hrange =>
      rw [if_neg hrange] at h
      exact absurd List.mem_cons_self h

theorem exists_mapM_id_eq_some {α : Type} {xs : List (Option α)} (h : none ∉ xs) :
    ∃ ys, xs.mapM id = some ys := by
  induction xs with
  | nil => exact ⟨[], rfl⟩
  | cons x xs ih =>
    cases x with
    | none => exact absurd List.mem_cons_self h
    | some y =>
      obtain ⟨ys, hys⟩ := ih fun hmem => h (List.mem_cons_of_mem _ hmem)
      exact ⟨y :: ys, by rw [List.mapM_cons, hys]; rfl⟩

theorem length_foldl_lineEndStep_le (cs : List Char) (acc : List Char × Bool) :
    (cs.foldl lineEndStep acc).1.length ≤ acc.1.length + cs.length := by
  induction cs generalizing acc with
  | nil => exact Nat.le_refl _
  | cons c cs ih =>
    have hstep : (lineEndStep acc c).1.length ≤ acc.1.length + 1 := by
      unfold lineEndStep
      split_ifs <;> simp
    have htail := ih (lineEndStep acc c)
    rw [List.foldl_cons, List.length_cons]
    omega

theorem length_unifyLineEnds_le (cs : List Char) : (unifyLineEnds cs).length ≤ cs.length := by
  rw [unifyLineEnds, List.length_reverse]
  simpa using length_foldl_lineEndStep_le cs ([], false)

namespace Yaml

namespace Source

/-- Bytes none of which is found to be faulty yield characters only, at most one for each byte. -/
theorem foldl_feed_of_faultyByte? {bytes : List UInt8} {state : Utf8State} {index : Nat}
    (h : faultyByte? state index bytes = none) (out : List (Option Char)) (hout : none ∉ out) :
    none ∉ (bytes.foldl feed (state, out)).2 ∧
      (bytes.foldl feed (state, out)).2.length ≤ out.length + bytes.length := by
  induction bytes generalizing state index out with
  | nil => exact ⟨hout, Nat.le_refl _⟩
  | cons b bytes ih =>
    simp only [faultyByte?] at h
    split at h
    · simp at h
    · next hgood =>
      have hstep : none ∉ (state.step b.toNat).2 := by simpa using hgood
      have hlength := length_step_le hstep
      obtain ⟨hnone, hle⟩ := ih h ((state.step b.toNat).2.reverse ++ out)
        (by simp [hstep, hout])
      rw [List.length_append, List.length_reverse] at hle
      refine ⟨hnone, Nat.le_trans hle ?_⟩
      rw [List.length_cons]
      omega

theorem faultyByte?_lt {bytes : List UInt8} {state : Utf8State} {index faulty : Nat}
    (h : faultyByte? state index bytes = some faulty) : faulty < index + bytes.length := by
  induction bytes generalizing state index with
  | nil => simp [faultyByte?] at h
  | cons b bytes ih =>
    simp only [faultyByte?] at h
    rw [List.length_cons]
    split at h
    · obtain rfl := Option.some.inj h
      omega
    · have hlt := ih h
      omega

theorem chunksBefore_eq_zero {bytes : List UInt8} {index : Nat} (h : index + 1 < chunkSize) :
    chunksBefore bytes index = 0 := by
  unfold chunksBefore
  dsimp only
  split
  · exact Nat.div_eq_of_lt h
  · exact Nat.div_eq_of_lt (Nat.lt_of_succ_lt h)

theorem length_heldBack_le (cs : List Char) : (heldBack cs).length ≤ cs.length := by
  unfold heldBack
  split
  · rw [List.length_dropLast]
    omega
  · exact Nat.le_refl _

/-- If the bytes are no text, the decoder finds it out. -/
theorem decoded_of_ill_formed {bytes : List UInt8} (hsize : bytes.length < chunkSize)
    (h : decodeUtf8? bytes = none) :
    (decoded bytes).2 = true ∧ (decoded bytes).1.length < chunkSize := by
  unfold decoded
  cases hfaulty : faultyByte? .ready 0 bytes with
  | some index =>
    -- The byte stands in the first chunk, which is given up as a whole.
    have hindex := faultyByte?_lt hfaulty
    rw [Nat.zero_add] at hindex
    have hchunks : chunksBefore bytes index = 0 :=
      chunksBefore_eq_zero (Nat.lt_of_le_of_lt hindex hsize)
    simp only [hchunks, Nat.zero_mul, List.take_zero]
    exact ⟨trivial, by decide⟩
  | none =>
    obtain ⟨hnone, hlength⟩ := foldl_feed_of_faultyByte? hfaulty [] List.not_mem_nil
    rw [← utf8Run_eq_foldl] at hnone hlength
    have hready : (utf8Run bytes).1 ≠ .ready := by
      intro hready
      -- Otherwise every part of the bytes would be a character.
      obtain ⟨cs, hcs⟩ : ∃ cs, decodeUtf8? bytes = some cs := by
        refine exists_mapM_id_eq_some ?_
        simpa only [utf8Chars, hready, finish, List.nil_append, List.mem_reverse] using hnone
      rw [h] at hcs
      exact absurd hcs (by simp)
    dsimp only
    rw [if_neg hready]
    refine ⟨rfl, Nat.lt_of_le_of_lt (length_heldBack_le _) ?_⟩
    have hfilter := List.length_filterMap_le id (utf8Run bytes).2.reverse
    rw [List.length_reverse] at hfilter
    rw [List.length_nil, Nat.zero_add] at hlength
    exact Nat.lt_of_le_of_lt (Nat.le_trans hfilter hlength) hsize

theorem ofBytes_of_ill_formed {bytes : List UInt8} (hsize : bytes.length < 2 * pieceSize)
    (h : decodeUtf8? bytes = none) : ofBytes bytes = ⟨[], some .notUtf8⟩ := by
  obtain ⟨hill, hlength⟩ := decoded_of_ill_formed hsize h
  have hunified := Nat.lt_of_le_of_lt (length_unifyLineEnds_le (decoded bytes).1) hlength
  have hstart : ∀ n, n < chunkSize → pieceStart n = 0 := fun n hn => if_pos hn
  unfold ofBytes
  rcases hdecoded : decoded bytes with ⟨cs, illFormed⟩
  rw [hdecoded] at hill hunified
  dsimp only at hill hunified ⊢
  subst hill
  rw [if_pos rfl, hstart _ hunified, if_pos, List.take_zero]
  simp

end Source

/-- The error of a short document that is no text. -/
theorem parse_of_ill_formed {bytes : List UInt8} (hsize : bytes.length < 2 * Source.pieceSize)
    (h : decodeUtf8? bytes = none) : parse bytes = .error .notUtf8 := by
  rw [parse, Source.ofBytes_of_ill_formed hsize h]
  rfl

end Yaml

end CommandAudit

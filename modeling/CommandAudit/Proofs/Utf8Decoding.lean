import CommandAudit.Text.Utf8

/-!
# Decoding encoded texts

The decoder reads one byte after the other. The bytes of a character lead it from one place between
characters to the next and make it yield this character (`foldl_feed_utf8EncodeChar`). So decoding
gives back every text from its bytes (`decodeUtf8Lossy_encodeUtf8`).
-/

namespace CommandAudit

namespace Utf8State

/-- The decoder after one more byte, with the characters so far, latest first. -/
def feed (acc : Utf8State × List (Option Char)) (b : UInt8) : Utf8State × List (Option Char) :=
  ((acc.1.step b.toNat).1, (acc.1.step b.toNat).2.reverse ++ acc.2)

variable {b : UInt8} {bits more low high : Nat} (out : List (Option Char))

theorem feed_single (h : utf8Lead? b.toNat = some ⟨0, low, high, bits⟩) :
    feed (.ready, out) b = (.ready, some (Char.ofNat bits) :: out) := by
  simp only [feed, step, start, h]
  rfl

theorem feed_lead (h : utf8Lead? b.toNat = some ⟨more + 1, low, high, bits⟩) :
    feed (.ready, out) b = (.inside bits (more + 1) low high, out) := by
  simp only [feed, step, start, h]
  rfl

theorem feed_next (hlow : low ≤ b.toNat) (hhigh : b.toNat ≤ high) :
    feed (.inside bits (more + 2) low high, out) b =
      (.inside (bits * 64 + (b.toNat - 0x80)) (more + 1) 0x80 0xBF, out) := by
  simp only [feed, step, if_pos (And.intro hlow hhigh), if_neg (by omega : ¬more + 2 ≤ 1)]
  rfl

theorem feed_last (hlow : low ≤ b.toNat) (hhigh : b.toNat ≤ high) :
    feed (.inside bits 1 low high, out) b =
      (.ready, some (Char.ofNat (bits * 64 + (b.toNat - 0x80))) :: out) := by
  simp only [feed, step, if_pos (And.intro hlow hhigh), if_pos (Nat.le_refl 1)]
  rfl

end Utf8State

open Utf8State

theorem utf8Run_eq_foldl (bytes : List UInt8) : utf8Run bytes = bytes.foldl feed (.ready, []) :=
  rfl

/-! ## Lead bytes

The lead byte of a code point allows its second byte, since the code point needs the length of its
form and is no surrogate. -/

theorem utf8Lead?_of_two {v : Nat} (hleast : 0x80 ≤ v) (hgreatest : v ≤ 0x7FF) :
    utf8Lead? (v / 64 % 32 + 192) = some ⟨1, 0x80, 0xBF, v / 64⟩ := by
  have hbits : v / 64 % 32 + 192 - 0xC0 = v / 64 := by omega
  rw [utf8Lead?, if_neg (by omega), if_pos (by omega), hbits]

theorem exists_utf8Lead?_of_three {v : Nat} (hleast : 0x800 ≤ v) (hgreatest : v ≤ 0xFFFF)
    (hvalid : v < 0xD800 ∨ 0xDFFF < v) :
    ∃ low high, utf8Lead? (v / 4096 % 16 + 224) = some ⟨2, low, high, v / 4096⟩ ∧
      low ≤ v / 64 % 64 + 128 ∧ v / 64 % 64 + 128 ≤ high := by
  have hbits : v / 4096 % 16 = v / 4096 := by omega
  rw [hbits]
  -- The first lead byte excludes shorter forms, and the fourteenth excludes surrogates.
  by_cases hfirst : v / 4096 = 0
  · refine ⟨0xA0, 0xBF, ?_, by omega, by omega⟩
    rw [hfirst]
    rfl
  by_cases hsurrogates : v / 4096 = 13
  · refine ⟨0x80, 0x9F, ?_, by omega, by omega⟩
    rw [hsurrogates]
    rfl
  · refine ⟨0x80, 0xBF, ?_, by omega, by omega⟩
    rw [utf8Lead?, if_neg (by omega), if_neg (by omega), if_neg (by omega), if_neg (by omega),
      if_pos (by omega), Nat.add_sub_cancel]

theorem exists_utf8Lead?_of_four {v : Nat} (hleast : 0x10000 ≤ v) (hgreatest : v < 0x110000) :
    ∃ low high, utf8Lead? (v / 262144 % 8 + 240) = some ⟨3, low, high, v / 262144⟩ ∧
      low ≤ v / 4096 % 64 + 128 ∧ v / 4096 % 64 + 128 ≤ high := by
  have hbits : v / 262144 % 8 = v / 262144 := by omega
  rw [hbits]
  -- The first lead byte excludes shorter forms, and the last what lies above all characters.
  by_cases hfirst : v / 262144 = 0
  · refine ⟨0x90, 0xBF, ?_, by omega, by omega⟩
    rw [hfirst]
    rfl
  by_cases hlast : v / 262144 = 4
  · refine ⟨0x80, 0x8F, ?_, by omega, by omega⟩
    rw [hlast]
    rfl
  · refine ⟨0x80, 0xBF, ?_, by omega, by omega⟩
    rw [utf8Lead?, if_neg (by omega), if_neg (by omega), if_neg (by omega), if_neg (by omega),
      if_neg (by omega), if_neg (by omega), if_pos (by omega), Nat.add_sub_cancel]

/-! ## Texts -/

/-- The bytes of a character yield the character. -/
theorem foldl_feed_utf8EncodeChar (c : Char) (out : List (Option Char)) :
    (String.utf8EncodeChar c).foldl feed (.ready, out) = (.ready, some c :: out) := by
  have hchar : Char.ofNat c.val.toNat = c := Char.ofNat_toNat c
  have hvalid := c.valid
  simp only [UInt32.isValidChar, Nat.isValidChar] at hvalid
  unfold String.utf8EncodeChar
  generalize c.val.toNat = v at hchar hvalid ⊢
  have hbyte : ∀ n < 256, (UInt8.ofNat n).toNat = n := fun n hn => Nat.mod_eq_of_lt hn
  dsimp only
  by_cases hone : v ≤ 127
  · have hlead : utf8Lead? (UInt8.ofNat v).toNat = some ⟨0, 0, 0, v⟩ := by
      rw [hbyte v (by omega), utf8Lead?, if_pos (by omega)]
    rw [if_pos hone, List.foldl_cons, feed_single out hlead, hchar, List.foldl_nil]
  by_cases htwo : v ≤ 2047
  · have hlead : utf8Lead? (UInt8.ofNat (v / 64 % 32 + 192)).toNat =
        some ⟨1, 0x80, 0xBF, v / 64⟩ := by
      rw [hbyte _ (by omega), utf8Lead?_of_two (by omega) htwo]
    have hlast := hbyte (v % 64 + 128) (by omega)
    have hpoint : v / 64 * 64 + (v % 64 + 128 - 0x80) = v := by omega
    rw [if_neg hone, if_pos htwo, List.foldl_cons, List.foldl_cons, feed_lead out hlead,
      feed_last out (by omega) (by omega), hlast, hpoint, hchar, List.foldl_nil]
  by_cases hthree : v ≤ 65535
  · obtain ⟨low, high, hlead, hlow, hhigh⟩ :=
      exists_utf8Lead?_of_three (by omega) hthree (by omega)
    rw [← hbyte (v / 4096 % 16 + 224) (by omega)] at hlead
    have hnext := hbyte (v / 64 % 64 + 128) (by omega)
    have hlast := hbyte (v % 64 + 128) (by omega)
    have hpoint : (v / 4096 * 64 + (v / 64 % 64 + 128 - 0x80)) * 64 +
        (v % 64 + 128 - 0x80) = v := by
      omega
    rw [if_neg hone, if_neg htwo, if_pos hthree, List.foldl_cons, List.foldl_cons, List.foldl_cons,
      feed_lead out hlead, feed_next out (by omega) (by omega),
      feed_last out (by omega) (by omega), hnext, hlast, hpoint, hchar, List.foldl_nil]
  · obtain ⟨low, high, hlead, hlow, hhigh⟩ :=
      exists_utf8Lead?_of_four (by omega : 65536 ≤ v) (by omega)
    rw [← hbyte (v / 262144 % 8 + 240) (by omega)] at hlead
    have hsecond := hbyte (v / 4096 % 64 + 128) (by omega)
    have hthird := hbyte (v / 64 % 64 + 128) (by omega)
    have hlast := hbyte (v % 64 + 128) (by omega)
    have hpoint : ((v / 262144 * 64 + (v / 4096 % 64 + 128 - 0x80)) * 64 +
        (v / 64 % 64 + 128 - 0x80)) * 64 + (v % 64 + 128 - 0x80) = v := by
      omega
    rw [if_neg hone, if_neg htwo, if_neg hthree, List.foldl_cons, List.foldl_cons, List.foldl_cons,
      List.foldl_cons, feed_lead out hlead, feed_next out (by omega) (by omega),
      feed_next out (by omega) (by omega), feed_last out (by omega) (by omega), hsecond, hthird,
      hlast, hpoint, hchar, List.foldl_nil]

theorem foldl_feed_encodeUtf8 (cs : List Char) (out : List (Option Char)) :
    (encodeUtf8 cs).foldl feed (.ready, out) = (.ready, (cs.map some).reverse ++ out) := by
  induction cs generalizing out with
  | nil => rfl
  | cons c cs ih =>
    rw [encodeUtf8, List.flatMap_cons, List.foldl_append, foldl_feed_utf8EncodeChar]
    refine (ih (some c :: out)).trans ?_
    rw [List.map_cons, List.reverse_cons, List.append_assoc, List.singleton_append]

theorem utf8Chars_encodeUtf8 (cs : List Char) : utf8Chars (encodeUtf8 cs) = cs.map some := by
  simp only [utf8Chars, utf8Run_eq_foldl, foldl_feed_encodeUtf8, finish, List.append_nil,
    List.nil_append, List.reverse_reverse]

/-- Decoding gives back every text from its bytes. -/
theorem decodeUtf8Lossy_encodeUtf8 (cs : List Char) : decodeUtf8Lossy (encodeUtf8 cs) = cs := by
  rw [decodeUtf8Lossy, utf8Chars_encodeUtf8, List.map_map]
  exact List.map_id cs

end CommandAudit

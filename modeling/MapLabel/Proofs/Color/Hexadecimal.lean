import MapLabel.Proofs.Color.Digits
/-!
# The hexadecimal notation of colours

A colour is read from its notation (`ofHex?_toHex`). An opaque one is written without its alpha channel,
which reading fills in again.
-/

namespace MapLabel.Color

/-! ## Digits and channels -/

theorem digit_digitChar {n : Nat} (h : n < 16) : Digit n.digitChar n := by
  revert h n
  decide

theorem channelDigits_eq (v : UInt8) :
    ∃ c d, channelDigits v = [c, d] ∧ channel? c d = some v := by
  have hhigh : v.toNat / 16 < 16 := by
    have hv : v.toNat < 256 := v.toNat_lt
    omega
  have hlow : v.toNat % 16 < 16 := Nat.mod_lt _ (by decide)
  have hpair : DigitPair (v.toNat / 16).digitChar (v.toNat % 16).digitChar v :=
    ⟨_, _, digit_digitChar hhigh, digit_digitChar hlow, by omega⟩
  exact ⟨_, _, rfl, channel?_eq_some_iff.2 (.inl hpair)⟩

/-! ## Colours -/

theorem ofHex?_toHex (c : Color) : ofHex? c.toHex = some c := by
  obtain ⟨r, g, b, a⟩ := c
  obtain ⟨r₁, r₂, hr, hred⟩ := channelDigits_eq r
  obtain ⟨g₁, g₂, hg, hgreen⟩ := channelDigits_eq g
  obtain ⟨b₁, b₂, hb, hblue⟩ := channelDigits_eq b
  rw [ofHex?, toHex, String.toList_ofList, hr, hg, hb]
  by_cases ha : a = 255
  · simp [ha, ofHexChars?, hred, hgreen, hblue]
  · obtain ⟨a₁, a₂, halpha, hread⟩ := channelDigits_eq a
    simp [ha, halpha, ofHexChars?, hred, hgreen, hblue, hread]

end MapLabel.Color

import MapLabel.Color
/-!
# What is read as a colour

A colour is written as a number sign and three, six or eight hexadecimal digits. All of these are read,
but where a channel has two characters a plus sign is let through in place of the first one
(`channel?_eq_some_iff`). So what is read is what is written with digits exactly for the texts without
such a sign (`read_by_digits_iff`).
-/

namespace MapLabel.Color

/-! ## Digits -/

/-- The character is the hexadecimal digit of a value, in lower or upper case. -/
def Digit (c : Char) (x : Nat) : Prop :=
  "0123456789abcdef".toList[x]? = some c ∨ "0123456789ABCDEF".toList[x]? = some c

instance (c : Char) (x : Nat) : Decidable (Digit c x) := inferInstanceAs (Decidable (_ ∨ _))

theorem Digit.lt {c : Char} {x : Nat} (h : Digit c x) : x < 16 := by
  rcases h with h | h
  · exact (List.getElem?_eq_some_iff.1 h).1
  · exact (List.getElem?_eq_some_iff.1 h).1

theorem Digit.ne_plus {c : Char} {x : Nat} (h : Digit c x) : c ≠ '+' := by
  have hnone : ∀ x < 16, ¬ Digit '+' x := by decide
  rintro rfl
  exact hnone x h.lt h

/-- Only ASCII characters are digits. -/
theorem toNat_lt_of_hexDigit? {c : Char} {v : UInt8} (h : hexDigit? c = some v) : c.toNat < 128 := by
  unfold hexDigit? at h
  split at h
  · rename_i hc
    exact Nat.lt_of_le_of_lt hc.2 (by decide)
  · split at h
    · rename_i hc
      exact Nat.lt_of_le_of_lt hc.2 (by decide)
    · split at h
      · rename_i hc
        exact Nat.lt_of_le_of_lt hc.2 (by decide)
      · cases h

theorem hexDigit?_of_digit {c : Char} {x : Nat} (h : Digit c x) : hexDigit? c = some x.toUInt8 := by
  have hlower : ∀ x < 16, "0123456789abcdef".toList[x]?.all (hexDigit? · = some x.toUInt8) := by decide
  have hupper : ∀ x < 16, "0123456789ABCDEF".toList[x]?.all (hexDigit? · = some x.toUInt8) := by decide
  rcases h with hc | hc
  · have hread := hlower x (Digit.lt (.inl hc))
    rw [hc] at hread
    exact of_decide_eq_true hread
  · have hread := hupper x (Digit.lt (.inr hc))
    rw [hc] at hread
    exact of_decide_eq_true hread

theorem hexDigit?_eq_some_iff {c : Char} {v : UInt8} : hexDigit? c = some v ↔ Digit c v.toNat := by
  constructor
  · intro h
    have hascii : ∀ n < 128, (hexDigit? (Char.ofNat n)).all (Digit (Char.ofNat n) ·.toNat) := by decide +kernel
    have hc := hascii c.toNat (by simpa using toNat_lt_of_hexDigit? h)
    simpa [Char.ofNat_toNat, h] using hc
  · intro h
    rw [hexDigit?_of_digit h]
    simp

/-! ## Channels -/

/-- Two digits are the channel with this value. -/
def DigitPair (c d : Char) (v : UInt8) : Prop := ∃ x y, Digit c x ∧ Digit d y ∧ v.toNat = 16 * x + y

/-- A plus sign and a digit are read as the channel with the value of the digit. -/
def SignedDigit (c d : Char) (v : UInt8) : Prop := c = '+' ∧ Digit d v.toNat

/-- Two characters that are read as a channel. -/
def Channel (c d : Char) (v : UInt8) : Prop := DigitPair c d v ∨ SignedDigit c d v

/-- Two digits make a byte. -/
theorem toUInt8_mul_add {x y : Nat} (hx : x < 16) (hy : y < 16) {v : UInt8} :
    x.toUInt8 * 16 + y.toUInt8 = v ↔ v.toNat = 16 * x + y := by
  rw [← UInt8.toNat_inj]
  simp
  omega

theorem bind_hexDigit?_eq_some_iff {c d : Char} {v : UInt8} :
    (do let high ← hexDigit? c; let low ← hexDigit? d; return high * 16 + low) = some v ↔ DigitPair c d v := by
  simp only [Option.bind_eq_bind, Option.bind_eq_some_iff, Option.pure_def, Option.some.injEq]
  constructor
  · rintro ⟨x, hx, y, hy, hv⟩
    rw [hexDigit?_eq_some_iff] at hx hy
    refine ⟨_, _, hx, hy, (toUInt8_mul_add hx.lt hy.lt).1 ?_⟩
    simpa using hv
  · rintro ⟨x, y, hx, hy, hv⟩
    exact ⟨_, hexDigit?_of_digit hx, _, hexDigit?_of_digit hy, (toUInt8_mul_add hx.lt hy.lt).2 hv⟩

theorem doubled?_eq_some_iff {c : Char} {v : UInt8} : doubled? c = some v ↔ DigitPair c c v := by
  rw [← bind_hexDigit?_eq_some_iff, doubled?]
  cases hexDigit? c <;> rfl

theorem channel?_eq_some_iff {c d : Char} {v : UInt8} : channel? c d = some v ↔ Channel c d v := by
  unfold channel?
  split
  · rename_i hc
    have hnot : ¬ DigitPair c d v := fun ⟨_, _, hx, _⟩ => hx.ne_plus hc
    rw [hexDigit?_eq_some_iff, Channel, or_iff_right hnot, SignedDigit, and_iff_right hc]
  · rename_i hc
    have hnot : ¬ SignedDigit c d v := fun h => hc h.1
    rw [bind_hexDigit?_eq_some_iff, Channel, or_iff_left hnot]

/-! ## Colours -/

/-- The text stands for the colour, where `Pair` tells which two characters stand for a channel. -/
inductive Denotes (Pair : Char → Char → UInt8 → Prop) : List Char → Color → Prop
  | three {r g b : Char} {red green blue : UInt8} (hr : DigitPair r r red) (hg : DigitPair g g green)
      (hb : DigitPair b b blue) : Denotes Pair ['#', r, g, b] ⟨red, green, blue, 255⟩
  | six {r r' g g' b b' : Char} {red green blue : UInt8} (hr : Pair r r' red) (hg : Pair g g' green)
      (hb : Pair b b' blue) : Denotes Pair ['#', r, r', g, g', b, b'] ⟨red, green, blue, 255⟩
  | eight {r r' g g' b b' a a' : Char} {red green blue alpha : UInt8} (hr : Pair r r' red) (hg : Pair g g' green)
      (hb : Pair b b' blue) (ha : Pair a a' alpha) :
      Denotes Pair ['#', r, r', g, g', b, b', a, a'] ⟨red, green, blue, alpha⟩

theorem Denotes.mono {Pair Pair' : Char → Char → UInt8 → Prop} {cs : List Char} {k : Color}
    (h : Denotes Pair cs k)
    (hpair : ∀ c ∈ cs, ∀ d ∈ cs, ∀ v, Pair c d v → Pair' c d v) : Denotes Pair' cs k := by
  cases h with
  | three hr hg hb => exact .three hr hg hb
  | six hr hg hb =>
    exact .six (hpair _ (by simp) _ (by simp) _ hr) (hpair _ (by simp) _ (by simp) _ hg)
      (hpair _ (by simp) _ (by simp) _ hb)
  | eight hr hg hb ha =>
    exact .eight (hpair _ (by simp) _ (by simp) _ hr) (hpair _ (by simp) _ (by simp) _ hg)
      (hpair _ (by simp) _ (by simp) _ hb) (hpair _ (by simp) _ (by simp) _ ha)

theorem ofHexChars?_eq_some_iff {cs : List Char} {k : Color} :
    ofHexChars? cs = some k ↔ Denotes Channel cs k := by
  constructor
  · intro h
    unfold ofHexChars? at h
    -- one case for each number of digits
    split at h
    · simp only [Option.bind_eq_bind, Option.bind_eq_some_iff, Option.pure_def, Option.some.injEq] at h
      obtain ⟨red, hr, green, hg, blue, hb, rfl⟩ := h
      exact .three (doubled?_eq_some_iff.1 hr) (doubled?_eq_some_iff.1 hg) (doubled?_eq_some_iff.1 hb)
    · simp only [Option.bind_eq_bind, Option.bind_eq_some_iff, Option.pure_def, Option.some.injEq] at h
      obtain ⟨red, hr, green, hg, blue, hb, rfl⟩ := h
      exact .six (channel?_eq_some_iff.1 hr) (channel?_eq_some_iff.1 hg) (channel?_eq_some_iff.1 hb)
    · simp only [Option.bind_eq_bind, Option.bind_eq_some_iff, Option.pure_def, Option.some.injEq] at h
      obtain ⟨red, hr, green, hg, blue, hb, alpha, ha, rfl⟩ := h
      exact .eight (channel?_eq_some_iff.1 hr) (channel?_eq_some_iff.1 hg) (channel?_eq_some_iff.1 hb)
        (channel?_eq_some_iff.1 ha)
    · cases h
  · rintro (⟨hr, hg, hb⟩ | ⟨hr, hg, hb⟩ | ⟨hr, hg, hb, ha⟩)
    · simp [ofHexChars?, doubled?_eq_some_iff.2 hr, doubled?_eq_some_iff.2 hg, doubled?_eq_some_iff.2 hb]
    · simp [ofHexChars?, channel?_eq_some_iff.2 hr, channel?_eq_some_iff.2 hg, channel?_eq_some_iff.2 hb]
    · simp [ofHexChars?, channel?_eq_some_iff.2 hr, channel?_eq_some_iff.2 hg, channel?_eq_some_iff.2 hb,
        channel?_eq_some_iff.2 ha]

theorem ofHex?_eq_some_iff {s : String} {k : Color} : ofHex? s = some k ↔ Denotes Channel s.toList k :=
  ofHexChars?_eq_some_iff

/-! ## Plus signs -/

/-- A text of digits has no plus sign. -/
theorem plus_not_mem {cs : List Char} {k : Color} (h : Denotes DigitPair cs k) : '+' ∉ cs := by
  have hpair {c d : Char} {v : UInt8} : DigitPair c d v → '+' ≠ c ∧ '+' ≠ d :=
    fun ⟨_, _, hx, hy, _⟩ => ⟨hx.ne_plus.symm, hy.ne_plus.symm⟩
  cases h with
  | three hr hg hb => simp [hpair hr, hpair hg, hpair hb]
  | six hr hg hb => simp [hpair hr, hpair hg, hpair hb]
  | eight hr hg hb ha => simp [hpair hr, hpair hg, hpair hb, hpair ha]

/-- Without a plus sign every channel is two digits. -/
theorem denotes_iff_of_plus_not_mem {cs : List Char} {k : Color} (h : '+' ∉ cs) :
    Denotes Channel cs k ↔ Denotes DigitPair cs k := by
  constructor
  · intro hk
    refine hk.mono fun c hc d _ v hv => hv.resolve_right ?_
    rintro ⟨rfl, -⟩
    exact h hc
  · exact fun hk => hk.mono fun _ _ _ _ _ => .inl

/-- What is read are the texts of digits and those with plus signs in place of high digits. On any other
text reading fails, and quotes the text. What is read is what the digits say unless the text is read in
spite of a plus sign. -/
theorem read_by_digits_iff (s : String) :
    (∀ k, ofHex? s = some k ↔ Denotes Channel s.toList k) ∧
    (∀ k, ofText s = .ok k ↔ ofHex? s = some k) ∧
    (ofText s = .error (.notHexColor s) ↔ ofHex? s = none) ∧
    ((∀ k, ofHex? s = some k ↔ Denotes DigitPair s.toList k) ↔
      '+' ∉ s.toList ∨ ∀ k, ¬ Denotes Channel s.toList k) := by
  refine ⟨fun k => ofHex?_eq_some_iff, fun k => ?_, ?_, ?_⟩
  · unfold ofText
    cases ofHex? s <;> simp
  · unfold ofText
    cases ofHex? s <;> simp
  · simp only [ofHex?_eq_some_iff]
    constructor
    · intro hagree
      by_cases hplus : '+' ∈ s.toList
      · exact .inr fun k hk => plus_not_mem ((hagree k).1 hk) hplus
      · exact .inl hplus
    · rintro (hplus | hnone) k
      · exact denotes_iff_of_plus_not_mem hplus
      · have hdigits : ¬ Denotes DigitPair s.toList k := fun hk => hnone k (hk.mono fun _ _ _ _ _ => .inl)
        exact iff_of_false (hnone k) hdigits

/-- Plus signs are read, though they are no digits. -/
theorem read_with_plus :
    ofHex? "#+f+f+f" = some ⟨15, 15, 15, 255⟩ ∧
    ¬ ∀ k, ofHex? "#+f+f+f" = some k ↔ Denotes DigitPair "#+f+f+f".toList k := by
  have hread : ofHex? "#+f+f+f" = some ⟨15, 15, 15, 255⟩ := by decide
  exact ⟨hread, fun hagree => plus_not_mem ((hagree _).1 hread) (by decide)⟩

end MapLabel.Color
